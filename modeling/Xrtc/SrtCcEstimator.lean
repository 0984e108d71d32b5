import Xrtc.Blocks
import Xrtc.SrtCongestionCtrl

/-!
# The estimator over whole runs

The round-trip times and the bandwidths fill and empty their buffers in step, so
after `n` successful evaluations both buffers hold the open block of the `n`
samples, both are ready exactly when the last block is complete, and the
decision stage has seen one value per complete block.  The values of the
decision stage are never dropped: the verdict is taken over all windows of the
run, not over the last six.
-/

open MachineInt Blocks

namespace SrtCc

namespace Estimator

variable {fp : Doubles} {e : Estimator}

theorem updateRTT_open (rtt : Int) (h : e.rttArray.length + 1 < RTT_LIST_MAX) :
    e.updateRTT rtt =
      { e with rttReady := false, rttArray := e.rttArray ++ [max rtt RTT_MIN] } := by
  exact if_neg (by rw [List.length_append, List.length_singleton]; omega)

theorem updateRTT_full (rtt : Int) (h : e.rttArray.length + 1 = RTT_LIST_MAX) :
    e.updateRTT rtt =
      { e with
        rttReady := true
        rttMin := minElement (e.rttArray ++ [max rtt RTT_MIN])
        rttArray := [] } := by
  exact if_pos (by rw [List.length_append, List.length_singleton]; omega)

theorem updateMaxBW_open (maxbw : ℕ) (h : e.bwArray.length + 1 < BW_LIST_MAX) :
    e.updateMaxBW fp maxbw =
      { e with bwReady := false, bwArray := e.bwArray ++ [maxbw] } := by
  exact if_neg (by rw [List.length_append, List.length_singleton]; omega)

/-- The average a completed window stores. -/
def average (bwArray : List ℕ) : ℕ :=
  toUInt64 (accumulateInt bwArray) / bwArray.length

theorem updateMaxBW_full (maxbw : ℕ) (h : e.bwArray.length + 1 = BW_LIST_MAX) :
    e.updateMaxBW fp maxbw =
      { e with
        bwReady := true
        avgBw := average (e.bwArray ++ [maxbw])
        bwMax := fp.blend (toUInt64 (maxElement (e.bwArray ++ [maxbw]) +
          average (e.bwArray ++ [maxbw])))
        bwArray := [] } := by
  exact if_pos (by rw [List.length_append, List.length_singleton]; omega)

/-- The round-trip time an evaluation records. -/
def clampedRtt (perf : Perf) : Int :=
  max perf.msRTT RTT_MIN

/-- The bandwidth an evaluation records. -/
def bandwidth (perf : Perf) : ℕ :=
  toUInt64 perf.bwBitrate

theorem max_clampedRtt (perf : Perf) :
    max (max perf.msRTT RTT_MIN) RTT_MIN = clampedRtt perf :=
  max_eq_left (le_max_right _ _)

theorem update_open (perf : Perf) (hrtt : e.rttArray.length + 1 < RTT_LIST_MAX)
    (hbw : e.bwArray.length + 1 < BW_LIST_MAX) :
    e.update fp perf =
      { e with
        rttReady := false
        rttArray := e.rttArray ++ [clampedRtt perf]
        bwReady := false
        bwArray := e.bwArray ++ [bandwidth perf] } := by
  unfold update
  rw [updateRTT_open _ hrtt, max_clampedRtt]
  exact updateMaxBW_open _ hbw

theorem update_full (perf : Perf) (hrtt : e.rttArray.length + 1 = RTT_LIST_MAX)
    (hbw : e.bwArray.length + 1 = BW_LIST_MAX) :
    e.update fp perf =
      { e with
        rttReady := true
        rttMin := minElement (e.rttArray ++ [clampedRtt perf])
        rttArray := []
        bwReady := true
        avgBw := average (e.bwArray ++ [bandwidth perf])
        bwMax := fp.blend (toUInt64 (maxElement (e.bwArray ++ [bandwidth perf]) +
          average (e.bwArray ++ [bandwidth perf])))
        bwArray := [] } := by
  unfold update
  rw [updateRTT_full _ hrtt, max_clampedRtt]
  exact updateMaxBW_full _ hbw

/-- The verdict on the values of the completed windows. -/
def verdictOf (windows : List Int) : CongestionState :=
  if windows.length < STATE_LIST_MAX then .STATE_KEEP else decideState windows

theorem srtBitrateGetState_ready (inflight : Int) (hrtt : e.rttReady = true)
    (hbw : e.bwReady = true) :
    e.srtBitrateGetState fp inflight =
      ({ e with
          stateArray := e.stateArray ++ [e.currentState fp inflight]
          stateReady :=
            !decide ((e.stateArray ++ [e.currentState fp inflight]).length < STATE_LIST_MAX) },
        verdictOf (e.stateArray ++ [e.currentState fp inflight])) := by
  have hready : (!e.rttReady || !e.bwReady) = false := by
    rw [hrtt, hbw]
    rfl
  simp only [srtBitrateGetState, verdictOf, hready, Bool.false_eq_true, if_false]
  generalize e.stateArray ++ [e.currentState fp inflight] = stateArray
  by_cases hlen : stateArray.length < STATE_LIST_MAX
  · rw [if_pos hlen, if_pos hlen, decide_eq_true hlen, Bool.not_true]
  · rw [if_neg hlen, if_neg hlen, decide_eq_false hlen, Bool.not_false]

/-- An evaluation inside a window only records its sample. -/
theorem evaluate_open (perf : Perf) (hrtt : e.rttArray.length + 1 < RTT_LIST_MAX)
    (hbw : e.bwArray.length + 1 < BW_LIST_MAX) :
    e.evaluate fp (some perf) =
        { e with
          rttReady := false
          rttArray := e.rttArray ++ [clampedRtt perf]
          bwReady := false
          bwArray := e.bwArray ++ [bandwidth perf]
          congestionState := .STATE_KEEP } ∧
      e.windowValue fp perf = none := by
  unfold evaluate windowValue
  simp only [update_open perf hrtt hbw]
  exact ⟨rfl, rfl⟩

/-- An evaluation that completes a window adds one value to the decision stage. -/
theorem evaluate_full (perf : Perf) (hrtt : e.rttArray.length + 1 = RTT_LIST_MAX)
    (hbw : e.bwArray.length + 1 = BW_LIST_MAX) :
    ∃ value, e.windowValue fp perf = some value ∧
      (e.evaluate fp (some perf)).rttArray = [] ∧
      (e.evaluate fp (some perf)).bwArray = [] ∧
      (e.evaluate fp (some perf)).rttReady = true ∧
      (e.evaluate fp (some perf)).bwReady = true ∧
      (e.evaluate fp (some perf)).rttMin = minElement (e.rttArray ++ [clampedRtt perf]) ∧
      (e.evaluate fp (some perf)).stateArray = e.stateArray ++ [value] ∧
      (e.evaluate fp (some perf)).congestionState = verdictOf (e.stateArray ++ [value]) := by
  have hupdate := @update_full fp e perf hrtt hbw
  have hr : (e.update fp perf).rttReady = true := by rw [hupdate]
  have hb : (e.update fp perf).bwReady = true := by rw [hupdate]
  refine ⟨(e.update fp perf).currentState fp (inflight perf), ?_, ?_⟩
  · simp only [windowValue, hr, hb]
    rfl
  · simp only [evaluate, srtBitrateGetState_ready _ hr hb]
    simp only [hupdate, and_self]

/-- What is known of an estimator after the successful evaluations `samples`. -/
structure Tracks (e : Estimator) (samples : List Perf) : Prop where
  rttArray : e.rttArray = (openBlock RTT_LIST_MAX samples).map clampedRtt
  bwArray : e.bwArray = (openBlock BW_LIST_MAX samples).map bandwidth
  rttReady : e.rttReady = decide (0 < samples.length ∧ RTT_LIST_MAX ∣ samples.length)
  bwReady : e.bwReady = decide (0 < samples.length ∧ BW_LIST_MAX ∣ samples.length)
  rttMin : e.rttMin =
    if samples.length < RTT_LIST_MAX then RTT_INIT
    else minElement ((lastBlock RTT_LIST_MAX samples).map clampedRtt)
  stateArray : e.stateArray.length = samples.length / RTT_LIST_MAX
  verdict : e.congestionState ≠ .STATE_KEEP →
    RTT_LIST_MAX ∣ samples.length ∧ RTT_LIST_MAX * STATE_LIST_MAX ≤ samples.length

theorem tracks_new : Tracks {} [] where
  rttArray := rfl
  bwArray := rfl
  rttReady := rfl
  bwReady := rfl
  rttMin := rfl
  stateArray := rfl
  verdict h := absurd rfl h

variable {samples : List Perf}

theorem Tracks.length_rttArray (h : Tracks e samples) :
    e.rttArray.length = samples.length % RTT_LIST_MAX := by
  rw [h.rttArray, List.length_map, length_openBlock]

theorem Tracks.length_bwArray (h : Tracks e samples) :
    e.bwArray.length = samples.length % BW_LIST_MAX := by
  rw [h.bwArray, List.length_map, length_openBlock]

/-- One more sample inside a window. -/
theorem Tracks.evaluate_open (h : Tracks e samples) (perf : Perf)
    (hopen : samples.length % RTT_LIST_MAX + 1 < RTT_LIST_MAX) :
    Tracks (e.evaluate fp (some perf)) (samples ++ [perf]) := by
  have hrtt : e.rttArray.length + 1 < RTT_LIST_MAX := by
    rw [h.length_rttArray]
    exact hopen
  have hbw : e.bwArray.length + 1 < BW_LIST_MAX := by
    rw [h.length_bwArray]
    exact hopen
  have hopenBw : samples.length % BW_LIST_MAX + 1 < BW_LIST_MAX := hopen
  have hlen : (samples ++ [perf]).length = samples.length + 1 := by simp
  have hdiv := div_succ_of_open hopen
  have hmod := mod_succ_of_open hopen
  have hnot : ¬ RTT_LIST_MAX ∣ samples.length + 1 := by
    rw [Nat.dvd_iff_mod_eq_zero, hmod]
    omega
  have hmin : samples.length + 1 < RTT_LIST_MAX ↔ samples.length < RTT_LIST_MAX := by
    unfold RTT_LIST_MAX at hopen ⊢
    omega
  rw [(Estimator.evaluate_open perf hrtt hbw).1]
  constructor
  · show e.rttArray ++ [clampedRtt perf] = _
    rw [openBlock_append_of_open perf hopen, List.map_append, h.rttArray]
    rfl
  · show e.bwArray ++ [bandwidth perf] = _
    rw [openBlock_append_of_open perf hopenBw, List.map_append, h.bwArray]
    rfl
  · rw [hlen]
    exact (decide_eq_false (fun hdvd => hnot hdvd.2)).symm
  · rw [hlen]
    exact (decide_eq_false (fun hdvd => hnot hdvd.2)).symm
  · rw [hlen, lastBlock_append_of_open perf hopen]
    simp only [hmin]
    exact h.rttMin
  · rw [hlen, hdiv]
    exact h.stateArray
  · intro hkeep
    exact absurd rfl hkeep

/-- The sample that completes a window. -/
theorem Tracks.evaluate_full (h : Tracks e samples) (perf : Perf)
    (hfull : samples.length % RTT_LIST_MAX + 1 = RTT_LIST_MAX) :
    Tracks (e.evaluate fp (some perf)) (samples ++ [perf]) := by
  have hrtt : e.rttArray.length + 1 = RTT_LIST_MAX := by
    rw [h.length_rttArray]
    exact hfull
  have hbw : e.bwArray.length + 1 = BW_LIST_MAX := by
    rw [h.length_bwArray]
    exact hfull
  have hfullBw : samples.length % BW_LIST_MAX + 1 = BW_LIST_MAX := hfull
  have hlen : (samples ++ [perf]).length = samples.length + 1 := by simp
  have hdiv := div_succ_of_full hfull
  have hdvd : RTT_LIST_MAX ∣ samples.length + 1 :=
    Nat.dvd_of_mod_eq_zero (mod_succ_of_full hfull)
  have hge : ¬ samples.length + 1 < RTT_LIST_MAX := by
    have := Nat.mod_le samples.length RTT_LIST_MAX
    omega
  obtain ⟨value, -, hrttArray, hbwArray, hrttReady, hbwReady, hrttMin, hstates, hverdict⟩ :=
    @Estimator.evaluate_full fp e perf hrtt hbw
  have hcount : (e.stateArray ++ [value]).length = (samples.length + 1) / RTT_LIST_MAX := by
    rw [List.length_append, List.length_singleton, h.stateArray, hdiv]
  constructor
  · rw [hrttArray, openBlock_append_of_full perf hfull]
    rfl
  · rw [hbwArray, openBlock_append_of_full perf hfullBw]
    rfl
  · rw [hrttReady, hlen]
    exact (decide_eq_true ⟨by omega, hdvd⟩).symm
  · rw [hbwReady, hlen]
    exact (decide_eq_true ⟨by omega, hdvd⟩).symm
  · rw [hrttMin, hlen, if_neg hge, lastBlock_append_of_full perf hfull, List.map_append,
      h.rttArray]
    rfl
  · rw [hstates, hlen, hcount]
  · intro hkeep
    rw [hlen]
    refine ⟨hdvd, ?_⟩
    by_contra hfew
    apply hkeep
    rw [hverdict]
    apply if_pos
    rw [hcount]
    exact Nat.div_lt_of_lt_mul (by omega)

/-- A successful evaluation adds its sample, whatever the estimator holds. -/
theorem Tracks.evaluate (h : Tracks e samples) (perf : Perf) :
    Tracks (e.evaluate fp (some perf)) (samples ++ [perf]) := by
  have hlt : samples.length % RTT_LIST_MAX < RTT_LIST_MAX := Nat.mod_lt _ (by decide)
  rcases Nat.lt_or_ge (samples.length % RTT_LIST_MAX + 1) RTT_LIST_MAX with hopen | hge
  · exact h.evaluate_open perf hopen
  · exact h.evaluate_full perf (by omega)

end Estimator

/-! ### Whole runs -/

namespace SrtCongestionCtrl

variable (fp : Doubles) (ctrl : SrtCongestionCtrl) (clock : Reading)

theorem congestionCtrl_toEstimator (bstats : Option Perf) :
    (ctrl.congestionCtrl fp clock bstats).toEstimator =
      if ctrl.evaluates clock then ctrl.toEstimator.evaluate fp bstats
      else ctrl.toEstimator :=
  RunTask.doByTimeAndCount_state _ _ _ _

theorem updateVideoEncodeBitate_toEstimator (current video : Int) :
    (ctrl.updateVideoEncodeBitate clock current video).ctrl.toEstimator =
      ctrl.toEstimator := by
  simp only [updateVideoEncodeBitate]
  split_ifs <;> rfl

end SrtCongestionCtrl

namespace Session

variable {fp : Doubles} {video current : Int}

/-- The estimator of a session agrees with the history of the session. -/
structure Tracked (σ : Session) : Prop where
  tracks : σ.ctrl.Tracks σ.samples
  windows : σ.ctrl.stateArray = σ.windows
  verdict : σ.ctrl.rttReady = true → σ.ctrl.congestionState = Estimator.verdictOf σ.windows

theorem tracked_new (current : Int) : Tracked { current := current } where
  tracks := Estimator.tracks_new
  windows := rfl
  verdict h := by cases h

/-- Only the estimator and the history matter. -/
theorem Tracked.congr {σ σ' : Session} (h : Tracked σ)
    (hestimator : σ'.ctrl.toEstimator = σ.ctrl.toEstimator)
    (hsamples : σ'.samples = σ.samples) (hwindows : σ'.windows = σ.windows) :
    Tracked σ' where
  tracks := by
    rw [hestimator, hsamples]
    exact h.tracks
  windows := by
    rw [hestimator, hwindows]
    exact h.windows
  verdict := by
    rw [hestimator, hwindows]
    exact h.verdict

/-- A successful evaluation. -/
theorem Tracked.evaluate {σ σ' : Session} (h : Tracked σ) (perf : Perf)
    (hestimator : σ'.ctrl.toEstimator = σ.ctrl.toEstimator.evaluate fp (some perf))
    (hsamples : σ'.samples = σ.samples ++ [perf])
    (hwindows : σ'.windows = σ.windows ++ (σ.ctrl.windowValue fp perf).toList) :
    Tracked σ' := by
  have hlt : σ.samples.length % RTT_LIST_MAX < RTT_LIST_MAX := Nat.mod_lt _ (by decide)
  have hrttLen := h.tracks.length_rttArray
  have hbwLen : σ.ctrl.bwArray.length = σ.samples.length % RTT_LIST_MAX :=
    h.tracks.length_bwArray
  have htracks : σ'.ctrl.Tracks σ'.samples := by
    rw [hestimator, hsamples]
    exact h.tracks.evaluate perf
  rcases Nat.lt_or_ge (σ.samples.length % RTT_LIST_MAX + 1) RTT_LIST_MAX with hopen | hge
  · obtain ⟨heval, hnone⟩ := @Estimator.evaluate_open fp σ.ctrl.toEstimator perf
      (by omega) (by rw [hbwLen]; exact hopen)
    refine ⟨htracks, ?_, ?_⟩
    · rw [hestimator, heval, hwindows, hnone, h.windows]
      simp
    · intro hready
      rw [hestimator, heval] at hready
      cases hready
  · obtain ⟨value, hvalue, -, -, -, -, -, hstates, hverdict⟩ :=
      @Estimator.evaluate_full fp σ.ctrl.toEstimator perf (by omega)
        (by rw [hbwLen]; exact le_antisymm hlt hge)
    have hwindows' : σ'.windows = σ.ctrl.stateArray ++ [value] := by
      rw [hwindows, hvalue, h.windows]
      rfl
    refine ⟨htracks, ?_, ?_⟩
    · rw [hestimator, hstates, hwindows']
    · intro _
      rw [hestimator, hverdict, hwindows']

/-- A call of either kind. -/
theorem Tracked.call {σ : Session} (h : Tracked σ) (c : Call) :
    Tracked (σ.call fp video c) := by
  cases c with
  | congestionCtrl clock bstats =>
      have hestimator := σ.ctrl.congestionCtrl_toEstimator fp clock bstats
      by_cases heval : σ.ctrl.evaluates clock = true
      · rw [if_pos heval] at hestimator
        simp only [Session.call, if_pos heval]
        cases bstats with
        | none => exact h.congr hestimator (List.append_nil _) (List.append_nil _)
        | some perf => exact h.evaluate perf hestimator rfl rfl
      · rw [if_neg heval] at hestimator
        simp only [Session.call, if_neg heval]
        exact h.congr hestimator rfl rfl
  | updateVideoEncodeBitate clock =>
      exact h.congr (σ.ctrl.updateVideoEncodeBitate_toEstimator clock σ.current video) rfl rfl

theorem reachable_tracked {σ : Session} (h : (session fp video current).Reachable σ) :
    Tracked σ := by
  refine StepSystem.ReachableUnder.induction (tracked_new current) ?_ h
  intro τ c τ' _ ih _ hstep
  have hcall : τ.call fp video c = τ' := by simpa [session] using hstep
  rw [← hcall]
  exact ih.call c

end Session

/-- The least of clamped values is the clamped least. -/
theorem minElement_map_clampedRtt {l : List Perf} (hl : l ≠ []) :
    minElement (l.map Estimator.clampedRtt) =
      max RTT_MIN (minElement (l.map Perf.msRTT)) := by
  obtain ⟨perf, rest, rfl⟩ := List.exists_cons_of_ne_nil hl
  simp only [minElement, List.map_cons, List.min?_cons', Option.getD_some]
  show (rest.map Estimator.clampedRtt).foldl min (max perf.msRTT RTT_MIN) = _
  generalize perf.msRTT = least
  induction rest generalizing least with
  | nil => exact max_comm _ _
  | cons next rest ih =>
      simp only [List.map_cons, List.foldl_cons, Estimator.clampedRtt]
      rw [← max_min_distrib_right]
      exact ih (by simp) (min least next.msRTT)

/-- **Closed form of the estimator.**  After any interleaving of calls on a new
controller, with `n` successful evaluations: both buffers hold the samples after
the last multiple of six, readiness means that `n` is a positive multiple of
six, the minimum is that of the last complete block, and a verdict other than
`STATE_KEEP` needs six complete windows.  A failed evaluation changes nothing. -/
theorem estimator_closed_form (fp : Doubles) (video current : Int) {σ : Session}
    (h : (session fp video current).Reachable σ) :
    (σ.ctrl.rttArray = (σ.samples.drop (6 * (σ.samples.length / 6))).map
        (fun perf => max perf.msRTT RTT_MIN) ∧
      σ.ctrl.bwArray = (σ.samples.drop (6 * (σ.samples.length / 6))).map
        (fun perf => toUInt64 perf.bwBitrate)) ∧
    (σ.ctrl.rttReady = decide (0 < σ.samples.length ∧ 6 ∣ σ.samples.length) ∧
      σ.ctrl.bwReady = decide (0 < σ.samples.length ∧ 6 ∣ σ.samples.length)) ∧
    (σ.ctrl.rttMin =
        (if σ.samples.length < 6 then RTT_INIT
        else max RTT_MIN (minElement ((lastBlock 6 σ.samples).map Perf.msRTT))) ∧
      RTT_MIN ≤ σ.ctrl.rttMin) ∧
    (σ.ctrl.congestionState ≠ .STATE_KEEP →
      6 ∣ σ.samples.length ∧ 36 ≤ σ.samples.length) ∧
    (∀ clock, (σ.ctrl.congestionCtrl fp clock none).toEstimator = σ.ctrl.toEstimator) := by
  have htracks := (Session.reachable_tracked h).tracks
  have hrttMin : σ.ctrl.rttMin =
      if σ.samples.length < 6 then RTT_INIT
      else max RTT_MIN (minElement ((lastBlock 6 σ.samples).map Perf.msRTT)) := by
    have hmin := htracks.rttMin
    by_cases hfew : σ.samples.length < RTT_LIST_MAX
    · rw [if_pos hfew] at hmin
      rw [hmin]
      exact (if_pos hfew).symm
    · have hblock : lastBlock RTT_LIST_MAX σ.samples ≠ [] := by
        apply List.ne_nil_of_length_pos
        rw [length_lastBlock (by decide) (Nat.le_of_not_lt hfew)]
        decide
      rw [if_neg hfew, minElement_map_clampedRtt hblock] at hmin
      rw [hmin]
      exact (if_neg hfew).symm
  refine ⟨⟨htracks.rttArray, htracks.bwArray⟩, ⟨htracks.rttReady, htracks.bwReady⟩,
    ⟨hrttMin, ?_⟩, htracks.verdict, ?_⟩
  · rw [hrttMin]
    split_ifs
    · decide
    · exact le_max_left _ _
  · intro clock
    rw [SrtCongestionCtrl.congestionCtrl_toEstimator]
    exact ite_self _

/-- The calls that sample the statistics every 300 ms; the first one only starts
the clock. -/
def sampling (samples : List Perf) : List Call :=
  (none :: samples.map some).mapIdx (fun k bstats =>
    .congestionCtrl ⟨k * SRT_CHECK_INTERVAL, k * SRT_CHECK_INTERVAL⟩ bstats)

/-- The session that `sampling` ends in. -/
def sampled (samples : List Perf) : Session :=
  (sampling samples).foldl (Session.call .exact 0) { current := 0 }

theorem reachable_sampled (samples : List Perf) :
    (session .exact 0 0).Reachable (sampled samples) := by
  unfold sampled
  generalize sampling samples = calls
  induction calls using List.reverseRecOn with
  | nil => exact Relation.ReflTransGen.refl
  | append_singleton calls c ih =>
      rw [List.foldl_append]
      exact ih.tail trivial rfl

/-- Eight samples: two are left in the buffers and the minimum is that of the
first six. -/
theorem estimator_after_eight :
    let σ := sampled [⟨1, 900, 80⟩, ⟨1, 900, 70⟩, ⟨1, 900, 10⟩, ⟨1, 900, 60⟩, ⟨1, 900, 90⟩,
      ⟨1, 900, 75⟩, ⟨1, 800, 42⟩, ⟨1, 700, 5⟩]
    σ.ctrl.rttArray = [42, 35] ∧ σ.ctrl.bwArray = [800, 700] ∧ σ.ctrl.rttMin = 35 := by
  have hform := estimator_closed_form .exact 0 0 (reachable_sampled
    [⟨1, 900, 80⟩, ⟨1, 900, 70⟩, ⟨1, 900, 10⟩, ⟨1, 900, 60⟩, ⟨1, 900, 90⟩,
      ⟨1, 900, 75⟩, ⟨1, 800, 42⟩, ⟨1, 700, 5⟩])
  exact ⟨hform.1.1.trans (by decide +kernel), hform.1.2.trans (by decide +kernel),
    hform.2.2.1.1.trans (by decide +kernel)⟩

/-! ### The decision window -/

namespace Session

/-- The last successful evaluation completed a window. -/
def JustCompleted (σ : Session) : Prop :=
  σ.ctrl.rttReady = true ∧ σ.ctrl.bwReady = true

instance (σ : Session) : Decidable σ.JustCompleted :=
  inferInstanceAs (Decidable (_ ∧ _))

/-- The values of the most recent windows. -/
def lastWindows (σ : Session) : List Int :=
  σ.windows.drop (σ.windows.length - STATE_LIST_MAX)

/-- Up to the sixth window nothing has been lost from view. -/
theorem Tracked.lastWindows_eq {σ : Session} (h : Tracked σ)
    (hfew : σ.ctrl.stateArray.length ≤ STATE_LIST_MAX) : σ.lastWindows = σ.windows := by
  unfold lastWindows
  rw [← h.windows, Nat.sub_eq_zero_of_le hfew]
  exact List.drop_zero

theorem Tracked.stateArray_le_iff {σ : Session} (h : Tracked σ) :
    σ.ctrl.stateArray.length ≤ STATE_LIST_MAX ↔
      σ.samples.length < RTT_LIST_MAX * (STATE_LIST_MAX + 1) := by
  rw [h.tracks.stateArray]
  unfold RTT_LIST_MAX STATE_LIST_MAX
  omega

end Session

/-- **The decision window.**  For two runs, the decision stage holds at most six
values and the verdict depends on the six most recent ones alone exactly when
neither run has completed a seventh window: the values are never dropped. -/
theorem decision_window_iff (fp₁ fp₂ : Doubles) (video₁ video₂ current₁ current₂ : Int)
    {σ₁ σ₂ : Session} (h₁ : (session fp₁ video₁ current₁).Reachable σ₁)
    (h₂ : (session fp₂ video₂ current₂).Reachable σ₂) :
    ((σ₁.ctrl.stateArray.length ≤ STATE_LIST_MAX ∧
        σ₂.ctrl.stateArray.length ≤ STATE_LIST_MAX) ∧
      (σ₁.JustCompleted → σ₂.JustCompleted → σ₁.lastWindows = σ₂.lastWindows →
        σ₁.ctrl.congestionState = σ₂.ctrl.congestionState)) ↔
      σ₁.samples.length < RTT_LIST_MAX * (STATE_LIST_MAX + 1) ∧
        σ₂.samples.length < RTT_LIST_MAX * (STATE_LIST_MAX + 1) := by
  have ht₁ := Session.reachable_tracked h₁
  have ht₂ := Session.reachable_tracked h₂
  rw [← ht₁.stateArray_le_iff, ← ht₂.stateArray_le_iff]
  constructor
  · intro h
    exact h.1
  · intro hfew
    refine ⟨hfew, ?_⟩
    intro hdone₁ hdone₂ hlast
    rw [ht₁.lastWindows_eq hfew.1, ht₂.lastWindows_eq hfew.2] at hlast
    rw [ht₁.verdict hdone₁.1, ht₂.verdict hdone₂.1, hlast]

/-- Six windows with nothing in flight. -/
def calm : List Perf :=
  List.replicate 36 ⟨0, 0, 35⟩

/-- A window with 100 packets in flight, then the same six windows. -/
def afterBurst : List Perf :=
  List.replicate 6 ⟨100, 0, 35⟩ ++ calm

theorem decision_window_of_six :
    (sampled calm).JustCompleted ∧ (sampled calm).ctrl.stateArray.length ≤ STATE_LIST_MAX := by
  have hreach := reachable_sampled calm
  refine ⟨by decide +kernel, ?_⟩
  have hwindow := (decision_window_iff .exact .exact 0 0 0 0 hreach hreach).mpr
  exact (hwindow ⟨by decide +kernel, by decide +kernel⟩).1.1

/-- A burst in the first window decides after the seventh, where the last six
windows are those of a calm run. -/
theorem old_burst_decides :
    (sampled afterBurst).ctrl.stateArray.length = 7 ∧
      (sampled afterBurst).JustCompleted ∧ (sampled calm).JustCompleted ∧
      (sampled afterBurst).lastWindows = (sampled calm).lastWindows ∧
      (sampled afterBurst).ctrl.congestionState = .STATE_DECR ∧
      (sampled calm).ctrl.congestionState = .STATE_KEEP := by
  decide +kernel

end SrtCc
