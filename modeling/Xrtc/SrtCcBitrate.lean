import Mathlib.Tactic.Linarith
import Mathlib.Tactic.NormNum
import Xrtc.SrtCcEstimator

/-!
# The encoder bitrate

`updateVideoEncodeBitate` raises the bitrate by eight percent while it is below
1.3 times the stream bitrate, and lowers it by fifteen percent while it is above
0.4 times the stream bitrate.  The guards are on the old value, so a step may
overshoot them, and every product is truncated.  The results hold for any
interleaving of the two calls and whatever value `congestion_state_` takes
between them.
-/

namespace SrtCc

/-- Truncation of a nonnegative value is its floor. -/
theorem truncate_eq_floor {q : ℚ} (hq : 0 ≤ q) : truncate q = ⌊q⌋ := by
  unfold truncate
  rw [Int.tdiv_eq_ediv_of_nonneg (Rat.num_nonneg.mpr hq), Rat.floor_def']

/-- Truncating a nonnegative integer scaled by `a / b`. -/
theorem truncate_scaled {c : Int} (hc : 0 ≤ c) {a b : ℕ} (hb : 0 < b) :
    b * truncate (c * (a / b : ℚ)) ≤ a * c ∧
      a * c < b * (truncate (c * (a / b : ℚ)) + 1) := by
  have hbq : (0 : ℚ) < b := by exact_mod_cast hb
  have hq : (0 : ℚ) ≤ c * (a / b : ℚ) := by positivity
  have hscale : (b : ℚ) * (c * (a / b : ℚ)) = a * c := by
    field_simp
  have hle := mul_le_mul_of_nonneg_left (Int.floor_le (c * (a / b : ℚ))) hbq.le
  have hlt := mul_lt_mul_of_pos_left (Int.lt_floor_add_one (c * (a / b : ℚ))) hbq
  rw [hscale, ← truncate_eq_floor hq] at hle hlt
  exact ⟨by exact_mod_cast hle, by exact_mod_cast hlt⟩

namespace SrtCongestionCtrl

/-- What the callback of `updateVideoEncodeBitate` can do to a nonnegative
bitrate, in integers. -/
theorem adjust_cases (state : CongestionState) {c : Int} (v : Int) (hc : 0 ≤ c) :
    adjust state c v c = c ∨
      (state = .STATE_INCR ∧ 10 * c < 13 * v ∧
        25 * adjust state c v c ≤ 27 * c ∧ 27 * c < 25 * (adjust state c v c + 1)) ∨
      (state = .STATE_DECR ∧ 2 * v < 5 * c ∧
        20 * adjust state c v c ≤ 17 * c ∧ 17 * c < 20 * (adjust state c v c + 1)) := by
  cases state with
  | STATE_KEEP => exact Or.inl rfl
  | STATE_INCR =>
      by_cases hguard : (c : ℚ) < v * (13 / 10)
      · have hval : adjust .STATE_INCR c v c = truncate (c * INCR_RATION) := if_pos hguard
        have hscaled := @truncate_scaled c hc 27 25 (by norm_num)
        have hguard' : (10 : ℚ) * c < 13 * v := by linarith
        rw [hval]
        exact Or.inr (Or.inl ⟨rfl, by exact_mod_cast hguard', hscaled⟩)
      · exact Or.inl (if_neg hguard)
  | STATE_DECR =>
      by_cases hguard : (c : ℚ) > v * (2 / 5)
      · have hval : adjust .STATE_DECR c v c = truncate (c * DECR_RATION) := if_pos hguard
        have hscaled := @truncate_scaled c hc 17 20 (by norm_num)
        have hguard' : (2 : ℚ) * v < 5 * c := by linarith
        rw [hval]
        exact Or.inr (Or.inr ⟨rfl, by exact_mod_cast hguard', hscaled⟩)
      · exact Or.inl (if_neg hguard)

/-- Below the guard, an increase does take place. -/
theorem adjust_incr {c v : Int} (hc : 0 ≤ c) (hguard : 10 * c < 13 * v) :
    25 * adjust .STATE_INCR c v c ≤ 27 * c ∧
      27 * c < 25 * (adjust .STATE_INCR c v c + 1) := by
  have hguardQ : (10 : ℚ) * c < 13 * v := by exact_mod_cast hguard
  have hval : adjust .STATE_INCR c v c = truncate (c * INCR_RATION) :=
    if_pos (by linarith)
  rw [hval]
  exact @truncate_scaled c hc 27 25 (by norm_num)

variable (ctrl : SrtCongestionCtrl) (clock : Reading) (current video : Int)

theorem updateVideoEncodeBitate_current :
    (ctrl.updateVideoEncodeBitate clock current video).current =
      if ctrl.updates clock then adjust ctrl.congestionState current video current
      else current := by
  have hreturned := RunTask.doByTimeAndCount_returned ctrl.updateVencodeBitrateTask clock
    (adjust ctrl.congestionState current video) current
  have hstate := RunTask.doByTimeAndCount_state ctrl.updateVencodeBitrateTask clock
    (adjust ctrl.congestionState current video) current
  by_cases hfires : ctrl.updates clock = true
  · rw [if_pos hfires]
    unfold updates at hfires
    rw [if_pos hfires] at hstate
    simp only [updateVideoEncodeBitate, hreturned, hfires, hstate, if_true]
    split_ifs with hchanged
    · rfl
    · exact (not_not.mp hchanged).symm
  · rw [if_neg hfires]
    unfold updates at hfires
    simp only [updateVideoEncodeBitate, hreturned, if_neg hfires]

theorem updateVideoEncodeBitate_returned :
    (ctrl.updateVideoEncodeBitate clock current video).returned = true ↔
      (ctrl.updateVideoEncodeBitate clock current video).current ≠ current := by
  simp only [updateVideoEncodeBitate]
  split_ifs with hfires hchanged
  · exact iff_of_true rfl hchanged
  · simp
  · simp

end SrtCongestionCtrl

/-! ### Runs -/

/-- What happens to a controller in use: a call, or any other store to
`congestion_state_`. -/
inductive Event where
  | call (c : Call)
  | store (state : CongestionState)

def Session.event (fp : Doubles) (video : Int) (σ : Session) : Event → Session
  | .call c => σ.call fp video c
  | .store state => { σ with ctrl.congestionState := state }

/-- The runs of a controller that starts in any state, with `congestion_state_`
changing freely between the calls. -/
def encoder (fp : Doubles) (video : Int) (start : Session) : StepSystem Session Event where
  init := start
  step σ event := some (σ.event fp video event)

/-- What every reached bitrate `c` satisfies, for the stream bitrate `v` and the
starting bitrate `c₀`. -/
structure Envelope (v c₀ c : Int) : Prop where
  nonneg : 0 ≤ c
  lower : c₀ ≤ c ∨ 34 * v < 100 * (c + 1)
  upper : c ≤ c₀ ∨ 1000 * c ≤ 1404 * v
  climbs : 42 ≤ v → 13 ≤ c₀ → 13 ≤ c

/-- One run of the callback keeps the bitrate in the envelope. -/
theorem Envelope.adjust {v c₀ c : Int} (h : Envelope v c₀ c) (hv : 0 < v)
    (state : CongestionState) :
    Envelope v c₀ (SrtCongestionCtrl.adjust state c v c) := by
  obtain ⟨hnonneg, hlower, hupper, hclimbs⟩ := h
  rcases SrtCongestionCtrl.adjust_cases state v hnonneg with
    hsame | ⟨-, hguard, hle, hlt⟩ | ⟨-, hguard, hle, hlt⟩
  · rw [hsame]
    exact ⟨hnonneg, hlower, hupper, hclimbs⟩
  · have hgrows : c ≤ SrtCongestionCtrl.adjust state c v c := by omega
    exact ⟨by omega, by omega, by omega, by omega⟩
  · exact ⟨by omega, by omega, by omega, by omega⟩

theorem Envelope.event {fp : Doubles} {video c₀ : Int} {σ : Session} (hv : 0 < video)
    (h : Envelope video c₀ σ.current) (event : Event) :
    Envelope video c₀ (σ.event fp video event).current := by
  cases event with
  | store state => exact h
  | call c =>
      cases c with
      | congestionCtrl clock bstats =>
          simp only [Session.event, Session.call]
          split_ifs <;> exact h
      | updateVideoEncodeBitate clock =>
          simp only [Session.event, Session.call,
            SrtCongestionCtrl.updateVideoEncodeBitate_current]
          split_ifs
          · exact h.adjust hv _
          · exact h

theorem reachable_envelope {fp : Doubles} {video : Int} {start σ : Session} (hv : 0 < video)
    (hstart : 0 ≤ start.current) (h : (encoder fp video start).Reachable σ) :
    Envelope video start.current σ.current := by
  refine StepSystem.ReachableUnder.induction
    (P := fun τ => Envelope video start.current τ.current) ?_ ?_ h
  · exact ⟨hstart, Or.inl le_rfl, Or.inl le_rfl, fun _ h => h⟩
  · intro τ event τ' _ ih _ hstep
    have hevent : τ.event fp video event = τ' := by simpa [encoder] using hstep
    rw [← hevent]
    exact ih.event hv event

/-- **The bitrate envelope.**  In every run the bitrate stays between the
smaller of its start and `0.34 v - 1` and the larger of its start and `1.404 v`.
A call returns true exactly when it changes the bitrate, raises it only under
`STATE_INCR` and lowers it only under `STATE_DECR`.  From a stream bitrate of 42
and a start of 13 on, truncation never stops an increase. -/
theorem bitrate_envelope (fp : Doubles) (v : Int) (start : Session) (hv : 0 < v)
    (hstart : 0 ≤ start.current) {σ : Session}
    (h : (encoder fp v start).Reachable σ) :
    (min (start.current : ℚ) (34 / 100 * v - 1) ≤ σ.current ∧
      (σ.current : ℚ) ≤ max (start.current : ℚ) (1404 / 1000 * v)) ∧
    (∀ clock,
      ((σ.ctrl.updateVideoEncodeBitate clock σ.current v).returned = true ↔
        (σ.ctrl.updateVideoEncodeBitate clock σ.current v).current ≠ σ.current) ∧
      (σ.current < (σ.ctrl.updateVideoEncodeBitate clock σ.current v).current →
        σ.ctrl.congestionState = .STATE_INCR) ∧
      ((σ.ctrl.updateVideoEncodeBitate clock σ.current v).current < σ.current →
        σ.ctrl.congestionState = .STATE_DECR)) ∧
    (42 ≤ v → 13 ≤ start.current → (σ.current : ℚ) < 13 / 10 * v →
      ∀ clock, σ.ctrl.updates clock = true → σ.ctrl.congestionState = .STATE_INCR →
        σ.current < (σ.ctrl.updateVideoEncodeBitate clock σ.current v).current) := by
  obtain ⟨hnonneg, hlower, hupper, hclimbs⟩ := reachable_envelope hv hstart h
  refine ⟨⟨?_, ?_⟩, ?_, ?_⟩
  · rcases hlower with hge | hgt
    · exact (min_le_left _ _).trans (by exact_mod_cast hge)
    · have hgtQ : (34 : ℚ) * v < 100 * (σ.current + 1) := by exact_mod_cast hgt
      exact (min_le_right _ _).trans (by linarith)
  · rcases hupper with hle | hle
    · exact le_max_of_le_left (by exact_mod_cast hle)
    · have hleQ : (1000 : ℚ) * σ.current ≤ 1404 * v := by exact_mod_cast hle
      exact le_max_of_le_right (by linarith)
  · intro clock
    refine ⟨σ.ctrl.updateVideoEncodeBitate_returned clock σ.current v, ?_⟩
    rw [SrtCongestionCtrl.updateVideoEncodeBitate_current]
    have hcases := SrtCongestionCtrl.adjust_cases σ.ctrl.congestionState v hnonneg
    split_ifs with hfires
    · rcases hcases with hsame | ⟨hstate, hguard, hle, hlt⟩ | ⟨hstate, hguard, hle, hlt⟩
      · exact ⟨fun hup => by omega, fun hdown => by omega⟩
      · exact ⟨fun _ => hstate, fun hdown => by omega⟩
      · exact ⟨fun hup => by omega, fun _ => hstate⟩
    · exact ⟨fun hup => absurd hup (lt_irrefl _), fun hdown => absurd hdown (lt_irrefl _)⟩
  · intro hv42 hstart13 hbelow clock hfires hincr
    have hguardQ : (10 : ℚ) * σ.current < 13 * v := by linarith
    have hguard : 10 * σ.current < 13 * v := by exact_mod_cast hguardQ
    have hincrease := SrtCongestionCtrl.adjust_incr hnonneg hguard
    have hlarge := hclimbs hv42 hstart13
    rw [SrtCongestionCtrl.updateVideoEncodeBitate_current, if_pos hfires, hincr]
    omega

/-- A stream of 1 Mbit/s whose encoder starts at 500 kbit/s under `STATE_INCR`: the call
at 500 ms raises the bitrate. -/
theorem bitrate_climbs_from_half :
    let start : Session :=
      { current := 500000
        ctrl :=
          { congestionState := .STATE_INCR
            updateVencodeBitrateTask :=
              .timed VIDEO_UPDATE_INTERVAL 1 (some 1) (some 0) (some 0) } }
    0 < (1000000 : Int) ∧ 0 ≤ start.current ∧
      500000 < (start.ctrl.updateVideoEncodeBitate ⟨500000000, 500000000⟩ 500000
        1000000).current := by
  refine ⟨by decide, by decide, ?_⟩
  apply (bitrate_envelope .exact 1000000 _ (by decide) (by decide)
    Relation.ReflTransGen.refl).2.2
  · decide
  · decide
  · show ((500000 : Int) : ℚ) < 13 / 10 * (1000000 : Int)
    norm_num
  · decide
  · rfl

end SrtCc
