import Xrtc.SrtNetClients

/-!
# The fate of every client

What the custody balances say about the history: an admitted client waits to be
inserted, is in `client_list_`, or has been reported once; a `stop` that
returns leaves nobody behind, unless the accept loop inserted a client behind
its back; an accepted socket is owned or has been closed once, unless
`clientConnected` refused it.
-/

namespace SrtNet

open Custody

/-! ## One decision and one context per socket -/

theorem State.admitted_sublist (σ : State) :
    (σ.admitted.map Prod.fst).Sublist σ.decided := by
  unfold State.admitted State.decided
  induction σ.trace with
  | nil => exact .refl _
  | cons e rest ih =>
      cases e with
      | clientConnected s c =>
          cases c with
          | none => exact ih.cons s
          | some c => exact ih.cons_cons s
      | _ => exact ih

theorem State.mem_admitted {σ : State} {s : SRTSOCKET} {c : Context} :
    (s, c) ∈ σ.admitted ↔ .clientConnected s (some c) ∈ σ.trace := by
  simp only [State.admitted, List.mem_filterMap]
  constructor
  · rintro ⟨e, he, hs⟩
    cases e with
    | clientConnected s' c' => cases c' <;> simp_all [Event.admitted]
    | _ => simp [Event.admitted] at hs
  · exact fun h => ⟨_, h, rfl⟩

/-- A server's report names exactly one client. -/
theorem Event.reported_eq_some {e : Event} {s : SRTSOCKET} {c : Context} :
    e.reported = some (s, c) ↔ e = .clientDisconnected .server (some c) s := by
  cases e with
  | clientDisconnected mode c' s' =>
      cases mode <;> cases c' <;> simp [Event.reported, and_comm]
  | _ => simp [Event.reported]

theorem State.mem_reported {σ : State} {s : SRTSOCKET} {c : Context} :
    (s, c) ∈ σ.reported ↔ .clientDisconnected .server (some c) s ∈ σ.trace := by
  simp [State.reported, List.mem_filterMap, Event.reported_eq_some]

theorem State.count_reported (σ : State) (s : SRTSOCKET) (c : Context) :
    σ.reported.count (s, c) = σ.trace.count (.clientDisconnected .server (some c) s) := by
  rw [State.reported, List.count_filterMap, List.count_eq_countP]
  refine List.countP_congr fun e _ => ?_
  simp [Event.reported_eq_some]

section

variable {cb : Callbacks} {σ σ' : State} {t : Tid} {i : Input}
  {ok : State → Tid × Input → Prop}

theorem nodup_admitted (h : (system cb).ReachableUnder ok σ) :
    (σ.admitted.map Prod.fst).Nodup := by
  refine σ.admitted_sublist.nodup (List.nodup_iff_count_le_one.mpr fun s => ?_)
  exact (clients_reachable h).decisions.released_le_one trivial
    (sockets_reachable h).nodup_accepted

/-- `clientConnected` returned at most one context for a socket. -/
theorem admitted_unique (h : (system cb).ReachableUnder ok σ) {s : SRTSOCKET}
    {c c' : Context} (hc : (s, c) ∈ σ.admitted) (hc' : (s, c') ∈ σ.admitted) : c' = c := by
  have heq := List.inj_on_of_nodup_map (nodup_admitted h) hc' hc rfl
  exact (Prod.mk.inj heq).2

/-- An admitted socket was accepted. -/
theorem accepted_of_admitted (h : (system cb).ReachableUnder ok σ) {s : SRTSOCKET}
    {c : Context} (hc : (s, c) ∈ σ.admitted) : s ∈ σ.accepted := by
  have hdecided : s ∈ σ.decided :=
    σ.admitted_sublist.subset (List.mem_map.mpr ⟨(s, c), hc, rfl⟩)
  exact (clients_reachable h).decisions.mem_of_released trivial hdecided

/-- Live clients are in the list. -/
theorem Clients.live_subset (h : Clients cb σ) : ∀ a ∈ σ.live, a ∈ σ.clientList.toList := by
  intro a ha
  unfold State.live at ha
  cases hrest : σ.sweepRest with
  | none => simpa [hrest] using ha
  | some rest => exact h.rest rest hrest a (by simpa [hrest] using ha)

/-! ## Who is reported -/

/-- The history only grows. -/
theorem Move.trace_subset (hm : Move cb σ t i σ') : ∀ e ∈ σ.trace, e ∈ σ'.trace := by
  intro e he
  cases hm <;> simp [destroyMembers, unlockNet, he]

/-- Reports are made by `closeAllClientSockets`, by the receive-error branch of
the server and by the receive-error branch of the client. -/
theorem Move.reports (hm : Move cb σ t i σ') {mode : Mode} {c : Option Context}
    {s : SRTSOCKET} (hmem : .clientDisconnected mode c s ∈ σ'.trace) :
    .clientDisconnected mode c s ∈ σ.trace ∨ mode = .server ∧ c.isSome ∧ s ∈ σ'.closes ∨
      mode = .client ∧ s = σ.context ∧ c = σ.clientContext ∧
        (σ.pc t).kind = .client := by
  cases hm with
  | sweepReport r hp hcb =>
      rcases List.mem_cons.mp hmem with heq | hmem
      · obtain ⟨rfl, rfl, rfl⟩ := Event.clientDisconnected.inj heq
        exact .inr (.inl ⟨rfl, rfl, List.mem_cons_self⟩)
      · exact .inl (by simpa using hmem)
  | evict r hp hfree hfind hcb =>
      rcases List.mem_cons.mp hmem with heq | hmem
      · obtain ⟨rfl, rfl, rfl⟩ := Event.clientDisconnected.inj heq
        exact .inr (.inl ⟨rfl, rfl, List.mem_cons_self⟩)
      · exact .inl (by simpa using hmem)
  | clientReport hp hcb =>
      rcases List.mem_cons.mp hmem with heq | hmem
      · obtain ⟨rfl, rfl, rfl⟩ := Event.clientDisconnected.inj heq
        exact .inr (.inr ⟨rfl, rfl, rfl, by rw [hp]; rfl⟩)
      · exact .inl (by simpa using hmem)
  | _ => exact .inl (by simpa [destroyMembers, unlockNet] using hmem)

/-- A report concerns a client of the server, whose socket has been closed, or
the object's own socket. -/
theorem report_origin (h : (system cb).ReachableUnder ok σ) :
    ∀ mode c s, .clientDisconnected mode c s ∈ σ.trace →
      mode = .server ∧ c.isSome ∧ s ∈ σ.closes ∨ s ∈ σ.created := by
  refine invariant_of_moves (P := fun σ => ∀ mode c s, .clientDisconnected mode c s ∈ σ.trace →
    mode = .server ∧ c.isSome ∧ s ∈ σ.closes ∨ s ∈ σ.created) ?_ ?_ h
  · intro mode c s hmem
    simp [State.init] at hmem
  · intro σ t i σ' hreach hs _ _ hm mode c s hmem
    have hcloses : s ∈ σ.closes → s ∈ σ'.closes := by
      simp only [State.mem_closes]
      rintro ⟨r, hr⟩
      exact ⟨r, hm.trace_subset _ hr⟩
    have hcreated : s ∈ σ.created → s ∈ σ'.created := by
      simp only [State.mem_created]
      exact hm.trace_subset _
    rcases hm.reports hmem with hold | hserver | ⟨-, rfl, -, hkind⟩
    · rcases hs mode c s hold with ⟨hmode, hc, hclosed⟩ | hs
      · exact .inl ⟨hmode, hc, hcloses hclosed⟩
      · exact .inr (hcreated hs)
    · exact .inl hserver
    · -- the client reports its own socket
      have hruns := (threads_reachable hreach).runs t
      rw [hkind] at hruns
      cases t with
      | worker k =>
          have hmode := (lifecycle_reachable hreach).client_mode k hkind
          exact .inr (hcreated ((sockets_reachable hreach).context (.inl (by simp [hmode]))))
      | _ => simp [Tid.runs] at hruns

/-- Every report that names an admitted client's socket names its context. -/
theorem report_of_admitted (hcb : cb.clientDisconnected = true)
    (h : (system cb).ReachableUnder ok σ) {s : SRTSOCKET} {c : Context}
    (hadm : (s, c) ∈ σ.admitted) {mode : Mode} {c' : Option Context}
    (hmem : .clientDisconnected mode c' s ∈ σ.trace) : mode = .server ∧ c' = some c := by
  rcases report_origin h mode c' s hmem with ⟨rfl, hc', -⟩ | hcreated
  · obtain ⟨x, rfl⟩ := Option.isSome_iff_exists.mp hc'
    have hx := ((clients_reachable h).reports hcb).mem_of_released trivial
      (State.mem_reported.mpr hmem)
    exact ⟨rfl, by rw [admitted_unique h hadm hx]⟩
  · exact absurd hcreated ((sockets_reachable h).not_created (accepted_of_admitted h hadm))

/-! ## An admitted client is in one place -/

/-- The accept loop holds the client `(s, c)`, about to insert it. -/
def Waiting (σ : State) (s : SRTSOCKET) (c : Context) : Prop :=
  ∃ k, σ.pc (.worker k) = .waitForSRTClient (.insert s c)

/-- No report names the socket. -/
def Unreported (σ : State) (s : SRTSOCKET) : Prop :=
  ∀ mode c, .clientDisconnected mode c s ∉ σ.trace

/-- One report names the socket, and it names the context too. -/
def ReportedOnce (σ : State) (s : SRTSOCKET) (c : Context) : Prop :=
  σ.trace.count (.clientDisconnected .server (some c) s) = 1 ∧
    ∀ mode c', .clientDisconnected mode c' s ∈ σ.trace → mode = .server ∧ c' = some c

/-- No `closeAllClientSockets` is between its lock and its unlock. -/
def NoSweep (σ : State) : Prop :=
  ∀ t, (σ.pc t).sweepRest = none

theorem NoSweep.live (hsweep : NoSweep σ) : σ.live = σ.clientList.toList := by
  refine live_of_none ?_
  cases hmtx : σ.clientListMtx with
  | none => exact sweepRest_of_free hmtx
  | some t => simp [State.sweepRest, hmtx, hsweep t]

theorem waiting_iff (h : (system cb).ReachableUnder ok σ) {s : SRTSOCKET} {c : Context} :
    Waiting σ s c ↔ (s, c) ∈ σ.stage.pending := by
  constructor
  · rintro ⟨k, hp⟩
    rw [(stage_eq (lifecycle_reachable h) (threads_reachable h) hp rfl).2]
    exact List.mem_singleton_self _
  · intro hmem
    refine ⟨σ.session, ?_⟩
    unfold State.stage at hmem
    generalize σ.pc (.worker σ.session) = p at hmem ⊢
    unfold Pc.stage at hmem
    split at hmem <;> simp_all [Stage.pending]

/-- **One place.**  Outside of `closeAllClientSockets`, an admitted client is
waiting to be inserted, is in `client_list_` under its own context, or has been
reported once with its own context; never two of these. -/
theorem admitted_in_one_place (hcb : cb.clientDisconnected = true)
    (h : (system cb).Reachable σ) (hsweep : NoSweep σ) {s : SRTSOCKET} {c : Context}
    (hadm : .clientConnected s (some c) ∈ σ.trace) :
    (Waiting σ s c ∧ s ∉ σ.clientList ∧ Unreported σ s) ∨
    (¬ Waiting σ s c ∧ σ.clientList[s]? = some c ∧ Unreported σ s) ∨
    (¬ Waiting σ s c ∧ s ∉ σ.clientList ∧ ReportedOnce σ s c) := by
  have hclients := clients_reachable h
  have hmem : (s, c) ∈ σ.admitted := State.mem_admitted.mpr hadm
  have hbalance := hclients.reports hcb
  have hplace := hbalance.one_place trivial (List.Nodup.of_map _ (nodup_admitted h)) hmem
  rw [waiting_iff h]
  have hkey : s ∈ σ.clientList → (s, c) ∈ σ.live := by
    intro hs
    rw [hsweep.live]
    obtain ⟨⟨s', c'⟩, hmem', rfl⟩ := List.mem_map.mp (mem_map_fst_toList.mpr hs)
    have hadm' := hbalance.mem_of_held trivial (a := (s', c')) (by
      rw [hsweep.live]
      exact List.mem_append_right _ hmem')
    exact admitted_unique h hmem hadm' ▸ hmem'
  have hunreported : (s, c) ∉ σ.reported → Unreported σ s := by
    intro hnot mode c' hrep
    obtain ⟨rfl, rfl⟩ := report_of_admitted hcb h hmem hrep
    exact hnot (State.mem_reported.mpr hrep)
  rcases hplace with ⟨hheld, hnot⟩ | ⟨hnot, hcount⟩
  · rw [List.count_append] at hheld
    by_cases hlive : (s, c) ∈ σ.live
    · right
      left
      have hpending : (s, c) ∉ σ.stage.pending := by
        rw [← List.count_pos_iff] at hlive ⊢
        omega
      rw [hsweep.live] at hlive
      exact ⟨hpending, Std.TreeMap.mem_toList_iff_getElem?_eq_some.mp hlive, hunreported hnot⟩
    · left
      have hpending : (s, c) ∈ σ.stage.pending := by
        rw [← List.count_pos_iff] at hlive ⊢
        omega
      exact ⟨hpending, fun hs => hlive (hkey hs), hunreported hnot⟩
  · right
    right
    rw [List.mem_append, not_or] at hnot
    refine ⟨hnot.1, fun hs => hnot.2 (hkey hs), ?_, fun _ _ => report_of_admitted hcb h hmem⟩
    rw [← σ.count_reported]
    exact hcount

/-- Between its lock and its unlock `closeAllClientSockets` owns
`client_list_mtx_`. -/
theorem noSweep_of_free (hl : Locks σ) (hfree : σ.clientListMtx = none) : NoSweep σ := by
  intro t
  have hdepth : (σ.pc t).listDepth = 0 := by simpa [hfree] using hl.list t
  unfold Pc.sweepRest
  split <;> simp_all [Pc.listDepth]

end

/-- A client whose connection breaks: the event thread reports it. -/
theorem admitted_in_one_place_evicted :
    ∃ σ, (system allCallbacks).Reachable σ ∧ NoSweep σ ∧
      .clientConnected 9 (some 3) ∈ σ.trace ∧ ReportedOnce σ 9 3 := by
  have hreach := StepSystem.reachable_get (M := system allCallbacks)
    (startServerRun (.app 0) (testServer 1) 5 ++ serverUpRun 1 3 ++
      schedule (.worker 1) [.tau, .answer 9, .candidate (some 3), .answer 0] ++
      schedule (.event 1) [.tau, .ready (some [9]), .answer SRT_ERROR, .answer 0, .done]) rfl
  have hsweep := noSweep_of_free (locks_reachable hreach) rfl
  have hplace := admitted_in_one_place rfl hreach hsweep (s := 9) (c := 3) (by decide)
  refine ⟨_, hreach, hsweep, by decide, ?_⟩
  rcases hplace with hwaiting | hlisted | hreported
  · exact absurd (by decide) (hwaiting.2.2 .server (some 3))
  · exact absurd (by decide) (hlisted.2.2 .server (some 3))
  · exact hreported.2.2

/-! ## A returning `stop` -/

/-- `stop` of a server after its `closeAllClientSockets`. -/
def Pc.swept : Pc → Bool
  | .stop _ (.joinWorker .server _) => true
  | .stop _ (.joinEvent _) => true
  | _ => false

/-- A `stop` has closed all clients and is joining the session threads. -/
def State.swept (σ : State) : Bool :=
  σ.netMtx.any (fun t => (σ.pc t).swept)

/-- The accept loop is about to insert a client. -/
def Pc.inserts : Pc → Bool
  | .waitForSRTClient (.insert _ _) => true
  | _ => false

/-- The step is not an insertion into a list that `stop` has cleared already. -/
def NotLate (σ : State) (ti : Tid × Input) : Prop :=
  ¬ ((σ.pc ti.1).inserts = true ∧ σ.swept = true)

instance (σ : State) (ti : Tid × Input) : Decidable (NotLate σ ti) :=
  inferInstanceAs (Decidable (¬ ((σ.pc ti.1).inserts = true ∧ σ.swept = true)))

/-- Outside of a server session, and once `stop` has cleared it, the list is
empty. -/
structure Emptied (σ : State) : Prop where
  mode : σ.currentMode ≠ .server → σ.clientList.isEmpty = true
  swept : ∀ t, (σ.pc t).swept = true → σ.clientList.isEmpty = true

section

variable {cb : Callbacks} {σ σ' : State} {t : Tid} {i : Input}

theorem Pc.swept_netDepth {p : Pc} (h : p.swept = true) : p.netDepth ≠ 0 := by
  unfold Pc.swept at h
  split at h <;> simp_all [Pc.netDepth]

/-- Moves that leave the list alone. -/
theorem Emptied.quiet (h : Emptied σ) {q : Pc} (hpc : σ'.pc = Function.update σ.pc t q)
    (hlist : σ'.clientList = σ.clientList) (hmode : σ'.currentMode = σ.currentMode)
    (hq : q.swept = true → (σ.pc t).swept = true) : Emptied σ' := by
  refine ⟨?_, ?_⟩
  · rw [hlist, hmode]
    exact h.mode
  · intro u hu
    rw [hlist]
    rw [hpc] at hu
    rcases of_update (P := fun p => p.swept = true) hu with ⟨-, hnew⟩ | hold
    · exact h.swept t (hq hnew)
    · exact h.swept u hold

/-- Moves that leave the list empty. -/
theorem Emptied.of_empty (hlist : σ'.clientList.isEmpty = true) : Emptied σ' :=
  ⟨fun _ => hlist, fun _ _ => hlist⟩

/-- A client that is found was in the list, so the list was not empty. -/
theorem Emptied.evict (h : Emptied σ) {q : Pc} {s : SRTSOCKET} {c : Context}
    (hpc : σ'.pc = Function.update σ.pc t q) (hfind : σ.clientList[s]? = some c)
    (hmode : σ'.currentMode = σ.currentMode) (hq : q.swept = false) : Emptied σ' := by
  have hne : σ.clientList.isEmpty ≠ true := by
    intro hempty
    simp [Std.TreeMap.getElem?_of_isEmpty hempty] at hfind
  refine ⟨?_, ?_⟩
  · rw [hmode]
    exact fun hserver => absurd (h.mode hserver) hne
  · intro u hu
    rw [hpc] at hu
    rcases of_update (P := fun p => p.swept = true) hu with ⟨-, hnew⟩ | hold
    · simp [hq] at hnew
    · exact absurd (h.swept u hold) hne

theorem Silent.swept {p p' : Pc} (h : Silent p p') : p'.swept = false := by
  cases h <;> rfl

theorem swept_of_swept (hl : Locks σ) (h : (σ.pc t).swept = true) : σ.swept = true := by
  have howner := hl.net.eq_some (Pc.swept_netDepth h)
  simpa [State.swept, howner] using h

/-- A server's `stop` has yet to sweep, and a client has no list. -/
theorem afterClose_swept (dtor : Bool) (result : Option Int) (mode : Mode) :
    (afterClose dtor result mode).swept = false := by
  cases mode <;> rfl

theorem Emptied.move (h : Emptied σ) (hl : Locks σ) (hlife : Lifecycle σ)
    (hok : NotLate σ (t, i)) (hm : Move cb σ t i σ') : Emptied σ' := by
  have hunknown : ∀ {call}, σ.pc t = .start call .publish → σ.clientList.isEmpty = true := by
    intro call hp
    obtain ⟨hmode, -⟩ := hlife.at_publish hl hp
    exact h.mode (by simp [hmode])
  cases hm with
  | silent hp hs => exact h.quiet rfl rfl rfl (by simp [hs.swept])
  | enter c hp => exact h.quiet rfl rfl rfl (by cases c <;> simp [Call.enter, Pc.swept])
  | takeNet hp hs hfree => exact h.quiet rfl rfl rfl (by cases hs <;> simp [Pc.swept])
  | dropNet hp hs => exact h.quiet rfl rfl rfl (by cases hs <;> simp [Pc.swept])
  | publishServer hp hfree => exact .of_empty (hunknown hp)
  | publishClient hp hfree => exact .of_empty (hunknown hp)
  | publishFault server client mode hp hjoinable => exact .of_empty (hunknown hp)
  | stopClose hp hr => exact h.quiet rfl rfl rfl (by simp [afterClose_swept])
  | stopSkipClose hp hcontext => exact h.quiet rfl rfl rfl (by simp [afterClose_swept])
  | joinWorkerServer hp hjoin =>
      exact h.quiet rfl rfl rfl (fun _ => by rw [hp]; rfl)
  | joinWorkerClient hp hmode hjoin =>
      obtain ⟨-, hphase, -⟩ := hlife.phase_of_depth hl hp (by simp [Pc.netDepth])
      exact .of_empty (h.mode (fun hserver => hmode (hphase.mode_eq.symm.trans hserver)))
  | joinEvent hp hjoin => exact .of_empty (h.swept t (by rw [hp]; rfl))
  | sweepClear hp => exact .of_empty rfl
  | spawnEvent ready hp hfree =>
      have hmode := hlife.accept_mode _ (by rw [hp]; rfl)
      refine ⟨fun hne => absurd hmode hne, fun u hu => ?_⟩
      rcases of_update (P := fun p => p.swept = true) hu with ⟨-, hnew⟩ | hu
      · simp [Pc.swept] at hnew
      · rcases of_update (P := fun p => p.swept = true) hu with ⟨-, hnew⟩ | hold
        · simp [Pc.swept] at hnew
        · exact h.swept u hold
  | spawnFault hp hjoinable => exact ⟨h.mode, h.swept⟩
  | insert r hp hfree =>
      have hmode := hlife.accept_mode _ (by rw [hp]; rfl)
      refine ⟨fun hne => absurd hmode hne, fun u hu => ?_⟩
      rcases of_update (P := fun p => p.swept = true) hu with ⟨-, hnew⟩ | hold
      · simp [Pc.swept] at hnew
      · exact absurd ⟨by simp [hp, Pc.inserts], swept_of_swept hl hold⟩ hok
  | evict r hp hfree hfind hcb => exact h.evict rfl hfind rfl rfl
  | evictQuiet r hp hfree hfind hcb =>
      exact h.evict rfl hfind rfl (by rename_i b _ _; cases hb : b.next <;> rfl)
  | readEnd hp => exact ⟨h.mode, h.swept⟩
  | _ => exact h.quiet rfl rfl rfl (by simp [Pc.swept])

theorem emptied_reachable (h : (system cb).ReachableUnder NotLate σ) : Emptied σ := by
  refine invariant_of_moves (P := Emptied) (.of_empty rfl) ?_ h
  intro σ t i σ' hreach hs hok _ hm
  exact hs.move (locks_reachable hreach) (lifecycle_reachable hreach) hok hm

/-- **A returning `stop`.**  In a run without late insertions, a `stop` that
returns `true` leaves an empty list, and every client ever admitted has been
closed and reported. -/
theorem stop_leaves_nobody (hcb : cb.clientDisconnected = true)
    (h : (system cb).ReachableUnder NotLate σ) {dtor : Bool} {result : Option Int}
    (hp : σ.pc t = .stop dtor (.ret result)) (hresult : result ≠ some SRT_ERROR) :
    σ.clientList.isEmpty = true ∧
    ∀ s c, .clientConnected s (some c) ∈ σ.trace →
      (∃ r, .srtClose s r ∈ σ.trace) ∧ .clientDisconnected .server (some c) s ∈ σ.trace := by
  have hlife := lifecycle_reachable h
  have hphase : σ.currentMode = .unknown ↔ result ≠ some SRT_ERROR :=
    (hlife.phase_of_depth (locks_reachable h) hp (by simp [Pc.netDepth])).2
  have hmode := hphase.mpr hresult
  have hempty := (emptied_reachable h).mode (by simp [hmode])
  refine ⟨hempty, ?_⟩
  intro s c hadm
  have hstage := stage_nothing hlife (hlife.of_unknown hmode).2.2.1
  have hmem := State.mem_admitted.mpr hadm
  have hplace := ((clients_reachable h).reports hcb).one_place trivial
    (List.Nodup.of_map _ (nodup_admitted h)) hmem
  have hlive : σ.live = [] := by
    refine List.eq_nil_iff_forall_not_mem.mpr fun a ha => ?_
    have hmem := (clients_reachable h).live_subset a ha
    rw [List.isEmpty_iff.mp (Std.TreeMap.isEmpty_toList.trans hempty)] at hmem
    cases hmem
  rw [hstage, hlive] at hplace
  have hreported : Event.clientDisconnected .server (some c) s ∈ σ.trace := by
    rcases hplace with ⟨hheld, -⟩ | ⟨-, hcount⟩
    · simp [Stage.pending] at hheld
    · exact State.mem_reported.mp (List.count_pos_iff.mp (hcount ▸ Nat.one_pos))
  refine ⟨?_, hreported⟩
  rcases report_origin h _ _ _ hreported with ⟨-, -, hclosed⟩ | hcreated
  · exact State.mem_closes.mp hclosed
  · exact absurd hcreated ((sockets_reachable h).not_created (accepted_of_admitted h hmem))

end

/-- A server with one client is stopped. -/
theorem stop_leaves_nobody_one_client :
    ∃ σ, (system allCallbacks).ReachableUnder NotLate σ ∧
      σ.pc (.app 0) = .stop false (.ret (some 0)) ∧
      .clientConnected 9 (some 3) ∈ σ.trace ∧ σ.clientList.isEmpty = true ∧
      .clientDisconnected .server (some 3) 9 ∈ σ.trace := by
  have hreach := StepSystem.reachableUnder_get (M := system allCallbacks) NotLate
    (startServerRun (.app 0) (testServer 1) 5 ++ serverUpRun 1 3 ++
      schedule (.worker 1) [.tau, .answer 9, .candidate (some 3), .answer 0, .tau] ++
      schedule (.app 0) [.call .stop, .tau, .tau, .answer 0, .tau, .answer 0, .done, .tau] ++
      schedule (.worker 1) [.answer (-1), .tau] ++ schedule (.event 1) [.tau, .answer 0] ++
      schedule (.app 0) [.tau, .tau]) rfl
  have hleft := stop_leaves_nobody rfl hreach
    (show State.pc _ (.app 0) = .stop false (.ret (some 0)) from rfl) (by decide)
  exact ⟨_, hreach, rfl, by decide, hleft.1, (hleft.2 9 3 (by decide)).2⟩

/-- The accept loop inserts a client after `stop` has cleared the list: `stop`
returns `true` with the client in the list, neither closed nor reported. -/
theorem stop_leaves_late_client :
    ∃ σ, (system allCallbacks).Reachable σ ∧
      σ.pc (.app 0) = .stop false (.ret (some 0)) ∧
      .clientConnected 9 (some 3) ∈ σ.trace ∧ σ.clientList[(9 : SRTSOCKET)]? = some 3 ∧
      9 ∉ σ.closes ∧ .clientDisconnected .server (some 3) 9 ∉ σ.trace :=
  ⟨_, StepSystem.reachable_get
      (startServerRun (.app 0) (testServer 1) 5 ++ serverUpRun 1 3 ++
        schedule (.worker 1) [.tau, .answer 9, .candidate (some 3)] ++
        schedule (.app 0) [.call .stop, .tau, .tau, .answer 0, .tau, .tau] ++
        schedule (.worker 1) [.answer 0, .tau] ++ schedule (.event 1) [.tau, .answer 0] ++
        schedule (.app 0) [.tau, .tau]) rfl,
    rfl, by decide, by decide, by decide, by decide⟩

/-! ## Accepted sockets -/

/-- `clientConnected` returns a null pointer. -/
def Input.isRefusal : Input → Bool
  | .candidate none => true
  | _ => false

/-- The step is not a refusal by `clientConnected`. -/
def Admits (_ : State) (ti : Tid × Input) : Prop :=
  ti.2.isRefusal = false

instance (σ : State) (ti : Tid × Input) : Decidable (Admits σ ti) :=
  inferInstanceAs (Decidable (ti.2.isRefusal = false))

/-- The accept loop is about to pass a socket to POSIX `close`. -/
def Pc.refuses : Pc → Bool
  | .waitForSRTClient (.refuse _) => true
  | _ => false

/-- Nothing has been passed to POSIX `close`, and nothing is about to be. -/
structure NoRefusal (σ : State) : Prop where
  pc : ∀ t, (σ.pc t).refuses = false
  dropped : σ.dropped = []

section

variable {cb : Callbacks} {σ σ' : State} {t : Tid} {i : Input}

theorem NoRefusal.quiet (h : NoRefusal σ) {q : Pc} (hpc : σ'.pc = Function.update σ.pc t q)
    (hq : q.refuses = false) (hdropped : σ'.dropped = σ.dropped) : NoRefusal σ' := by
  refine ⟨?_, hdropped.trans h.dropped⟩
  rw [hpc]
  exact forall_update (P := fun p => p.refuses = false) h.pc hq

/-- A session thread is created. -/
theorem NoRefusal.spawn (h : NoRefusal σ) {w : Tid} {p q : Pc}
    (hpc : σ'.pc = Function.update (Function.update σ.pc w p) t q)
    (hpq : p.refuses = false ∧ q.refuses = false) (hdropped : σ'.dropped = σ.dropped) :
    NoRefusal σ' := by
  refine ⟨?_, hdropped.trans h.dropped⟩
  rw [hpc]
  exact forall_update (P := fun p => p.refuses = false)
    (forall_update (P := fun p => p.refuses = false) h.pc hpq.1) hpq.2

theorem NoRefusal.move (h : NoRefusal σ) (hok : Admits σ (t, i)) (hm : Move cb σ t i σ') :
    NoRefusal σ' := by
  cases hm with
  | silent hp hs => exact h.quiet rfl (by cases hs <;> rfl) rfl
  | enter c hp => exact h.quiet rfl (by cases c <;> rfl) rfl
  | takeNet hp hs hfree => exact h.quiet rfl (by cases hs <;> rfl) rfl
  | dropNet hp hs => exact h.quiet rfl (by cases hs <;> rfl) rfl
  | publishServer hp hfree => exact h.spawn rfl ⟨rfl, rfl⟩ rfl
  | publishClient hp hfree => exact h.spawn rfl ⟨rfl, rfl⟩ rfl
  | publishFault server client mode hp hjoinable => exact ⟨h.pc, h.dropped⟩
  | stopClose hp hr => exact h.quiet rfl (by rename_i mode _; cases mode <;> rfl) rfl
  | stopSkipClose hp hcontext => exact h.quiet rfl (by rename_i mode; cases mode <;> rfl) rfl
  | sweepClear hp => exact h.quiet rfl (by rename_i caller; cases caller <;> rfl) rfl
  | spawnEvent ready hp hfree => exact h.spawn rfl ⟨rfl, rfl⟩ rfl
  | spawnFault hp hjoinable => exact ⟨h.pc, h.dropped⟩
  | reject hp => exact absurd hok (by simp [Admits, Input.isRefusal])
  | refuse hp =>
      rename_i k s
      have hpc := h.pc (.worker k)
      simp [hp, Pc.refuses] at hpc
  | readEnd hp => exact ⟨h.pc, h.dropped⟩
  | _ => exact h.quiet rfl rfl rfl

theorem noRefusal_reachable (h : (system cb).ReachableUnder Admits σ) : NoRefusal σ := by
  refine invariant_of_moves (P := NoRefusal) ⟨fun _ => rfl, rfl⟩ ?_ h
  intro σ t i σ' _ hs hok _ hm
  exact hs.move hok hm

/-- **Accepted sockets.**  If `clientConnected` admits every candidate, then at
the head of the accept loop every socket `srt_accept` returned is a key of
`client_list_` or has been passed to `srt_close` exactly once. -/
theorem accepted_owned_or_closed (h : (system cb).ReachableUnder Admits σ) {k : Nat}
    (hp : σ.pc (.worker k) = .waitForSRTClient .head) {s : SRTSOCKET}
    (hs : .srtAccept s ∈ σ.trace) : s ∈ σ.clientList ∨ σ.closes.count s = 1 := by
  have hclients := clients_reachable h
  have hsock := sockets_reachable h
  have hacc : s ∈ σ.accepted := State.mem_accepted.mpr hs
  have hstage := (stage_eq (lifecycle_reachable h) (threads_reachable h) hp rfl).2
  have hplace := hclients.sockets.one_place (hsock.not_created hacc) hsock.nodup_accepted hacc
  rcases hplace with ⟨hheld, -⟩ | ⟨-, hclosed⟩
  · left
    have hmem := List.count_pos_iff.mp (hheld ▸ Nat.one_pos)
    have hdropped : σ.books.dropped = [] := (noRefusal_reachable h).dropped
    rw [hstage, hdropped, List.append_nil, List.mem_append] at hmem
    rcases hmem with hhand | hlive
    · exact nomatch hhand
    · obtain ⟨a, ha, rfl⟩ := List.mem_map.mp hlive
      exact mem_map_fst_toList.mp (List.mem_map.mpr ⟨a, hclients.live_subset a ha, rfl⟩)
  · exact .inr hclosed

end

/-- Two clients, one of which has disconnected. -/
theorem accepted_owned_or_closed_two :
    ∃ σ, (system allCallbacks).ReachableUnder Admits σ ∧
      σ.pc (.worker 1) = .waitForSRTClient .head ∧
      .srtAccept 9 ∈ σ.trace ∧ (9 ∈ σ.clientList ∨ σ.closes.count 9 = 1) := by
  have hreach := StepSystem.reachableUnder_get (M := system allCallbacks) Admits
    (startServerRun (.app 0) (testServer 1) 5 ++ serverUpRun 1 3 ++
      schedule (.worker 1) [.tau, .answer 9, .candidate (some 3), .answer 0] ++
      schedule (.worker 1) [.tau, .answer 10, .candidate (some 4), .answer 0] ++
      schedule (.event 1) [.tau, .ready (some [9]), .answer SRT_ERROR, .answer 0]) rfl
  exact ⟨_, hreach, rfl, by decide, accepted_owned_or_closed hreach (k := 1) rfl (by decide)⟩

/-- A refused socket goes to POSIX `close` and stays open in SRT. -/
theorem refused_socket_left_open :
    ∃ σ, (system allCallbacks).Reachable σ ∧
      σ.pc (.worker 1) = .waitForSRTClient .head ∧ .srtAccept 9 ∈ σ.trace ∧
      9 ∉ σ.clientList ∧ σ.closes.count 9 = 0 :=
  ⟨_, StepSystem.reachable_get
      (startServerRun (.app 0) (testServer 1) 5 ++ serverUpRun 1 3 ++
        schedule (.worker 1) [.tau, .answer 9, .candidate none, .tau]) rfl,
    rfl, by decide, by decide, by decide⟩

end SrtNet
