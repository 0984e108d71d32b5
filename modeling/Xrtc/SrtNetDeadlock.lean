import Xrtc.SrtNetLifecycle

/-!
# Which threads wait for each other

A thread waits for one of the two mutexes, or for the end of the session thread
it joins.  The only way into a cycle leads through a user callback that calls
`getStatistics`: the call waits for `net_mtx_`, while `stop` holds `net_mtx_`
and is about to take `client_list_mtx_` and to join the thread running the
callback.
-/

namespace SrtNet

/-- What a thread can wait for. -/
inductive Resource
  | netMtx
  | clientListMtx
  | thread (t : Tid)
  deriving DecidableEq

/-- What the next step of a thread needs. -/
def State.wants (σ : State) (t : Tid) : Option Resource :=
  match σ.pc t with
  | .start _ .lock => some .netMtx
  | .stop _ .lock => some .netMtx
  | .stop _ (.joinWorker _ _) => σ.workerThread.map .thread
  | .stop _ (.joinEvent _) => σ.eventThread.map .thread
  | .getStatistics (.lock _) => some .netMtx
  | .getActiveClients .lock => some .clientListMtx
  | .closeAllClientSockets _ .lock => some .clientListMtx
  | .waitForSRTClient (.insert _ _) => some .clientListMtx
  | .serverEventHandler (.handle _ _) => some .clientListMtx
  | .callback _ (.stats (.lock _)) => some .netMtx
  | _ => none

/-- Who keeps a resource from the others. -/
def State.holds (σ : State) (t : Tid) : Resource → Prop
  | .netMtx => σ.netMtx = some t
  | .clientListMtx => σ.clientListMtx = some t
  | .thread u => u = t ∧ (σ.pc t).isFinished = false

/-- A callback's `getStatistics` in front of `net_mtx_`. -/
def Pc.asks : Pc → Bool
  | .callback _ (.stats (.lock _)) => true
  | _ => false

/-- Some `stop` is past its `srt_close`. -/
def State.stopping (σ : State) : Bool :=
  σ.netMtx.any (fun t => (σ.pc t).pastClose)

/-- A session thread is inside a callback's `getStatistics`, in front of
`net_mtx_`. -/
def State.asking (σ : State) : Bool :=
  σ.workerThread.any (fun t => (σ.pc t).asks) ||
    σ.eventThread.any (fun t => (σ.pc t).asks)

/-- The step keeps callbacks' `getStatistics` calls apart from `stop`: none is
made while a `stop` is past its `srt_close`, and none is waiting when a `stop`
gets there. -/
def KeepsApart (σ : State) (ti : Tid × Input) : Prop :=
  ¬ (ti.2.isAsk = true ∧ σ.stopping = true) ∧
    ¬ ((σ.pc ti.1).atClose = true ∧ ti.2.isError = false ∧ σ.asking = true)

instance (σ : State) (ti : Tid × Input) : Decidable (KeepsApart σ ti) :=
  inferInstanceAs (Decidable (¬ (ti.2.isAsk = true ∧ σ.stopping = true) ∧
    ¬ ((σ.pc ti.1).atClose = true ∧ ti.2.isError = false ∧ σ.asking = true)))

/-! ## No callback waits for a `stop` that waits for it -/

/-- While a `stop` is past its `srt_close`, no callback is in front of
`net_mtx_`. -/
def Apart (σ : State) : Prop :=
  ∀ u v, (σ.pc u).pastClose = true → (σ.pc v).asks = false

section

variable {cb : Callbacks} {σ σ' : State} {t : Tid} {i : Input}

/-- Past its `srt_close`, `stop` owns `net_mtx_`. -/
theorem stopping_of_pastClose (hl : Locks σ) (h : (σ.pc t).pastClose = true) :
    σ.stopping = true := by
  have howner := hl.net.eq_some (Pc.pastClose_netDepth h)
  simpa [State.stopping, howner] using h

/-- A callback in front of `net_mtx_` runs in a session thread, unless it was
invoked by `stop` itself. -/
theorem asking_or_pastClose (ht : Threads σ) (hlife : Lifecycle σ)
    (h : (σ.pc t).asks = true) : σ.asking = true ∨ (σ.pc t).pastClose = true := by
  obtain ⟨site, s, hp⟩ : ∃ site s, σ.pc t = .callback site (.stats (.lock s)) := by
    cases hp : σ.pc t with
    | callback site pc =>
        rcases pc with _ | (_ | _) <;> simp_all [Pc.asks]
    | _ => simp [hp, Pc.asks] at h
  by_cases happ : (σ.pc t).kind = .app
  · right
    rw [hp] at happ ⊢
    cases site with
    | sweep caller rest => cases caller <;> simp_all [Pc.kind, CallbackSite.kind,
        SweepCaller.kind, Pc.pastClose, CallbackSite.isStop, SweepCaller.isStop]
    | _ => simp [Pc.kind, CallbackSite.kind] at happ
  · left
    have hkind : (σ.pc t).kind ≠ .idle ∧ (σ.pc t).kind ≠ .finished := by
      rw [hp]
      cases site with
      | sweep caller rest => cases caller <;> simp [Pc.kind, CallbackSite.kind, SweepCaller.kind]
      | _ => simp [Pc.kind, CallbackSite.kind]
    rcases hlife.handle_of_running ht hkind.1 happ hkind.2 with hw | he
    · simp [State.asking, hw, h]
    · simp [State.asking, he, h]

theorem afterClose_asks (dtor : Bool) (result : Option Int) (mode : Mode) :
    (afterClose dtor result mode).asks = false := by
  cases mode <;> rfl

theorem SweepCaller.after_asks (caller : SweepCaller) : caller.after.asks = false := by
  cases caller <;> rfl

/-- A callback gets in front of `net_mtx_` only by calling `getStatistics`. -/
theorem Move.asks (hm : Move cb σ t i σ') {v : Tid} (hv : (σ'.pc v).asks = true) :
    (σ.pc v).asks = true ∨ i.isAsk = true := by
  have hgoto : ∀ {pc : Tid → Pc} {u : Tid} {p : Pc}, p.asks = false →
      (Function.update pc u p v).asks = true → (pc v).asks = true := by
    intro pc u p hp hv
    rcases of_update (P := fun p => p.asks = true) hv with ⟨-, hnew⟩ | hold
    · simp [hp] at hnew
    · exact hold
  cases hm with
  | silent hp hs => exact .inl (hgoto (by cases hs <;> rfl) hv)
  | enter c hp => exact .inl (hgoto (by cases c <;> rfl) hv)
  | askStatistics hp => exact .inr rfl
  | takeNet hp hs hfree => exact .inl (hgoto (by cases hs <;> rfl) hv)
  | dropNet hp hs => exact .inl (hgoto (by cases hs <;> rfl) hv)
  | publishServer => exact .inl (hgoto rfl (hgoto rfl hv))
  | publishClient => exact .inl (hgoto rfl (hgoto rfl hv))
  | publishFault => exact .inl hv
  | stopClose => exact .inl (hgoto (afterClose_asks _ _ _) hv)
  | stopSkipClose => exact .inl (hgoto (afterClose_asks _ _ _) hv)
  | sweepClear => exact .inl (hgoto (SweepCaller.after_asks _) hv)
  | spawnEvent => exact .inl (hgoto rfl (hgoto rfl hv))
  | spawnFault => exact .inl hv
  | readEnd => exact .inl hv
  | _ => exact .inl (hgoto rfl hv)

theorem Apart.move (h : Apart σ) (hl : Locks σ) (ht : Threads σ) (hlife : Lifecycle σ)
    (hok : KeepsApart σ (t, i)) (hm : Move cb σ t i σ') : Apart σ' := by
  intro u v hu
  by_contra hv
  rw [Bool.not_eq_false] at hv
  rcases hm.pastClose hu with hpast | ⟨hclose, herror, hnoask⟩
  · rcases hm.asks hv with hask | hask
    · simp [h u v hpast] at hask
    · exact hok.1 ⟨hask, stopping_of_pastClose hl hpast⟩
  · -- `stop` gets past its `srt_close` now, so nobody is asking
    obtain ⟨hdepth, hnotpast⟩ := Pc.atClose_netDepth hclose
    have hask := (hm.asks hv).resolve_right (by simp [hnoask])
    rcases asking_or_pastClose ht hlife hask with hasking | hpast
    · exact hok.2 ⟨hclose, herror, hasking⟩
    · obtain rfl := hl.net.unique hdepth (Pc.pastClose_netDepth hpast)
      simp [hnotpast] at hpast

theorem apart_reachable (h : (system cb).ReachableUnder KeepsApart σ) : Apart σ := by
  refine invariant_of_moves (P := Apart) ?_ ?_ h
  · intro u v hu
    simp [State.init, Pc.pastClose] at hu
  · intro σ t i σ' hreach hs hok _ hm
    exact hs.move (locks_reachable hreach) (threads_reachable hreach)
      (lifecycle_reachable hreach) hok hm

/-! ## The waiting graph -/

/-- The code inside `client_list_mtx_` waits for nothing but a callback's
`getStatistics`. -/
theorem wants_of_listDepth {r : Resource} (h : (σ.pc t).listDepth ≠ 0)
    (hw : σ.wants t = some r) : r = .netMtx ∧ (σ.pc t).asks = true := by
  unfold State.wants at hw
  split at hw <;> simp_all [Pc.listDepth, Pc.asks]

/-- The code inside `net_mtx_` waits for nothing, up to `stop` past its
`srt_close`. -/
theorem pastClose_of_wants {r : Resource} (h : (σ.pc t).netDepth ≠ 0)
    (hw : σ.wants t = some r) : (σ.pc t).pastClose = true := by
  unfold State.wants at hw
  split at hw <;>
    simp_all [Pc.netDepth, Pc.pastClose, SweepCaller.netDepth_eq, CallbackSite.netDepth_eq,
      CallbackPc.netDepth]

/-- `stop` past its `srt_close` does not wait for `net_mtx_`. -/
theorem wants_of_pastClose {r : Resource} (h : (σ.pc t).pastClose = true)
    (hask : (σ.pc t).asks = false) (hw : σ.wants t = some r) : r ≠ .netMtx := by
  unfold State.wants at hw
  split at hw <;> simp_all [Pc.pastClose, Pc.asks] <;> grind

/-- A thread somebody joins is a session thread. -/
theorem wants_thread {u : Tid} (hlife : Lifecycle σ) (hw : σ.wants t = some (.thread u)) :
    (u = .worker σ.session ∨ u = .event σ.session) ∧ (σ.pc t).pastClose = true := by
  unfold State.wants at hw
  split at hw
  all_goals try simp at hw
  · exact ⟨.inl (hlife.handle_worker u hw).1, by simp_all [Pc.pastClose]⟩
  · exact ⟨.inr (hlife.handle_event u hw).1, by simp_all [Pc.pastClose]⟩

/-- A session thread waits for `client_list_mtx_` only, apart from a callback's
`getStatistics`. -/
theorem wants_of_session {r : Resource} (ht : Threads σ) (happ : ∀ n, t ≠ .app n)
    (hask : (σ.pc t).asks = false) (hw : σ.wants t = some r) : r = .clientListMtx := by
  have hruns := ht.runs t
  unfold State.wants at hw
  split at hw <;> cases t <;> simp_all [Pc.asks, Pc.kind, Tid.runs]

/-- **Deadlock freedom.**  As long as no callback's `getStatistics` meets a
`stop` that is past its `srt_close`, no thread lies on a cycle of waiting
threads. -/
theorem no_deadlock (h : (system cb).ReachableUnder KeepsApart σ) (t : Tid) :
    ¬ Mutex.Deadlocked σ.wants σ.holds t := by
  have hl := locks_reachable h
  have ht := threads_reachable h
  have hlife := lifecycle_reachable h
  have hapart := apart_reachable h
  have hlist : ∀ {u r}, σ.holds u .clientListMtx → σ.wants u = some r →
      r = .netMtx ∧ (σ.pc u).asks = true := by
    intro u r hu hw
    refine wants_of_listDepth ?_ hw
    have hdepth : (σ.pc u).listDepth = if σ.clientListMtx = some u then 1 else 0 := hl.list u
    simp [hdepth, show σ.clientListMtx = some u from hu]
  have hnet : ∀ {u r}, σ.holds u .netMtx → σ.wants u = some r →
      (σ.pc u).pastClose = true := by
    intro u r hu hw
    refine pastClose_of_wants ?_ hw
    have hdepth : (σ.pc u).netDepth = if σ.netMtx = some u then 1 else 0 := hl.net u
    simp [hdepth, show σ.netMtx = some u from hu]
  by_cases hstop : ∃ u, (σ.pc u).pastClose = true
  · -- `stop` is joining: nobody asks, so `net_mtx_` is above the joined threads
    -- and these are above `client_list_mtx_`
    obtain ⟨s, hs⟩ := hstop
    have hnoask : ∀ v, (σ.pc v).asks = false := fun v => hapart s v hs
    refine Mutex.not_deadlocked_of_rank
      (fun | .netMtx => 2 | .thread _ => 1 | .clientListMtx => 0) ?_ t
    intro a u r r' ha hu hw
    cases r with
    | netMtx =>
        have hne := wants_of_pastClose (hnet hu hw) (hnoask u) hw
        cases r' <;> simp_all
    | clientListMtx => exact absurd (hlist hu hw).2 (by simp [hnoask u])
    | thread w =>
        obtain ⟨rfl, -⟩ := hu
        have hsession := (wants_thread hlife ha).1
        rw [wants_of_session ht (by rcases hsession with rfl | rfl <;> simp) (hnoask w) hw]
        simp
  · -- nobody joins: the owner of `net_mtx_` waits for nothing
    have hnostop := not_exists.mp hstop
    refine Mutex.not_deadlocked_of_rank
      (fun | .netMtx => 0 | .thread _ => 2 | .clientListMtx => 1) ?_ t
    intro a u r r' ha hu hw
    cases r with
    | netMtx => exact absurd (hnet hu hw) (hnostop u)
    | clientListMtx => simp [(hlist hu hw).1]
    | thread w => exact absurd (wants_thread hlife ha).2 (hnostop a)

end

/-- A `stop` waits for `client_list_mtx_` while the event thread is inside a
data callback that called `getStatistics` before the `stop`. -/
theorem no_deadlock_stop_during_data :
    ∃ σ, (system allCallbacks).ReachableUnder KeepsApart σ ∧
      σ.wants (.app 0) = some .clientListMtx ∧ σ.holds (.event 1) .clientListMtx ∧
      ¬ Mutex.Deadlocked σ.wants σ.holds (.app 0) :=
  ⟨_, StepSystem.reachableUnder_get KeepsApart
      (startServerRun (.app 0) (testServer 1) 5 ++ serverUpRun 1 3 ++
        schedule (.worker 1) [.tau, .answer 9, .candidate (some 3), .answer 0] ++
        schedule (.event 1) [.tau, .ready (some [9]), .answer 100, .answer 0] ++
        schedule (.event 1) [.askStatistics 9, .tau, .answer 0] ++
        schedule (.app 0) [.call .stop, .tau, .tau, .answer 0]) rfl,
    rfl, rfl, no_deadlock (StepSystem.reachableUnder_get _ _ rfl) _⟩

/-- The `clientDisconnected` callback of a `stop` calls `getStatistics`: the
thread waits for the mutex it holds. -/
theorem deadlock_statistics_in_callback :
    ∃ σ, (system allCallbacks).Reachable σ ∧ Mutex.Deadlocked σ.wants σ.holds (.app 0) :=
  ⟨_, StepSystem.reachable_get
      (startServerRun (.app 0) (testServer 1) 5 ++ serverUpRun 1 3 ++
        schedule (.worker 1) [.tau, .answer 9, .candidate (some 3), .answer 0] ++
        schedule (.app 0)
          [.call .stop, .tau, .tau, .answer 0, .tau, .answer 0, .askStatistics 9]) rfl,
    .single ⟨.netMtx, rfl, rfl⟩⟩

end SrtNet
