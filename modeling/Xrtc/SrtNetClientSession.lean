import Xrtc.SrtNetLifecycle

/-!
# The report at the end of a client session

`clientWorker` reports the end of its session in the receive-error branch, and
nowhere else; it can also leave through the `client_active_` guard of its loop.
The history is cut into sessions, and each session is charged with the
`clientDisconnected` calls of its `clientWorker`.
-/

namespace SrtNet

/-- The arguments of a `clientDisconnected` call. -/
abbrev Report := Option Context × SRTSOCKET

/-- A session in the history: its mode and what its `clientWorker` reported. -/
structure SessionLog where
  mode : Mode
  reports : List Report

/-- What a call adds to the sessions before it (newest session first). -/
def Event.record : Event → List SessionLog → List SessionLog
  | .sessionStart mode, log => ⟨mode, []⟩ :: log
  | .clientDisconnected .client c s, x :: log => { x with reports := (c, s) :: x.reports } :: log
  | _, log => log

/-- The sessions of the history, newest first. -/
def State.sessions (σ : State) : List SessionLog :=
  σ.trace.foldr Event.record []

/-- A client session was reported exactly once. -/
def SessionLog.settled (x : SessionLog) : Prop :=
  x.mode = .client → x.reports.length = 1

/-- What `clientWorker` has reported by the time it is at a program counter. -/
def Pc.reportsSoFar (r : Report) : Pc → List Report
  | .callback .clientReport _ => [r]
  | .clientWorker .exit => [r]
  | .finished => [r]
  | _ => []

/-- What the running session has reported so far. -/
def State.reportsSoFar (σ : State) : List Report :=
  match σ.currentMode with
  | .client => (σ.pc (.worker σ.session)).reportsSoFar (σ.clientContext, σ.context)
  | _ => []

/-- The part of the object the session log is compared with. -/
structure SessionView where
  currentMode : Mode
  session : Nat
  workerThread : Option Tid
  clientContext : Option Context
  context : SRTSOCKET
  sessions : List SessionLog

/-- What the session log is compared with. -/
def State.sessionView (σ : State) : SessionView where
  currentMode := σ.currentMode
  session := σ.session
  workerThread := σ.workerThread
  clientContext := σ.clientContext
  context := σ.context
  sessions := σ.sessions

/-- `stop` has ended a session and is about to return `true`. -/
def Pc.stopped : Pc → Bool
  | .stop _ (.ret (some r)) => r != SRT_ERROR
  | _ => false

/-- `clientWorker` is at the guard of its loop. -/
def Pc.guards : Pc → Bool
  | .clientWorker .head => true
  | _ => false

/-- The step is not the guard of `clientWorker` finding `client_active_` false. -/
def LeavesByError (σ : State) (ti : Tid × Input) : Prop :=
  (σ.pc ti.1).guards = true → σ.clientActive = true

instance (σ : State) (ti : Tid × Input) : Decidable (LeavesByError σ ti) :=
  inferInstanceAs (Decidable ((σ.pc ti.1).guards = true → σ.clientActive = true))

/-- The sessions of the history agree with the object. -/
structure Sessions (σ : State) : Prop where
  worker : σ.currentMode = .client → σ.workerThread = some (.worker σ.session)
  newest : σ.currentMode ≠ .unknown →
    σ.sessions.head? = some ⟨σ.currentMode, σ.reportsSoFar⟩
  past : ∀ x ∈ σ.sessions.tail, x.settled
  ended : σ.currentMode = .unknown → ∀ x ∈ σ.sessions, x.settled
  stopped : ∀ t, (σ.pc t).stopped = true → ∀ x ∈ σ.sessions.head?,
    x.mode = .client → x.reports = [(σ.clientContext, σ.context)]

theorem Pc.stopped_netDepth {p : Pc} (h : p.stopped = true) : p.netDepth ≠ 0 := by
  unfold Pc.stopped at h
  split at h
  · simp [Pc.netDepth]
  · cases h

section

variable {cb : Callbacks} {σ σ' : State} {t : Tid} {i : Input}

/-- Moves that neither begin nor end a session and report nothing. -/
theorem Sessions.quiet (h : Sessions σ) {q : Pc} (hpc : σ'.pc = Function.update σ.pc t q)
    (hview : σ'.sessionView = σ.sessionView)
    (hreports : ∀ r, σ.currentMode = .client → t = .worker σ.session →
      q.reportsSoFar r = (σ.pc t).reportsSoFar r)
    (hstopped : q.stopped = false) : Sessions σ' := by
  have hmode : σ'.currentMode = σ.currentMode := congrArg SessionView.currentMode hview
  have hsession : σ'.session = σ.session := congrArg SessionView.session hview
  have hworker : σ'.workerThread = σ.workerThread := congrArg SessionView.workerThread hview
  have hclient : σ'.clientContext = σ.clientContext := congrArg SessionView.clientContext hview
  have hcontext : σ'.context = σ.context := congrArg SessionView.context hview
  have hsessions : σ'.sessions = σ.sessions := congrArg SessionView.sessions hview
  have hsame : σ'.reportsSoFar = σ.reportsSoFar := by
    unfold State.reportsSoFar
    rw [hmode, hsession, hclient, hcontext, hpc]
    cases hclientMode : σ.currentMode with
    | client =>
        by_cases ht : t = .worker σ.session
        · subst ht
          simpa using hreports _ hclientMode rfl
        · simp [Function.update_of_ne (Ne.symm ht)]
    | _ => rfl
  refine ⟨?_, ?_, ?_, ?_, ?_⟩
  · rw [hmode, hsession, hworker]
    exact h.worker
  · rw [hmode, hsessions, hsame]
    exact h.newest
  · rw [hsessions]
    exact h.past
  · rw [hmode, hsessions]
    exact h.ended
  · intro u hu
    rw [hsessions, hclient, hcontext]
    rw [hpc] at hu
    rcases of_update (P := fun p => p.stopped = true) hu with ⟨-, hnew⟩ | hold
    · simp [hstopped] at hnew
    · exact h.stopped u hold

/-- While another call owns `net_mtx_`, no `stop` is about to return. -/
theorem not_stopped (hl : Locks σ) {p : Pc} (hp : σ.pc t = p) (hdepth : p.netDepth ≠ 0)
    (hstopped : p.stopped = false) (u : Tid) : (σ.pc u).stopped = false := by
  refine Bool.eq_false_iff.mpr fun hu => ?_
  have hut : σ.netMtx = some u := hl.net.eq_some (Pc.stopped_netDepth hu)
  have htt : σ.netMtx = some t := hl.net.eq_some (by rwa [hp])
  obtain rfl := Option.some.inj (hut.symm.trans htt)
  rw [hp, hstopped] at hu
  cases hu

/-- A start call before its session begins. -/
theorem Sessions.starting (h : Sessions σ) (hl : Locks σ) {p q : Pc} (hp : σ.pc t = p)
    (hdepth : p.netDepth ≠ 0) (hpq : p.stopped = false ∧ q.stopped = false)
    (hpc : σ'.pc = Function.update σ.pc t q) (hmode : σ.currentMode = .unknown)
    (hmode' : σ'.currentMode = σ.currentMode) (hsessions : σ'.sessions = σ.sessions) :
    Sessions σ' := by
  refine ⟨?_, ?_, ?_, ?_, ?_⟩
  · simp [hmode', hmode]
  · simp [hmode', hmode]
  · rw [hsessions]
    exact h.past
  · rw [hmode', hsessions]
    exact h.ended
  · intro u hu
    have hnone : (σ'.pc u).stopped = false := by
      rw [hpc]
      exact forall_update (P := fun p => p.stopped = false)
        (not_stopped hl hp hdepth hpq.1) hpq.2 u
    simp [hnone] at hu

/-- A session begins: all sessions before it are over. -/
theorem Sessions.publish (h : Sessions σ) (hl : Locks σ) {call : StartCall} {p q : Pc}
    (hp : σ.pc t = .start call .publish) (hmode : σ.currentMode = .unknown)
    (hpc : σ'.pc = Function.update (Function.update σ.pc (.worker (σ.session + 1)) p) t q)
    (hpq : p.stopped = false ∧ q.stopped = false)
    (hmode' : σ'.currentMode ≠ .unknown)
    (hsessions : σ'.sessions = ⟨σ'.currentMode, []⟩ :: σ.sessions)
    (hreports : σ'.reportsSoFar = [])
    (hworker : σ'.workerThread = some (.worker σ'.session)) : Sessions σ' := by
  refine ⟨fun _ => hworker, ?_, ?_, fun hunknown => absurd hunknown hmode', ?_⟩
  · rw [hsessions, hreports]
    exact fun _ => rfl
  · rw [hsessions]
    exact h.ended hmode
  · intro u hu
    have hnone : (σ'.pc u).stopped = false := by
      rw [hpc]
      refine forall_update (P := fun p => p.stopped = false) ?_ hpq.2 u
      exact forall_update (P := fun p => p.stopped = false)
        (not_stopped hl hp (by simp [Pc.netDepth]) rfl) hpq.1
    simp [hnone] at hu

/-- `stop` has joined the threads of a session. -/
theorem Sessions.finish (h : Sessions σ) (hmode : σ.currentMode ≠ .unknown)
    (hmode' : σ'.currentMode = .unknown) (hsessions : σ'.sessions = σ.sessions)
    (hclient : σ'.clientContext = σ.clientContext) (hcontext : σ'.context = σ.context)
    (hreports : σ.currentMode = .client →
      σ.reportsSoFar = [(σ.clientContext, σ.context)]) : Sessions σ' := by
  obtain ⟨rest, hlog⟩ := List.head?_eq_some_iff.mp (h.newest hmode)
  refine ⟨?_, ?_, ?_, ?_, ?_⟩
  · simp [hmode']
  · simp [hmode']
  · rw [hsessions]
    exact h.past
  · intro _ x hx
    rw [hsessions, hlog] at hx
    rcases List.mem_cons.mp hx with rfl | hx
    · intro hmodeClient
      simp [hreports hmodeClient]
    · exact h.past x (by rw [hlog]; exact hx)
  · intro u _ x hx hmodeClient
    rw [hsessions, hlog] at hx
    obtain rfl := Option.some.inj hx
    rw [hclient, hcontext]
    exact hreports hmodeClient

/-- The receive-error branch of `clientWorker` reports the session. -/
theorem Sessions.report (h : Sessions σ) (hlife : Lifecycle σ) {k : Nat}
    (hp : σ.pc (.worker k) = .clientWorker .recv) :
    Sessions ((σ.emit (.clientDisconnected .client σ.clientContext σ.context)).goto
      (.worker k) (.callback .clientReport .user)) := by
  have hmode : σ.currentMode = .client := hlife.client_mode k (by rw [hp]; rfl)
  have hk : k = σ.session := hlife.client_session (by rw [hp]; rfl)
  subst hk
  obtain ⟨rest, hlog⟩ := List.head?_eq_some_iff.mp (h.newest (by simp [hmode]))
  have hnone : σ.reportsSoFar = [] := by
    simp [State.reportsSoFar, hmode, hp, Pc.reportsSoFar]
  rw [hmode, hnone] at hlog
  have hsessions : ((σ.emit (.clientDisconnected .client σ.clientContext σ.context)).goto
      (.worker σ.session) (.callback .clientReport .user)).sessions =
        ⟨.client, [(σ.clientContext, σ.context)]⟩ :: rest := by
    simp only [State.sessions, State.goto_trace, State.emit_trace, List.foldr_cons]
    rw [← State.sessions, hlog]
    rfl
  refine ⟨h.worker, ?_, ?_, fun hunknown => ?_, ?_⟩
  · intro _
    rw [hsessions]
    simp [State.reportsSoFar, hmode, Pc.reportsSoFar]
  · rw [hsessions]
    exact fun x hx => h.past x (by rw [hlog]; exact hx)
  · have hunknown : σ.currentMode = .unknown := hunknown
    simp [hmode] at hunknown
  · intro u _ x hx _
    rw [hsessions] at hx
    obtain rfl := Option.some.inj hx
    rfl

theorem callback_reportsSoFar (site : CallbackSite) (pc pc' : CallbackPc) (r : Report) :
    (Pc.callback site pc').reportsSoFar r = (Pc.callback site pc).reportsSoFar r := by
  cases site <;> rfl

theorem Silent.reportsSoFar {p p' : Pc} (hs : Silent p p') (r : Report) :
    p'.reportsSoFar r = p.reportsSoFar r := by
  cases hs with
  | lockFree site => rfl
  | _ => rfl

theorem TakesNet.reportsSoFar {p p' : Pc} (hs : TakesNet p p') (r : Report) :
    p'.reportsSoFar r = p.reportsSoFar r := by
  cases hs with
  | callback site => exact callback_reportsSoFar site _ _ r
  | _ => rfl

theorem DropsNet.reportsSoFar {p p' : Pc} (hs : DropsNet p p') (r : Report) :
    p'.reportsSoFar r = p.reportsSoFar r := by
  cases hs with
  | callback site => exact callback_reportsSoFar site _ _ r
  | _ => rfl

/-- A finished `clientWorker` has reported its session. -/
theorem Sessions.reported_of_joined (h : Sessions σ) (hmode : σ.currentMode = .client)
    (hjoin : σ.joined σ.workerThread) :
    σ.reportsSoFar = [(σ.clientContext, σ.context)] := by
  have hfinished := hjoin (.worker σ.session) (h.worker hmode)
  have hpc : σ.pc (.worker σ.session) = .finished := by
    revert hfinished
    cases σ.pc (.worker σ.session) <;> simp [Pc.isFinished]
  simp [State.reportsSoFar, hmode, hpc, Pc.reportsSoFar]

theorem Sessions.move (h : Sessions σ) (hcb : cb.clientDisconnected = true) (hl : Locks σ)
    (ht : Threads σ) (hlife : Lifecycle σ) (hok : LeavesByError σ (t, i))
    (hm : Move cb σ t i σ') : Sessions σ' := by
  have hunknown : ∀ {call pc}, σ.pc t = .start call pc → pc = .create ∨ pc.working →
      σ.currentMode = .unknown := by
    intro call pc hp hpc
    have hdepth : (Pc.start call pc).netDepth ≠ 0 := by
      rcases hpc with rfl | hpc
      · simp [Pc.netDepth]
      · cases pc <;> simp_all [Pc.netDepth, StartPc.working]
    exact (hlife.phase_of_depth hl hp hdepth).2 hpc
  cases hm with
  | silent hp hs =>
      exact h.quiet rfl rfl (fun r _ _ => hp ▸ hs.reportsSoFar r) (by cases hs <;> rfl)
  | enter c hp => exact h.quiet rfl rfl (by simp) (by cases c <;> rfl)
  | askStatistics hp =>
      exact h.quiet rfl rfl (fun r _ _ => hp ▸ callback_reportsSoFar _ _ _ r) rfl
  | takeNet hp hs hfree =>
      exact h.quiet rfl rfl (fun r _ _ => hp ▸ hs.reportsSoFar r) (by cases hs <;> rfl)
  | dropNet hp hs =>
      exact h.quiet rfl rfl (fun r _ _ => hp ▸ hs.reportsSoFar r) (by cases hs <;> rfl)
  | startCheck connection client hp hmode =>
      exact h.starting hl hp (by simp [Pc.netDepth]) ⟨rfl, rfl⟩ rfl hmode rfl rfl
  | createFail hp =>
      have hmode := hunknown hp (.inl rfl)
      exact h.starting hl hp (by simp [Pc.netDepth]) ⟨rfl, rfl⟩ rfl hmode rfl rfl
  | create hp hpc hs =>
      have hmode := hunknown hp (.inl rfl)
      exact h.starting hl hp (by simp [Pc.netDepth]) ⟨rfl, rfl⟩ rfl hmode rfl rfl
  | publishServer hp hfree =>
      have hmode := hunknown hp (.inr rfl)
      exact h.publish hl hp hmode rfl ⟨rfl, rfl⟩ (by simp) rfl rfl rfl
  | publishClient hp hfree =>
      have hmode := hunknown hp (.inr rfl)
      have hne := ht.newWorker_ne hp
      refine h.publish hl hp hmode rfl ⟨rfl, rfl⟩ (by simp) rfl ?_ rfl
      simp [State.reportsSoFar, Function.update_of_ne hne, Pc.reportsSoFar]
  | publishFault server client mode hp hjoinable =>
      exact absurd (hlife.at_publish hl hp).2 hjoinable
  | stopClose hp hr =>
      rename_i mode r
      exact h.quiet rfl rfl (fun r _ _ => by rw [hp]; cases mode <;> rfl)
        (by cases mode <;> rfl)
  | stopSkipClose hp hcontext =>
      rename_i mode
      exact h.quiet rfl rfl (fun r _ _ => by rw [hp]; cases mode <;> rfl)
        (by cases mode <;> rfl)
  | joinWorkerServer hp hjoin =>
      obtain ⟨-, hphase, -⟩ := hlife.phase_of_depth hl hp (by simp [Pc.netDepth])
      have hmode : σ.currentMode = .server := hphase.mode_eq
      -- the handle matters for client sessions only
      have hmid : Sessions { σ with workerThread := none } :=
        ⟨by simp [hmode], h.newest, h.past, h.ended, h.stopped⟩
      exact hmid.quiet rfl rfl (fun r _ _ => by simp [hp, Pc.reportsSoFar]) rfl
  | joinWorkerClient hp hmode hjoin =>
      obtain ⟨-, hphase, -⟩ := hlife.phase_of_depth hl hp (by simp [Pc.netDepth])
      exact h.finish (hphase.mode_eq.trans_ne hphase.mode_ne) rfl rfl rfl rfl
        (fun hclient => h.reported_of_joined hclient hjoin)
  | joinEvent hp hjoin =>
      obtain ⟨-, hphase, -⟩ := hlife.phase_of_depth hl hp (by simp [Pc.netDepth])
      have hmode : σ.currentMode = .server := hphase.mode_eq
      exact h.finish (by simp [hmode]) rfl rfl rfl rfl (by simp [hmode])
  | sweepClear hp =>
      rename_i caller
      exact h.quiet rfl rfl (fun r _ _ => by rw [hp]; cases caller <;> rfl)
        (by cases caller <;> rfl)
  | spawnEvent ready hp hfree =>
      rename_i k
      have hmid : Sessions (σ.goto (.event k) (.serverEventHandler (.head ready))) :=
        h.quiet rfl rfl (by simp) rfl
      exact hmid.quiet rfl rfl (fun r _ _ => by simp [hp, Pc.reportsSoFar]) rfl
  | spawnFault hp hjoinable => exact ⟨h.worker, h.newest, h.past, h.ended, h.stopped⟩
  | acceptExit hp hactive =>
      have hmode := hlife.accept_mode _ (by rw [hp]; rfl)
      exact h.quiet rfl rfl (by simp [hmode]) rfl
  | uwait fds hp => exact h.quiet rfl rfl (by simp) rfl
  | epollRelease hp => exact h.quiet rfl rfl (by simp) rfl
  | readEnd hp => exact ⟨h.worker, h.newest, h.past, h.ended, h.stopped⟩
  | clientLeave hp hactive =>
      have hflag := hok (by rw [hp]; rfl)
      simp [hactive] at hflag
  | clientReport hp hcb => exact h.report hlife hp
  | clientQuiet hp hcb' => simp [hcb] at hcb'
  | _ => exact h.quiet rfl rfl (fun r => by simp only [*]; exact fun _ _ => rfl) rfl

theorem sessions_reachable (hcb : cb.clientDisconnected = true)
    (h : (system cb).ReachableUnder LeavesByError σ) : Sessions σ := by
  refine invariant_of_moves (P := Sessions) ?_ ?_ h
  · exact ⟨fun hm => (nomatch hm), fun hm => absurd rfl hm, fun _ hx => (nomatch hx),
      fun _ _ hx => (nomatch hx), fun _ hs => (nomatch hs)⟩
  · intro σ t i σ' hreach hs hok _ hm
    exact hs.move hcb (locks_reachable hreach) (threads_reachable hreach)
      (lifecycle_reachable hreach) hok hm

/-- **The end of a client session.**  If `clientWorker` never leaves through
the guard of its loop, then a `stop` that ends a client session and returns
`true` finds `clientDisconnected(client_context_, context_)` called exactly
once in that session, and exactly one such call in every client session
before. -/
theorem client_reported_once (hcb : cb.clientDisconnected = true)
    (h : (system cb).ReachableUnder LeavesByError σ) {dtor : Bool} {r : Int}
    (hp : σ.pc t = .stop dtor (.ret (some r))) (hr : r ≠ SRT_ERROR)
    {reports : List Report} {rest : List SessionLog}
    (hlog : σ.sessions = ⟨.client, reports⟩ :: rest) :
    reports = [(σ.clientContext, σ.context)] ∧
      ∀ x ∈ rest, x.mode = .client → x.reports.length = 1 := by
  have hsessions := sessions_reachable hcb h
  constructor
  · refine hsessions.stopped t ?_ ⟨.client, reports⟩ (by rw [hlog]; rfl) rfl
    rw [hp]
    simpa [Pc.stopped] using hr
  · exact fun x hx => hsessions.past x (by rw [hlog]; exact hx)

end

/-- The peer goes away in a first session, `stop` interrupts `srt_recvmsg2` in a
second one. -/
theorem client_reported_once_twice :
    ∃ σ, (system allCallbacks).ReachableUnder LeavesByError σ ∧
      σ.pc (.app 0) = .stop false (.ret (some 0)) ∧
      ∃ reports rest, σ.sessions = ⟨.client, reports⟩ :: rest ∧ rest.length = 1 ∧
        reports = [(some 8, 6)] ∧ ∀ x ∈ rest, x.mode = .client → x.reports.length = 1 := by
  have hreach := StepSystem.reachableUnder_get (M := system allCallbacks) LeavesByError
    (startClientRun (.app 0) (testClient 7) 5 ++
      schedule (.worker 1) [.tau, .answer SRT_ERROR, .done, .tau] ++
      schedule (.app 0) [.call .stop, .tau, .tau, .answer 0, .tau, .tau] ++
      startClientRun (.app 0) (testClient 8) 6 ++ schedule (.worker 2) [.tau] ++
      schedule (.app 0) [.call .stop, .tau, .tau, .answer 0] ++
      schedule (.worker 2) [.answer SRT_ERROR, .done, .tau] ++ schedule (.app 0) [.tau]) rfl
  have honce := client_reported_once (t := .app 0) (r := 0) rfl hreach rfl (by decide) rfl
  exact ⟨_, hreach, rfl, _, _, rfl, rfl, honce⟩

/-- `stop` clears the flag while the worker is inside a data callback: the
worker leaves through the guard and reports nothing. -/
theorem client_unreported :
    ∃ σ, (system allCallbacks).Reachable σ ∧
      σ.pc (.app 0) = .stop false (.ret (some 0)) ∧ σ.sessions = [⟨.client, []⟩] :=
  ⟨_, StepSystem.reachable_get
      (startClientRun (.app 0) (testClient 7) 5 ++ schedule (.worker 1) [.tau, .answer 100] ++
        schedule (.app 0) [.call .stop, .tau, .tau, .answer 0] ++
        schedule (.worker 1) [.done, .tau, .tau] ++ schedule (.app 0) [.tau]) rfl,
    rfl, rfl⟩

end SrtNet
