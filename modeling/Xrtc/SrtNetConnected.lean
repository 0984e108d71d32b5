import Xrtc.SrtNetClientSession
import Xrtc.SrtNetSockets

/-!
# What `getConnectedServer` says of the connection

`sendData` and `getStatistics` use `context_` while the object is in client mode
and `client_active_` is up.  `getConnectedServer` asks for the mode alone.  The
three agree as long as nobody but a `stop` takes the flag down, and the end of
`clientWorker` does: an object whose peer has gone stays in client mode, and so
does one whose `stop` could not close the socket.
-/

namespace SrtNet

/-- `SRTNet::getConnectedServer`. -/
def getConnectedServer (σ : State) : SRTSOCKET × Option Context :=
  if σ.currentMode = .client then (σ.context, σ.clientContext) else (0, none)

/-- The socket `sendData` hands to `srt_sendmsg2`, if it gets that far. -/
def sendDataSocket (σ : State) (targetSystem : SRTSOCKET) : Option SRTSOCKET :=
  if σ.currentMode = .client ∧ σ.context ≠ 0 ∧ σ.clientActive then some σ.context
  else if σ.currentMode = .server ∧ targetSystem ≠ 0 ∧ σ.serverActive then some targetSystem
  else none

/-- `clientWorker` between `srt_recvmsg2` and the end of the iteration. -/
def Pc.inIteration : Pc → Bool
  | .clientWorker .exit => true
  | .callback .clientData _ => true
  | .callback .clientReport _ => true
  | _ => false

/-- The object exists, no application thread is in a call, and `clientWorker` has
nothing to do: it is at its guard, waits in `srt_recvmsg2` or has returned. -/
structure Quiescent (σ : State) : Prop where
  running : σ.halted = none
  calls : ∀ n, σ.pc (.app n) = .idle
  worker : ∀ k, (σ.pc (.worker k)).inIteration = false

/-- `getConnectedServer` returns a server exactly while the connection is live,
which is when `sendData` and `getStatistics` use `context_`, and none after
`clientWorker` has reported its end. -/
structure ConnectionAgrees (σ : State) : Prop where
  live : getConnectedServer σ ≠ (0, none) ↔
    σ.currentMode = .client ∧ σ.clientActive = true
  send : getConnectedServer σ ≠ (0, none) ↔ sendDataSocket σ 0 = some σ.context
  statistics : getConnectedServer σ ≠ (0, none) ↔ statisticsSocket σ 0 = some σ.context
  reported : ∀ x ∈ σ.sessions.head?, x.mode = .client → x.reports ≠ [] →
    getConnectedServer σ = (0, none)

/-! ## What a worker that has returned leaves behind -/

/-- `clientWorker` has left its loop. -/
def Pc.leftLoop (p : Pc) : Prop :=
  ∀ r, p.reportsSoFar r = [r]

/-- The worker of a reported session has left its loop, and one that has
returned has cleared `client_active_`. -/
structure WorkerTrail (σ : State) : Prop where
  reported : σ.currentMode = .client → ∀ x ∈ σ.sessions.head?, x.reports ≠ [] →
    (σ.pc (.worker σ.session)).leftLoop
  returned : σ.currentMode = .client → (σ.pc (.worker σ.session)).isFinished = true →
    σ.clientActive = false

section

variable {cb : Callbacks} {σ σ' : State} {t : Tid} {i : Input}

/-- Moves that begin no session and report nothing. -/
theorem WorkerTrail.quiet (h : WorkerTrail σ) {q : Pc}
    (hpc : σ'.pc = Function.update σ.pc t q) (hmode : σ'.currentMode = σ.currentMode)
    (hsession : σ'.session = σ.session) (hsessions : σ'.sessions = σ.sessions)
    (hactive : σ'.clientActive = true → σ.clientActive = true)
    (hleft : (σ.pc t).leftLoop → q.leftLoop)
    (hreturned : q.isFinished = true → σ.currentMode = .client → t = .worker σ.session →
      σ'.clientActive = false) : WorkerTrail σ' := by
  constructor
  · intro hclient x hx hne
    rw [hmode] at hclient
    rw [hsessions] at hx
    have hold := h.reported hclient x hx hne
    rw [hpc, hsession]
    by_cases ht : .worker σ.session = t
    · rw [ht, Function.update_self]
      rw [ht] at hold
      exact hleft hold
    · rw [Function.update_of_ne ht]
      exact hold
  · intro hclient hfinished
    rw [hmode] at hclient
    rw [hpc, hsession] at hfinished
    by_cases ht : .worker σ.session = t
    · rw [ht, Function.update_self] at hfinished
      exact hreturned hfinished hclient ht.symm
    · rw [Function.update_of_ne ht] at hfinished
      have hold := h.returned hclient hfinished
      refine Bool.eq_false_iff.mpr (fun hup => ?_)
      rw [hactive hup] at hold
      cases hold

/-- Moves after which the object is not in client mode. -/
theorem WorkerTrail.of_mode_ne (hmode : σ'.currentMode ≠ .client) : WorkerTrail σ' :=
  ⟨fun h => absurd h hmode, fun h => absurd h hmode⟩

theorem leftLoop_of_eq {p q : Pc} (h : ∀ r, q.reportsSoFar r = p.reportsSoFar r)
    (hp : p.leftLoop) : q.leftLoop :=
  fun r => (h r).trans (hp r)

/-- Moves of threads other than a `clientWorker` past its loop. -/
theorem WorkerTrail.elsewhere (h : WorkerTrail σ) {p q : Pc} (hp : σ.pc t = p)
    (hloop : p.reportsSoFar (none, 0) = []) (hpc : σ'.pc = Function.update σ.pc t q)
    (hmode : σ'.currentMode = σ.currentMode) (hsession : σ'.session = σ.session)
    (hsessions : σ'.sessions = σ.sessions)
    (hactive : σ'.clientActive = true → σ.clientActive = true)
    (hq : q.isFinished = false) : WorkerTrail σ' := by
  apply h.quiet hpc hmode hsession hsessions hactive
  · intro hleft
    have hnone := hleft (none, 0)
    rw [hp, hloop] at hnone
    cases hnone
  · intro hfinished
    rw [hq] at hfinished
    cases hfinished

theorem WorkerTrail.move (h : WorkerTrail σ) (hl : Locks σ) (ht : Threads σ)
    (hlife : Lifecycle σ) (hm : Move cb σ t i σ') : WorkerTrail σ' := by
  cases hm with
  | silent hp hs =>
      exact h.quiet rfl rfl rfl rfl id (leftLoop_of_eq (fun r => hp ▸ hs.reportsSoFar r))
        (fun hq => by cases hs <;> cases hq)
  | enter c hp => exact h.elsewhere hp rfl rfl rfl rfl rfl id (by cases c <;> rfl)
  | askStatistics hp =>
      exact h.quiet rfl rfl rfl rfl id
        (leftLoop_of_eq (fun r => hp ▸ callback_reportsSoFar _ _ _ r)) (fun hq => by cases hq)
  | takeNet hp hs hfree =>
      exact h.quiet rfl rfl rfl rfl id (leftLoop_of_eq (fun r => hp ▸ hs.reportsSoFar r))
        (fun hq => by cases hs <;> cases hq)
  | dropNet hp hs =>
      exact h.quiet rfl rfl rfl rfl id (leftLoop_of_eq (fun r => hp ▸ hs.reportsSoFar r))
        (fun hq => by cases hs <;> cases hq)
  | publishServer hp hfree => exact .of_mode_ne (by simp)
  | publishClient hp hfree =>
      have hne := ht.newWorker_ne hp
      constructor
      · intro _ x hx hreports
        obtain rfl := Option.some.inj hx
        exact absurd rfl hreports
      · intro _ hfinished
        simp [Function.update_of_ne hne, Pc.isFinished] at hfinished
  | publishFault server client mode hp hjoinable =>
      exact absurd (hlife.at_publish hl hp).2 hjoinable
  | stopClient hp hmode => exact h.elsewhere hp rfl rfl rfl rfl rfl (by simp) rfl
  | stopClose hp hr =>
      rename_i mode _
      exact h.elsewhere hp rfl rfl rfl rfl rfl id (by cases mode <;> rfl)
  | stopSkipClose hp hcontext =>
      rename_i mode
      exact h.elsewhere hp rfl rfl rfl rfl rfl id (by cases mode <;> rfl)
  | joinWorkerClient hp hmode hjoin => exact .of_mode_ne (by simp)
  | joinEvent hp hjoin => exact .of_mode_ne (by simp)
  | sweepClear hp =>
      rename_i caller
      exact h.elsewhere hp rfl rfl rfl rfl rfl id (by cases caller <;> rfl)
  | spawnEvent ready hp hfree =>
      have hmode := hlife.accept_mode _ (by rw [hp]; rfl)
      exact .of_mode_ne (by simp [hmode])
  | spawnFault => exact ⟨h.reported, h.returned⟩
  | readEnd => exact ⟨h.reported, h.returned⟩
  | acceptExit hp hactive =>
      have hmode := hlife.accept_mode _ (by rw [hp]; rfl)
      exact .of_mode_ne (by simp [hmode])
  | epollRelease hp =>
      exact h.quiet rfl rfl rfl rfl id (fun hleft => absurd (hleft (none, 0)) (by simp [hp,
        Pc.reportsSoFar])) (fun _ _ hevent => by cases hevent)
  | clientLeave hp hactive =>
      exact h.quiet rfl rfl rfl rfl id (fun _ _ => rfl) (fun hq => by cases hq)
  | clientQuiet hp hcb => exact h.quiet rfl rfl rfl rfl id (fun _ _ => rfl) (fun hq => by cases hq)
  | clientReport hp hcb =>
      obtain rfl := hlife.client_session (by rw [hp]; rfl)
      constructor
      · intro _ x _ _ r
        simp [Pc.reportsSoFar]
      · intro _ hfinished
        simp [Pc.isFinished] at hfinished
  | clientDone hp => exact h.quiet rfl rfl rfl rfl (by simp) (fun _ _ => rfl) (fun _ _ _ => rfl)
  | _ => exact h.elsewhere (by assumption) rfl rfl rfl rfl rfl id rfl

theorem workerTrail_reachable {ok : State → Tid × Input → Prop}
    (h : (system cb).ReachableUnder ok σ) : WorkerTrail σ := by
  refine invariant_of_moves (P := WorkerTrail) ?_ ?_ h
  · exact .of_mode_ne (by simp [State.init])
  · intro σ t i σ' hreach hs _ _ hm
    exact hs.move (locks_reachable hreach) (threads_reachable hreach)
      (lifecycle_reachable hreach) hm

/-! ## Who takes the flag down -/

/-- A `stop` that has not come to its return yet. -/
def Pc.stopping : Pc → Bool
  | .stop _ (.ret _) => false
  | .stop _ _ => true
  | _ => false

/-- Another thread is in a `stop`. -/
def StopElsewhere (σ : State) (t : Tid) : Prop :=
  ∃ u, u ≠ t ∧ (σ.pc u).stopping = true

/-- `clientWorker` is about to clear `client_active_` and return. -/
def Pc.returning : Pc → Bool
  | .clientWorker .exit => true
  | _ => false

/-- `stop` is about to close the socket of a client. -/
def Pc.closesClient : Pc → Bool
  | .stop _ (.srtClose .client) => true
  | _ => false

/-- `clientWorker` does not end, and a `stop` does not fail to close the socket,
with no `stop` in progress that will end the session. -/
def KeepsConnection (σ : State) (ti : Tid × Input) : Prop :=
  ((σ.pc ti.1).returning = true → σ.clientActive = false ∨ StopElsewhere σ ti.1) ∧
    ((σ.pc ti.1).closesClient = true → ti.2.isError = true → StopElsewhere σ ti.1)

/-- While the object is in client mode without an active connection, a `stop` is
in progress. -/
def Attended (σ : State) : Prop :=
  σ.currentMode = .client → σ.clientActive = false → ∃ u, (σ.pc u).stopping = true

theorem StopElsewhere.update (h : StopElsewhere σ t) {q : Pc}
    (hpc : σ'.pc = Function.update σ.pc t q) : ∃ u, (σ'.pc u).stopping = true := by
  obtain ⟨u, hut, hu⟩ := h
  refine ⟨u, ?_⟩
  rw [hpc, Function.update_of_ne hut]
  exact hu

/-- Moves that do not take the flag down and end no `stop`. -/
theorem Attended.quiet (h : Attended σ) {q : Pc} (hpc : σ'.pc = Function.update σ.pc t q)
    (hmode : σ'.currentMode = σ.currentMode) (hactive : σ'.clientActive = σ.clientActive)
    (hstop : (σ.pc t).stopping = true → q.stopping = true) : Attended σ' := by
  intro hclient hdown
  rw [hmode] at hclient
  rw [hactive] at hdown
  obtain ⟨u, hu⟩ := h hclient hdown
  by_cases hut : u = t
  · subst hut
    refine ⟨u, ?_⟩
    rw [hpc, Function.update_self]
    exact hstop hu
  · exact StopElsewhere.update ⟨u, hut, hu⟩ hpc

/-- Moves of a thread that is not in a `stop`. -/
theorem Attended.other (h : Attended σ) {p q : Pc} (hp : σ.pc t = p)
    (hstop : p.stopping = false) (hpc : σ'.pc = Function.update σ.pc t q)
    (hmode : σ'.currentMode = σ.currentMode) (hactive : σ'.clientActive = σ.clientActive) :
    Attended σ' := by
  apply h.quiet hpc hmode hactive
  intro hstopping
  rw [hp, hstop] at hstopping
  cases hstopping

theorem Attended.of_mode_ne (hmode : σ'.currentMode ≠ .client) : Attended σ' :=
  fun h => absurd h hmode

/-- A `stop` that has closed the socket of a client goes on. -/
theorem Attended.closed {dtor : Bool} {result : Option Int} {mode : Mode}
    (hmode : σ.currentMode = mode) (hmode' : σ'.currentMode = σ.currentMode)
    (hpc : σ'.pc = Function.update σ.pc t (afterClose dtor result mode)) : Attended σ' := by
  intro hclient _
  have hread : mode = .client := hmode.symm.trans (hmode'.symm.trans hclient)
  refine ⟨t, ?_⟩
  rw [hpc, hread, Function.update_self]
  rfl

theorem Attended.move (h : Attended σ) (hl : Locks σ) (hlife : Lifecycle σ)
    (hok : KeepsConnection σ (t, i)) (hm : Move cb σ t i σ') : Attended σ' := by
  cases hm with
  | silent hp hs => exact h.other hp (by cases hs <;> rfl) rfl rfl rfl
  | takeNet hp hs hfree =>
      refine h.quiet rfl rfl rfl ?_
      rw [hp]
      cases hs <;> exact id
  | dropNet hp hs => exact h.other hp (by cases hs <;> rfl) rfl rfl rfl
  | publishServer hp hfree => exact .of_mode_ne (by simp)
  | publishClient hp hfree =>
      intro _ hdown
      cases hdown
  | publishFault server client mode hp hjoinable =>
      exact absurd (hlife.at_publish hl hp).2 hjoinable
  | stopUnknown hp hmode => exact .of_mode_ne (by simp [hmode])
  | stopServer hp hmode => exact .of_mode_ne (by simp [hmode])
  | stopClient hp hmode => exact fun _ _ => ⟨t, by simp [Pc.stopping]⟩
  | stopCloseFail hp hi =>
      rename_i mode
      intro hclient _
      have hmode : mode = .client := (hlife.at_close hl hp).mode_eq.symm.trans hclient
      subst hmode hi
      exact (hok.2 (by rw [hp]; rfl) rfl).update rfl
  | stopClose hp hr => exact .closed (hlife.at_close hl hp).mode_eq rfl rfl
  | stopSkipClose hp hcontext => exact .closed (hlife.at_close hl hp).mode_eq rfl rfl
  | joinWorkerServer hp hjoin => exact h.quiet rfl rfl rfl (fun _ => rfl)
  | joinWorkerClient hp hmode hjoin => exact .of_mode_ne (by simp)
  | joinEvent hp hjoin => exact .of_mode_ne (by simp)
  | spawnEvent ready hp hfree =>
      have hmode := hlife.accept_mode _ (by rw [hp]; rfl)
      exact .of_mode_ne (by simp [hmode])
  | spawnFault => exact h
  | readEnd => exact h
  | clientDone hp =>
      rename_i k
      intro hclient _
      rcases hok.1 (by rw [hp]; rfl) with hdown | hstop
      · obtain ⟨u, hu⟩ := h hclient hdown
        have hut : u ≠ .worker k := by
          rintro rfl
          simp [hp, Pc.stopping] at hu
        exact StopElsewhere.update ⟨u, hut, hu⟩ rfl
      · exact hstop.update rfl
  | _ => exact h.other (by assumption) rfl rfl rfl rfl

theorem attended_reachable (h : (system cb).ReachableUnder KeepsConnection σ) :
    Attended σ := by
  refine invariant_of_moves (P := Attended) ?_ ?_ h
  · exact .of_mode_ne (by simp [State.init])
  · intro σ t i σ' hreach hs hok _ hm
    exact hs.move (locks_reachable hreach) (lifecycle_reachable hreach) hok hm

/-! ## Agreement -/

theorem getConnectedServer_ne_iff (hs : Sockets σ) :
    getConnectedServer σ ≠ (0, none) ↔ σ.currentMode = .client := by
  unfold getConnectedServer
  split_ifs with hmode
  · have hne := hs.context_ne_zero (by simp [hmode])
    simp [hmode, hne]
  · simp [hmode]

theorem sendDataSocket_iff (hs : Sockets σ) :
    sendDataSocket σ 0 = some σ.context ↔ σ.currentMode = .client ∧ σ.clientActive = true := by
  unfold sendDataSocket
  constructor
  · intro h
    split_ifs at h with hclient hserver
    · exact ⟨hclient.1, hclient.2.2⟩
    · exact absurd rfl hserver.2.1
  · rintro ⟨hmode, hactive⟩
    have hne := hs.context_ne_zero (by simp [hmode])
    rw [if_pos ⟨hmode, hne, hactive⟩]

theorem statisticsSocket_iff (hs : Sockets σ) :
    statisticsSocket σ 0 = some σ.context ↔
      σ.currentMode = .client ∧ σ.clientActive = true := by
  unfold statisticsSocket
  constructor
  · intro h
    split_ifs at h with hclient hserver
    · exact ⟨hclient.1, hclient.2.1⟩
    · exact absurd rfl hserver.2.2
  · rintro ⟨hmode, hactive⟩
    have hne := hs.context_ne_zero (by simp [hmode])
    rw [if_pos ⟨hmode, hactive, hne⟩]

theorem Pc.leftLoop.isFinished {p : Pc} (h : p.leftLoop) (hiteration : p.inIteration = false) :
    p.isFinished = true := by
  have hleft := h (none, 0)
  unfold Pc.reportsSoFar at hleft
  split at hleft
  · cases hiteration
  · cases hiteration
  · rfl
  · cases hleft

/-- In a quiescent state the three methods agree exactly if an object in client
mode is active. -/
theorem connectionAgrees_iff {ok : State → Tid × Input → Prop}
    (h : (system cb).ReachableUnder ok σ) (hq : Quiescent σ) :
    ConnectionAgrees σ ↔ (σ.currentMode = .client → σ.clientActive = true) := by
  have hsockets := sockets_reachable h
  have hserver := getConnectedServer_ne_iff hsockets
  constructor
  · intro hagrees hmode
    exact (hagrees.live.mp (hserver.mpr hmode)).2
  · intro hlive
    have hboth : getConnectedServer σ ≠ (0, none) ↔
        σ.currentMode = .client ∧ σ.clientActive = true :=
      hserver.trans ⟨fun hmode => ⟨hmode, hlive hmode⟩, And.left⟩
    refine ⟨hboth, hboth.trans (sendDataSocket_iff hsockets).symm,
      hboth.trans (statisticsSocket_iff hsockets).symm, ?_⟩
    intro x hx _ hreports
    by_contra hne
    have hmode := hserver.mp hne
    -- the worker that reported the session has returned since
    have htrail := workerTrail_reachable h
    have hfinished := (htrail.reported hmode x hx hreports).isFinished (hq.worker _)
    have hdown := htrail.returned hmode hfinished
    rw [hlive hmode] at hdown
    cases hdown

/-- Only application threads are in a `stop`. -/
theorem Pc.stopping_kind {p : Pc} (h : p.stopping = true) : p.kind = .app := by
  unfold Pc.stopping at h
  split at h
  · cases h
  · rfl
  · cases h

/-- **The connected server.**  In every run in which `clientWorker` ends, and a
`stop` fails to close its socket, only while a `stop` is in progress, every
quiescent state has `getConnectedServer` return a server exactly while
`sendData` and `getStatistics` would use its socket, and none after
`clientWorker` has reported the disconnection. -/
theorem getConnectedServer_agrees (h : (system cb).ReachableUnder KeepsConnection σ)
    (hq : Quiescent σ) : ConnectionAgrees σ := by
  apply (connectionAgrees_iff h hq).mpr
  intro hmode
  by_contra hdown
  obtain ⟨u, hu⟩ := attended_reachable h hmode (by simpa using hdown)
  have hruns := (threads_reachable h).runs u
  rw [Pc.stopping_kind hu] at hruns
  cases u with
  | app n =>
      rw [hq.calls n] at hu
      cases hu
  | worker k => cases hruns
  | event k => cases hruns

end

/-- No worker of a client returns unless a `stop` has taken the flag down, and no
`stop` fails. -/
def Steady (σ : State) (ti : Tid × Input) : Prop :=
  ((σ.pc ti.1).returning = true → σ.clientActive = false) ∧
    ¬ ((σ.pc ti.1).closesClient = true ∧ ti.2.isError = true)

instance (σ : State) (ti : Tid × Input) : Decidable (Steady σ ti) :=
  inferInstanceAs (Decidable (((σ.pc ti.1).returning = true → σ.clientActive = false) ∧
    ¬ ((σ.pc ti.1).closesClient = true ∧ ti.2.isError = true)))

theorem Steady.keepsConnection {σ : State} {ti : Tid × Input} (h : Steady σ ti) :
    KeepsConnection σ ti :=
  ⟨fun hreturning => .inl (h.1 hreturning), fun hclose herror => absurd ⟨hclose, herror⟩ h.2⟩

/-- A client session ends with a `stop`, and the object connects again. -/
def reconnectRun : List (Tid × Input) :=
  startClientRun (.app 0) (testClient 7) 5 ++ schedule (.worker 1) [.tau, .answer 100, .done] ++
    schedule (.app 0) [.call .stop, .tau, .tau, .answer 0] ++
    schedule (.worker 1) [.tau, .tau] ++ schedule (.app 0) [.tau, .tau] ++
    startClientRun (.app 0) (testClient 8) 6 ++ schedule (.worker 2) [.tau]

/-- The second server is connected, and `sendData` would use its socket. -/
theorem getConnectedServer_reconnected :
    ∃ σ, (system allCallbacks).ReachableUnder KeepsConnection σ ∧ Quiescent σ ∧
      getConnectedServer σ = (6, some 8) ∧ sendDataSocket σ 0 = some 6 := by
  have hsteady := StepSystem.reachableUnder_get (M := system allCallbacks) Steady reconnectRun
    (by decide +kernel)
  have hreach := hsteady.mono (fun _ _ => Steady.keepsConnection)
  have hquiet : Quiescent (((system allCallbacks).runUnder Steady State.init reconnectRun).get
      (by decide +kernel)) := by
    refine ⟨rfl, ?_, ?_⟩
    · intro n
      cases n <;> rfl
    · intro k
      rcases k with _ | _ | _ | k <;> rfl
  have hagrees := getConnectedServer_agrees hreach hquiet
  exact ⟨_, hreach, hquiet, rfl, hagrees.send.mp (by decide +kernel)⟩

/-- The peer of a client goes away. -/
def disconnectRun : List (Tid × Input) :=
  startClientRun (.app 0) (testClient 7) 5 ++
    schedule (.worker 1) [.tau, .answer SRT_ERROR, .done, .tau]

/-- `clientWorker` has reported the disconnection and returned, and
`getConnectedServer` still returns the server. -/
theorem getConnectedServer_after_disconnection :
    ∃ σ, (system allCallbacks).Reachable σ ∧ Quiescent σ ∧
      σ.sessions = [⟨.client, [(some 7, 5)]⟩] ∧ getConnectedServer σ = (5, some 7) ∧
      sendDataSocket σ 0 = none ∧ statisticsSocket σ 0 = none ∧ ¬ ConnectionAgrees σ := by
  have hreach := StepSystem.reachable_get (M := system allCallbacks) disconnectRun
    (by decide +kernel)
  have hquiet : Quiescent (((system allCallbacks).run State.init disconnectRun).get
      (by decide +kernel)) := by
    refine ⟨rfl, ?_, ?_⟩
    · intro n
      cases n <;> rfl
    · intro k
      rcases k with _ | _ | k <;> rfl
  refine ⟨_, hreach, hquiet, rfl, rfl, rfl, rfl, ?_⟩
  rw [connectionAgrees_iff hreach hquiet]
  intro h
  exact absurd (h rfl) (by decide +kernel)

end SrtNet
