import Xrtc.SrtNetStep

/-!
# What one step can do

`Move` lists the transitions of the step function, once and for all: every
invariant of the development is proved by a case analysis on it, never by
unfolding `step`.  Transitions that only advance a program counter, and whose
origin and destination are indistinguishable to the invariants, are collected
in `Silent`.
-/

namespace SrtNet

/-- A start call between `srt_create_socket` and its end: `context_` is a
socket this call obtained. -/
def StartPc.working : StartPc → Bool
  | .pton | .setFlags _ | .bind | .listen | .getaddrinfo | .connect _ _
  | .closeAndFail _ | .publish => true
  | _ => false

/-- The answers on which a start call leaves without closing its socket: a
failing `srt_setsockflag` and a failing `getaddrinfo`. -/
def StartPc.leaks : StartPc → Input → Bool
  | .setFlags (_ :: _), .answer r => r == SRT_ERROR
  | .getaddrinfo, .addresses r _ => r != 0
  | _, _ => false

/-- Transitions of the program counter alone. -/
inductive Silent : Pc → Pc → Prop
  | startResolve (call call' : StartCall) :
      Silent (.start call .resolve) (.start call' .lock)
  | startWork (call : StartCall) {pc pc' : StartPc}
      (h : pc.working) (h' : pc'.working) :
      Silent (.start call pc) (.start call pc')
  | epollSet : Silent (.waitForSRTClient .epollSet) (.waitForSRTClient .spawn)
  | acceptTry : Silent (.waitForSRTClient .head) (.waitForSRTClient .accept)
  | acceptMiss : Silent (.waitForSRTClient .accept) (.waitForSRTClient .head)
  | eventTry (ready : List SRTSOCKET) :
      Silent (.serverEventHandler (.head ready)) (.serverEventHandler (.uwait ready))
  | clientTry : Silent (.clientWorker .head) (.clientWorker .recv)
  | clientMiss : Silent (.clientWorker .recv) (.clientWorker .head)
  | clientDataDone : Silent (.callback .clientData .user) (.clientWorker .head)
  | clientReportDone : Silent (.callback .clientReport .user) (.clientWorker .exit)
  | sweepResume (caller : SweepCaller) (rest : List (SRTSOCKET × Context)) :
      Silent (.callback (.sweep caller rest) .user)
        (.closeAllClientSockets caller (.next rest))
  | lockFree (site : CallbackSite) :
      Silent (.callback site .user) (.callback site .user)

/-- Program counters at which `net_mtx_` is taken, and where they lead. -/
inductive TakesNet : Pc → Pc → Prop
  | start (call : StartCall) : TakesNet (.start call .lock) (.start call .check)
  | stop (dtor : Bool) : TakesNet (.stop dtor .lock) (.stop dtor .readMode)
  | getStatistics (s : SRTSOCKET) :
      TakesNet (.getStatistics (.lock s)) (.getStatistics (.body s))
  | callback (site : CallbackSite) (s : SRTSOCKET) :
      TakesNet (.callback site (.stats (.lock s))) (.callback site (.stats (.body s)))

/-- Program counters at which `net_mtx_` is given back, and where they lead. -/
inductive DropsNet : Pc → Pc → Prop
  | start (call : StartCall) (exit : StartExit) (obtained : Option SRTSOCKET) :
      DropsNet (.start call (.ret exit obtained)) .idle
  | stop (result : Option Int) : DropsNet (.stop false (.ret result)) .idle
  | getStatistics (s : SRTSOCKET) : DropsNet (.getStatistics (.body s)) .idle
  | callback (site : CallbackSite) (s : SRTSOCKET) :
      DropsNet (.callback site (.stats (.body s))) (.callback site .user)

/-- The transitions of thread `t` on input `i`. -/
inductive Move (cb : Callbacks) (σ : State) : Tid → Input → State → Prop
  | silent {t : Tid} {i : Input} {p p' : Pc} (hp : σ.pc t = p) (h : Silent p p') :
      Move cb σ t i (σ.goto t p')
  | enter {n : Nat} (c : Call) (hp : σ.pc (.app n) = .idle) :
      Move cb σ (.app n) (.call c) (σ.goto (.app n) c.enter)
  | askStatistics {t : Tid} {site : CallbackSite} {s : SRTSOCKET}
      (hp : σ.pc t = .callback site .user) :
      Move cb σ t (.askStatistics s) (σ.goto t (.callback site (.stats (.lock s))))
  | takeNet {t : Tid} {i : Input} {p p' : Pc} (hp : σ.pc t = p)
      (h : TakesNet p p') (hfree : σ.netMtx = none) :
      Move cb σ t i ({ σ with netMtx := some t }.goto t p')
  | dropNet {t : Tid} {i : Input} {p p' : Pc} (hp : σ.pc t = p)
      (h : DropsNet p p') :
      Move cb σ t i ({ σ with netMtx := none }.goto t p')
  | takeView {t : Tid} {i : Input} (hp : σ.pc t = .getActiveClients .lock)
      (hfree : σ.clientListMtx = none) :
      Move cb σ t i ({ σ with clientListMtx := some t }.goto t (.getActiveClients .body))
  | dropView {t : Tid} {i : Input} (hp : σ.pc t = .getActiveClients .body) :
      Move cb σ t i ({ σ with clientListMtx := none }.goto t .idle)
  -- the start calls
  | startRefuse {t : Tid} {i : Input} {call : StartCall} {exit : StartExit}
      (hp : σ.pc t = .start call .check) (hexit : exit.value = false) :
      Move cb σ t i (σ.goto t (.start call (.ret exit none)))
  | startCheck {t : Tid} {i : Input} {call : StartCall}
      (connection client : Option Context)
      (hp : σ.pc t = .start call .check) (hmode : σ.currentMode = .unknown) :
      Move cb σ t i ({ σ with
        connectionContext := connection, clientContext := client }.goto t
          (.start call .create))
  | createFail {t : Tid} {i : Input} {call : StartCall}
      (hp : σ.pc t = .start call .create) :
      Move cb σ t i ({ σ with context := SRT_ERROR }.goto t
        (.start call (.ret .createFailed none)))
  | create {t : Tid} {i : Input} {call : StartCall} {pc : StartPc} {s : SRTSOCKET}
      (hp : σ.pc t = .start call .create) (hpc : pc.working) (hs : σ.fresh s) :
      Move cb σ t i (({ σ with context := s }.emit (.srtCreateSocket s)).goto t
        (.start call pc))
  | startLeak {t : Tid} {i : Input} {call : StartCall} {pc : StartPc} {exit : StartExit}
      (hp : σ.pc t = .start call pc) (hpc : pc.working) (hleak : pc.leaks i)
      (hexit : exit.value = false) :
      Move cb σ t i (σ.goto t (.start call (.ret exit (some σ.context))))
  | startClose {t : Tid} {i : Input} {call : StartCall} {exit : StartExit} (r : Int)
      (hp : σ.pc t = .start call (.closeAndFail exit)) :
      Move cb σ t i ((σ.srtClose σ.context r).goto t
        (.start call (.ret exit (some σ.context))))
  | publishServer {t : Tid} {i : Input} {call : StartCall}
      (hp : σ.pc t = .start call .publish) (hfree : σ.workerThread = none) :
      Move cb σ t i (({ σ with
        serverActive := true
        currentMode := .server
        workerThread := some (.worker (σ.session + 1))
        session := σ.session + 1
        trace := .sessionStart .server :: σ.trace }.goto (.worker (σ.session + 1))
          (.waitForSRTClient .epollCreate)).goto t
            (.start call (.ret .started (some σ.context))))
  | publishClient {t : Tid} {i : Input} {call : StartCall}
      (hp : σ.pc t = .start call .publish) (hfree : σ.workerThread = none) :
      Move cb σ t i (({ σ with
        currentMode := .client
        clientActive := true
        workerThread := some (.worker (σ.session + 1))
        session := σ.session + 1
        trace := .sessionStart .client :: σ.trace }.goto (.worker (σ.session + 1))
          (.clientWorker .head)).goto t
            (.start call (.ret .started (some σ.context))))
  | publishFault {t : Tid} {i : Input} {call : StartCall} (server client : Bool)
      (mode : Mode) (hp : σ.pc t = .start call .publish)
      (hjoinable : σ.workerThread ≠ none) :
      Move cb σ t i { σ with
        serverActive := server
        clientActive := client
        currentMode := mode
        halted := some .assignedJoinable }
  -- `stop`
  | stopUnknown {t : Tid} {i : Input} {dtor : Bool}
      (hp : σ.pc t = .stop dtor .readMode) (hmode : σ.currentMode = .unknown) :
      Move cb σ t i (σ.goto t (.stop dtor (.ret none)))
  | stopServer {t : Tid} {i : Input} {dtor : Bool}
      (hp : σ.pc t = .stop dtor .readMode) (hmode : σ.currentMode = .server) :
      Move cb σ t i ({ σ with serverActive := false }.goto t
        (.stop dtor (.srtClose .server)))
  | stopClient {t : Tid} {i : Input} {dtor : Bool}
      (hp : σ.pc t = .stop dtor .readMode) (hmode : σ.currentMode = .client) :
      Move cb σ t i ({ σ with clientActive := false }.goto t
        (.stop dtor (.srtClose .client)))
  | stopCloseFail {t : Tid} {i : Input} {dtor : Bool} {mode : Mode}
      (hp : σ.pc t = .stop dtor (.srtClose mode)) (hi : i = .answer SRT_ERROR) :
      Move cb σ t i ((σ.srtClose σ.context SRT_ERROR).goto t
        (.stop dtor (.ret (some SRT_ERROR))))
  | stopClose {t : Tid} {dtor : Bool} {mode : Mode} {r : Int}
      (hp : σ.pc t = .stop dtor (.srtClose mode)) (hr : r ≠ SRT_ERROR) :
      Move cb σ t (.answer r) ((σ.srtClose σ.context r).goto t (afterClose dtor (some r) mode))
  | stopSkipClose {t : Tid} {dtor : Bool} {mode : Mode}
      (hp : σ.pc t = .stop dtor (.srtClose mode)) (hcontext : σ.context = 0) :
      Move cb σ t .tau (σ.goto t (afterClose dtor none mode))
  | joinWorkerServer {t : Tid} {i : Input} {dtor : Bool} {result : Option Int}
      (hp : σ.pc t = .stop dtor (.joinWorker .server result))
      (hjoin : σ.joined σ.workerThread) :
      Move cb σ t i ({ σ with workerThread := none }.goto t
        (.stop dtor (.joinEvent result)))
  | joinWorkerClient {t : Tid} {i : Input} {dtor : Bool} {mode : Mode}
      {result : Option Int} (hp : σ.pc t = .stop dtor (.joinWorker mode result))
      (hmode : mode ≠ .server) (hjoin : σ.joined σ.workerThread) :
      Move cb σ t i ({ σ with workerThread := none, currentMode := .unknown }.goto t
        (.stop dtor (.ret result)))
  | joinEvent {t : Tid} {i : Input} {dtor : Bool} {result : Option Int}
      (hp : σ.pc t = .stop dtor (.joinEvent result))
      (hjoin : σ.joined σ.eventThread) :
      Move cb σ t i ({ σ with eventThread := none, currentMode := .unknown }.goto t
        (.stop dtor (.ret result)))
  | destroy {t : Tid} {i : Input} {result : Option Int}
      (hp : σ.pc t = .stop true (.ret result)) :
      Move cb σ t i (destroyMembers (unlockNet σ t .idle))
  -- `closeAllClientSockets`
  | sweepLock {t : Tid} {i : Input} {caller : SweepCaller}
      (hp : σ.pc t = .closeAllClientSockets caller .lock)
      (hfree : σ.clientListMtx = none) :
      Move cb σ t i ({ σ with clientListMtx := some t }.goto t
        (.closeAllClientSockets caller (.next σ.clientList.toList)))
  | sweepReport {t : Tid} {i : Input} {caller : SweepCaller} {s : SRTSOCKET}
      {c : Context} {rest : List (SRTSOCKET × Context)} (r : Int)
      (hp : σ.pc t = .closeAllClientSockets caller (.next ((s, c) :: rest)))
      (hcb : cb.clientDisconnected = true) :
      Move cb σ t i (((σ.srtClose s r).emit (.clientDisconnected .server (some c) s)).goto t
        (.callback (.sweep caller rest) .user))
  | sweepQuiet {t : Tid} {i : Input} {caller : SweepCaller} {s : SRTSOCKET}
      {c : Context} {rest : List (SRTSOCKET × Context)} (r : Int)
      (hp : σ.pc t = .closeAllClientSockets caller (.next ((s, c) :: rest)))
      (hcb : cb.clientDisconnected = false) :
      Move cb σ t i ((σ.srtClose s r).goto t (.closeAllClientSockets caller (.next rest)))
  | sweepClear {t : Tid} {i : Input} {caller : SweepCaller}
      (hp : σ.pc t = .closeAllClientSockets caller (.next [])) :
      Move cb σ t i ({ σ with clientList := ∅, clientListMtx := none }.goto t
        caller.after)
  -- `waitForSRTClient`
  | epollCreate {k : Nat} {i : Input} (eid : Int)
      (hp : σ.pc (.worker k) = .waitForSRTClient .epollCreate) :
      Move cb σ (.worker k) i ({ σ with
        pollId := eid
        epolls := if eid = SRT_ERROR then σ.epolls else eid :: σ.epolls }.goto
          (.worker k) (.waitForSRTClient .epollSet))
  | spawnEvent {k : Nat} {i : Input} (ready : List SRTSOCKET)
      (hp : σ.pc (.worker k) = .waitForSRTClient .spawn) (hfree : σ.eventThread = none) :
      Move cb σ (.worker k) i (({ σ with eventThread := some (.event k) }.goto (.event k)
        (.serverEventHandler (.head ready))).goto (.worker k)
          (.closeAllClientSockets .waitForSRTClient .lock))
  | spawnFault {k : Nat} {i : Input}
      (hp : σ.pc (.worker k) = .waitForSRTClient .spawn)
      (hjoinable : σ.eventThread ≠ none) :
      Move cb σ (.worker k) i { σ with halted := some .assignedJoinable }
  | acceptExit {k : Nat} {i : Input}
      (hp : σ.pc (.worker k) = .waitForSRTClient .head)
      (hactive : σ.serverActive = false) :
      Move cb σ (.worker k) i (σ.goto (.worker k) .finished)
  | accept {k : Nat} {i : Input} {s : SRTSOCKET}
      (hp : σ.pc (.worker k) = .waitForSRTClient .accept) (hs : σ.fresh s) :
      Move cb σ (.worker k) i ((σ.emit (.srtAccept s)).goto (.worker k)
        (.callback (.clientConnected s) .user))
  | connect {t : Tid} {s : SRTSOCKET} {c : Context}
      (hp : σ.pc t = .callback (.clientConnected s) .user) :
      Move cb σ t (.candidate (some c)) ((σ.emit (.clientConnected s (some c))).goto t
        (.waitForSRTClient (.insert s c)))
  | reject {t : Tid} {s : SRTSOCKET}
      (hp : σ.pc t = .callback (.clientConnected s) .user) :
      Move cb σ t (.candidate none) ((σ.emit (.clientConnected s none)).goto t
        (.waitForSRTClient (.refuse s)))
  | insert {k : Nat} {s : SRTSOCKET} {c : Context} (r : Int)
      (hp : σ.pc (.worker k) = .waitForSRTClient (.insert s c))
      (hfree : σ.clientListMtx = none) :
      Move cb σ (.worker k) (.answer r) ({ σ with
        clientList := σ.clientList.insert s c
        subs := if r = SRT_ERROR then σ.subs else (σ.pollId, s) :: σ.subs }.goto
          (.worker k) (.waitForSRTClient .head))
  | refuse {k : Nat} {i : Input} {s : SRTSOCKET}
      (hp : σ.pc (.worker k) = .waitForSRTClient (.refuse s)) :
      Move cb σ (.worker k) i ((σ.emit (.close s)).goto (.worker k)
        (.waitForSRTClient .head))
  -- `serverEventHandler`
  | eventLeave {k : Nat} {i : Input} {ready : List SRTSOCKET}
      (hp : σ.pc (.event k) = .serverEventHandler (.head ready))
      (hactive : σ.serverActive = false) :
      Move cb σ (.event k) i (σ.goto (.event k) (.serverEventHandler .release))
  | uwait {k : Nat} {ready : List SRTSOCKET} (fds : Option (List SRTSOCKET))
      (hp : σ.pc (.event k) = .serverEventHandler (.uwait ready)) :
      Move cb σ (.event k) (.ready fds)
        (σ.goto (.event k) (.serverEventHandler (afterUwait fds ready)))
  | recv {k : Nat} {b : Batch} (result : Int)
      (hp : σ.pc (.event k) = .serverEventHandler (.recv b)) :
      Move cb σ (.event k) (.answer result)
        (σ.goto (.event k) (.serverEventHandler (.handle b result)))
  | handleSkip {k : Nat} {i : Input} {b : Batch} {result : Int}
      (hp : σ.pc (.event k) = .serverEventHandler (.handle b result)) :
      Move cb σ (.event k) i (σ.goto (.event k) (.serverEventHandler b.next))
  | evict {k : Nat} {i : Input} {b : Batch} {result : Int} {c : Context} (r : Int)
      (hp : σ.pc (.event k) = .serverEventHandler (.handle b result))
      (hfree : σ.clientListMtx = none)
      (hfind : σ.clientList[b.thisSocket]? = some c)
      (hcb : cb.clientDisconnected = true) :
      Move cb σ (.event k) i ({ ({ σ with
        clientList := σ.clientList.erase b.thisSocket
        subs := σ.subs.filter (fun sub => sub ≠ (σ.pollId, b.thisSocket)) }.srtClose
          b.thisSocket r).emit (.clientDisconnected .server (some c) b.thisSocket) with
        clientListMtx := some (.event k) }.goto (.event k) (.callback (.event b) .user))
  | evictQuiet {k : Nat} {i : Input} {b : Batch} {result : Int} {c : Context} (r : Int)
      (hp : σ.pc (.event k) = .serverEventHandler (.handle b result))
      (hfree : σ.clientListMtx = none)
      (hfind : σ.clientList[b.thisSocket]? = some c)
      (hcb : cb.clientDisconnected = false) :
      Move cb σ (.event k) i (({ σ with
        clientList := σ.clientList.erase b.thisSocket
        subs := σ.subs.filter (fun sub => sub ≠ (σ.pollId, b.thisSocket)) }.srtClose
          b.thisSocket r).goto (.event k) (.serverEventHandler b.next))
  | deliver {k : Nat} {i : Input} {b : Batch} {result : Int} {c : Context}
      (hp : σ.pc (.event k) = .serverEventHandler (.handle b result))
      (hfree : σ.clientListMtx = none)
      (hfind : σ.clientList[b.thisSocket]? = some c) :
      Move cb σ (.event k) i ({ σ.emit (.received .server (some c) b.thisSocket) with
        clientListMtx := some (.event k) }.goto (.event k) (.callback (.event b) .user))
  | readEnd {k : Nat} {i : Input} {b : Batch} {result : Int}
      (hp : σ.pc (.event k) = .serverEventHandler (.handle b result))
      (hfree : σ.clientListMtx = none) (hresult : 0 < result)
      (hfind : σ.clientList[b.thisSocket]? = none) :
      Move cb σ (.event k) i { σ with halted := some .endIteratorRead }
  | eventDone {t : Tid} {i : Input} {b : Batch}
      (hp : σ.pc t = .callback (.event b) .user) :
      Move cb σ t i ({ σ with clientListMtx := none }.goto t
        (.serverEventHandler b.next))
  | epollRelease {k : Nat} {i : Input}
      (hp : σ.pc (.event k) = .serverEventHandler .release) :
      Move cb σ (.event k) i ({ σ with
        epolls := σ.epolls.erase σ.pollId
        subs := σ.subs.filter (fun sub => sub.1 ≠ σ.pollId) }.goto (.event k) .finished)
  -- `clientWorker`
  | clientLeave {k : Nat} {i : Input} (hp : σ.pc (.worker k) = .clientWorker .head)
      (hactive : σ.clientActive = false) :
      Move cb σ (.worker k) i (σ.goto (.worker k) (.clientWorker .exit))
  | clientReport {k : Nat} {i : Input} (hp : σ.pc (.worker k) = .clientWorker .recv)
      (hcb : cb.clientDisconnected = true) :
      Move cb σ (.worker k) i
        ((σ.emit (.clientDisconnected .client σ.clientContext σ.context)).goto (.worker k)
          (.callback .clientReport .user))
  | clientQuiet {k : Nat} {i : Input} (hp : σ.pc (.worker k) = .clientWorker .recv)
      (hcb : cb.clientDisconnected = false) :
      Move cb σ (.worker k) i (σ.goto (.worker k) (.clientWorker .exit))
  | clientData {k : Nat} {i : Input} (hp : σ.pc (.worker k) = .clientWorker .recv) :
      Move cb σ (.worker k) i
        ((σ.emit (.received .client σ.clientContext σ.context)).goto (.worker k)
          (.callback .clientData .user))
  | clientDone {k : Nat} {i : Input} (hp : σ.pc (.worker k) = .clientWorker .exit) :
      Move cb σ (.worker k) i
        ({ σ with clientActive := false }.goto (.worker k) .finished)

/-! ## Every step is a move -/

section Inversion

variable {cb : Callbacks} {σ σ' : State} {t : Tid} {i : Input}

theorem lockNet_move {p p' : Pc} (hp : σ.pc t = p) (hpc : TakesNet p p')
    (h : lockNet σ t p' = some σ') : Move cb σ t i σ' := by
  unfold lockNet at h
  split at h
  · next hfree =>
      obtain rfl := Option.some.inj h
      exact .takeNet hp hpc hfree
  · cases h

theorem createSocket_move {call : StartCall} {pc : StartPc} {s : Int}
    (hp : σ.pc t = .start call .create) (hpc : pc.working)
    (h : createSocket σ t call pc s = some σ') : Move cb σ t i σ' := by
  unfold createSocket at h
  split at h
  · next hs =>
      obtain rfl := Option.some.inj h
      subst hs
      exact .createFail hp
  · split at h
    · next hs =>
        obtain rfl := Option.some.inj h
        exact .create hp hpc hs
    · cases h

theorem startServer_move {a : ServerArgs} {ipType : Family} {pc : StartPc}
    (hp : σ.pc t = .start (.startServer a ipType) pc)
    (h : startServer cb σ t a ipType pc i = some σ') : Move cb σ t i σ' := by
  unfold startServer at h
  split at h
  · obtain rfl := Option.some.inj h
    exact .silent hp (.startResolve _ _)
  · exact lockNet_move hp (.start _) h
  · split at h
    · obtain rfl := Option.some.inj h
      exact .startRefuse hp rfl
    · next hmode =>
        split at h <;> obtain rfl := Option.some.inj h
        · exact .startRefuse hp rfl
        · exact .startCheck _ σ.clientContext hp (not_not.mp hmode)
  · exact createSocket_move hp rfl h
  · split at h <;> obtain rfl := Option.some.inj h
    · exact .silent hp (.startWork _ rfl rfl)
    · exact .silent hp (.startWork _ rfl rfl)
  · split at h <;> obtain rfl := Option.some.inj h
    · next hr => exact .startLeak hp rfl (by simpa [StartPc.leaks] using hr) rfl
    · exact .silent hp (.startWork _ rfl rfl)
  · obtain rfl := Option.some.inj h
    exact .silent hp (.startWork _ rfl rfl)
  · split at h <;> obtain rfl := Option.some.inj h
    · exact .silent hp (.startWork _ rfl rfl)
    · exact .silent hp (.startWork _ rfl rfl)
  · split at h <;> obtain rfl := Option.some.inj h
    · exact .silent hp (.startWork _ rfl rfl)
    · exact .silent hp (.startWork _ rfl rfl)
  · obtain rfl := Option.some.inj h
    exact .startClose _ hp
  · obtain rfl := Option.some.inj h
    unfold spawnWorker
    split
    · next hjoin => exact .publishFault _ _ _ hp (Option.isSome_iff_ne_none.mp hjoin)
    · next hjoin => exact .publishServer hp (by simpa using hjoin)
  · obtain rfl := Option.some.inj h
    exact .dropNet hp (.start _ _ _)
  · cases h

theorem startClient_move {a : ClientArgs} {pc : StartPc}
    (hp : σ.pc t = .start (.startClient a) pc)
    (h : startClient σ t a pc i = some σ') : Move cb σ t i σ' := by
  unfold startClient at h
  split at h
  · exact lockNet_move hp (.start _) h
  · split at h
    · obtain rfl := Option.some.inj h
      exact .startRefuse hp rfl
    · next hmode =>
        obtain rfl := Option.some.inj h
        exact .startCheck σ.connectionContext _ hp (not_not.mp hmode)
  · exact createSocket_move hp rfl h
  · split at h <;> obtain rfl := Option.some.inj h
    · next hr => exact .startLeak hp rfl (by simpa [StartPc.leaks] using hr) rfl
    · exact .silent hp (.startWork _ rfl rfl)
  · obtain rfl := Option.some.inj h
    exact .silent hp (.startWork _ rfl rfl)
  · split at h <;> obtain rfl := Option.some.inj h
    · next hr => exact .startLeak hp rfl (by simpa [StartPc.leaks] using hr) rfl
    · exact .silent hp (.startWork _ rfl rfl)
  · split at h <;> obtain rfl := Option.some.inj h
    · exact .silent hp (.startWork _ rfl rfl)
    · exact .silent hp (.startWork _ rfl rfl)
  · split at h <;> obtain rfl := Option.some.inj h
    · exact .silent hp (.startWork _ rfl rfl)
    · exact .silent hp (.startWork _ rfl rfl)
  · obtain rfl := Option.some.inj h
    exact .startClose _ hp
  · obtain rfl := Option.some.inj h
    unfold spawnWorker
    split
    · next hjoin => exact .publishFault _ _ _ hp (Option.isSome_iff_ne_none.mp hjoin)
    · next hjoin => exact .publishClient hp (by simpa using hjoin)
  · obtain rfl := Option.some.inj h
    exact .dropNet hp (.start _ _ _)
  · cases h

theorem stop_move {dtor : Bool} {pc : StopPc} (hp : σ.pc t = .stop dtor pc)
    (h : stop σ t dtor pc i = some σ') : Move cb σ t i σ' := by
  unfold stop at h
  split at h
  · exact lockNet_move hp (.stop _) h
  · split at h <;> obtain rfl := Option.some.inj h
    · next hmode => exact .stopServer hp hmode
    · next hmode => exact .stopClient hp hmode
    · next hmode => exact .stopUnknown hp hmode
  · split at h
    · cases h
    · split at h <;> obtain rfl := Option.some.inj h
      · next hr =>
          subst hr
          exact .stopCloseFail hp rfl
      · next hr => exact .stopClose hp hr
  · split at h
    · next hcontext =>
        obtain rfl := Option.some.inj h
        exact .stopSkipClose hp hcontext
    · cases h
  · split at h
    · next hjoin =>
        obtain rfl := Option.some.inj h
        exact .joinWorkerServer hp hjoin
    · cases h
  · next hserver =>
      split at h
      · next hjoin =>
          obtain rfl := Option.some.inj h
          exact .joinWorkerClient hp hserver hjoin
      · cases h
  · split at h
    · next hjoin =>
        obtain rfl := Option.some.inj h
        exact .joinEvent hp hjoin
    · cases h
  · split at h <;> obtain rfl := Option.some.inj h
    · next hdtor =>
        subst hdtor
        exact .destroy hp
    · next hdtor =>
        obtain rfl : dtor = false := by simpa using hdtor
        exact .dropNet hp (.stop _)
  · cases h

theorem closeAllClientSockets_move {caller : SweepCaller} {pc : SweepPc}
    (hp : σ.pc t = .closeAllClientSockets caller pc)
    (h : closeAllClientSockets cb σ t caller pc i = some σ') : Move cb σ t i σ' := by
  unfold closeAllClientSockets at h
  split at h
  · unfold lockList at h
    split at h
    · next hfree =>
        obtain rfl := Option.some.inj h
        exact .sweepLock hp hfree
    · cases h
  · split at h <;> obtain rfl := Option.some.inj h
    · next hcb => exact .sweepReport _ hp hcb
    · next hcb => exact .sweepQuiet _ hp (by simpa using hcb)
  · obtain rfl := Option.some.inj h
    exact .sweepClear hp
  · cases h

theorem waitForSRTClient_move {k : Nat} {pc : AcceptPc}
    (hp : σ.pc (.worker k) = .waitForSRTClient pc)
    (h : waitForSRTClient σ k pc i = some σ') : Move cb σ (.worker k) i σ' := by
  unfold waitForSRTClient at h
  split at h
  · obtain rfl := Option.some.inj h
    exact .epollCreate _ hp
  · obtain rfl := Option.some.inj h
    exact .silent hp .epollSet
  · obtain rfl := Option.some.inj h
    unfold spawnEvent
    split
    · next hjoin => exact .spawnFault hp (Option.isSome_iff_ne_none.mp hjoin)
    · next hjoin => exact .spawnEvent _ hp (by simpa using hjoin)
  · split at h <;> obtain rfl := Option.some.inj h
    · exact .silent hp .acceptTry
    · next hactive => exact .acceptExit hp (by simpa using hactive)
  · split at h
    · obtain rfl := Option.some.inj h
      exact .silent hp .acceptMiss
    · split at h
      · next hs =>
          obtain rfl := Option.some.inj h
          exact .accept hp hs
      · cases h
  · split at h
    · next hfree =>
        obtain rfl := Option.some.inj h
        exact .insert _ hp hfree
    · cases h
  · obtain rfl := Option.some.inj h
    exact .refuse hp
  · cases h

theorem handleSocket_move {k : Nat} {b : Batch} {result r : Int}
    (hp : σ.pc (.event k) = .serverEventHandler (.handle b result))
    (hfree : σ.clientListMtx = none) :
    Move cb σ (.event k) i (handleSocket cb σ k b result r) := by
  unfold handleSocket
  dsimp only
  split
  · split
    · exact .handleSkip hp
    · next c hfind =>
        split
        · next hcb => exact .evict r hp hfree hfind hcb
        · next hcb => exact .evictQuiet r hp hfree hfind (by simpa using hcb)
  · split
    · next hdata =>
        split
        · next hfind => exact .readEnd hp hfree hdata.1 hfind
        · next c hfind => exact .deliver hp hfree hfind
    · exact .handleSkip hp

theorem serverEventHandler_move {k : Nat} {pc : EventPc}
    (hp : σ.pc (.event k) = .serverEventHandler pc)
    (h : serverEventHandler cb σ k pc i = some σ') : Move cb σ (.event k) i σ' := by
  unfold serverEventHandler at h
  split at h
  · split at h <;> obtain rfl := Option.some.inj h
    · exact .silent hp (.eventTry _)
    · next hactive => exact .eventLeave hp (by simpa using hactive)
  · obtain rfl := Option.some.inj h
    exact .uwait _ hp
  · obtain rfl := Option.some.inj h
    exact .recv _ hp
  · split at h
    · next hfree =>
        obtain rfl := Option.some.inj h
        exact handleSocket_move hp hfree
    · cases h
  · obtain rfl := Option.some.inj h
    exact .epollRelease hp
  · cases h

theorem clientWorker_move {k : Nat} {pc : WorkerPc}
    (hp : σ.pc (.worker k) = .clientWorker pc)
    (h : clientWorker cb σ k pc i = some σ') : Move cb σ (.worker k) i σ' := by
  unfold clientWorker at h
  split at h
  · split at h <;> obtain rfl := Option.some.inj h
    · exact .silent hp .clientTry
    · next hactive => exact .clientLeave hp (by simpa using hactive)
  · split at h
    · split at h <;> obtain rfl := Option.some.inj h
      · next hcb => exact .clientReport hp hcb
      · next hcb => exact .clientQuiet hp (by simpa using hcb)
    · split at h <;> obtain rfl := Option.some.inj h
      · exact .clientData hp
      · exact .silent hp .clientMiss
  · obtain rfl := Option.some.inj h
    exact .clientDone hp
  · cases h

theorem callbackReturn_move {site : CallbackSite}
    (hp : σ.pc t = .callback site .user)
    (h : callbackReturn σ t site i = some σ') : Move cb σ t i σ' := by
  unfold callbackReturn at h
  split at h
  · obtain rfl := Option.some.inj h
    exact .connect hp
  · obtain rfl := Option.some.inj h
    exact .reject hp
  · obtain rfl := Option.some.inj h
    exact .silent hp (.sweepResume _ _)
  · obtain rfl := Option.some.inj h
    exact .eventDone hp
  · obtain rfl := Option.some.inj h
    exact .silent hp .clientDataDone
  · obtain rfl := Option.some.inj h
    exact .silent hp .clientReportDone
  · cases h

theorem statisticsReturn_move {s : SRTSOCKET} {p p' : Pc} (hp : σ.pc t = p)
    (hpc : DropsNet p p') (h : statisticsReturn σ t s p' i = some σ') :
    Move cb σ t i σ' := by
  unfold statisticsReturn at h
  split at h
  · split at h
    · obtain rfl := Option.some.inj h
      exact .dropNet hp hpc
    · cases h
  · split at h
    · obtain rfl := Option.some.inj h
      exact .dropNet hp hpc
    · cases h
  · cases h

theorem callback_move {site : CallbackSite} {pc : CallbackPc}
    (hp : σ.pc t = .callback site pc)
    (h : callback σ t site pc i = some σ') : Move cb σ t i σ' := by
  unfold callback at h
  split at h
  · obtain rfl := Option.some.inj h
    exact .askStatistics hp
  · obtain rfl := Option.some.inj h
    exact .silent hp (.lockFree _)
  · exact callbackReturn_move hp h
  · exact lockNet_move hp (.callback _ _) h
  · exact statisticsReturn_move hp (.callback _ _) h
  · cases h

theorem getStatistics_move {pc : StatsPc} (hp : σ.pc t = .getStatistics pc)
    (h : getStatistics σ t pc i = some σ') : Move cb σ t i σ' := by
  unfold getStatistics at h
  split at h
  · exact lockNet_move hp (.getStatistics _) h
  · exact statisticsReturn_move hp (.getStatistics _) h
  · cases h

theorem getActiveClients_move {pc : ViewPc} (hp : σ.pc t = .getActiveClients pc)
    (h : getActiveClients σ t pc i = some σ') : Move cb σ t i σ' := by
  unfold getActiveClients at h
  split at h
  · unfold lockList at h
    split at h
    · next hfree =>
        obtain rfl := Option.some.inj h
        exact .takeView hp hfree
    · cases h
  · obtain rfl := Option.some.inj h
    exact .dropView hp
  · cases h

/-- **Inversion.**  A running object only makes the listed moves. -/
theorem step_move (h : step cb σ t i = some σ') :
    σ.halted = none ∧ Move cb σ t i σ' := by
  unfold step at h
  split at h
  · cases h
  · next hrun =>
      refine ⟨by simpa using hrun, ?_⟩
      split at h
      · next hp =>
          split at h
          · obtain rfl := Option.some.inj h
            exact .enter _ hp
          · cases h
      · next hp => exact startServer_move hp h
      · next hp => exact startClient_move hp h
      · next hp => exact stop_move hp h
      · next hp => exact getStatistics_move hp h
      · next hp => exact getActiveClients_move hp h
      · next hp => exact closeAllClientSockets_move hp h
      · next hp => exact waitForSRTClient_move hp h
      · next hp => exact serverEventHandler_move hp h
      · next hp => exact clientWorker_move hp h
      · next hp => exact callback_move hp h
      · cases h

/-- The invariant rule, one move at a time. -/
theorem invariant_of_moves {ok : State → Tid × Input → Prop} {P : State → Prop}
    (hinit : P State.init)
    (hmove : ∀ σ t i σ', (system cb).ReachableUnder ok σ → P σ → ok σ (t, i) →
      σ.halted = none → Move cb σ t i σ' → P σ')
    (h : (system cb).ReachableUnder ok σ) : P σ := by
  refine h.induction (P := P) hinit ?_
  rintro s ⟨t, i⟩ s' hreach hs hok hstep
  obtain ⟨hrun, hm⟩ := step_move hstep
  exact hmove s t i s' hreach hs hok hrun hm

end Inversion

end SrtNet
