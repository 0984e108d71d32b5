import Xrtc.StepSystem
import Xrtc.SrtNetState

/-!
# The steps of `SRTNet`

One function per method of `srt_net.cpp`.  Each takes the program counter of
the moving thread and an `Input`, which carries everything the method does not
decide itself: the answer of an SRT or libc call, the value a user callback
returns, what the callback does meanwhile, and which method an application
thread calls next.  A pair of program counter and input that does not match is
refused, as is a lock that is taken and a join of a running thread.

SRT's answers are unconstrained, with one exception: the ids returned by
`srt_create_socket` and `srt_accept` are positive and unused
(`CUDTUnited::generateSocketID`).
-/

namespace SrtNet

/-- The methods an application thread may call.  `sendData` and
`getConnectedServer` take no lock and write no field. -/
inductive Call
  | startServer (a : ServerArgs)
  | startClient (a : ClientArgs)
  | stop
  | destruct
  | getStatistics (targetSystem : SRTSOCKET)
  | getActiveClients
  | sendData
  | getConnectedServer

/-- What the environment contributes to one step. -/
inductive Input
  /-- Nothing. -/
  | tau
  /-- An application thread calls a method. -/
  | call (c : Call)
  /-- The answer of an SRT or libc call. -/
  | answer (r : Int)
  /-- The `inet_pton` answers inside `isIPv4` and `isIPv6`. -/
  | resolved (r4 r6 : Int)
  /-- The answer of `getaddrinfo` and the number of addresses it found. -/
  | addresses (r : Int) (n : Nat)
  /-- `srt_epoll_uwait` found these sockets ready, or failed. -/
  | ready (fds : Option (List SRTSOCKET))
  /-- The bytes a new thread finds in its uninitialised `ready` array. -/
  | garbage (g : Fin MAX_WORKERS → SRTSOCKET)
  /-- `clientConnected` returns. -/
  | candidate (c : Option Context)
  /-- A callback returns. -/
  | done
  /-- A callback calls `getStatistics`. -/
  | askStatistics (targetSystem : SRTSOCKET)
  /-- A callback calls `sendData` or `getConnectedServer`. -/
  | lockFree

/-- Lock `net_mtx_` and continue at `p`. -/
def lockNet (σ : State) (t : Tid) (p : Pc) : Option State :=
  if σ.netMtx = none then some ({ σ with netMtx := some t }.goto t p) else none

/-- Lock `client_list_mtx_` and continue at `p`. -/
def lockList (σ : State) (t : Tid) (p : Pc) : Option State :=
  if σ.clientListMtx = none then
    some ({ σ with clientListMtx := some t }.goto t p)
  else none

/-- Unlock `net_mtx_` and continue at `p`. -/
def unlockNet (σ : State) (t : Tid) (p : Pc) : State :=
  { σ with netMtx := none }.goto t p

/-- Unlock `client_list_mtx_` and continue at `p`. -/
def unlockList (σ : State) (t : Tid) (p : Pc) : State :=
  { σ with clientListMtx := none }.goto t p

/-! ## `startServer` and `startClient` -/

/-- `context_ = srt_create_socket()`; the call continues at `next` unless the
answer is `SRT_ERROR`. -/
def createSocket (σ : State) (t : Tid) (call : StartCall) (next : StartPc)
    (s : Int) : Option State :=
  if s = SRT_ERROR then
    some ({ σ with context := s }.goto t (.start call (.ret .createFailed none)))
  else if σ.fresh s then
    some (({ σ with context := s }.emit (.srtCreateSocket s)).goto t
      (.start call next))
  else none

/-- `worker_thread_ = std::thread(...)` running `p`: session `σ.session + 1`
begins. -/
def spawnWorker (σ : State) (t : Tid) (call : StartCall) (p : Pc) : State :=
  if σ.workerThread.isSome then { σ with halted := some .assignedJoinable }
  else
    ({ σ with
      workerThread := some (.worker (σ.session + 1))
      session := σ.session + 1
      trace := .sessionStart σ.currentMode :: σ.trace }.goto
        (.worker (σ.session + 1)) p).goto t
          (.start call (.ret .started (some σ.context)))

/-- `SRTNet::startServer`. -/
def startServer (cb : Callbacks) (σ : State) (t : Tid) (a : ServerArgs)
    (ipType : Family) : StartPc → Input → Option State
  | .resolve, .resolved r4 r6 =>
      -- `isIPv4` and `isIPv6` take any answer of `inet_pton` but 0 for a match
      let ipType := if r4 ≠ 0 then .inet else if r6 ≠ 0 then .inet6 else ipType
      some (σ.goto t (.start (.startServer a ipType) .lock))
  | .lock, .tau => lockNet σ t (.start (.startServer a ipType) .check)
  | .check, .tau =>
      if σ.currentMode ≠ .unknown then
        some (σ.goto t (.start (.startServer a ipType) (.ret .modeSet none)))
      else if cb.clientConnected = false then
        some (σ.goto t (.start (.startServer a ipType) (.ret .noCallback none)))
      else
        some ({ σ with connectionContext := a.ctx }.goto t
          (.start (.startServer a ipType) .create))
  | .create, .answer s => createSocket σ t (.startServer a ipType) .pton s
  | .pton, .answer r =>
      if r ≠ 1 then
        some (σ.goto t (.start (.startServer a ipType) (.closeAndFail .ptonFailed)))
      else some (σ.goto t (.start (.startServer a ipType) (.setFlags a.options)))
  | .setFlags (o :: todo), .answer r =>
      if r = SRT_ERROR then
        some (σ.goto t (.start (.startServer a ipType)
          (.ret (.flagFailed o) (some σ.context))))
      else some (σ.goto t (.start (.startServer a ipType) (.setFlags todo)))
  | .setFlags [], .tau => some (σ.goto t (.start (.startServer a ipType) .bind))
  | .bind, .answer r =>
      if r = SRT_ERROR then
        some (σ.goto t (.start (.startServer a ipType) (.closeAndFail .bindFailed)))
      else some (σ.goto t (.start (.startServer a ipType) .listen))
  | .listen, .answer r =>
      if r = SRT_ERROR then
        some (σ.goto t (.start (.startServer a ipType) (.closeAndFail .listenFailed)))
      else some (σ.goto t (.start (.startServer a ipType) .publish))
  | .closeAndFail exit, .answer r =>
      some ((σ.srtClose σ.context r).goto t
        (.start (.startServer a ipType) (.ret exit (some σ.context))))
  | .publish, .tau =>
      some (spawnWorker { σ with serverActive := true, currentMode := .server } t
        (.startServer a ipType) (.waitForSRTClient .epollCreate))
  | .ret _ _, .tau => some (unlockNet σ t .idle)
  | _, _ => none

/-- `SRTNet::startClient`. -/
def startClient (σ : State) (t : Tid) (a : ClientArgs) :
    StartPc → Input → Option State
  | .lock, .tau => lockNet σ t (.start (.startClient a) .check)
  | .check, .tau =>
      if σ.currentMode ≠ .unknown then
        some (σ.goto t (.start (.startClient a) (.ret .modeSet none)))
      else
        some ({ σ with clientContext := a.ctx }.goto t
          (.start (.startClient a) .create))
  | .create, .answer s => createSocket σ t (.startClient a) (.setFlags a.options) s
  | .setFlags (o :: todo), .answer r =>
      if r = SRT_ERROR then
        some (σ.goto t (.start (.startClient a)
          (.ret (.flagFailed o) (some σ.context))))
      else some (σ.goto t (.start (.startClient a) (.setFlags todo)))
  | .setFlags [], .tau => some (σ.goto t (.start (.startClient a) .getaddrinfo))
  | .getaddrinfo, .addresses r n =>
      if r ≠ 0 then
        some (σ.goto t (.start (.startClient a)
          (.ret .resolveFailed (some σ.context))))
      else some (σ.goto t (.start (.startClient a) (.connect r n)))
  | .connect _ (n + 1), .answer r =>
      if r ≠ SRT_ERROR then some (σ.goto t (.start (.startClient a) .publish))
      else some (σ.goto t (.start (.startClient a) (.connect r n)))
  | .connect result 0, .tau =>
      if result = SRT_ERROR then
        some (σ.goto t (.start (.startClient a) (.closeAndFail .connectFailed)))
      else some (σ.goto t (.start (.startClient a) .publish))
  | .closeAndFail exit, .answer r =>
      some ((σ.srtClose σ.context r).goto t
        (.start (.startClient a) (.ret exit (some σ.context))))
  | .publish, .tau =>
      some (spawnWorker { σ with currentMode := .client, clientActive := true } t
        (.startClient a) (.clientWorker .head))
  | .ret _ _, .tau => some (unlockNet σ t .idle)
  | _, _ => none

/-! ## `closeAllClientSockets` -/

/-- Where `closeAllClientSockets` returns to. -/
def SweepCaller.after : SweepCaller → Pc
  | .stop dtor result => .stop dtor (.joinWorker .server result)
  | .waitForSRTClient => .waitForSRTClient .head

/-- `SRTNet::closeAllClientSockets`. -/
def closeAllClientSockets (cb : Callbacks) (σ : State) (t : Tid)
    (caller : SweepCaller) : SweepPc → Input → Option State
  | .lock, .tau =>
      lockList σ t (.closeAllClientSockets caller (.next σ.clientList.toList))
  | .next ((s, c) :: rest), .answer r =>
      if cb.clientDisconnected then
        some (((σ.srtClose s r).emit (.clientDisconnected .server (some c) s)).goto t
          (.callback (.sweep caller rest) .user))
      else
        some ((σ.srtClose s r).goto t (.closeAllClientSockets caller (.next rest)))
  | .next [], .tau =>
      some ({ σ with clientList := ∅, clientListMtx := none }.goto t caller.after)
  | _, _ => none

/-! ## `stop`, `getStatistics` and `getActiveClients` -/

/-- Has the thread function returned? -/
def Pc.isFinished : Pc → Bool
  | .finished => true
  | _ => false

/-- `if (thread.joinable()) thread.join();` can return. -/
def State.joined (σ : State) (handle : Option Tid) : Prop :=
  ∀ w ∈ handle, (σ.pc w).isFinished

instance (σ : State) (handle : Option Tid) : Decidable (σ.joined handle) :=
  inferInstanceAs (Decidable (∀ w ∈ handle, (σ.pc w).isFinished = true))

/-- What `stop` does after a successful `srt_close(context_)`. -/
def afterClose (dtor : Bool) (result : Option Int) : Mode → Pc
  | .server => .closeAllClientSockets (.stop dtor result) .lock
  | mode => .stop dtor (.joinWorker mode result)

/-- The destructors of the two `std::thread` members. -/
def destroyMembers (σ : State) : State :=
  { σ with
    halted := some (if σ.workerThread.isSome ∨ σ.eventThread.isSome then
      .destroyedJoinable else .destroyed) }

/-- `SRTNet::stop`, called by the application or by `~SRTNet`. -/
def stop (σ : State) (t : Tid) (dtor : Bool) : StopPc → Input → Option State
  | .lock, .tau => lockNet σ t (.stop dtor .readMode)
  | .readMode, .tau =>
      match σ.currentMode with
      | .server =>
          some ({ σ with serverActive := false }.goto t (.stop dtor (.srtClose .server)))
      | .client =>
          some ({ σ with clientActive := false }.goto t (.stop dtor (.srtClose .client)))
      | .unknown => some (σ.goto t (.stop dtor (.ret none)))
  | .srtClose mode, .answer r =>
      if σ.context = 0 then none
      else if r = SRT_ERROR then
        some ((σ.srtClose σ.context r).goto t (.stop dtor (.ret (some r))))
      else some ((σ.srtClose σ.context r).goto t (afterClose dtor (some r) mode))
  | .srtClose mode, .tau =>
      if σ.context = 0 then some (σ.goto t (afterClose dtor none mode)) else none
  | .joinWorker .server result, .tau =>
      if σ.joined σ.workerThread then
        some ({ σ with workerThread := none }.goto t (.stop dtor (.joinEvent result)))
      else none
  | .joinWorker _ result, .tau =>
      if σ.joined σ.workerThread then
        some ({ σ with workerThread := none, currentMode := .unknown }.goto t
          (.stop dtor (.ret result)))
      else none
  | .joinEvent result, .tau =>
      if σ.joined σ.eventThread then
        some ({ σ with eventThread := none, currentMode := .unknown }.goto t
          (.stop dtor (.ret result)))
      else none
  | .ret _, .tau =>
      if dtor then some (destroyMembers (unlockNet σ t .idle))
      else some (unlockNet σ t .idle)
  | _, _ => none

/-- The socket `getStatistics` asks SRT about, if it gets that far. -/
def statisticsSocket (σ : State) (targetSystem : SRTSOCKET) : Option SRTSOCKET :=
  if σ.currentMode = .client ∧ σ.clientActive ∧ σ.context ≠ 0 then some σ.context
  else if σ.currentMode = .server ∧ σ.serverActive ∧ targetSystem ≠ 0 then some targetSystem
  else none

/-- The end of `getStatistics`, called at `p`: it calls `srt_bistats` if there
is a socket to ask about, unlocks `net_mtx_` and returns. -/
def statisticsReturn (σ : State) (t : Tid) (targetSystem : SRTSOCKET) (p : Pc) :
    Input → Option State
  | .answer _ =>
      if (statisticsSocket σ targetSystem).isSome then some (unlockNet σ t p) else none
  | .tau => if (statisticsSocket σ targetSystem).isNone then some (unlockNet σ t p) else none
  | _ => none

/-- `SRTNet::getStatistics`. -/
def getStatistics (σ : State) (t : Tid) : StatsPc → Input → Option State
  | .lock targetSystem, .tau => lockNet σ t (.getStatistics (.body targetSystem))
  | .body targetSystem, i => statisticsReturn σ t targetSystem .idle i
  | _, _ => none

/-- `SRTNet::getActiveClients`; the function it is given only reads the map. -/
def getActiveClients (σ : State) (t : Tid) : ViewPc → Input → Option State
  | .lock, .tau => lockList σ t (.getActiveClients .body)
  | .body, .tau => some (unlockList σ t .idle)
  | _, _ => none

/-! ## The session threads -/

/-- `event_thread_ = std::thread(&SRTNet::serverEventHandler, this)`, executed
by the worker of session `k`. -/
def spawnEvent (σ : State) (k : Nat) (ready : List SRTSOCKET) : State :=
  if σ.eventThread.isSome then { σ with halted := some .assignedJoinable }
  else
    ({ σ with eventThread := some (.event k) }.goto (.event k)
      (.serverEventHandler (.head ready))).goto (.worker k)
        (.closeAllClientSockets .waitForSRTClient .lock)

/-- `SRTNet::waitForSRTClient`, run by the worker of session `k`. -/
def waitForSRTClient (σ : State) (k : Nat) : AcceptPc → Input → Option State
  | .epollCreate, .answer eid =>
      some ({ σ with
        pollId := eid
        epolls := if eid = SRT_ERROR then σ.epolls else eid :: σ.epolls }.goto
          (.worker k) (.waitForSRTClient .epollSet))
  | .epollSet, .answer _ => some (σ.goto (.worker k) (.waitForSRTClient .spawn))
  | .spawn, .garbage g => some (spawnEvent σ k (List.ofFn g))
  | .head, .tau =>
      if σ.serverActive then some (σ.goto (.worker k) (.waitForSRTClient .accept))
      else some (σ.goto (.worker k) .finished)
  | .accept, .answer s =>
      if s = -1 then some (σ.goto (.worker k) (.waitForSRTClient .head))
      else if σ.fresh s then
        some ((σ.emit (.srtAccept s)).goto (.worker k)
          (.callback (.clientConnected s) .user))
      else none
  | .insert s c, .answer r =>
      if σ.clientListMtx = none then
        some ({ σ with
          clientList := σ.clientList.insert s c
          subs := if r = SRT_ERROR then σ.subs else (σ.pollId, s) :: σ.subs }.goto
            (.worker k) (.waitForSRTClient .head))
      else none
  | .refuse s, .tau =>
      some ((σ.emit (.close s)).goto (.worker k) (.waitForSRTClient .head))
  | _, _ => none

/-- `srt_epoll_uwait` with room for `capacity` events, as `CEPoll::uwait`
fills them in: the answer, the array afterwards and the number of slots
written. -/
def srtEpollUwait (capacity : Nat) (fds : Option (List SRTSOCKET))
    (ready : List SRTSOCKET) : Int × List SRTSOCKET × Nat :=
  match fds with
  | none => (SRT_ERROR, ready, 0)
  | some fds =>
      (min (capacity + 1) fds.length,
        fds.take capacity ++ ready.drop (min capacity fds.length),
        min capacity fds.length)

/-- The head of the inner loop: the next element, or back to the outer loop. -/
def Batch.next (b : Batch) : EventPc :=
  if b.i + 1 < b.ret then .recv { b with i := b.i + 1 } else .head b.ready

/-- `srt_epoll_uwait` and the test of its answer. -/
def afterUwait (fds : Option (List SRTSOCKET)) (ready : List SRTSOCKET) : EventPc :=
  let (ret, ready, filled) := srtEpollUwait UWAIT_CAPACITY fds ready
  let ret := if ret = MAX_WORKERS + 1 then ret - 1 else ret
  if 0 < ret then .recv ⟨ready, filled, ret.toNat, 0⟩ else .head ready

/-- The critical section of `serverEventHandler` for `thisSocket`, after
`srt_recvmsg2` answered `result`; `r` is the answer of `srt_close` in the error
branch. -/
def handleSocket (cb : Callbacks) (σ : State) (k : Nat) (b : Batch)
    (result r : Int) : State :=
  let s := b.thisSocket
  if result = SRT_ERROR then
    match σ.clientList[s]? with
    | none => σ.goto (.event k) (.serverEventHandler b.next)
    | some c =>
        let σ := { σ with
          clientList := σ.clientList.erase s
          subs := σ.subs.filter (fun sub => sub ≠ (σ.pollId, s)) }.srtClose s r
        if cb.clientDisconnected then
          { σ.emit (.clientDisconnected .server (some c) s) with
            clientListMtx := some (.event k) }.goto (.event k)
              (.callback (.event b) .user)
        else σ.goto (.event k) (.serverEventHandler b.next)
  else if 0 < result ∧ (cb.receivedData ∨ cb.receivedDataNoCopy) then
    match σ.clientList[s]? with
    | none => { σ with halted := some .endIteratorRead }
    | some c =>
        { σ.emit (.received .server (some c) s) with
          clientListMtx := some (.event k) }.goto (.event k)
            (.callback (.event b) .user)
  else σ.goto (.event k) (.serverEventHandler b.next)

/-- `SRTNet::serverEventHandler`, run by the event thread of session `k`. -/
def serverEventHandler (cb : Callbacks) (σ : State) (k : Nat) :
    EventPc → Input → Option State
  | .head ready, .tau =>
      if σ.serverActive then
        some (σ.goto (.event k) (.serverEventHandler (.uwait ready)))
      else some (σ.goto (.event k) (.serverEventHandler .release))
  | .uwait ready, .ready fds =>
      some (σ.goto (.event k) (.serverEventHandler (afterUwait fds ready)))
  | .recv b, .answer result =>
      some (σ.goto (.event k) (.serverEventHandler (.handle b result)))
  | .handle b result, .answer r =>
      if σ.clientListMtx = none then some (handleSocket cb σ k b result r) else none
  | .release, .answer _ =>
      some ({ σ with
        epolls := σ.epolls.erase σ.pollId
        subs := σ.subs.filter (fun sub => sub.1 ≠ σ.pollId) }.goto (.event k) .finished)
  | _, _ => none

/-- `SRTNet::clientWorker`, run by the worker of session `k`. -/
def clientWorker (cb : Callbacks) (σ : State) (k : Nat) :
    WorkerPc → Input → Option State
  | .head, .tau =>
      if σ.clientActive then some (σ.goto (.worker k) (.clientWorker .recv))
      else some (σ.goto (.worker k) (.clientWorker .exit))
  | .recv, .answer result =>
      if result = SRT_ERROR then
        if cb.clientDisconnected then
          some ((σ.emit (.clientDisconnected .client σ.clientContext σ.context)).goto
            (.worker k) (.callback .clientReport .user))
        else some (σ.goto (.worker k) (.clientWorker .exit))
      else if 0 < result ∧ (cb.receivedData ∨ cb.receivedDataNoCopy) then
        some ((σ.emit (.received .client σ.clientContext σ.context)).goto
          (.worker k) (.callback .clientData .user))
      else some (σ.goto (.worker k) (.clientWorker .head))
  | .exit, .tau =>
      some ({ σ with clientActive := false }.goto (.worker k) .finished)
  | _, _ => none

/-! ## User callbacks -/

/-- What happens when the callback at `site` returns. -/
def callbackReturn (σ : State) (t : Tid) : CallbackSite → Input → Option State
  | .clientConnected s, .candidate (some c) =>
      some ((σ.emit (.clientConnected s (some c))).goto t
        (.waitForSRTClient (.insert s c)))
  | .clientConnected s, .candidate none =>
      some ((σ.emit (.clientConnected s none)).goto t (.waitForSRTClient (.refuse s)))
  | .sweep caller rest, .done =>
      some (σ.goto t (.closeAllClientSockets caller (.next rest)))
  | .event b, .done => some (unlockList σ t (.serverEventHandler b.next))
  | .clientData, .done => some (σ.goto t (.clientWorker .head))
  | .clientReport, .done => some (σ.goto t (.clientWorker .exit))
  | _, _ => none

/-- A thread inside a user callback. -/
def callback (σ : State) (t : Tid) (site : CallbackSite) :
    CallbackPc → Input → Option State
  | .user, .askStatistics targetSystem =>
      some (σ.goto t (.callback site (.stats (.lock targetSystem))))
  | .user, .lockFree => some (σ.goto t (.callback site .user))
  | .user, i => callbackReturn σ t site i
  | .stats (.lock targetSystem), .tau =>
      lockNet σ t (.callback site (.stats (.body targetSystem)))
  | .stats (.body targetSystem), i =>
      statisticsReturn σ t targetSystem (.callback site .user) i
  | _, _ => none

/-! ## The system -/

/-- An application thread calls a method. -/
def Call.enter : Call → Pc
  | .startServer a => .start (.startServer a .inet) .resolve
  | .startClient a => .start (.startClient a) .lock
  | .stop => .stop false .lock
  | .destruct => .stop true .lock
  | .getStatistics targetSystem => .getStatistics (.lock targetSystem)
  | .getActiveClients => .getActiveClients .lock
  | .sendData => .idle
  | .getConnectedServer => .idle

/-- One step of thread `t`. -/
def step (cb : Callbacks) (σ : State) (t : Tid) (i : Input) : Option State :=
  if σ.halted.isSome then none
  else
    match σ.pc t, t with
    | .idle, .app _ =>
        match i with
        | .call c => some (σ.goto t c.enter)
        | _ => none
    | .start (.startServer a ipType) pc, _ => startServer cb σ t a ipType pc i
    | .start (.startClient a) pc, _ => startClient σ t a pc i
    | .stop dtor pc, _ => stop σ t dtor pc i
    | .getStatistics pc, _ => getStatistics σ t pc i
    | .getActiveClients pc, _ => getActiveClients σ t pc i
    | .closeAllClientSockets caller pc, _ => closeAllClientSockets cb σ t caller pc i
    | .waitForSRTClient pc, .worker k => waitForSRTClient σ k pc i
    | .serverEventHandler pc, .event k => serverEventHandler cb σ k pc i
    | .clientWorker pc, .worker k => clientWorker cb σ k pc i
    | .callback site pc, _ => callback σ t site pc i
    | _, _ => none

/-- An `SRTNet` object with the given callbacks, run by all its threads. -/
def system (cb : Callbacks) : StepSystem State (Tid × Input) where
  init := State.init
  step σ i := step cb σ i.1 i.2

/-! ## Schedules

Runs of a fixed length, from which the executions exhibited in later modules
are put together. -/

/-- All four callbacks are set. -/
def allCallbacks : Callbacks := ⟨true, true, true, true⟩

/-- The server of `test_srt_net.cpp`, with context `c`. -/
def testServer (c : Context) : ServerArgs where
  ip := "0.0.0.0"
  port := 8000
  reorder := 16
  latency := 1000
  overhead := 100
  mtu := 1456
  psk := "Th1$_is_4_0pt10N4L_P$k"
  ctx := some c

/-- A client of `test_srt_net.cpp`, with context `c`. -/
def testClient (c : Context) : ClientArgs where
  host := "127.0.0.1"
  port := 8000
  reorder := 16
  latency := 1000
  overhead := 100
  ctx := some c
  mtu := 1456
  psk := "Th1$_is_4_0pt10N4L_P$k"

/-- Thread `t` receives these inputs one after the other. -/
def schedule (t : Tid) (inputs : List Input) : List (Tid × Input) :=
  inputs.map (fun i => (t, i))

/-- Thread `t` calls `startServer`, which obtains the listener `s` and
succeeds. -/
def startServerRun (t : Tid) (a : ServerArgs) (s : SRTSOCKET) : List (Tid × Input) :=
  schedule t
    ([.call (.startServer a), .resolved 1 0, .tau, .tau, .answer s, .answer 1] ++
      a.options.map (fun _ => .answer 0) ++ [.tau, .answer 0, .answer 0, .tau, .tau])

/-- The worker of session `k` sets up epoll `eid`, creates the event thread
and finds no leftover client. -/
def serverUpRun (k : Nat) (eid : Int) : List (Tid × Input) :=
  schedule (.worker k)
    [.answer eid, .answer 0, .garbage (fun _ => 0), .tau, .tau]

/-- Thread `t` calls `startClient`, which connects the socket `s` at the first
address. -/
def startClientRun (t : Tid) (a : ClientArgs) (s : SRTSOCKET) : List (Tid × Input) :=
  schedule t
    ([.call (.startClient a), .tau, .tau, .answer s] ++
      a.options.map (fun _ => .answer 0) ++
      [.tau, .addresses 0 1, .answer 0, .tau, .tau])

end SrtNet
