import Mathlib.Logic.Function.Basic
import Mathlib.Data.Multiset.AddSub
import Mathlib.Tactic.Simps.Basic

/-!
# The state of an `SRTNet` object and of the threads inside it

`srt_net/srt_net.cpp` is executed by three kinds of threads: application
threads calling the public methods, the `worker_thread_` of a session (which
runs `waitForSRTClient` in server mode and `clientWorker` in client mode), and
the `event_thread_` of a server session (`serverEventHandler`).  The state
below holds the fields of the object under their own names, one program
counter per thread, the part of SRT's state that the code depends on, and the
history of the calls whose order the theorems speak about.

Granularity.  An atomic step is one SRT call together with the thread-local
code around it, one access to a shared field, or one critical section under
`client_list_mtx_`.  A critical section that invokes a user callback is cut at
the callback, because the callback may block: the mutex stays owned while the
thread is inside the callback.

Field accesses are sequentially consistent; the message buffers, the log lines
and the `SRT_MSGCTRL` records are left out.
-/

namespace SrtNet

/-- An SRT socket id; `SRT_INVALID_SOCK` is `-1`. -/
abbrev SRTSOCKET := Int

/-- The error answer of the SRT C API. -/
def SRT_ERROR : Int := -1

/-- `SRTNet::MAX_WORKERS`, the length of the `ready` array. -/
def MAX_WORKERS : Nat := 20

/-- The capacity `serverEventHandler` passes to `srt_epoll_uwait`. -/
def UWAIT_CAPACITY : Nat := 5

/-- The identity of a `NetworkConnection` object; a null `shared_ptr` is `none`
in `Option Context`. -/
abbrev Context := Nat

/-- `SRTNet::Mode`. -/
inductive Mode
  | unknown
  | server
  | client
  deriving DecidableEq

/-- Which of the four public `std::function` members are set. -/
structure Callbacks where
  clientConnected : Bool
  receivedData : Bool
  receivedDataNoCopy : Bool
  clientDisconnected : Bool

/-- Threads.  Sessions are numbered from one; session `k` owns at most the two
threads `worker k` and `event k`. -/
inductive Tid
  | app (n : Nat)
  | worker (k : Nat)
  | event (k : Nat)
  deriving DecidableEq

/-! ## Arguments of the start calls -/

/-- The options the start calls pass to `srt_setsockflag`. -/
inductive SockFlag
  | RCVSYN
  | SENDER
  | LATENCY
  | LOSSMAXTTL
  | OHEADBW
  | PAYLOADSIZE
  | PBKEYLEN
  | PASSPHRASE

/-- One `srt_setsockflag` call: the option and the value handed over. -/
inductive SockOpt
  | int (flag : SockFlag) (value : Int)
  | str (flag : SockFlag) (value : String)

/-- The arguments of `startServer`. -/
structure ServerArgs where
  ip : String
  port : UInt16
  reorder : Int
  latency : Int
  overhead : Int
  mtu : Int
  psk : String
  ctx : Option Context

/-- The arguments of `startClient`. -/
structure ClientArgs where
  host : String
  port : UInt16
  reorder : Int
  latency : Int
  overhead : Int
  ctx : Option Context
  mtu : Int
  psk : String

/-- The encryption options, set only for a nonempty passphrase. -/
def pskOptions (psk : String) : List SockOpt :=
  if psk.length ≠ 0 then [.int .PBKEYLEN 16, .str .PASSPHRASE psk] else []

/-- The options `startServer` sets, in order. -/
def ServerArgs.options (a : ServerArgs) : List SockOpt :=
  [.int .RCVSYN 1, .int .LATENCY a.latency, .int .LOSSMAXTTL a.reorder,
    .int .OHEADBW a.overhead, .int .PAYLOADSIZE a.mtu] ++ pskOptions a.psk

/-- The options `startClient` sets, in order. -/
def ClientArgs.options (a : ClientArgs) : List SockOpt :=
  [.int .SENDER 1, .int .LATENCY a.latency, .int .LOSSMAXTTL a.reorder,
    .int .OHEADBW a.overhead, .int .PAYLOADSIZE a.mtu] ++ pskOptions a.psk

/-- `AF_INET` or `AF_INET6`. -/
inductive Family
  | inet
  | inet6

/-- A start call in progress, with its arguments; `ipType` is the local
variable of that name in `startServer`. -/
inductive StartCall
  | startServer (a : ServerArgs) (ipType : Family)
  | startClient (a : ClientArgs)

/-- The `return` statement through which a start call leaves. -/
inductive StartExit
  | started
  | modeSet
  | noCallback
  | createFailed
  | ptonFailed
  | flagFailed (o : SockOpt)
  | bindFailed
  | listenFailed
  | resolveFailed
  | connectFailed

/-- The value a start call returns. -/
def StartExit.value : StartExit → Bool
  | .started => true
  | _ => false

/-! ## Program counters -/

/-- `startServer` and `startClient`.  `obtained` is the socket that
`srt_create_socket` gave to this call. -/
inductive StartPc
  | resolve
  | lock
  | check
  | create
  | pton
  | setFlags (todo : List SockOpt)
  | bind
  | listen
  | getaddrinfo
  | connect (result : Int) (addresses : Nat)
  | closeAndFail (exit : StartExit)
  | publish
  | ret (exit : StartExit) (obtained : Option SRTSOCKET)

/-- `stop`.  `result` is the local variable holding the answer of
`srt_close(context_)`, absent while the call has not been made. -/
inductive StopPc
  | lock
  | readMode
  | srtClose (mode : Mode)
  | joinWorker (mode : Mode) (result : Option Int)
  | joinEvent (result : Option Int)
  | ret (result : Option Int)

/-- `getStatistics`. -/
inductive StatsPc
  | lock (targetSystem : SRTSOCKET)
  | body (targetSystem : SRTSOCKET)

/-- Inside a user callback: in the application's own code, or inside a
`getStatistics` call the callback makes. -/
inductive CallbackPc
  | user
  | stats (pc : StatsPc)

/-- `getActiveClients`. -/
inductive ViewPc
  | lock
  | body

/-- `closeAllClientSockets`; `rest` is what its loop has not visited yet. -/
inductive SweepPc
  | lock
  | next (rest : List (SRTSOCKET × Context))

/-- The two callers of `closeAllClientSockets`.  `dtor` tells whether the
`stop` was called by `~SRTNet`. -/
inductive SweepCaller
  | stop (dtor : Bool) (result : Option Int)
  | waitForSRTClient

/-- `waitForSRTClient`, outside of `closeAllClientSockets` and of the
`clientConnected` callback. -/
inductive AcceptPc
  | epollCreate
  | epollSet
  | spawn
  | head
  | accept
  | insert (s : SRTSOCKET) (c : Context)
  | refuse (s : SRTSOCKET)

/-- The inner loop of `serverEventHandler`: the `ready` array, the loop bound
`ret` and the index `i`.  `filled` counts the slots the last
`srt_epoll_uwait` wrote. -/
structure Batch where
  ready : List SRTSOCKET
  filled : Nat
  ret : Nat
  i : Nat

/-- `ready[i].fd`. -/
def Batch.thisSocket (b : Batch) : SRTSOCKET :=
  b.ready.getD b.i 0

/-- `serverEventHandler`. -/
inductive EventPc
  | head (ready : List SRTSOCKET)
  | uwait (ready : List SRTSOCKET)
  | recv (b : Batch)
  | handle (b : Batch) (result : Int)
  | release

/-- `clientWorker`. -/
inductive WorkerPc
  | head
  | recv
  | exit

/-- The places that invoke a user callback. -/
inductive CallbackSite
  | clientConnected (s : SRTSOCKET)
  | sweep (caller : SweepCaller) (rest : List (SRTSOCKET × Context))
  | event (b : Batch)
  | clientData
  | clientReport

/-- Where a thread is.  `idle` is an application thread outside the object, or
a session thread that has not been created. -/
inductive Pc
  | idle
  | start (call : StartCall) (pc : StartPc)
  | stop (dtor : Bool) (pc : StopPc)
  | getStatistics (pc : StatsPc)
  | getActiveClients (pc : ViewPc)
  | closeAllClientSockets (caller : SweepCaller) (pc : SweepPc)
  | waitForSRTClient (pc : AcceptPc)
  | serverEventHandler (pc : EventPc)
  | clientWorker (pc : WorkerPc)
  | callback (site : CallbackSite) (pc : CallbackPc)
  | finished

/-! ## History and shared state -/

/-- The calls a run leaves in its history. -/
inductive Event
  /-- A start call succeeded: a new session begins. -/
  | sessionStart (mode : Mode)
  | srtCreateSocket (s : SRTSOCKET)
  | srtAccept (s : SRTSOCKET)
  | srtClose (s : SRTSOCKET) (result : Int)
  /-- POSIX `close`, which knows nothing of SRT socket ids. -/
  | close (s : SRTSOCKET)
  /-- `clientConnected` was invoked for `s` and returned `c`. -/
  | clientConnected (s : SRTSOCKET) (c : Option Context)
  /-- `receivedData` or `receivedDataNoCopy` was invoked in the given mode. -/
  | received (mode : Mode) (c : Option Context) (s : SRTSOCKET)
  /-- `clientDisconnected` was invoked in the given mode. -/
  | clientDisconnected (mode : Mode) (c : Option Context) (s : SRTSOCKET)
  deriving DecidableEq

/-- Ways for the object to stop moving. -/
inductive Halt
  /-- A `std::thread` was assigned onto a joinable one: `std::terminate`. -/
  | assignedJoinable
  /-- A joinable `std::thread` was destroyed: `std::terminate`. -/
  | destroyedJoinable
  /-- `client_list_.end()` was dereferenced. -/
  | endIteratorRead
  /-- The object was destroyed regularly. -/
  | destroyed
  deriving DecidableEq

/-- The object, its threads, SRT's epoll tables and the history (newest call
first). -/
structure State where
  serverActive : Bool
  clientActive : Bool
  workerThread : Option Tid
  eventThread : Option Tid
  context : SRTSOCKET
  pollId : Int
  netMtx : Option Tid
  currentMode : Mode
  clientList : Std.TreeMap SRTSOCKET Context
  clientListMtx : Option Tid
  clientContext : Option Context
  connectionContext : Option Context
  /-- The program counter of every thread. -/
  pc : Tid → Pc
  /-- The number of sessions started so far. -/
  session : Nat
  /-- The epoll ids that exist in SRT. -/
  epolls : List Int
  /-- The subscriptions `(epoll id, socket)` that exist in SRT. -/
  subs : List (Int × SRTSOCKET)
  trace : List Event
  halted : Option Halt

/-- A constructed object. -/
def State.init : State where
  serverActive := false
  clientActive := false
  workerThread := none
  eventThread := none
  context := 0
  pollId := 0
  netMtx := none
  currentMode := .unknown
  clientList := ∅
  clientListMtx := none
  clientContext := none
  connectionContext := none
  pc := fun _ => .idle
  session := 0
  epolls := []
  subs := []
  trace := []
  halted := none

namespace State

/-- Thread `t` moves to `p`. -/
@[simps]
def goto (σ : State) (t : Tid) (p : Pc) : State :=
  { σ with pc := Function.update σ.pc t p }

/-- A call enters the history. -/
@[simps]
def emit (σ : State) (e : Event) : State :=
  { σ with trace := e :: σ.trace }

/-- `srt_close(s)` answering `r`.  Closing a socket ends its epoll
subscriptions. -/
@[simps]
def srtClose (σ : State) (s : SRTSOCKET) (r : Int) : State :=
  { σ with
    trace := .srtClose s r :: σ.trace
    subs := σ.subs.filter (fun sub => sub.2 ≠ s) }

/-- The socket ids SRT has handed out. -/
def sockets (σ : State) : List SRTSOCKET :=
  σ.trace.filterMap fun
    | .srtCreateSocket s => some s
    | .srtAccept s => some s
    | _ => none

/-- SRT may hand out `s`: ids are positive and not in use already. -/
def fresh (σ : State) (s : SRTSOCKET) : Prop :=
  0 < s ∧ s ∉ σ.sockets

instance (σ : State) (s : SRTSOCKET) : Decidable (σ.fresh s) :=
  inferInstanceAs (Decidable (0 < s ∧ s ∉ σ.sockets))

end State

end SrtNet
