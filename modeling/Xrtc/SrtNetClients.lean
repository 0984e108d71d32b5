import Xrtc.Custody
import Xrtc.SrtNetSockets

/-!
# What becomes of an accepted client

The server's clients pass through three threads and two mutexes.  Their
bookkeeping is a custody balance: sockets enter when `srt_accept` returns them
and are released by `srt_close`; clients enter when `clientConnected` admits
them and are released by a `clientDisconnected` report.  In between they are in
the hands of the accept loop or live in `client_list_`.
-/

namespace SrtNet

open Custody

/-! ## Where a client is -/

/-- What the accept loop has in its hands. -/
inductive Stage
  | nothing
  | connecting (s : SRTSOCKET)
  | inserting (s : SRTSOCKET) (c : Context)
  | refusing (s : SRTSOCKET)

/-- The socket `clientConnected` is deciding about. -/
def Stage.undecided : Stage → List SRTSOCKET
  | .connecting s => [s]
  | _ => []

/-- The client waiting to be inserted into `client_list_`. -/
def Stage.pending : Stage → List (SRTSOCKET × Context)
  | .inserting s c => [(s, c)]
  | _ => []

/-- The accepted socket that is neither in `client_list_` nor given up. -/
def Stage.inHand : Stage → List SRTSOCKET
  | .nothing => []
  | .connecting s => [s]
  | .inserting s _ => [s]
  | .refusing s => [s]

/-- What the accept loop has in its hands at a program counter. -/
def Pc.stage : Pc → Stage
  | .callback (.clientConnected s) _ => .connecting s
  | .waitForSRTClient (.insert s c) => .inserting s c
  | .waitForSRTClient (.refuse s) => .refusing s
  | _ => .nothing

/-- The entries a `closeAllClientSockets` in progress has not visited. -/
def Pc.sweepRest : Pc → Option (List (SRTSOCKET × Context))
  | .closeAllClientSockets _ (.next rest) => some rest
  | .callback (.sweep _ rest) _ => some rest
  | _ => none

/-- The client admitted by a `clientConnected` call. -/
def Event.admitted : Event → Option (SRTSOCKET × Context)
  | .clientConnected s (some c) => some (s, c)
  | _ => none

/-- The socket a `clientConnected` call decided about. -/
def Event.decided : Event → Option SRTSOCKET
  | .clientConnected s _ => some s
  | _ => none

/-- The client a server session reported as disconnected. -/
def Event.reported : Event → Option (SRTSOCKET × Context)
  | .clientDisconnected .server (some c) s => some (s, c)
  | _ => none

/-- The socket passed to POSIX `close`. -/
def Event.dropped : Event → Option SRTSOCKET
  | .close s => some s
  | _ => none

/-- The history as far as clients are concerned. -/
structure Books where
  accepted : List SRTSOCKET
  decided : List SRTSOCKET
  closes : List SRTSOCKET
  dropped : List SRTSOCKET
  admitted : List (SRTSOCKET × Context)
  reported : List (SRTSOCKET × Context)

/-- A client is closed, and reported if `clientDisconnected` is set. -/
def Books.retire (cb : Callbacks) (b : Books) (a : SRTSOCKET × Context) : Books :=
  { b with
    closes := a.1 :: b.closes
    reported := if cb.clientDisconnected then a :: b.reported else b.reported }

/-- The clients, with the history and the subscriptions that concern them. -/
structure ClientView where
  session : Nat
  clientList : Std.TreeMap SRTSOCKET Context
  books : Books
  created : List SRTSOCKET
  subs : List (Int × SRTSOCKET)

namespace State

/-- The sockets `clientConnected` decided about. -/
def decided (σ : State) : List SRTSOCKET := σ.trace.filterMap Event.decided

/-- The sockets passed to POSIX `close`. -/
def dropped (σ : State) : List SRTSOCKET := σ.trace.filterMap Event.dropped

/-- The clients `clientConnected` admitted. -/
def admitted (σ : State) : List (SRTSOCKET × Context) := σ.trace.filterMap Event.admitted

/-- The clients a server session reported as disconnected. -/
def reported (σ : State) : List (SRTSOCKET × Context) := σ.trace.filterMap Event.reported

/-- The history as far as clients are concerned. -/
def books (σ : State) : Books where
  accepted := σ.accepted
  decided := σ.decided
  closes := σ.closes
  dropped := σ.dropped
  admitted := σ.admitted
  reported := σ.reported

/-- What the newest session's accept loop has in its hands. -/
def stage (σ : State) : Stage := (σ.pc (.worker σ.session)).stage

/-- The entries the `closeAllClientSockets` in progress has not visited. -/
def sweepRest (σ : State) : Option (List (SRTSOCKET × Context)) :=
  σ.clientListMtx.bind (fun t => (σ.pc t).sweepRest)

/-- The clients in `client_list_`, less those a `closeAllClientSockets` in
progress has dealt with already. -/
def live (σ : State) : List (SRTSOCKET × Context) :=
  σ.sweepRest.getD σ.clientList.toList

/-- What most moves leave alone, as far as clients are concerned. -/
def clientView (σ : State) : ClientView where
  session := σ.session
  clientList := σ.clientList
  books := σ.books
  created := σ.created
  subs := σ.subs

end State

/-! ## What a move does to the clients -/

/-- The list, its visit in progress and the created sockets stay; at most
subscriptions are lost. -/
structure Kept (σ σ' : State) : Prop where
  created : ∀ s ∈ σ.created, s ∈ σ'.created
  subs : ∀ sub ∈ σ'.subs, sub ∈ σ.subs
  list : σ'.clientList = σ.clientList
  sweepRest : σ'.sweepRest = σ.sweepRest

/-- Only the accept loop's hands, the list, its visit in progress and the
subscriptions change. -/
inductive Effect (cb : Callbacks) (σ σ' : State) : Prop
  | quiet (hk : Kept σ σ') (hstage : σ'.stage = σ.stage) (hbooks : σ'.books = σ.books)
  /-- The object closes a socket it created. -/
  | foreign (hk : Kept σ σ') (hstage : σ'.stage = σ.stage) (s : SRTSOCKET)
      (hs : s ∈ σ.created)
      (hbooks : σ'.books = { σ.books with closes := s :: σ.books.closes })
  /-- `srt_accept` returns a socket. -/
  | accept (hk : Kept σ σ') (s : SRTSOCKET)
      (hstage : σ.stage = .nothing ∧ σ'.stage = .connecting s)
      (hbooks : σ'.books = { σ.books with accepted := s :: σ.books.accepted })
  /-- `clientConnected` returns a context. -/
  | connect (hk : Kept σ σ') (s : SRTSOCKET) (c : Context)
      (hstage : σ.stage = .connecting s ∧ σ'.stage = .inserting s c)
      (hbooks : σ'.books = { σ.books with
        decided := s :: σ.books.decided, admitted := (s, c) :: σ.books.admitted })
  /-- `clientConnected` returns a null pointer. -/
  | reject (hk : Kept σ σ') (s : SRTSOCKET)
      (hstage : σ.stage = .connecting s ∧ σ'.stage = .refusing s)
      (hbooks : σ'.books = { σ.books with decided := s :: σ.books.decided })
  /-- A refused socket goes to POSIX `close`. -/
  | refuse (hk : Kept σ σ') (s : SRTSOCKET)
      (hstage : σ.stage = .refusing s ∧ σ'.stage = .nothing)
      (hbooks : σ'.books = { σ.books with dropped := s :: σ.books.dropped })
  | insert (s : SRTSOCKET) (c : Context)
      (hstage : σ.stage = .inserting s c ∧ σ'.stage = .nothing)
      (hsweep : σ.sweepRest = none ∧ σ'.sweepRest = none)
      (hlist : σ'.clientList = σ.clientList.insert s c)
      (hsubs : ∀ sub ∈ σ'.subs, sub ∈ σ.subs ∨ sub.2 = s)
      (hcreated : σ'.created = σ.created) (hbooks : σ'.books = σ.books)
  /-- `closeAllClientSockets` begins to visit the entries. -/
  | sweepLock (hstage : σ'.stage = σ.stage)
      (hsweep : σ.sweepRest = none ∧ σ'.sweepRest = some σ.clientList.toList)
      (hlist : σ'.clientList = σ.clientList) (hsubs : σ'.subs = σ.subs)
      (hcreated : σ'.created = σ.created) (hbooks : σ'.books = σ.books)
  | visit (a : SRTSOCKET × Context) (rest : List (SRTSOCKET × Context))
      (hstage : σ'.stage = σ.stage)
      (hsweep : σ.sweepRest = some (a :: rest) ∧ σ'.sweepRest = some rest)
      (hlist : σ'.clientList = σ.clientList)
      (hsubs : ∀ sub ∈ σ'.subs, sub ∈ σ.subs ∧ sub.2 ≠ a.1)
      (hcreated : σ'.created = σ.created) (hbooks : σ'.books = σ.books.retire cb a)
  /-- `closeAllClientSockets` clears the list after its last visit. -/
  | sweepClear (hstage : σ'.stage = σ.stage)
      (hsweep : σ.sweepRest = some [] ∧ σ'.sweepRest = none)
      (hlist : σ'.clientList = ∅) (hsubs : σ'.subs = σ.subs)
      (hcreated : σ'.created = σ.created) (hbooks : σ'.books = σ.books)
  /-- The event thread removes a client after a receive error. -/
  | evict (s : SRTSOCKET) (c : Context) (hstage : σ'.stage = σ.stage)
      (hsweep : σ.sweepRest = none ∧ σ'.sweepRest = none)
      (hfind : σ.clientList[s]? = some c) (hlist : σ'.clientList = σ.clientList.erase s)
      (hsubs : ∀ sub ∈ σ'.subs, sub ∈ σ.subs ∧ sub.2 ≠ s)
      (hcreated : σ'.created = σ.created) (hbooks : σ'.books = σ.books.retire cb (s, c))

section

variable {cb : Callbacks} {σ σ' : State} {t : Tid} {i : Input}

theorem stage_update {pc : Tid → Pc} {u : Tid} {q : Pc} (hq : q.stage = (pc t).stage) :
    (Function.update pc t q u).stage = (pc u).stage := by
  by_cases hu : u = t
  · subst hu
    simpa using hq
  · rw [Function.update_of_ne hu]

theorem sweepRest_update {pc : Tid → Pc} {u : Tid} {q : Pc}
    (hq : q.sweepRest = (pc t).sweepRest) :
    (Function.update pc t q u).sweepRest = (pc u).sweepRest := by
  by_cases hu : u = t
  · subst hu
    simpa using hq
  · rw [Function.update_of_ne hu]

/-- The accept loop belongs to the newest session. -/
theorem stage_eq (hlife : Lifecycle σ) (ht : Threads σ) {p : Pc} (hp : σ.pc t = p)
    (hkind : p.kind = .accept) : t = .worker σ.session ∧ σ.stage = p.stage := by
  have hsession := hlife.session_eq ht (t := t) (.inr (.inr (.inl (by rw [hp, hkind]))))
  have hruns := ht.runs t
  rw [hp, hkind] at hruns
  cases t with
  | worker k =>
      obtain rfl := Option.some.inj hsession
      exact ⟨rfl, by rw [State.stage, hp]⟩
  | _ => simp [Tid.runs] at hruns

/-- Without a worker nothing is in the accept loop's hands. -/
theorem stage_nothing (hlife : Lifecycle σ) (hw : σ.workerThread = none) :
    σ.stage = .nothing := by
  have hkind := (hlife.no_worker hw σ.session).1
  cases hp : σ.pc (.worker σ.session) with
  | waitForSRTClient pc => simp [hp, Pc.kind] at hkind
  | callback site pc =>
      cases site with
      | clientConnected s => simp [hp, Pc.kind, CallbackSite.kind] at hkind
      | _ => simp [State.stage, hp, Pc.stage]
  | _ => simp [State.stage, hp, Pc.stage]

theorem sweepRest_of_free (hfree : σ.clientListMtx = none) : σ.sweepRest = none := by
  simp [State.sweepRest, hfree]

/-- A thread inside `client_list_mtx_` decides whether entries are being
visited. -/
theorem sweepRest_of_depth (hl : Locks σ) {p : Pc} (hp : σ.pc t = p)
    (hdepth : p.listDepth ≠ 0) : σ.sweepRest = p.sweepRest := by
  have howner : σ.clientListMtx = some t := hl.list.eq_some (by rwa [hp])
  simp [State.sweepRest, howner, hp]

/-- After a move into `client_list_mtx_`. -/
theorem sweepRest_of_owner {q : Pc} {rest : Option (List (SRTSOCKET × Context))}
    (hpc : σ'.pc = Function.update σ.pc t q) (hmtx : σ'.clientListMtx = some t)
    (hq : q.sweepRest = rest) : σ'.sweepRest = rest := by
  simp [State.sweepRest, hmtx, hpc, hq]

theorem Silent.client {p p' : Pc} (h : Silent p p') :
    p'.stage = p.stage ∧ p'.sweepRest = p.sweepRest := by
  cases h with
  | lockFree site => exact ⟨rfl, rfl⟩
  | _ => exact ⟨rfl, rfl⟩

theorem callback_client (site : CallbackSite) (pc pc' : CallbackPc) :
    (Pc.callback site pc').stage = (Pc.callback site pc).stage ∧
      (Pc.callback site pc').sweepRest = (Pc.callback site pc).sweepRest := by
  cases site <;> exact ⟨rfl, rfl⟩

theorem TakesNet.client {p p' : Pc} (h : TakesNet p p') :
    p'.stage = p.stage ∧ p'.sweepRest = p.sweepRest := by
  cases h with
  | callback site => exact callback_client site _ _
  | _ => exact ⟨rfl, rfl⟩

theorem DropsNet.client {p p' : Pc} (h : DropsNet p p') :
    p'.stage = p.stage ∧ p'.sweepRest = p.sweepRest := by
  cases h with
  | callback site => exact callback_client site _ _
  | _ => exact ⟨rfl, rfl⟩

theorem afterClose_client (dtor : Bool) (result : Option Int) (mode : Mode) :
    (afterClose dtor result mode).stage = .nothing ∧
      (afterClose dtor result mode).sweepRest = none := by
  cases mode <;> exact ⟨rfl, rfl⟩

/-- Moves of one thread that touch neither the list nor its mutex. -/
theorem kept_of_update {q : Pc} (hpc : σ'.pc = Function.update σ.pc t q)
    (hq : q.sweepRest = (σ.pc t).sweepRest) (hmtx : σ'.clientListMtx = σ.clientListMtx)
    (hcreated : ∀ s ∈ σ.created, s ∈ σ'.created) (hsubs : ∀ sub ∈ σ'.subs, sub ∈ σ.subs)
    (hlist : σ'.clientList = σ.clientList) : Kept σ σ' := by
  refine ⟨hcreated, hsubs, hlist, ?_⟩
  rw [State.sweepRest, hpc, hmtx]
  simp only [sweepRest_update hq]
  rfl

theorem stage_of_update {q : Pc} (hpc : σ'.pc = Function.update σ.pc t q)
    (hq : q.stage = (σ.pc t).stage) (hsession : σ'.session = σ.session) :
    σ'.stage = σ.stage := by
  rw [State.stage, hpc, hsession]
  exact stage_update hq

/-- The accept loop takes something into its hands or out of them. -/
theorem stage_of_hand (hlife : Lifecycle σ) (ht : Threads σ) {p q : Pc} {a b : Stage}
    (hp : σ.pc t = p) (hkind : p.kind = .accept) (hpc : σ'.pc = Function.update σ.pc t q)
    (hsession : σ'.session = σ.session) (hpq : p.stage = a ∧ q.stage = b) :
    σ.stage = a ∧ σ'.stage = b := by
  obtain ⟨rfl, hstage⟩ := stage_eq hlife ht hp hkind
  exact ⟨hstage.trans hpq.1, by rw [State.stage, hpc, hsession, Function.update_self, hpq.2]⟩

/-- The same clients, and the same entries being visited. -/
theorem Effect.of_view (hview : σ'.clientView = σ.clientView)
    (hsweep : σ'.sweepRest = σ.sweepRest) (hstage : σ'.stage = σ.stage) : Effect cb σ σ' := by
  have hcreated : σ'.created = σ.created := congrArg ClientView.created hview
  have hsubs : σ'.subs = σ.subs := congrArg ClientView.subs hview
  have hlist : σ'.clientList = σ.clientList := congrArg ClientView.clientList hview
  exact .quiet ⟨fun s hs => hcreated ▸ hs, fun sub hs => hsubs ▸ hs, hlist, hsweep⟩ hstage
    (congrArg ClientView.books hview)

/-- A thread moves between places that look the same to the clients. -/
theorem Effect.local {q : Pc} (hpc : σ'.pc = Function.update σ.pc t q)
    (hview : σ'.clientView = σ.clientView) (hmtx : σ'.clientListMtx = σ.clientListMtx)
    (hq : q.stage = (σ.pc t).stage ∧ q.sweepRest = (σ.pc t).sweepRest) : Effect cb σ σ' := by
  refine .of_view hview ?_ (stage_of_update hpc hq.1 (congrArg ClientView.session hview))
  rw [State.sweepRest, hpc, hmtx]
  simp only [sweepRest_update hq.2]
  rfl

/-- A thread locks `client_list_mtx_` to look at the list. -/
theorem Effect.look (hfree : σ.clientListMtx = none) {q : Pc}
    (hpc : σ'.pc = Function.update σ.pc t q) (hview : σ'.clientView = σ.clientView)
    (hmtx : σ'.clientListMtx = some t)
    (hq : q.stage = (σ.pc t).stage ∧ q.sweepRest = none) : Effect cb σ σ' := by
  refine .of_view hview ?_ (stage_of_update hpc hq.1 (congrArg ClientView.session hview))
  rw [sweepRest_of_free hfree]
  exact sweepRest_of_owner hpc hmtx hq.2

/-- A thread that looked at the list unlocks `client_list_mtx_`. -/
theorem Effect.looked (hl : Locks σ) {p q : Pc} (hp : σ.pc t = p)
    (hdepth : p.listDepth ≠ 0) (hpc : σ'.pc = Function.update σ.pc t q)
    (hview : σ'.clientView = σ.clientView) (hmtx : σ'.clientListMtx = none)
    (hq : q.stage = p.stage ∧ p.sweepRest = none) : Effect cb σ σ' := by
  have hstage := stage_of_update (σ := σ) hpc (by rw [hp, hq.1])
    (congrArg ClientView.session hview)
  refine .of_view hview ?_ hstage
  rw [sweepRest_of_free hmtx, sweepRest_of_depth hl hp hdepth, hq.2]

/-- The object closes its own socket. -/
theorem Effect.closeContext (hsock : Sockets σ)
    (hcontext : σ.currentMode ≠ .unknown ∨ (σ.pc t).working = true) {q : Pc}
    (hpc : σ'.pc = Function.update σ.pc t q)
    (hq : q.stage = (σ.pc t).stage ∧ q.sweepRest = (σ.pc t).sweepRest)
    (hsession : σ'.session = σ.session) (hmtx : σ'.clientListMtx = σ.clientListMtx)
    (hlist : σ'.clientList = σ.clientList) (hcreated : σ'.created = σ.created)
    (hsubs : σ'.subs = σ.subs.filter (fun sub => sub.2 ≠ σ.context))
    (hbooks : σ'.books = { σ.books with closes := σ.context :: σ.books.closes }) :
    Effect cb σ σ' := by
  refine .foreign (kept_of_update hpc hq.2 hmtx (fun s hs => hcreated ▸ hs) ?_ hlist)
    (stage_of_update hpc hq.1 hsession) σ.context ?_ hbooks
  · intro sub hsub
    rw [hsubs] at hsub
    exact List.mem_of_mem_filter hsub
  · exact hsock.context (hcontext.imp_right fun hw => ⟨t, hw⟩)

/-- A start call publishes a session: there was no accept loop, and the new one
has nothing in its hands. -/
theorem Effect.publish (ht : Threads σ) (hlife : Lifecycle σ) {call : StartCall} {p q : Pc}
    (hp : σ.pc t = .start call .publish) (hfree : σ.workerThread = none)
    (hpc : σ'.pc = Function.update (Function.update σ.pc (.worker (σ.session + 1)) p) t q)
    (hpq : p.stage = .nothing ∧ p.sweepRest = none ∧ q.sweepRest = none)
    (hsession : σ'.session = σ.session + 1) (hlist : σ'.clientList = σ.clientList)
    (hmtx : σ'.clientListMtx = σ.clientListMtx) (hbooks : σ'.books = σ.books)
    (hcreated : σ'.created = σ.created) (hsubs : σ'.subs = σ.subs) : Effect cb σ σ' := by
  have hidle : σ.pc (.worker (σ.session + 1)) = .idle := (ht.unborn _ (by omega)).1
  have hne : t ≠ .worker (σ.session + 1) := by
    rintro rfl
    simp [hidle] at hp
  refine .quiet ⟨fun s hs => hcreated ▸ hs, fun sub hs => hsubs ▸ hs, hlist, ?_⟩ ?_ hbooks
  · have hq : q.sweepRest =
        (Function.update σ.pc (.worker (σ.session + 1)) p t).sweepRest := by
      rw [Function.update_of_ne hne, hp, hpq.2.2]
      rfl
    have hp' : p.sweepRest = (σ.pc (.worker (σ.session + 1))).sweepRest := by
      rw [hidle, hpq.2.1]
      rfl
    rw [State.sweepRest, hpc, hmtx]
    simp only [sweepRest_update hq, sweepRest_update hp']
    rfl
  · rw [stage_nothing hlife hfree, State.stage, hpc, hsession, Function.update_of_ne hne.symm,
      Function.update_self, hpq.1]

/-- A thread is created by one that looks the same to the clients before and
after. -/
theorem Effect.spawn {w : Tid} {p q : Pc}
    (hpc : σ'.pc = Function.update (Function.update σ.pc w p) t q) (hne : t ≠ w)
    (hview : σ'.clientView = σ.clientView) (hmtx : σ'.clientListMtx = σ.clientListMtx)
    (hp : p.stage = (σ.pc w).stage ∧ p.sweepRest = (σ.pc w).sweepRest)
    (hq : q.stage = (σ.pc t).stage ∧ q.sweepRest = (σ.pc t).sweepRest) : Effect cb σ σ' := by
  have hq' : q.stage = (Function.update σ.pc w p t).stage ∧
      q.sweepRest = (Function.update σ.pc w p t).sweepRest := by
    rwa [Function.update_of_ne hne]
  have hsession : σ'.session = σ.session := congrArg ClientView.session hview
  refine .of_view hview ?_ ?_
  · rw [State.sweepRest, hpc, hmtx]
    simp only [sweepRest_update hq'.2, sweepRest_update hp.2]
    rfl
  · rw [State.stage, hpc, hsession, stage_update hq'.1, stage_update hp.1]
    rfl

/-- The subscriptions of a socket end with it. -/
theorem mem_subs_srtClose {s : SRTSOCKET} {sub : Int × SRTSOCKET}
    {subs : List (Int × SRTSOCKET)} (h : sub ∈ subs.filter (fun sub => sub.2 ≠ s)) :
    sub ∈ subs ∧ sub.2 ≠ s := by
  simpa using h

/-- Every move has one of the listed effects. -/
theorem Move.effect (hl : Locks σ) (ht : Threads σ) (hlife : Lifecycle σ)
    (hsock : Sockets σ) (hm : Move cb σ t i σ') : Effect cb σ σ' := by
  cases hm with
  | silent hp hs =>
      exact .local rfl rfl rfl (hp ▸ hs.client)
  | enter c hp =>
      exact .local rfl rfl rfl (by rw [hp]; cases c <;> exact ⟨rfl, rfl⟩)
  | askStatistics hp =>
      exact .local rfl rfl rfl (hp ▸ callback_client _ _ _)
  | takeNet hp hs hfree =>
      exact .local rfl rfl rfl (hp ▸ hs.client)
  | dropNet hp hs =>
      exact .local rfl rfl rfl (hp ▸ hs.client)
  | takeView hp hfree =>
      exact .look hfree rfl rfl rfl (by rw [hp]; exact ⟨rfl, rfl⟩)
  | dropView hp =>
      exact .looked hl hp (by simp [Pc.listDepth]) rfl rfl rfl ⟨rfl, rfl⟩
  | create hp hpc hs =>
      exact .quiet (kept_of_update rfl (by rw [hp]; rfl) rfl
        (fun _ h => List.mem_cons_of_mem _ h) (fun _ h => h) rfl)
          (stage_of_update rfl (by rw [hp]; rfl) rfl) rfl
  | startClose r hp =>
      exact .closeContext hsock (.inr (by rw [hp]; rfl)) rfl (by rw [hp]; exact ⟨rfl, rfl⟩)
        rfl rfl rfl rfl rfl rfl
  | publishServer hp hfree =>
      exact .publish ht hlife hp hfree rfl ⟨rfl, rfl, rfl⟩ rfl rfl rfl rfl rfl rfl
  | publishClient hp hfree =>
      exact .publish ht hlife hp hfree rfl ⟨rfl, rfl, rfl⟩ rfl rfl rfl rfl rfl rfl
  | publishFault server client mode hp hjoinable =>
      exact .of_view rfl rfl rfl
  | stopCloseFail hp hi =>
      exact .closeContext hsock (.inl ((hlife.at_close hl hp).ne_unknown)) rfl
        (by rw [hp]; exact ⟨rfl, rfl⟩) rfl rfl rfl rfl rfl rfl
  | stopClose hp hr =>
      exact .closeContext hsock (.inl ((hlife.at_close hl hp).ne_unknown)) rfl
        (by rw [hp]; exact afterClose_client _ _ _) rfl rfl rfl rfl rfl rfl
  | stopSkipClose hp hcontext =>
      exact .local rfl rfl rfl (by rw [hp]; exact afterClose_client _ _ _)
  | sweepLock hp hfree =>
      exact .sweepLock (stage_of_update rfl (by rw [hp]; rfl) rfl)
        ⟨sweepRest_of_free hfree, sweepRest_of_owner rfl rfl rfl⟩ rfl rfl rfl rfl
  | sweepReport r hp hcb =>
      have hdepth := hl.list.eq_some (t := t) (by rw [hp]; simp [Pc.listDepth])
      exact .visit _ _ (stage_of_update rfl (by rw [hp]; rfl) rfl)
        ⟨sweepRest_of_depth hl hp (by simp [Pc.listDepth]), sweepRest_of_owner rfl hdepth rfl⟩ rfl
        (fun _ h => mem_subs_srtClose h) rfl (by rw [Books.retire, hcb]; rfl)
  | sweepQuiet r hp hcb =>
      have hdepth := hl.list.eq_some (t := t) (by rw [hp]; simp [Pc.listDepth])
      exact .visit _ _ (stage_of_update rfl (by rw [hp]; rfl) rfl)
        ⟨sweepRest_of_depth hl hp (by simp [Pc.listDepth]), sweepRest_of_owner rfl hdepth rfl⟩ rfl
        (fun _ h => mem_subs_srtClose h) rfl (by rw [Books.retire, hcb]; rfl)
  | sweepClear hp =>
      rename_i caller
      exact .sweepClear (stage_of_update rfl (by rw [hp]; cases caller <;> rfl) rfl)
        ⟨sweepRest_of_depth hl hp (by simp [Pc.listDepth]), sweepRest_of_free rfl⟩
        rfl rfl rfl rfl
  | spawnEvent ready hp hfree =>
      rename_i k
      have hidle : σ.pc (.event k) = .idle := ht.unspawned k (by rw [hp]; rfl)
      exact .spawn rfl (by simp) rfl rfl (by rw [hidle]; exact ⟨rfl, rfl⟩)
        (by rw [hp]; exact ⟨rfl, rfl⟩)
  | spawnFault hp hjoinable =>
      exact .of_view rfl rfl rfl
  | accept hp hs =>
      exact .accept (kept_of_update rfl (by rw [hp]; rfl) rfl (fun _ h => h) (fun _ h => h) rfl)
        _ (stage_of_hand hlife ht hp rfl rfl rfl ⟨rfl, rfl⟩) rfl
  | connect hp =>
      exact .connect (kept_of_update rfl (by rw [hp]; rfl) rfl (fun _ h => h) (fun _ h => h) rfl)
        _ _ (stage_of_hand hlife ht hp rfl rfl rfl ⟨rfl, rfl⟩) rfl
  | reject hp =>
      exact .reject (kept_of_update rfl (by rw [hp]; rfl) rfl (fun _ h => h) (fun _ h => h) rfl)
        _ (stage_of_hand hlife ht hp rfl rfl rfl ⟨rfl, rfl⟩) rfl
  | insert r hp hfree =>
      refine .insert _ _ (stage_of_hand hlife ht hp rfl rfl rfl ⟨rfl, rfl⟩)
        ⟨sweepRest_of_free hfree, sweepRest_of_free hfree⟩ rfl ?_ rfl rfl
      intro sub hsub
      by_cases hr : r = SRT_ERROR
      · exact .inl (by simpa [hr] using hsub)
      · simp only [State.goto_subs, if_neg hr, List.mem_cons] at hsub
        rcases hsub with rfl | hold
        · exact .inr rfl
        · exact .inl hold
  | refuse hp =>
      exact .refuse (kept_of_update rfl (by rw [hp]; rfl) rfl (fun _ h => h) (fun _ h => h) rfl)
        _ (stage_of_hand hlife ht hp rfl rfl rfl ⟨rfl, rfl⟩) rfl
  | evict r hp hfree hfind hcb =>
      refine .evict _ _ (stage_of_update rfl (by rw [hp]; rfl) rfl)
        ⟨sweepRest_of_free hfree, sweepRest_of_owner rfl rfl rfl⟩ hfind rfl ?_ rfl
        (by rw [Books.retire, hcb]; rfl)
      intro sub hsub
      obtain ⟨hold, hne⟩ := mem_subs_srtClose hsub
      exact ⟨List.mem_of_mem_filter hold, hne⟩
  | evictQuiet r hp hfree hfind hcb =>
      refine .evict _ _ (stage_of_update rfl (by rw [hp]; rfl) rfl)
        ⟨sweepRest_of_free hfree, sweepRest_of_free hfree⟩ hfind rfl ?_ rfl
        (by rw [Books.retire, hcb]; rfl)
      intro sub hsub
      obtain ⟨hold, hne⟩ := mem_subs_srtClose hsub
      exact ⟨List.mem_of_mem_filter hold, hne⟩
  | deliver hp hfree hfind =>
      exact .look hfree rfl rfl rfl (by rw [hp]; exact ⟨rfl, rfl⟩)
  | readEnd hp => exact .of_view rfl rfl rfl
  | eventDone hp =>
      exact .looked hl hp (by simp [Pc.listDepth]) rfl rfl rfl ⟨rfl, rfl⟩
  | epollRelease hp =>
      exact .quiet (kept_of_update rfl (by rw [hp]; rfl) rfl (fun _ h => h)
        (fun _ h => List.mem_of_mem_filter h) rfl)
          (stage_of_update rfl (by rw [hp]; rfl) rfl) rfl
  | _ => exact .local rfl rfl rfl (by simp only [*]; exact ⟨rfl, rfl⟩)

end

/-! ## The balances -/

/-- The custody balances. -/
structure Clients (cb : Callbacks) (σ : State) : Prop where
  decisions : Balanced (fun _ => True) σ.books.accepted σ.stage.undecided σ.books.decided
  sockets : Balanced (fun s => s ∉ σ.created) σ.books.accepted
    (σ.stage.inHand ++ σ.live.map Prod.fst ++ σ.books.dropped) σ.books.closes
  reports : cb.clientDisconnected = true →
    Balanced (fun _ => True) σ.books.admitted (σ.stage.pending ++ σ.live) σ.books.reported
  known : ∀ s ∈ σ.stage.inHand, s ∈ σ.books.accepted
  rest : ∀ rest, σ.sweepRest = some rest → ∀ a ∈ rest, a ∈ σ.clientList.toList

section

variable {cb : Callbacks} {σ σ' : State} {t : Tid} {i : Input}

theorem live_of_none (h : σ.sweepRest = none) : σ.live = σ.clientList.toList := by
  rw [State.live, h]
  rfl

theorem live_of_some {rest : List (SRTSOCKET × Context)} (h : σ.sweepRest = some rest) :
    σ.live = rest := by
  rw [State.live, h]
  rfl

theorem Kept.live (hk : Kept σ σ') : σ'.live = σ.live := by
  rw [State.live, hk.sweepRest, hk.list]
  rfl

theorem Kept.rest (hk : Kept σ σ') (h : Clients cb σ) :
    ∀ rest, σ'.sweepRest = some rest → ∀ a ∈ rest, a ∈ σ'.clientList.toList := by
  rw [hk.sweepRest, hk.list]
  exact h.rest

/-- A socket in the accept loop's hands is not in `client_list_`. -/
theorem Clients.not_mem_of_inHand (h : Clients cb σ) (hsock : Sockets σ)
    (hsweep : σ.sweepRest = none) {s : SRTSOCKET} (hs : s ∈ σ.stage.inHand) :
    s ∉ σ.clientList := by
  have hacc : s ∈ σ.accepted := h.known s hs
  have hplace := h.sockets.one_place (hsock.not_created hacc) hsock.nodup_accepted hacc
  intro hmem
  rw [← mem_map_fst_toList, ← live_of_none hsweep] at hmem
  have hhand := List.count_pos_iff.mpr hs
  have hlive := List.count_pos_iff.mpr hmem
  rcases hplace with ⟨hcount, -⟩ | ⟨hnot, -⟩
  · rw [List.count_append, List.count_append] at hcount
    omega
  · exact hnot (List.mem_append_left _ (List.mem_append_left _ hs))

/-- Moves that rearrange the live clients. -/
theorem Clients.relist (h : Clients cb σ) (hbooks : σ'.books = σ.books)
    (hcreated : ∀ s ∈ σ.created, s ∈ σ'.created) (hstage : σ'.stage = σ.stage)
    (hlive : σ'.live.Perm σ.live)
    (hrest : ∀ rest, σ'.sweepRest = some rest → ∀ a ∈ rest, a ∈ σ'.clientList.toList) :
    Clients cb σ' := by
  obtain ⟨hdecisions, hsockets, hreports, hknown, -⟩ := h
  constructor
  · rw [hbooks, hstage]
    exact hdecisions
  · rw [hbooks, hstage]
    exact (hsockets.keep (((hlive.map Prod.fst).append_left _).append_right _)).restrict
      fun s hs hold => hs (hcreated s hold)
  · rw [hbooks, hstage]
    exact fun hcb => (hreports hcb).keep (hlive.append_left _)
  · rw [hbooks, hstage]
    exact hknown
  · exact hrest

/-- A live client is closed and reported. -/
theorem Clients.retire (h : Clients cb σ) {a : SRTSOCKET × Context}
    (hbooks : σ'.books = σ.books.retire cb a) (hcreated : σ'.created = σ.created)
    (hstage : σ'.stage = σ.stage) (hlive : σ.live.Perm (a :: σ'.live))
    (hrest : ∀ rest, σ'.sweepRest = some rest → ∀ a ∈ rest, a ∈ σ'.clientList.toList) :
    Clients cb σ' := by
  obtain ⟨hdecisions, hsockets, hreports, hknown, -⟩ := h
  constructor
  · rw [hbooks, hstage]
    exact hdecisions
  · rw [hbooks, hstage, hcreated]
    refine hsockets.release ?_
    refine (((hlive.map Prod.fst).append_left _).append_right _).trans ?_
    exact List.perm_middle.append_right _
  · rw [hbooks, hstage]
    intro hcb
    simp only [Books.retire, hcb, if_true]
    exact (hreports hcb).release ((hlive.append_left _).trans List.perm_middle)
  · rw [hbooks, hstage]
    exact hknown
  · exact hrest

/-- The accept loop takes something into its hands or out of them: the balances
follow from what they say about its hands before. -/
theorem Clients.hand (h : Clients cb σ) (hk : Kept σ σ') {a b : Stage}
    (hstage : σ.stage = a ∧ σ'.stage = b)
    (hdecisions : Balanced (fun _ => True) σ.books.accepted a.undecided σ.books.decided →
      Balanced (fun _ => True) σ'.books.accepted b.undecided σ'.books.decided)
    (hsockets : ∀ p l, Balanced p σ.books.accepted (a.inHand ++ l ++ σ.books.dropped)
      σ.books.closes → Balanced p σ'.books.accepted (b.inHand ++ l ++ σ'.books.dropped)
        σ'.books.closes)
    (hreports : ∀ l, Balanced (fun _ => True) σ.books.admitted (a.pending ++ l)
      σ.books.reported → Balanced (fun _ => True) σ'.books.admitted (b.pending ++ l)
        σ'.books.reported)
    (hknown : (∀ s ∈ a.inHand, s ∈ σ.books.accepted) →
      ∀ s ∈ b.inHand, s ∈ σ'.books.accepted) : Clients cb σ' := by
  obtain ⟨rfl, rfl⟩ := hstage
  constructor
  · exact hdecisions h.decisions
  · rw [hk.live]
    exact (hsockets _ _ h.sockets).restrict fun s hs hold => hs (hk.created s hold)
  · rw [hk.live]
    exact fun hcb => hreports _ (h.reports hcb)
  · exact hknown h.known
  · exact hk.rest h

theorem Clients.effect (h : Clients cb σ) (hsock : Sockets σ) (he : Effect cb σ σ') :
    Clients cb σ' := by
  cases he with
  | quiet hk hstage hbooks =>
      exact h.relist hbooks hk.created hstage (hk.live ▸ .refl _) (hk.rest h)
  | foreign hk hstage s hs hbooks =>
      constructor
      · rw [hbooks, hstage]
        exact h.decisions
      · rw [hbooks, hstage, hk.live]
        exact (h.sockets.foreign (by simpa using hs)).restrict
          fun s hs hold => hs (hk.created s hold)
      · rw [hbooks, hstage, hk.live]
        exact h.reports
      · rw [hbooks, hstage]
        exact h.known
      · exact hk.rest h
  | accept hk s hstage hbooks =>
      refine h.hand hk hstage ?_ ?_ ?_ ?_ <;> rw [hbooks]
      · exact fun hb => hb.enter (.refl _)
      · exact fun p l hb => hb.enter (.refl _)
      · exact fun l hb => hb
      · exact fun _ s' hs' => List.mem_cons.mpr (.inl (List.mem_singleton.mp hs'))
  | connect hk s c hstage hbooks =>
      refine h.hand hk hstage ?_ ?_ ?_ ?_ <;> rw [hbooks]
      · exact fun hb => hb.release (.refl _)
      · exact fun p l hb => hb
      · exact fun l hb => hb.enter (.refl _)
      · exact fun hknown => hknown
  | reject hk s hstage hbooks =>
      refine h.hand hk hstage ?_ ?_ ?_ ?_ <;> rw [hbooks]
      · exact fun hb => hb.release (.refl _)
      · exact fun p l hb => hb
      · exact fun l hb => hb
      · exact fun hknown => hknown
  | refuse hk s hstage hbooks =>
      refine h.hand hk hstage ?_ ?_ ?_ ?_ <;> rw [hbooks]
      · exact fun hb => hb
      · exact fun p l hb => hb.keep List.perm_middle
      · exact fun l hb => hb
      · exact fun _ s' hs' => nomatch hs'
  | insert s c hstage hsweep hlist hsubs hcreated hbooks =>
      have hnot : s ∉ σ.clientList :=
        h.not_mem_of_inHand hsock hsweep.1 (by rw [hstage.1]; exact List.mem_singleton_self s)
      have hlive : σ'.live.Perm ((s, c) :: σ.live) := by
        rw [live_of_none hsweep.1, live_of_none hsweep.2, hlist]
        exact toList_insert_perm hnot
      obtain ⟨hdecisions, hsockets, hreports, -, -⟩ := h
      rw [hstage.1] at hdecisions hsockets hreports
      constructor
      · rw [hbooks, hstage.2]
        exact hdecisions
      · rw [hbooks, hstage.2, hcreated]
        exact hsockets.keep ((hlive.map Prod.fst).append_right _)
      · rw [hbooks, hstage.2]
        exact fun hcb => (hreports hcb).keep hlive
      · rw [hstage.2]
        exact fun s' hs' => nomatch hs'
      · rw [hsweep.2]
        exact fun rest hrest => nomatch hrest
  | sweepLock hstage hsweep hlist hsubs hcreated hbooks =>
      refine h.relist hbooks (fun s hs => hcreated ▸ hs) hstage ?_ ?_
      · rw [live_of_none hsweep.1, live_of_some hsweep.2]
      · intro rest hrest a ha
        rw [hsweep.2] at hrest
        obtain rfl := Option.some.inj hrest
        rwa [hlist]
  | visit a rest hstage hsweep hlist hsubs hcreated hbooks =>
      refine h.retire hbooks hcreated hstage ?_ ?_
      · rw [live_of_some hsweep.1, live_of_some hsweep.2]
      · intro rest' hrest' b hb
        rw [hsweep.2] at hrest'
        obtain rfl := Option.some.inj hrest'
        rw [hlist]
        exact h.rest _ hsweep.1 b (List.mem_cons_of_mem _ hb)
  | sweepClear hstage hsweep hlist hsubs hcreated hbooks =>
      refine h.relist hbooks (fun s hs => hcreated ▸ hs) hstage ?_ ?_
      · rw [live_of_some hsweep.1, live_of_none hsweep.2, hlist]
        exact .refl _
      · rw [hsweep.2]
        exact fun rest hrest => nomatch hrest
  | evict s c hstage hsweep hfind hlist hsubs hcreated hbooks =>
      refine h.retire hbooks hcreated hstage ?_ ?_
      · rw [live_of_none hsweep.1, live_of_none hsweep.2, hlist]
        exact toList_perm_erase hfind
      · rw [hsweep.2]
        exact fun rest hrest => nomatch hrest

/-- Every reachable move has one of the listed effects. -/
theorem effect_of_move {ok : State → Tid × Input → Prop}
    (h : (system cb).ReachableUnder ok σ) (hm : Move cb σ t i σ') : Effect cb σ σ' :=
  hm.effect (locks_reachable h) (threads_reachable h) (lifecycle_reachable h)
    (sockets_reachable h)

theorem clients_reachable {ok : State → Tid × Input → Prop}
    (h : (system cb).ReachableUnder ok σ) : Clients cb σ := by
  refine invariant_of_moves (P := Clients cb) ?_ ?_ h
  · exact ⟨fun _ _ => rfl, fun _ _ => rfl, fun _ _ _ => rfl, fun _ hs => (nomatch hs),
      fun _ hrest => (nomatch hrest)⟩
  · intro σ t i σ' hreach hs _ _ hm
    exact hs.effect (sockets_reachable hreach) (effect_of_move hreach hm)

end

end SrtNet
