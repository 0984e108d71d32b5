import Xrtc.Mutex
import Xrtc.SrtNetMoves

/-!
# Who runs what, and who owns which mutex

Two facts about every reachable state carry all later arguments.  A thread is
only ever inside the code of its own kind, and session threads that have not
been started do not run (`Threads`).  A mutex is owned by exactly the thread
whose program counter lies between its lock and its unlock (`Locks`); in
particular the code between them is exclusive.
-/

namespace SrtNet

/-! ## The code a thread is inside of -/

/-- The thread function a program counter belongs to. -/
inductive Kind
  | idle
  | app
  | accept
  | event
  | client
  | finished
  deriving DecidableEq

/-- The thread function that calls `closeAllClientSockets`. -/
def SweepCaller.kind : SweepCaller → Kind
  | .stop _ _ => .app
  | .waitForSRTClient => .accept

/-- The thread function that invokes a callback. -/
def CallbackSite.kind : CallbackSite → Kind
  | .clientConnected _ => .accept
  | .sweep caller _ => caller.kind
  | .event _ => .event
  | .clientData => .client
  | .clientReport => .client

/-- The thread function a program counter belongs to. -/
def Pc.kind : Pc → Kind
  | .idle => .idle
  | .start _ _ => .app
  | .stop _ _ => .app
  | .getStatistics _ => .app
  | .getActiveClients _ => .app
  | .closeAllClientSockets caller _ => caller.kind
  | .waitForSRTClient _ => .accept
  | .serverEventHandler _ => .event
  | .clientWorker _ => .client
  | .callback site _ => site.kind
  | .finished => .finished

/-- The thread functions a thread may be inside of. -/
def Tid.runs : Tid → Kind → Bool
  | .app _, .idle | .app _, .app => true
  | .worker _, .idle | .worker _, .accept | .worker _, .client
  | .worker _, .finished => true
  | .event _, .idle | .event _, .event | .event _, .finished => true
  | _, _ => false

/-- `waitForSRTClient` before it creates `event_thread_`. -/
def Pc.beforeSpawn : Pc → Bool
  | .waitForSRTClient .epollCreate | .waitForSRTClient .epollSet
  | .waitForSRTClient .spawn => true
  | _ => false

@[simp]
theorem Pc.kind_eq_idle {p : Pc} : p.kind = .idle ↔ p = .idle := by
  cases p with
  | closeAllClientSockets caller pc => cases caller <;> simp [Pc.kind, SweepCaller.kind]
  | callback site pc =>
      cases site with
      | sweep caller rest =>
          cases caller <;> simp [Pc.kind, CallbackSite.kind, SweepCaller.kind]
      | _ => simp [Pc.kind, CallbackSite.kind]
  | _ => simp [Pc.kind]

/-- How the thread function of the moving thread may change: an application
thread enters or leaves the object, a session thread returns. -/
inductive KindStep : Tid → Kind → Kind → Prop
  | same (t : Tid) (k : Kind) : KindStep t k k
  | enter (n : Nat) : KindStep (.app n) .idle .app
  | leave (t : Tid) : KindStep t .app .idle
  | finish (t : Tid) {k : Kind} (h : k = .accept ∨ k = .event ∨ k = .client) :
      KindStep t k .finished

theorem KindStep.of_eq {t : Tid} {k k' : Kind} (h : k' = k) : KindStep t k k' :=
  h ▸ .same t k

theorem KindStep.runs {t : Tid} {k k' : Kind} (h : KindStep t k k')
    (hk : t.runs k = true) : t.runs k' = true := by
  cases h with
  | same => exact hk
  | enter n => rfl
  | leave => cases t <;> simp_all [Tid.runs]
  | finish _ h => cases t <;> rcases h with rfl | rfl | rfl <;> simp_all [Tid.runs]

/-- A thread that does not exist does not move. -/
theorem KindStep.of_idle {t : Tid} {k : Kind} (h : KindStep t .idle k) :
    k = .idle ∨ ∃ n, t = .app n := by
  cases h with
  | same => exact .inl rfl
  | enter n => exact .inr ⟨n, rfl⟩
  | finish _ h => simp at h

theorem Silent.kind_eq {p p' : Pc} (h : Silent p p') : p'.kind = p.kind := by
  cases h <;> rfl

theorem Silent.beforeSpawn_imp {p p' : Pc} (h : Silent p p')
    (hp : p'.beforeSpawn = true) : p.beforeSpawn = true := by
  cases h <;> simp_all [Pc.beforeSpawn]

theorem TakesNet.kind_eq {p p' : Pc} (h : TakesNet p p') : p'.kind = p.kind := by
  cases h <;> rfl

theorem DropsNet.kindStep {p p' : Pc} (h : DropsNet p p') (t : Tid) :
    KindStep t p.kind p'.kind := by
  cases h with
  | callback site => exact .same t _
  | _ => exact .leave t

theorem Call.enter_kindStep (c : Call) (n : Nat) :
    KindStep (.app n) .idle c.enter.kind := by
  cases c with
  | sendData => exact .same _ _
  | getConnectedServer => exact .same _ _
  | _ => exact .enter n

theorem SweepCaller.after_kind (caller : SweepCaller) :
    caller.after.kind = caller.kind := by
  cases caller <;> rfl

theorem afterClose_kind (dtor : Bool) (result : Option Int) (mode : Mode) :
    (afterClose dtor result mode).kind = .app := by
  cases mode <;> rfl

theorem SweepCaller.after_beforeSpawn (caller : SweepCaller) :
    caller.after.beforeSpawn = false := by
  cases caller <;> rfl

theorem afterClose_beforeSpawn (dtor : Bool) (result : Option Int) (mode : Mode) :
    (afterClose dtor result mode).beforeSpawn = false := by
  cases mode <;> rfl

/-- A property of a thread after one thread has moved was there before, unless
it is that thread. -/
theorem of_update {P : Pc → Prop} {pc : Tid → Pc} {t u : Tid} {p : Pc}
    (h : P (Function.update pc t p u)) : u = t ∧ P p ∨ P (pc u) := by
  by_cases hu : u = t
  · subst hu
    exact .inl ⟨rfl, by simpa using h⟩
  · exact .inr (by rwa [Function.update_of_ne hu] at h)

/-- A property of all threads survives when one thread moves to where it
holds. -/
theorem forall_update {P : Pc → Prop} {pc : Tid → Pc} {t : Tid} {p : Pc}
    (h : ∀ u, P (pc u)) (hp : P p) (u : Tid) : P (Function.update pc t p u) := by
  by_cases hu : u = t
  · subst hu
    simpa using hp
  · rw [Function.update_of_ne hu]
    exact h u

/-- What a move does to the program counters. -/
inductive Shape (σ : State) (t : Tid) (σ' : State) : Prop
  | still (hpc : σ'.pc = σ.pc) (hsession : σ'.session = σ.session)
  | goto (p : Pc) (hpc : σ'.pc = Function.update σ.pc t p)
      (hsession : σ'.session = σ.session)
      (hkind : KindStep t (σ.pc t).kind p.kind)
      (hspawn : p.beforeSpawn = true → (σ.pc t).beforeSpawn = true)
  | spawnWorker (p q : Pc)
      (hpc : σ'.pc = Function.update
        (Function.update σ.pc (.worker (σ.session + 1)) p) t q)
      (hsession : σ'.session = σ.session + 1)
      (hkind : (σ.pc t).kind = .app ∧ q.kind = .app)
      (hp : p.kind = .accept ∨ p.kind = .client)
  | spawnEvent (k : Nat) (p q : Pc) (ht : t = .worker k)
      (hpc : σ'.pc = Function.update (Function.update σ.pc (.event k) p) t q)
      (hsession : σ'.session = σ.session)
      (hkind : (σ.pc t).kind = .accept ∧ q.kind = .accept) (hp : p.kind = .event)
      (hspawn : q.beforeSpawn = false)
      (hhandle : σ.eventThread = none ∧ σ'.eventThread = some (.event k))

section

variable {cb : Callbacks} {σ σ' : State} {t : Tid} {i : Input}

/-- Only the moving thread moves, and only within its own code, unless it
creates a session thread. -/
theorem Move.shape (hm : Move cb σ t i σ') : Shape σ t σ' := by
  cases hm with
  | silent hp h =>
      exact .goto _ rfl rfl (.of_eq (hp ▸ h.kind_eq)) (hp ▸ h.beforeSpawn_imp)
  | enter c hp =>
      exact .goto _ rfl rfl (by rw [hp]; exact c.enter_kindStep _)
        (by cases c <;> simp [Call.enter, Pc.beforeSpawn])
  | takeNet hp h =>
      exact .goto _ rfl rfl (.of_eq (hp ▸ h.kind_eq))
        (by cases h <;> simp [Pc.beforeSpawn])
  | dropNet hp h =>
      exact .goto _ rfl rfl (hp ▸ h.kindStep t) (by cases h <;> simp [Pc.beforeSpawn])
  | dropView hp =>
      exact .goto _ rfl rfl (by rw [hp]; exact .leave _) (by simp [Pc.beforeSpawn])
  | publishServer hp hfree =>
      exact .spawnWorker _ _ rfl rfl ⟨by rw [hp]; rfl, rfl⟩ (.inl rfl)
  | publishClient hp hfree =>
      exact .spawnWorker _ _ rfl rfl ⟨by rw [hp]; rfl, rfl⟩ (.inr rfl)
  | publishFault => exact .still rfl rfl
  | stopClose hp hr =>
      exact .goto _ rfl rfl (.of_eq (by rw [hp, afterClose_kind]; rfl))
        (by simp [afterClose_beforeSpawn])
  | stopSkipClose hp hcontext =>
      exact .goto _ rfl rfl (.of_eq (by rw [hp, afterClose_kind]; rfl))
        (by simp [afterClose_beforeSpawn])
  | destroy hp =>
      exact .goto _ rfl rfl (by rw [hp]; exact .leave _) (by simp [Pc.beforeSpawn])
  | sweepClear hp =>
      exact .goto _ rfl rfl (.of_eq (by rw [hp, SweepCaller.after_kind]; rfl))
        (by simp [SweepCaller.after_beforeSpawn])
  | epollCreate eid hp =>
      exact .goto _ rfl rfl (.of_eq (by rw [hp]; rfl)) (by simp [hp, Pc.beforeSpawn])
  | spawnEvent ready hp hfree =>
      exact .spawnEvent _ _ _ rfl rfl rfl ⟨by rw [hp]; rfl, rfl⟩ rfl rfl ⟨hfree, rfl⟩
  | spawnFault => exact .still rfl rfl
  | acceptExit hp _ =>
      exact .goto _ rfl rfl (.finish _ (.inl (by rw [hp]; rfl))) (by simp [Pc.beforeSpawn])
  | epollRelease hp =>
      exact .goto _ rfl rfl (.finish _ (.inr (.inl (by rw [hp]; rfl))))
        (by simp [Pc.beforeSpawn])
  | clientDone hp =>
      exact .goto _ rfl rfl (.finish _ (.inr (.inr (by rw [hp]; rfl))))
        (by simp [Pc.beforeSpawn])
  | readEnd => exact .still rfl rfl
  | _ =>
      exact .goto _ rfl rfl (.of_eq (by simp only [*]; rfl)) (by simp [Pc.beforeSpawn])

end

/-- Every thread is inside its own code, the threads of sessions still to come
have not been created, and neither has an event thread whose worker has not
reached its creation. -/
structure Threads (σ : State) : Prop where
  runs : ∀ t : Tid, t.runs (σ.pc t).kind = true
  unborn : ∀ k, σ.session < k → σ.pc (.worker k) = .idle ∧ σ.pc (.event k) = .idle
  unspawned : ∀ k, (σ.pc (.worker k)).beforeSpawn = true → σ.pc (.event k) = .idle

/-- Overwriting the program counter of a thread that does not exist with
`idle`, or that of an application thread, keeps the future sessions unborn. -/
theorem Threads.unborn_update {σ : State} (h : Threads σ) {t : Tid} {p : Pc}
    (hp : σ.pc t = .idle → p = .idle ∨ ∃ n, t = .app n) {k : Nat} (hk : σ.session < k) :
    Function.update σ.pc t p (.worker k) = .idle ∧
      Function.update σ.pc t p (.event k) = .idle := by
  obtain ⟨hw, he⟩ := h.unborn k hk
  constructor
  · by_cases ht : Tid.worker k = t
    · subst ht
      simpa using hp hw
    · rwa [Function.update_of_ne ht]
  · by_cases ht : Tid.event k = t
    · subst ht
      simpa using hp he
    · rwa [Function.update_of_ne ht]

theorem Threads.runs_update {σ : State} (h : Threads σ) {t : Tid} {p : Pc}
    (hp : t.runs p.kind = true) (u : Tid) :
    u.runs (Function.update σ.pc t p u).kind = true := by
  by_cases hu : u = t
  · subst hu
    simpa using hp
  · rw [Function.update_of_ne hu]
    exact h.runs u

/-- A session thread of an unstarted session does not exist, so its creator's
session has started. -/
theorem Threads.worker_le {σ : State} (h : Threads σ) {k : Nat}
    (hk : σ.pc (.worker k) ≠ .idle) : k ≤ σ.session := by
  by_contra hlt
  exact hk (h.unborn k (by omega)).1

/-- The worker that a start call is about to create is not the calling thread. -/
theorem Threads.newWorker_ne {σ : State} (h : Threads σ) {t : Tid} {call : StartCall}
    {pc : StartPc} (hp : σ.pc t = .start call pc) : Tid.worker (σ.session + 1) ≠ t := by
  rintro rfl
  simp [(h.unborn (σ.session + 1) (by omega)).1] at hp

theorem Threads.move {cb : Callbacks} {σ σ' : State} {t : Tid} {i : Input}
    (h : Threads σ) (hm : Move cb σ t i σ') : Threads σ' := by
  cases hm.shape with
  | still hpc hsession =>
      refine ⟨?_, ?_, ?_⟩
      · rw [hpc]; exact h.runs
      · rw [hpc, hsession]; exact h.unborn
      · rw [hpc]; exact h.unspawned
  | goto p hpc hsession hkind hspawn =>
      have hidle : σ.pc t = .idle → p = .idle ∨ ∃ n, t = .app n := by
        intro hidle
        rw [hidle] at hkind
        exact hkind.of_idle.imp_left Pc.kind_eq_idle.mp
      refine ⟨?_, ?_, ?_⟩
      · rw [hpc]
        exact h.runs_update (hkind.runs (h.runs t))
      · rw [hpc, hsession]
        intro k hk
        exact h.unborn_update hidle hk
      · rw [hpc]
        intro k hk
        have hbefore : (σ.pc (.worker k)).beforeSpawn = true := by
          by_cases ht : Tid.worker k = t
          · subst ht
            exact hspawn (by simpa using hk)
          · rwa [Function.update_of_ne ht] at hk
        have hevent := h.unspawned k hbefore
        by_cases ht : Tid.event k = t
        · subst ht
          simpa using hidle hevent
        · rwa [Function.update_of_ne ht]
  | spawnWorker p q hpc hsession hkind hp =>
      have ht : ∃ n, t = .app n := by
        have hruns := h.runs t
        rw [hkind.1] at hruns
        cases t <;> simp_all [Tid.runs]
      obtain ⟨n, rfl⟩ := ht
      refine ⟨?_, ?_, ?_⟩
      · rw [hpc]
        intro u
        by_cases hu : u = .app n
        · subst hu
          simp [hkind.2, Tid.runs]
        · rw [Function.update_of_ne hu]
          refine h.runs_update ?_ u
          rcases hp with hp | hp <;> simp [hp, Tid.runs]
      · rw [hpc, hsession]
        intro k hk
        have hne : (Tid.worker k) ≠ .worker (σ.session + 1) := by
          intro heq
          injection heq with heq
          omega
        obtain ⟨hw, he⟩ := h.unborn k (by omega)
        simp [Function.update_of_ne, hne, hw, he]
      · rw [hpc]
        intro k hk
        by_cases hne : k = σ.session + 1
        · simpa using (h.unborn k (by omega)).2
        · simpa using h.unspawned k (by simpa [hne] using hk)
  | spawnEvent k p q ht hpc hsession hkind hp hspawn =>
      subst ht
      have hle : k ≤ σ.session := h.worker_le (by intro heq; simp [heq, Pc.kind] at hkind)
      refine ⟨?_, ?_, ?_⟩
      · rw [hpc]
        intro u
        by_cases hu : u = .worker k
        · subst hu
          simp [hkind.2, Tid.runs]
        · rw [Function.update_of_ne hu]
          exact h.runs_update (by simp [hp, Tid.runs]) u
      · rw [hpc, hsession]
        intro j hj
        obtain ⟨hw, he⟩ := h.unborn j hj
        have hne : j ≠ k := by omega
        simp [hne, hw, he]
      · rw [hpc]
        intro j hj
        by_cases hne : j = k
        · subst hne
          simp [hspawn] at hj
        · simpa [hne] using h.unspawned j (by simpa [hne] using hj)

theorem threads_reachable {cb : Callbacks} {ok : State → Tid × Input → Prop}
    {σ : State} (h : (system cb).ReachableUnder ok σ) : Threads σ := by
  refine invariant_of_moves (P := Threads) ?_ (fun _ _ _ _ _ hs _ _ hm => hs.move hm) h
  exact ⟨fun t => by cases t <;> rfl, fun _ _ => ⟨rfl, rfl⟩, fun _ _ => rfl⟩

/-! ## Mutex ownership -/

/-- How often `closeAllClientSockets` holds `net_mtx_`: its caller `stop` does. -/
def SweepCaller.netDepth : SweepCaller → Nat
  | .stop _ _ => 1
  | .waitForSRTClient => 0

/-- How often the code that invoked a callback holds `net_mtx_`. -/
def CallbackSite.netDepth : CallbackSite → Nat
  | .sweep caller _ => caller.netDepth
  | _ => 0

/-- How often a callback holds `net_mtx_` through the `getStatistics` it called. -/
def CallbackPc.netDepth : CallbackPc → Nat
  | .stats (.body _) => 1
  | _ => 0

/-- How often a program counter holds `net_mtx_`. -/
def Pc.netDepth : Pc → Nat
  | .start _ .resolve => 0
  | .start _ .lock => 0
  | .start _ _ => 1
  | .stop _ .lock => 0
  | .stop _ _ => 1
  | .getStatistics (.body _) => 1
  | .closeAllClientSockets caller _ => caller.netDepth
  | .callback site pc => site.netDepth + pc.netDepth
  | _ => 0

/-- How often a program counter holds `client_list_mtx_`. -/
def Pc.listDepth : Pc → Nat
  | .getActiveClients .body => 1
  | .closeAllClientSockets _ (.next _) => 1
  | .callback (.sweep _ _) _ => 1
  | .callback (.event _) _ => 1
  | _ => 0

/-- Both mutexes are owned by the threads inside them. -/
structure Locks (σ : State) : Prop where
  net : Mutex.Owned (fun t => (σ.pc t).netDepth) σ.netMtx
  list : Mutex.Owned (fun t => (σ.pc t).listDepth) σ.clientListMtx

theorem StartPc.working_netDepth (call : StartCall) {pc : StartPc} (h : pc.working) :
    (Pc.start call pc).netDepth = 1 := by
  cases pc <;> simp_all [StartPc.working, Pc.netDepth]

theorem Silent.depths {p p' : Pc} (h : Silent p p') :
    p'.netDepth = p.netDepth ∧ p'.listDepth = p.listDepth := by
  cases h with
  | startWork call h h' =>
      rw [StartPc.working_netDepth call h, StartPc.working_netDepth call h']
      exact ⟨rfl, rfl⟩
  | _ => exact ⟨rfl, rfl⟩

theorem TakesNet.depths {p p' : Pc} (h : TakesNet p p') :
    p'.netDepth = p.netDepth + 1 ∧ p'.listDepth = p.listDepth := by
  cases h with
  | callback site => cases site <;> exact ⟨rfl, rfl⟩
  | _ => exact ⟨rfl, rfl⟩

theorem DropsNet.depths {p p' : Pc} (h : DropsNet p p') :
    p.netDepth = p'.netDepth + 1 ∧ p'.listDepth = p.listDepth := by
  cases h with
  | callback site => cases site <;> exact ⟨rfl, rfl⟩
  | start call exit obtained => exact ⟨rfl, rfl⟩
  | _ => exact ⟨rfl, rfl⟩

theorem afterClose_depths (dtor : Bool) (result : Option Int) (mode : Mode) :
    (afterClose dtor result mode).netDepth = 1 ∧
      (afterClose dtor result mode).listDepth = 0 := by
  cases mode <;> exact ⟨rfl, rfl⟩

theorem SweepCaller.after_depths (caller : SweepCaller) :
    caller.after.netDepth = caller.netDepth ∧ caller.after.listDepth = 0 := by
  cases caller <;> exact ⟨rfl, rfl⟩

theorem Call.enter_depths (c : Call) :
    c.enter.netDepth = 0 ∧ c.enter.listDepth = 0 := by
  cases c <;> exact ⟨rfl, rfl⟩

section

variable {cb : Callbacks} {σ σ' : State} {t : Tid} {i : Input}

/-- A step of `t` that touches no mutex. -/
theorem Locks.keep (h : Locks σ) {p : Pc} (hpc : σ'.pc = Function.update σ.pc t p)
    (hnet : σ'.netMtx = σ.netMtx) (hlist : σ'.clientListMtx = σ.clientListMtx)
    (hdn : p.netDepth = (σ.pc t).netDepth) (hdl : p.listDepth = (σ.pc t).listDepth) :
    Locks σ' := by
  constructor
  · rw [hpc, hnet]
    exact h.net.keep hdn
  · rw [hpc, hlist]
    exact h.list.keep hdl

/-- A step of `t` that locks `client_list_mtx_`. -/
theorem Locks.takeList (h : Locks σ) {p : Pc} (hpc : σ'.pc = Function.update σ.pc t p)
    (hnet : σ'.netMtx = σ.netMtx) (hfree : σ.clientListMtx = none)
    (hlist : σ'.clientListMtx = some t) (hdn : p.netDepth = (σ.pc t).netDepth)
    (hdl : p.listDepth = (σ.pc t).listDepth + 1) : Locks σ' := by
  have hl := h.list
  rw [hfree] at hl
  constructor
  · rw [hpc, hnet]
    exact h.net.keep hdn
  · rw [hpc, hlist]
    exact hl.take hdl

/-- A step of `t` that unlocks `client_list_mtx_`. -/
theorem Locks.dropList (h : Locks σ) {p : Pc} (hpc : σ'.pc = Function.update σ.pc t p)
    (hnet : σ'.netMtx = σ.netMtx) (hlist : σ'.clientListMtx = none)
    (hdn : p.netDepth = (σ.pc t).netDepth)
    (hdl : (σ.pc t).listDepth = p.listDepth + 1) : Locks σ' := by
  constructor
  · rw [hpc, hnet]
    exact h.net.keep hdn
  · rw [hpc, hlist]
    exact h.list.drop hdl

/-- Creating a session thread touches no mutex. -/
theorem Locks.spawn (h : Locks σ) {w : Tid} {p q : Pc}
    (hpc : σ'.pc = Function.update (Function.update σ.pc w p) t q)
    (hnet : σ'.netMtx = σ.netMtx) (hlist : σ'.clientListMtx = σ.clientListMtx)
    (hw : σ.pc w = .idle) (hp : p.netDepth = 0 ∧ p.listDepth = 0) (hne : t ≠ w)
    (hdn : q.netDepth = (σ.pc t).netDepth) (hdl : q.listDepth = (σ.pc t).listDepth) :
    Locks σ' := by
  have hmid : Locks { σ with pc := Function.update σ.pc w p } :=
    h.keep rfl rfl rfl (by rw [hw, hp.1]; rfl) (by rw [hw, hp.2]; rfl)
  refine hmid.keep hpc hnet hlist ?_ ?_
  · simpa [hne] using hdn
  · simpa [hne] using hdl

theorem Locks.move (h : Locks σ) (ht : Threads σ) (hm : Move cb σ t i σ') : Locks σ' := by
  have hunborn : σ.pc (.worker (σ.session + 1)) = .idle := (ht.unborn _ (by omega)).1
  cases hm with
  | silent hp hs =>
      exact h.keep rfl rfl rfl (hp ▸ hs.depths.1) (hp ▸ hs.depths.2)
  | enter c hp =>
      exact h.keep rfl rfl rfl (by rw [hp]; exact c.enter_depths.1)
        (by rw [hp]; exact c.enter_depths.2)
  | askStatistics hp =>
      rename_i site s
      exact h.keep rfl rfl rfl (by rw [hp]; cases site <;> rfl) (by rw [hp]; cases site <;> rfl)
  | takeNet hp hs hfree =>
      have hn := h.net
      rw [hfree] at hn
      exact ⟨hn.take (hp ▸ hs.depths.1), h.list.keep (hp ▸ hs.depths.2)⟩
  | dropNet hp hs =>
      exact ⟨h.net.drop (hp ▸ hs.depths.1), h.list.keep (hp ▸ hs.depths.2)⟩
  | takeView hp hfree =>
      exact h.takeList rfl rfl hfree rfl (by rw [hp]; rfl) (by rw [hp]; rfl)
  | dropView hp => exact h.dropList rfl rfl rfl (by rw [hp]; rfl) (by rw [hp]; rfl)
  | create hp hpc hs =>
      exact h.keep rfl rfl rfl (by rw [hp, StartPc.working_netDepth _ hpc]; rfl)
        (by rw [hp]; rfl)
  | startLeak hp hpc hleak hexit =>
      exact h.keep rfl rfl rfl (by rw [hp, StartPc.working_netDepth _ hpc]; rfl)
        (by rw [hp]; rfl)
  | publishServer hp hfree =>
      exact h.spawn rfl rfl rfl hunborn ⟨rfl, rfl⟩ (by intro heq; simp [heq, hunborn] at hp)
        (by rw [hp]; rfl) (by rw [hp]; rfl)
  | publishClient hp hfree =>
      exact h.spawn rfl rfl rfl hunborn ⟨rfl, rfl⟩ (by intro heq; simp [heq, hunborn] at hp)
        (by rw [hp]; rfl) (by rw [hp]; rfl)
  | publishFault => exact ⟨h.net, h.list⟩
  | stopClose hp hr =>
      exact h.keep rfl rfl rfl (by rw [hp, (afterClose_depths _ _ _).1]; rfl)
        (by rw [hp, (afterClose_depths _ _ _).2]; rfl)
  | stopSkipClose hp hcontext =>
      exact h.keep rfl rfl rfl (by rw [hp, (afterClose_depths _ _ _).1]; rfl)
        (by rw [hp, (afterClose_depths _ _ _).2]; rfl)
  | destroy hp =>
      exact ⟨h.net.drop (by rw [hp]; rfl), h.list.keep (by rw [hp]; rfl)⟩
  | sweepLock hp hfree =>
      exact h.takeList rfl rfl hfree rfl (by rw [hp]; rfl) (by rw [hp]; rfl)
  | sweepClear hp =>
      exact h.dropList rfl rfl rfl (by rw [hp, (SweepCaller.after_depths _).1]; rfl)
        (by rw [hp, (SweepCaller.after_depths _).2]; rfl)
  | spawnEvent ready hp hfree =>
      exact h.spawn rfl rfl rfl (ht.unspawned _ (by rw [hp]; rfl)) ⟨rfl, rfl⟩ (by simp)
        (by rw [hp]; rfl) (by rw [hp]; rfl)
  | spawnFault => exact ⟨h.net, h.list⟩
  | evict r hp hfree hfind hcb =>
      exact h.takeList rfl rfl hfree rfl (by rw [hp]; rfl) (by rw [hp]; rfl)
  | deliver hp hfree hfind =>
      exact h.takeList rfl rfl hfree rfl (by rw [hp]; rfl) (by rw [hp]; rfl)
  | eventDone hp => exact h.dropList rfl rfl rfl (by rw [hp]; rfl) (by rw [hp]; rfl)
  | readEnd => exact ⟨h.net, h.list⟩
  | _ => exact h.keep rfl rfl rfl (by simp only [*]; rfl) (by simp only [*]; rfl)

end

/-- **Mutual exclusion.**  In every reachable state the owner fields of the two
mutexes name exactly the threads inside the code they protect. -/
theorem locks_reachable {cb : Callbacks} {ok : State → Tid × Input → Prop}
    {σ : State} (h : (system cb).ReachableUnder ok σ) : Locks σ := by
  refine invariant_of_moves (P := Locks) ?_ ?_ h
  · exact ⟨fun _ => rfl, fun _ => rfl⟩
  · intro σ t i σ' hreach hs _ _ hm
    exact hs.move (threads_reachable hreach) hm

end SrtNet
