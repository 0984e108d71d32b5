import Mathlib.Data.Prod.Lex
import Xrtc.SrtNetDeadlock

/-!
# Which threads are able to move

A thread inside the object is able to move as soon as what it waits for is
available: every library call may answer, and the code covers every answer.
The one exception the types allow, a start call at a place of the other start
call's code, is never reached.

A start call, a `stop` before its `srt_close` and the two read-only methods get
on with every step of theirs, in the order of `Pc.left`.
-/

namespace SrtNet

/-! ## Start calls stay within their own code -/

/-- The places of `startServer` and of `startClient`. -/
def StartCall.hasPlace : StartCall → StartPc → Bool
  | .startServer _ _, .getaddrinfo | .startServer _ _, .connect _ _ => false
  | .startClient _, .resolve | .startClient _, .pton | .startClient _, .bind
  | .startClient _, .listen => false
  | _, _ => true

/-- What a start call has left to do. -/
def StartPc.left : StartPc → ℕ ×ₗ ℕ
  | .resolve => toLex (9, 0)
  | .lock => toLex (8, 0)
  | .check => toLex (7, 0)
  | .create => toLex (6, 0)
  | .pton => toLex (5, 0)
  | .setFlags todo => toLex (4, todo.length)
  | .bind | .getaddrinfo => toLex (3, 0)
  | .listen => toLex (2, 0)
  | .connect _ addresses => toLex (2, addresses)
  | .closeAndFail _ | .publish => toLex (1, 0)
  | .ret _ _ => toLex (0, 1)

/-- What a call has left to do, up to the `stop` that is past its `srt_close`. -/
def Pc.left : Pc → ℕ ×ₗ ℕ
  | .start _ pc => pc.left
  | .stop _ .lock => toLex (0, 5)
  | .stop _ .readMode => toLex (0, 4)
  | .stop _ (.srtClose _) => toLex (0, 3)
  | .stop _ (.joinWorker _ _) | .stop _ (.joinEvent _) => toLex (0, 2)
  | .closeAllClientSockets _ _ | .callback _ _ => toLex (0, 2)
  | .getStatistics (.lock _) | .getActiveClients .lock => toLex (0, 2)
  | .stop _ (.ret _) => toLex (0, 1)
  | .getStatistics (.body _) | .getActiveClients .body => toLex (0, 1)
  | _ => toLex (0, 0)

/-- Thread `t` got on with its call. -/
def Advanced (σ : State) (t : Tid) (p : Pc) : Prop :=
  σ.halted.isSome = true ∨ (σ.pc t).left < p.left

section

variable {cb : Callbacks} {σ σ' : State} {t u : Tid} {i : Input}

theorem spawnWorker_pc {call : StartCall} {p : Pc} :
    (spawnWorker σ t call p).halted.isSome = true ∨
      (spawnWorker σ t call p).pc t = .start call (.ret .started (some σ.context)) := by
  unfold spawnWorker
  split
  · exact .inl rfl
  · exact .inr (by simp)

/-- The thread moves to a later place of its call. -/
theorem advanced_goto {call call' : StartCall} {pc pc' : StartPc} {τ : State}
    (hleft : pc'.left < pc.left) (hplace : call'.hasPlace pc' = true) :
    Advanced (τ.goto t (.start call' pc')) t (.start call pc) ∧
      ∀ call₁ pc₁, (τ.goto t (.start call' pc')).pc t = .start call₁ pc₁ →
        call₁.hasPlace pc₁ = true := by
  constructor
  · right
    simpa [Pc.left] using hleft
  · intro call₁ pc₁ heq
    simp only [State.goto_pc, Function.update_self, Pc.start.injEq] at heq
    rw [← heq.1, ← heq.2]
    exact hplace

/-- The call returns. -/
theorem advanced_return {call : StartCall} {exit : StartExit} {obtained : Option SRTSOCKET}
    {τ : State} :
    Advanced (τ.goto t .idle) t (.start call (.ret exit obtained)) ∧
      ∀ call₁ pc₁, (τ.goto t .idle).pc t = .start call₁ pc₁ → call₁.hasPlace pc₁ = true := by
  constructor
  · right
    simp [Pc.left, StartPc.left, Prod.Lex.toLex_lt_toLex]
  · intro call₁ pc₁ heq
    simp at heq

/-- The call starts its session. -/
theorem advanced_publish {call : StartCall} {p : Pc} {τ : State}
    (hp : τ.pc t = .start call .publish) (hplace : call.hasPlace .publish = true) :
    Advanced (spawnWorker τ t call p) t (.start call .publish) ∧
      ∀ call₁ pc₁, (spawnWorker τ t call p).pc t = .start call₁ pc₁ →
        call₁.hasPlace pc₁ = true := by
  unfold spawnWorker
  split
  · refine ⟨.inl rfl, fun call₁ pc₁ heq => ?_⟩
    rw [show τ.pc t = .start call₁ pc₁ from heq] at hp
    cases hp
    exact hplace
  · refine advanced_goto ?_ ?_
    · simp [StartPc.left, Prod.Lex.toLex_lt_toLex]
    · cases call <;> rfl

attribute [local simp] StartPc.left Prod.Lex.toLex_lt_toLex

/-- A step of `startServer`. -/
theorem startServer_step {a : ServerArgs} {ipType : Family} {pc : StartPc}
    (hp : σ.pc t = .start (.startServer a ipType) pc)
    (h : startServer cb σ t a ipType pc i = some σ') :
    Advanced σ' t (.start (.startServer a ipType) pc) ∧
      (∀ call pc', σ'.pc t = .start call pc' → call.hasPlace pc' = true) := by
  unfold startServer at h
  split at h
  · obtain rfl := Option.some.inj h
    exact advanced_goto (by simp) rfl
  · unfold lockNet at h
    split at h
    · obtain rfl := Option.some.inj h
      exact advanced_goto (by simp) rfl
    · cases h
  · split at h
    · obtain rfl := Option.some.inj h
      exact advanced_goto (by simp) rfl
    · split at h <;> obtain rfl := Option.some.inj h
      · exact advanced_goto (by simp) rfl
      · exact advanced_goto (by simp) rfl
  · unfold createSocket at h
    split at h
    · obtain rfl := Option.some.inj h
      exact advanced_goto (by simp) rfl
    · split at h
      · obtain rfl := Option.some.inj h
        exact advanced_goto (by simp) rfl
      · cases h
  · split at h <;> obtain rfl := Option.some.inj h
    · exact advanced_goto (by simp) rfl
    · exact advanced_goto (by simp) rfl
  · split at h <;> obtain rfl := Option.some.inj h
    · exact advanced_goto (by simp) rfl
    · exact advanced_goto (by simp) rfl
  · obtain rfl := Option.some.inj h
    exact advanced_goto (by simp) rfl
  · split at h <;> obtain rfl := Option.some.inj h
    · exact advanced_goto (by simp) rfl
    · exact advanced_goto (by simp) rfl
  · split at h <;> obtain rfl := Option.some.inj h
    · exact advanced_goto (by simp) rfl
    · exact advanced_goto (by simp) rfl
  · obtain rfl := Option.some.inj h
    exact advanced_goto (by simp) rfl
  · obtain rfl := Option.some.inj h
    exact advanced_publish hp rfl
  · obtain rfl := Option.some.inj h
    exact advanced_return
  · cases h

/-- A step of `startClient`. -/
theorem startClient_step {a : ClientArgs} {pc : StartPc}
    (hp : σ.pc t = .start (.startClient a) pc) (h : startClient σ t a pc i = some σ') :
    Advanced σ' t (.start (.startClient a) pc) ∧
      (∀ call pc', σ'.pc t = .start call pc' → call.hasPlace pc' = true) := by
  unfold startClient at h
  split at h
  · unfold lockNet at h
    split at h
    · obtain rfl := Option.some.inj h
      exact advanced_goto (by simp) rfl
    · cases h
  · split at h <;> obtain rfl := Option.some.inj h
    · exact advanced_goto (by simp) rfl
    · exact advanced_goto (by simp) rfl
  · unfold createSocket at h
    split at h
    · obtain rfl := Option.some.inj h
      exact advanced_goto (by simp) rfl
    · split at h
      · obtain rfl := Option.some.inj h
        exact advanced_goto (by simp) rfl
      · cases h
  · split at h <;> obtain rfl := Option.some.inj h
    · exact advanced_goto (by simp) rfl
    · exact advanced_goto (by simp) rfl
  · obtain rfl := Option.some.inj h
    exact advanced_goto (by simp) rfl
  · split at h <;> obtain rfl := Option.some.inj h
    · exact advanced_goto (by simp) rfl
    · exact advanced_goto (by simp) rfl
  · split at h <;> obtain rfl := Option.some.inj h
    · exact advanced_goto (by simp) rfl
    · exact advanced_goto (by simp) rfl
  · split at h <;> obtain rfl := Option.some.inj h
    · exact advanced_goto (by simp) rfl
    · exact advanced_goto (by simp) rfl
  · obtain rfl := Option.some.inj h
    exact advanced_goto (by simp) rfl
  · obtain rfl := Option.some.inj h
    exact advanced_publish hp rfl
  · obtain rfl := Option.some.inj h
    exact advanced_return
  · cases h

/-- Another thread stays where it is, unless it is created. -/
theorem Move.pc_of_ne (ht : Threads σ) (hm : Move cb σ t i σ') (hu : u ≠ t) :
    σ'.pc u = σ.pc u ∨ σ.pc u = .idle ∧
      ((σ'.pc u).kind = .accept ∨ (σ'.pc u).kind = .client ∨ (σ'.pc u).kind = .event) := by
  cases hm with
  | publishServer hp hfree =>
      rw [State.goto_pc, Function.update_of_ne hu, State.goto_pc]
      by_cases hw : u = .worker (σ.session + 1)
      · rw [hw, Function.update_self]
        exact .inr ⟨(ht.unborn _ (Nat.lt_succ_self _)).1, .inl rfl⟩
      · exact .inl (Function.update_of_ne hw _ _)
  | publishClient hp hfree =>
      rw [State.goto_pc, Function.update_of_ne hu, State.goto_pc]
      by_cases hw : u = .worker (σ.session + 1)
      · rw [hw, Function.update_self]
        exact .inr ⟨(ht.unborn _ (Nat.lt_succ_self _)).1, .inr (.inl rfl)⟩
      · exact .inl (Function.update_of_ne hw _ _)
  | spawnEvent ready hp hfree =>
      rename_i k
      rw [State.goto_pc, Function.update_of_ne hu, State.goto_pc]
      by_cases he : u = .event k
      · rw [he, Function.update_self]
        exact .inr ⟨ht.unspawned k (by rw [hp]; rfl), .inr (.inr rfl)⟩
      · exact .inl (Function.update_of_ne he _ _)
  | publishFault => exact .inl rfl
  | spawnFault => exact .inl rfl
  | readEnd => exact .inl rfl
  | _ => exact .inl (Function.update_of_ne hu _ _)

/-- A thread inside the object is moved by itself only. -/
theorem Move.pc_of_inside (ht : Threads σ) (hm : Move cb σ t i σ') (hu : u ≠ t)
    (hinside : σ.pc u ≠ .idle) : σ'.pc u = σ.pc u :=
  (hm.pc_of_ne ht hu).resolve_right fun hborn => hinside hborn.1

/-- Every start call is at a place of its own code. -/
def Placed (σ : State) : Prop :=
  ∀ t call pc, σ.pc t = .start call pc → call.hasPlace pc = true

/-- Outside of the start calls nobody gets into the middle of one. -/
theorem Move.enters_start (hm : Move cb σ t i σ')
    (hout : ∀ call pc, σ.pc t ≠ .start call pc) {call : StartCall} {pc : StartPc}
    (hp : σ'.pc t = .start call pc) : call.hasPlace pc = true := by
  cases hm with
  | silent hq hs =>
      rw [State.goto_pc, Function.update_self] at hp
      subst hp
      cases hs with
      | startResolve => exact absurd hq (hout _ _)
      | startWork => exact absurd hq (hout _ _)
  | enter c hq =>
      rw [State.goto_pc, Function.update_self] at hp
      cases c <;> cases hp <;> rfl
  | takeNet hq hs hfree =>
      rw [State.goto_pc, Function.update_self] at hp
      subst hp
      cases hs
      exact absurd hq (hout _ _)
  | dropNet hq hs =>
      rw [State.goto_pc, Function.update_self] at hp
      subst hp
      cases hs
  | stopClose hq hr =>
      rename_i mode _
      rw [State.goto_pc, Function.update_self] at hp
      cases mode <;> cases hp
  | stopSkipClose hq hcontext =>
      rename_i mode
      rw [State.goto_pc, Function.update_self] at hp
      cases mode <;> cases hp
  | sweepClear hq =>
      rename_i caller
      rw [State.goto_pc, Function.update_self] at hp
      cases caller <;> cases hp
  | publishFault => exact absurd hp (hout _ _)
  | spawnFault => exact absurd hp (hout _ _)
  | readEnd => exact absurd hp (hout _ _)
  | startRefuse hq => exact absurd hq (hout _ _)
  | startCheck _ _ hq => exact absurd hq (hout _ _)
  | createFail hq => exact absurd hq (hout _ _)
  | create hq => exact absurd hq (hout _ _)
  | startLeak hq => exact absurd hq (hout _ _)
  | startClose _ hq => exact absurd hq (hout _ _)
  | publishServer hq => exact absurd hq (hout _ _)
  | publishClient hq => exact absurd hq (hout _ _)
  | destroy hq =>
      simp [destroyMembers, unlockNet] at hp
  | _ =>
      rw [State.goto_pc, Function.update_self] at hp
      cases hp

theorem placed_step (ht : Threads σ) (h : Placed σ) (hstep : step cb σ t i = some σ') :
    Placed σ' := by
  obtain ⟨hrun, hm⟩ := step_move hstep
  intro u call pc hp
  by_cases hu : u = t
  · subst hu
    cases hq : σ.pc u with
    | start call₀ pc₀ =>
        unfold step at hstep
        rw [hrun, hq] at hstep
        cases call₀ with
        | startServer a ipType => exact (startServer_step hq hstep).2 call pc hp
        | startClient a => exact (startClient_step hq hstep).2 call pc hp
    | _ => exact hm.enters_start (by simp [hq]) hp
  · rcases hm.pc_of_ne ht hu with hsame | ⟨-, hkind⟩
    · exact h u call pc (hsame ▸ hp)
    · simp [hp, Pc.kind] at hkind

theorem placed_reachable {ok : State → Tid × Input → Prop}
    (h : (system cb).ReachableUnder ok σ) : Placed σ := by
  refine h.induction (P := Placed) (fun t call pc hp => by simp [system, State.init] at hp) ?_
  intro σ ti σ' hreach hs _ hstep
  exact placed_step (threads_reachable hreach) hs hstep

/-- An input on which the function goes on. -/
def GoesOn (f : Input → Option State) : Prop :=
  ∃ i, (f i).isSome = true

theorem lockNet_isSome {p : Pc} (hfree : σ.netMtx = none) : (lockNet σ t p).isSome = true := by
  simp [lockNet, hfree]

theorem lockList_isSome {p : Pc} (hfree : σ.clientListMtx = none) :
    (lockList σ t p).isSome = true := by
  simp [lockList, hfree]

theorem startServer_goesOn {a : ServerArgs} {ipType : Family} {pc : StartPc}
    (hplace : (StartCall.startServer a ipType).hasPlace pc = true)
    (hfree : pc = .lock → σ.netMtx = none) : GoesOn (startServer cb σ t a ipType pc) := by
  cases pc with
  | resolve => exact ⟨.resolved 1 0, rfl⟩
  | lock => exact ⟨.tau, lockNet_isSome (hfree rfl)⟩
  | check => exact ⟨.tau, by simp only [startServer]; split_ifs <;> rfl⟩
  | create => exact ⟨.answer SRT_ERROR, by simp [startServer, createSocket]⟩
  | pton => exact ⟨.answer 0, by simp [startServer]⟩
  | setFlags todo =>
      cases todo with
      | nil => exact ⟨.tau, rfl⟩
      | cons o todo => exact ⟨.answer SRT_ERROR, by simp [startServer]⟩
  | bind => exact ⟨.answer SRT_ERROR, by simp [startServer]⟩
  | listen => exact ⟨.answer SRT_ERROR, by simp [startServer]⟩
  | closeAndFail exit => exact ⟨.answer 0, rfl⟩
  | publish => exact ⟨.tau, rfl⟩
  | ret exit obtained => exact ⟨.tau, rfl⟩
  | getaddrinfo => cases hplace
  | connect result addresses => cases hplace

theorem startClient_goesOn {a : ClientArgs} {pc : StartPc}
    (hplace : (StartCall.startClient a).hasPlace pc = true)
    (hfree : pc = .lock → σ.netMtx = none) : GoesOn (startClient σ t a pc) := by
  cases pc with
  | lock => exact ⟨.tau, lockNet_isSome (hfree rfl)⟩
  | check => exact ⟨.tau, by simp only [startClient]; split_ifs <;> rfl⟩
  | create => exact ⟨.answer SRT_ERROR, by simp [startClient, createSocket]⟩
  | setFlags todo =>
      cases todo with
      | nil => exact ⟨.tau, rfl⟩
      | cons o todo => exact ⟨.answer SRT_ERROR, by simp [startClient]⟩
  | getaddrinfo => exact ⟨.addresses 1 0, by simp [startClient]⟩
  | connect result addresses =>
      cases addresses with
      | zero => exact ⟨.tau, by simp only [startClient]; split_ifs <;> rfl⟩
      | succ n => exact ⟨.answer SRT_ERROR, by simp [startClient]⟩
  | closeAndFail exit => exact ⟨.answer 0, rfl⟩
  | publish => exact ⟨.tau, rfl⟩
  | ret exit obtained => exact ⟨.tau, rfl⟩
  | resolve => cases hplace
  | pton => cases hplace
  | bind => cases hplace
  | listen => cases hplace

theorem statisticsReturn_goesOn {s : SRTSOCKET} {p : Pc} : GoesOn (statisticsReturn σ t s p) := by
  cases hs : statisticsSocket σ s with
  | none => exact ⟨.tau, by simp [statisticsReturn, hs]⟩
  | some s' => exact ⟨.answer 0, by simp [statisticsReturn, hs]⟩

/-! ## Who is able to move -/

/-- A thread inside the object that can make a step. -/
def Able (cb : Callbacks) (σ : State) (t : Tid) : Prop :=
  σ.pc t ≠ .idle ∧ GoesOn (step cb σ t)

/-- What a thread waits for is not in its way. -/
def State.available (σ : State) : Resource → Prop
  | .netMtx => σ.netMtx = none
  | .clientListMtx => σ.clientListMtx = none
  | .thread u => (σ.pc u).isFinished = true

/-- A `join` of a thread that has returned. -/
theorem joined_of_available {handle : Option Tid}
    (hfree : ∀ r, handle.map Resource.thread = some r → σ.available r) :
    σ.joined handle := by
  intro w hw
  exact hfree (.thread w) (by rw [Option.mem_def.mp hw]; rfl)

theorem stop_goesOn {dtor : Bool} {pc : StopPc} (hp : σ.pc t = .stop dtor pc)
    (hfree : ∀ r, σ.wants t = some r → σ.available r) : GoesOn (stop σ t dtor pc) := by
  unfold State.wants at hfree
  rw [hp] at hfree
  cases pc with
  | lock => exact ⟨.tau, lockNet_isSome (hfree _ rfl)⟩
  | readMode => exact ⟨.tau, by simp only [stop]; cases σ.currentMode <;> rfl⟩
  | srtClose mode =>
      by_cases hcontext : σ.context = 0
      · exact ⟨.tau, by simp [stop, hcontext]⟩
      · exact ⟨.answer SRT_ERROR, by simp [stop, hcontext]⟩
  | joinWorker mode result =>
      have hjoin := joined_of_available hfree
      cases mode <;> exact ⟨.tau, by simp [stop, hjoin]⟩
  | joinEvent result =>
      have hjoin := joined_of_available hfree
      exact ⟨.tau, by simp [stop, hjoin]⟩
  | ret result => exact ⟨.tau, by simp only [stop]; split_ifs <;> rfl⟩

theorem closeAllClientSockets_goesOn {caller : SweepCaller} {pc : SweepPc}
    (hfree : pc = .lock → σ.clientListMtx = none) :
    GoesOn (closeAllClientSockets cb σ t caller pc) := by
  cases pc with
  | lock => exact ⟨.tau, lockList_isSome (hfree rfl)⟩
  | next rest =>
      cases rest with
      | nil => exact ⟨.tau, rfl⟩
      | cons a rest =>
          refine ⟨.answer 0, ?_⟩
          simp only [closeAllClientSockets]
          split_ifs <;> rfl

theorem waitForSRTClient_goesOn {k : Nat} {pc : AcceptPc}
    (hfree : ∀ s c, pc = .insert s c → σ.clientListMtx = none) :
    GoesOn (waitForSRTClient σ k pc) := by
  cases pc with
  | epollCreate => exact ⟨.answer 0, rfl⟩
  | epollSet => exact ⟨.answer 0, rfl⟩
  | spawn => exact ⟨.garbage (fun _ => 0), rfl⟩
  | head => exact ⟨.tau, by simp only [waitForSRTClient]; split_ifs <;> rfl⟩
  | accept => exact ⟨.answer (-1), by simp [waitForSRTClient]⟩
  | insert s c => exact ⟨.answer 0, by simp [waitForSRTClient, hfree s c rfl]⟩
  | refuse s => exact ⟨.tau, rfl⟩

theorem serverEventHandler_goesOn {k : Nat} {pc : EventPc}
    (hfree : ∀ b result, pc = .handle b result → σ.clientListMtx = none) :
    GoesOn (serverEventHandler cb σ k pc) := by
  cases pc with
  | head ready => exact ⟨.tau, by simp only [serverEventHandler]; split_ifs <;> rfl⟩
  | uwait ready => exact ⟨.ready none, rfl⟩
  | recv b => exact ⟨.answer 0, rfl⟩
  | handle b result => exact ⟨.answer 0, by simp [serverEventHandler, hfree b result rfl]⟩
  | release => exact ⟨.answer 0, rfl⟩

theorem clientWorker_goesOn {k : Nat} {pc : WorkerPc} : GoesOn (clientWorker cb σ k pc) := by
  cases pc with
  | head => exact ⟨.tau, by simp only [clientWorker]; split_ifs <;> rfl⟩
  | recv => exact ⟨.answer 0, by simp [clientWorker, SRT_ERROR]⟩
  | exit => exact ⟨.tau, rfl⟩

theorem callback_goesOn {site : CallbackSite} {pc : CallbackPc}
    (hfree : ∀ s, pc = .stats (.lock s) → σ.netMtx = none) : GoesOn (callback σ t site pc) := by
  rcases pc with _ | (s | s)
  · exact ⟨.lockFree, rfl⟩
  · exact ⟨.tau, lockNet_isSome (hfree s rfl)⟩
  · obtain ⟨i, hi⟩ : GoesOn (statisticsReturn σ t s (.callback site .user)) :=
      statisticsReturn_goesOn
    exact ⟨i, hi⟩

/-- A thread that waits for nothing, or for what is available, is able to move. -/
theorem able_of_available (ht : Threads σ) (hplaced : Placed σ) (hrun : σ.halted = none)
    (hidle : σ.pc t ≠ .idle) (hfin : σ.pc t ≠ .finished)
    (hfree : ∀ r, σ.wants t = some r → σ.available r) : Able cb σ t := by
  refine ⟨hidle, ?_⟩
  have hruns := ht.runs t
  have hwants := hfree
  unfold State.wants at hwants
  unfold step GoesOn
  rw [hrun]
  cases hp : σ.pc t with
  | idle => exact absurd hp hidle
  | finished => exact absurd hp hfin
  | start call pc =>
      have hplace := hplaced t call pc hp
      have hlock : pc = .lock → σ.netMtx = none := by
        intro hlock
        rw [hp, hlock] at hwants
        exact hwants _ rfl
      cases call with
      | startServer a ipType => exact startServer_goesOn hplace hlock
      | startClient a => exact startClient_goesOn hplace hlock
  | stop dtor pc => exact stop_goesOn hp hfree
  | getStatistics pc =>
      rw [hp] at hwants
      cases pc with
      | lock s => exact ⟨.tau, lockNet_isSome (hwants _ rfl)⟩
      | body s => exact statisticsReturn_goesOn
  | getActiveClients pc =>
      rw [hp] at hwants
      cases pc with
      | lock => exact ⟨.tau, lockList_isSome (hwants _ rfl)⟩
      | body => exact ⟨.tau, rfl⟩
  | closeAllClientSockets caller pc =>
      rw [hp] at hwants
      refine closeAllClientSockets_goesOn fun hpc => ?_
      subst hpc
      exact hwants _ rfl
  | waitForSRTClient pc =>
      rw [hp] at hwants hruns
      cases t with
      | worker k =>
          refine waitForSRTClient_goesOn fun s c hpc => ?_
          subst hpc
          exact hwants _ rfl
      | _ => cases hruns
  | serverEventHandler pc =>
      rw [hp] at hwants hruns
      cases t with
      | event k =>
          refine serverEventHandler_goesOn fun b result hpc => ?_
          subst hpc
          exact hwants _ rfl
      | _ => cases hruns
  | clientWorker pc =>
      rw [hp] at hruns
      cases t with
      | worker k => exact clientWorker_goesOn
      | _ => cases hruns
  | callback site pc =>
      rw [hp] at hwants
      refine callback_goesOn fun s hpc => ?_
      subst hpc
      exact hwants _ rfl

end

end SrtNet
