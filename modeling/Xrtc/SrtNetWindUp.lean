import Xrtc.SrtNetAble

/-!
# How a session winds up

Once a `stop` is past its `srt_close`, it and the two session threads together
have a bounded number of steps left, whatever SRT answers (`State.toDo`): the
flags are down, so every loop ends at its guard, and what the loops of
`closeAllClientSockets` have to visit is in the list.  Steps inside a user
callback are not counted.
-/

namespace SrtNet

/-! ## What is left to do while a session winds up -/

/-- What the caller of `closeAllClientSockets` does afterwards. -/
def SweepCaller.fuel : SweepCaller → ℕ
  | .stop _ _ => 2
  | .waitForSRTClient => 1

/-- The rest of the inner loop of `serverEventHandler`. -/
def Batch.fuel (b : Batch) : ℕ :=
  3 * (b.ret - (b.i + 1))

/-- The steps a thread has left once the activity flags are down, with `size`
clients in the list. -/
def Pc.fuel (size : ℕ) : Pc → ℕ
  | .stop _ (.joinWorker _ _) => 2
  | .stop _ (.joinEvent _) => 1
  | .closeAllClientSockets caller .lock => caller.fuel + 2 * size + 2
  | .closeAllClientSockets caller (.next rest) => caller.fuel + 2 * rest.length + 1
  | .callback (.sweep caller rest) _ => caller.fuel + 2 * rest.length + 2
  | .waitForSRTClient .epollCreate => 2 * size + 8
  | .waitForSRTClient .epollSet => 2 * size + 7
  | .waitForSRTClient .spawn => 2 * size + 6
  | .waitForSRTClient .accept => 8
  | .callback (.clientConnected _) _ => 7
  -- an insertion may lengthen the loop of `stop`
  | .waitForSRTClient (.insert _ _) => 6
  | .waitForSRTClient (.refuse _) => 2
  | .waitForSRTClient .head => 1
  | .serverEventHandler (.uwait _) => 21
  | .serverEventHandler (.recv b) => b.fuel + 5
  | .serverEventHandler (.handle b _) => b.fuel + 4
  | .callback (.event b) _ => b.fuel + 3
  | .serverEventHandler (.head _) => 2
  | .serverEventHandler .release => 1
  | .clientWorker .recv => 4
  | .callback .clientData _ => 3
  | .clientWorker .head => 2
  | .callback .clientReport _ => 2
  | .clientWorker .exit => 1
  | _ => 0

/-- Inside a user callback, its own calls of the object included. -/
def Pc.inCallback : Pc → Bool
  | .callback _ _ => true
  | _ => false

section

variable {cb : Callbacks} {σ σ' : State} {t u : Tid} {i : Input}

theorem callback_fuel (site : CallbackSite) (pc pc' : CallbackPc) (size : ℕ) :
    (Pc.callback site pc').fuel size = (Pc.callback site pc).fuel size := by
  cases site <;> rfl

/-- Thread `u` is `stop`'s thread `t` or one of the two threads it joins. -/
def State.concerns (σ : State) (t u : Tid) : Prop :=
  u = .worker σ.session ∨ u = .event σ.session ∨ u = t

/-- A `stop` past its `srt_close` moves towards its return. -/
theorem Move.pastClose_self (hm : Move cb σ t i σ') (hpast : (σ.pc t).pastClose = true) :
    (σ'.pc t).pastClose = true ∨
      σ'.currentMode = .unknown ∧ ∃ dtor result, σ'.pc t = .stop dtor (.ret result) := by
  have hself : ∀ {τ : State} {p : Pc}, p.pastClose = true → ((τ.goto t p).pc t).pastClose = true := by
    intro τ p hp
    rw [State.goto_pc, Function.update_self]
    exact hp
  cases hm with
  | silent hp hs =>
      rw [hp] at hpast
      cases hs with
      | sweepResume caller rest => exact .inl (hself hpast)
      | lockFree site => exact .inl (hself hpast)
      | startWork call h h' => cases hpast
      | _ => cases hpast
  | askStatistics hp =>
      rw [hp] at hpast
      exact .inl (hself hpast)
  | takeNet hp hs hfree =>
      rw [hp] at hpast
      cases hs with
      | callback site s => exact .inl (hself hpast)
      | _ => cases hpast
  | dropNet hp hs =>
      rw [hp] at hpast
      cases hs with
      | callback site s => exact .inl (hself hpast)
      | _ => cases hpast
  | joinWorkerServer hp hjoin => exact .inl (hself rfl)
  | joinWorkerClient hp hmode hjoin => exact .inr ⟨rfl, _, _, Function.update_self _ _ _⟩
  | joinEvent hp hjoin => exact .inr ⟨rfl, _, _, Function.update_self _ _ _⟩
  | sweepLock hp hfree =>
      rw [hp] at hpast
      exact .inl (hself hpast)
  | sweepReport r hp hcb =>
      rw [hp] at hpast
      exact .inl (hself hpast)
  | sweepQuiet r hp hcb =>
      rw [hp] at hpast
      exact .inl (hself hpast)
  | sweepClear hp =>
      rename_i caller
      rw [hp] at hpast
      refine .inl (hself ?_)
      cases caller <;> exact hpast
  | _ =>
      simp only [*] at hpast
      cases hpast

/-- A `stop` past its `srt_close` stays there until it is about to return. -/
theorem pastClose_step {ok : State → Tid × Input → Prop}
    (h : (system cb).ReachableUnder ok σ) (hm : Move cb σ u i σ')
    (hpast : (σ.pc t).pastClose = true) :
    (σ'.pc t).pastClose = true ∨
      σ'.currentMode = .unknown ∧ ∃ dtor result, σ'.pc t = .stop dtor (.ret result) := by
  by_cases hu : t = u
  · subst hu
    exact hm.pastClose_self hpast
  · have hinside : σ.pc t ≠ .idle := by
      intro hidle
      rw [hidle] at hpast
      cases hpast
    rw [hm.pc_of_inside (threads_reachable h) hu hinside]
    exact .inl hpast

/-! ## Joinable threads exist -/

theorem KindStep.to_idle {k : Kind} (h : KindStep t k .idle) : k = .idle ∨ k = .app := by
  cases h with
  | same => exact .inl rfl
  | leave => exact .inr rfl

/-- A session thread never gets back to not existing. -/
theorem Move.stays_inside (ht : Threads σ) (hm : Move cb σ t i σ') (hsession : ∀ n, u ≠ .app n)
    (hinside : σ.pc u ≠ .idle) : σ'.pc u ≠ .idle := by
  by_cases hu : u = t
  · subst hu
    have hruns := ht.runs u
    intro hidle
    cases hm.shape with
    | still hpc _ => exact hinside (hpc ▸ hidle)
    | goto p hpc _ hkind _ =>
        rw [hpc, Function.update_self] at hidle
        rw [hidle] at hkind
        rcases hkind.to_idle with hk | hk
        · exact hinside (Pc.kind_eq_idle.mp hk)
        · rw [hk] at hruns
          cases u with
          | app n => exact hsession n rfl
          | _ => cases hruns
    | spawnWorker p q hpc _ hkind _ =>
        rw [hpc, Function.update_self] at hidle
        simp [hidle, Pc.kind] at hkind
    | spawnEvent k p q _ hpc _ hkind _ _ _ =>
        rw [hpc, Function.update_self] at hidle
        simp [hidle, Pc.kind] at hkind
  · rw [hm.pc_of_inside ht hu hinside]
    exact hinside

/-- The threads that a `stop` would join exist. -/
def Spawned (σ : State) : Prop :=
  ∀ w, σ.workerThread = some w ∨ σ.eventThread = some w → σ.pc w ≠ .idle

theorem Move.handle (ht : Threads σ) (hm : Move cb σ t i σ') {w : Tid}
    (hw : σ'.workerThread = some w ∨ σ'.eventThread = some w) :
    (σ.workerThread = some w ∨ σ.eventThread = some w) ∨ σ'.pc w ≠ .idle := by
  cases hm with
  | publishServer hp hfree =>
      rcases hw with hw | hw
      · obtain rfl := Option.some.inj hw
        right
        simp [Function.update_of_ne (ht.newWorker_ne hp)]
      · exact .inl (.inr hw)
  | publishClient hp hfree =>
      rcases hw with hw | hw
      · obtain rfl := Option.some.inj hw
        right
        simp [Function.update_of_ne (ht.newWorker_ne hp)]
      · exact .inl (.inr hw)
  | joinWorkerServer hp hjoin => exact .inl (.inr (hw.resolve_left (by simp)))
  | joinWorkerClient hp hmode hjoin => exact .inl (.inr (hw.resolve_left (by simp)))
  | joinEvent hp hjoin => exact .inl (.inl (hw.resolve_right (by simp)))
  | spawnEvent ready hp hfree =>
      rcases hw with hw | hw
      · exact .inl (.inl hw)
      · obtain rfl := Option.some.inj hw
        right
        simp
  | _ => exact .inl hw

theorem spawned_reachable {ok : State → Tid × Input → Prop}
    (h : (system cb).ReachableUnder ok σ) : Spawned σ := by
  refine invariant_of_moves (P := Spawned) ?_ ?_ h
  · intro w hw
    simp [State.init] at hw
  · intro σ t i σ' hreach hs _ _ hm w hw
    have ht := threads_reachable hreach
    have hlife := lifecycle_reachable hreach
    rcases hm.handle ht hw with hold | hnew
    · refine hm.stays_inside ht (fun n => ?_) (hs w hold)
      rcases hold with hold | hold
      · simp [(hlife.handle_worker w hold).1]
      · simp [(hlife.handle_event w hold).1]
    · exact hnew

end

end SrtNet
