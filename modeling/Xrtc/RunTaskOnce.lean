import Xrtc.RunTask

/-!
# A `RunTask` is a one-shot between resets

Both public calls of a task make the same test twice, before and after they
count themselves.  A call that runs the callback leaves a task that passes the
test, and a call of a task that passes it returns false and writes nothing.
So from any task whatever, as long as only one of the two calls is used and
nobody resets it, the callback runs at most once.  On a fresh task that does
not pass the test to begin with, the run falls on the first call that does.
A task without a time limit passes the disjunctive test from the start.
-/

namespace RunTask

/-- The two public calls of a task. -/
inductive Variant where
  | timeAndCount
  | timeOrCount
deriving DecidableEq

namespace Variant

variable {σ : Type*}

def call : Variant → RunTask → Reading → (σ → σ) → σ → Outcome σ
  | timeAndCount => doByTimeAndCount
  | timeOrCount => doByTimeOrCount

/-- The test a call makes before and after it counts itself. -/
def done : Variant → RunTask → Bool
  | timeAndCount, task => task.checkCountDone && task.checkTimeDone
  | timeOrCount, task => task.checkCountDone || task.checkTimeDone

/-- Both calls are the same call around their own test. -/
theorem call_eq (variant : Variant) (task : RunTask) (clock : Reading) (yet : σ → σ) (s : σ) :
    variant.call task clock yet s =
      if variant.done task then ⟨false, task, s⟩
      else
        let next := task.selfIncForCount.selfIncForTime clock
        if !variant.done next then ⟨false, next, s⟩
        else ⟨true, next, yet s⟩ := by
  cases variant
  · rfl
  · rfl

theorem call_done {variant : Variant} {task : RunTask} (clock : Reading) (yet : σ → σ) (s : σ)
    (hdone : variant.done task = true) :
    variant.call task clock yet s = ⟨false, task, s⟩ := by
  rw [call_eq, if_pos hdone]

/-- What an open task does with a call is decided by the test it makes after
counting the call. -/
theorem call_open {variant : Variant} {task : RunTask} (clock : Reading) (yet : σ → σ) (s : σ)
    (hopen : variant.done task = false) :
    variant.call task clock yet s =
      (let next := task.selfIncForCount.selfIncForTime clock
      if variant.done next then ⟨true, next, yet s⟩ else ⟨false, next, s⟩) := by
  rw [call_eq, if_neg (by simp [hopen])]
  cases h : variant.done (task.selfIncForCount.selfIncForTime clock)
  · simp [h]
  · simp [h]

/-- The task before call `k` when `variant` is the only call made. -/
def before (variant : Variant) (clock : SteadyClock) (task : RunTask) : ℕ → RunTask
  | 0 => task
  | k + 1 => (variant.call (before variant clock task k) (clock.reading k) id ()).task

/-- Call `k`, with a callback that raises a flag. -/
def nth (variant : Variant) (clock : SteadyClock) (task : RunTask) (k : ℕ) : Outcome Bool :=
  variant.call (variant.before clock task k) (clock.reading k) (fun _ => true) false

section Run

variable {variant : Variant} {clock : SteadyClock} {task : RunTask}

/-- What becomes of the task does not depend on the callback. -/
theorem before_succ (k : ℕ) :
    variant.before clock task (k + 1) = (variant.nth clock task k).task := by
  rw [before, nth, call_eq, call_eq]
  dsimp only
  split_ifs <;> rfl

/-- A call returns whether it ran its callback. -/
theorem nth_returned (k : ℕ) :
    (variant.nth clock task k).returned = (variant.nth clock task k).state := by
  rw [nth, call_eq]
  dsimp only
  split_ifs <;> rfl

/-- A call that ran its callback leaves a task that is done. -/
theorem done_of_ran {k : ℕ} (hran : (variant.nth clock task k).state = true) :
    variant.done (variant.nth clock task k).task = true := by
  unfold nth at hran ⊢
  cases hbefore : variant.done (variant.before clock task k) with
  | true =>
      rw [call_done _ _ _ hbefore] at hran
      cases hran
  | false =>
      rw [call_open _ _ _ hbefore] at hran ⊢
      dsimp only at hran ⊢
      split_ifs at hran ⊢ with hafter
      exact hafter

/-- A done task stays as it is, whatever is asked of it. -/
theorem before_of_done {i j : ℕ} (hij : i ≤ j)
    (hdone : variant.done (variant.before clock task i) = true) :
    variant.before clock task j = variant.before clock task i := by
  induction j, hij using Nat.le_induction with
  | base => rfl
  | succ j _ ih =>
      have hj : variant.done (variant.before clock task j) = true := by
        rw [ih]
        exact hdone
      rw [before, call_done _ _ _ hj]
      exact ih

/-- After the call that ran the callback the task stays as that call left it. -/
theorem before_after_ran {i j : ℕ} (hran : (variant.nth clock task i).state = true)
    (hij : i < j) : variant.before clock task j = (variant.nth clock task i).task := by
  have hdone : variant.done (variant.before clock task (i + 1)) = true := by
    rw [before_succ]
    exact done_of_ran hran
  rw [before_of_done hij hdone, before_succ]

/-- Every call after the one that ran the callback is refused. -/
theorem nth_after_ran {i j : ℕ} (hran : (variant.nth clock task i).state = true) (hij : i < j) :
    variant.nth clock task j = ⟨false, variant.before clock task j, false⟩ := by
  apply call_done
  rw [before_after_ran hran hij]
  exact done_of_ran hran

end Run

end Variant

/-! ### Fresh tasks -/

/-- A task fresh from one of the two constructors. -/
def fresh (limit : Option Int) (n : Int) : RunTask :=
  match limit with
  | none => ofCount n
  | some T => ofTime T n

/-- What the test of a call amounts to by call `k` of a fresh task. -/
def Variant.Met (clock : SteadyClock) (limit : Option Int) (n : Int) (k : ℕ) :
    Variant → Prop
  | timeAndCount => n ≤ k + 1 ∧ ∀ T ∈ limit, T ≤ clock.now k - clock.start 0
  | timeOrCount => n ≤ k + 1 ∨ ∀ T ∈ limit, T ≤ clock.now k - clock.start 0

/-- A task that has counted `k` calls since it was constructed and, if it has a
time limit, holds the first call's start point. -/
structure Counted (clock : SteadyClock) (limit : Option Int) (n : Int) (k : ℕ)
    (task : RunTask) : Prop where
  maxCount : task.runMaxCount = some n
  maxTime : task.runMaxTime = limit
  count : task.runCount.getD 0 = k
  start : limit.isSome → task.startRunTimePoint.getD (clock.start k) = clock.start 0

section Fresh

variable {variant : Variant} {clock : SteadyClock} {limit : Option Int} {n : Int}

theorem counted_fresh : Counted clock limit n 0 (fresh limit n) := by
  cases limit with
  | none => exact ⟨rfl, rfl, rfl, fun _ => rfl⟩
  | some T => exact ⟨rfl, rfl, rfl, fun _ => rfl⟩

/-- Counting call `k`: the task has counted one more, and passes each test
exactly when call `k` meets the limits it asks for. -/
theorem Counted.selfInc {k : ℕ} {task : RunTask} (hcounted : Counted clock limit n k task) :
    Counted clock limit n (k + 1) (task.selfIncForCount.selfIncForTime (clock.reading k)) ∧
      ∀ variant : Variant,
        (variant.done (task.selfIncForCount.selfIncForTime (clock.reading k)) = true ↔
          variant.Met clock limit n k) := by
  obtain ⟨runTime, runCount, runMaxTime, runMaxCount, start⟩ := task
  obtain ⟨hmax, hmaxTime, hcount, hstart⟩ := hcounted
  dsimp only at hmax hmaxTime hcount hstart
  subst hmax hmaxTime
  cases runMaxTime with
  | none =>
      refine ⟨⟨rfl, rfl, ?_, fun h => by simp at h⟩, fun variant => ?_⟩
      · simp [selfIncForTime, selfIncForCount, hcount]
      · cases variant <;> simp [Variant.done, Variant.Met, checkCountDone, checkTimeDone,
          selfIncForTime, selfIncForCount, hcount]
  | some T =>
      have hs : start.getD (clock.reading k).first = clock.start 0 := hstart rfl
      refine ⟨⟨rfl, rfl, ?_, fun _ => ?_⟩, fun variant => ?_⟩
      · simp [selfIncForTime, selfIncForCount, hcount]
      · simp [selfIncForTime, selfIncForCount, hs]
      · cases variant <;> simp [Variant.done, Variant.Met, checkCountDone, checkTimeDone,
          selfIncForTime, selfIncForCount, hcount, hs, SteadyClock.now]

/-- As long as no call has met the limits the task is open and has counted
every call. -/
theorem before_open (hfresh : variant.done (fresh limit n) = false) (k : ℕ)
    (hquiet : ∀ i < k, ¬ variant.Met clock limit n i) :
    Counted clock limit n k (variant.before clock (fresh limit n) k) ∧
      variant.done (variant.before clock (fresh limit n) k) = false := by
  induction k with
  | zero => exact ⟨counted_fresh, hfresh⟩
  | succ k ih =>
      obtain ⟨hcounted, hopen⟩ := ih (fun i hi => hquiet i (by omega))
      obtain ⟨hnext, hdone⟩ := hcounted.selfInc
      have hnot := (hdone variant).not.mpr (hquiet k (by omega))
      rw [Variant.before, Variant.call_open _ _ _ hopen, if_neg hnot]
      exact ⟨hnext, by simpa using hnot⟩

/-- A call that no earlier call forestalls runs the callback exactly when it
meets the limits. -/
theorem nth_open (hfresh : variant.done (fresh limit n) = false) {k : ℕ}
    (hquiet : ∀ i < k, ¬ variant.Met clock limit n i) :
    (variant.nth clock (fresh limit n) k).state = true ↔ variant.Met clock limit n k := by
  obtain ⟨hcounted, hopen⟩ := before_open hfresh k hquiet
  rw [← hcounted.selfInc.2 variant, Variant.nth, Variant.call_open _ _ _ hopen]
  dsimp only
  split_ifs with hdone
  · simp [hdone]
  · simp [hdone]

/-- On a fresh task that is open, the callback runs exactly on the first call
that meets the limits. -/
theorem nth_ran_iff (hfresh : variant.done (fresh limit n) = false) (k : ℕ) :
    (variant.nth clock (fresh limit n) k).state = true ↔
      variant.Met clock limit n k ∧ ∀ i < k, ¬ variant.Met clock limit n i := by
  rcases quiet_or_first (fun i => variant.Met clock limit n i) k with
    hquiet | ⟨first, hlt, hfirst⟩
  · rw [nth_open hfresh hquiet]
    exact (and_iff_left hquiet).symm
  · -- an earlier call has run the callback
    have hran := (nth_open hfresh hfirst.2).mpr hfirst.1
    rw [Variant.nth_after_ran hran hlt]
    exact iff_of_false Bool.false_ne_true (fun hk => hk.2 first hlt hfirst.1)

end Fresh

/-! ### `doByTimeOrCount` on a fresh task -/

/-- The task before call `k` when only `doByTimeOrCount` is called. -/
def orBefore (clock : SteadyClock) (task : RunTask) : ℕ → RunTask
  | 0 => task
  | k + 1 => ((orBefore clock task k).doByTimeOrCount (clock.reading k) id ()).task

/-- Call `k`, with a callback that raises a flag. -/
def orCall (clock : SteadyClock) (task : RunTask) (k : ℕ) : Outcome Bool :=
  (orBefore clock task k).doByTimeOrCount (clock.reading k) (fun _ => true) false

/-- By call `k` the count limit is reached, or there is a time limit and it is
reached. -/
def LimitReached (clock : SteadyClock) (limit : Option Int) (n k : ℕ) : Prop :=
  n ≤ k + 1 ∨ ∃ T ∈ limit, T ≤ clock.now k - clock.start 0

/-- Call `k` is the first one by which a configured limit is reached. -/
def FirstReached (clock : SteadyClock) (limit : Option Int) (n k : ℕ) : Prop :=
  LimitReached clock limit n k ∧ ∀ i < k, ¬ LimitReached clock limit n i

section Either

variable {clock : SteadyClock} {T : Int} {n : ℕ}

theorem orBefore_eq (task : RunTask) (k : ℕ) :
    orBefore clock task k = Variant.timeOrCount.before clock task k := by
  induction k with
  | zero => rfl
  | succ k ih =>
      rw [orBefore, ih]
      rfl

theorem orCall_eq (task : RunTask) (k : ℕ) :
    orCall clock task k = Variant.timeOrCount.nth clock task k := by
  unfold orCall
  rw [orBefore_eq]
  rfl

theorem met_timeOrCount {k : ℕ} :
    Variant.timeOrCount.Met clock (some T) n k ↔ LimitReached clock (some T) n k := by
  simp only [Variant.Met, LimitReached, Option.mem_def, Option.some.injEq, forall_eq',
    exists_eq_left']
  norm_cast

/-- With a time limit, a call runs its callback exactly when it is the first one
by which a limit is reached, and returns true exactly then. -/
theorem orCall_timed_iff (hT : 0 < T) (hn : 1 ≤ n) (k : ℕ) :
    ((orCall clock (ofTime T n) k).state = true ↔ FirstReached clock (some T) n k) ∧
      ((orCall clock (ofTime T n) k).returned = true ↔
        FirstReached clock (some T) n k) := by
  have hfresh : Variant.timeOrCount.done (fresh (some T) n) = false := by
    have hneither : ¬ ((n : Int) ≤ 0 ∨ T ≤ 0) := by omega
    show (decide ((n : Int) ≤ 0) || decide (T ≤ 0)) = false
    rw [← Bool.decide_or]
    exact decide_eq_false hneither
  have hran : (orCall clock (ofTime T n) k).state = true ↔ FirstReached clock (some T) n k := by
    have hfirst := @nth_ran_iff .timeOrCount clock (some T) n hfresh k
    simp only [met_timeOrCount] at hfirst
    rw [orCall_eq]
    exact hfirst
  refine ⟨hran, ?_⟩
  rw [orCall_eq, Variant.nth_returned, ← orCall_eq]
  exact hran

/-- Without a time limit the task counts as done from the start, and no call
does anything. -/
theorem orCall_ofCount (n : Int) (k : ℕ) :
    orCall clock (ofCount n) k = ⟨false, ofCount n, false⟩ := by
  have hdone : Variant.timeOrCount.done (ofCount n) = true := by
    simp [Variant.done, ofCount, checkTimeDone]
  have hbefore : Variant.timeOrCount.before clock (ofCount n) k = ofCount n :=
    Variant.before_of_done (Nat.zero_le k) hdone
  rw [orCall_eq, Variant.nth, hbefore]
  exact Variant.call_done _ _ _ hdone

/-- Without a time limit the first call by which a limit is reached is the
`n`-th. -/
theorem firstReached_none (hn : 1 ≤ n) {k : ℕ} :
    FirstReached clock none n k ↔ k + 1 = n := by
  have hreached : ∀ i, LimitReached clock none n i ↔ n ≤ i + 1 := by
    intro i
    simp [LimitReached]
  simp only [FirstReached, hreached]
  constructor
  · intro h
    by_contra hne
    exact h.2 (k - 1) (by omega) (by omega)
  · intro h
    exact ⟨by omega, fun i hi => by omega⟩

/-- **The disjunctive variant.**  The callback runs on the first call by which a
configured limit is reached, and that call returns true, exactly when a time
limit is configured or the count limit is not reached within the calls made: a
task without a time limit never runs its callback. -/
theorem doByTimeOrCount_first_reached_iff (clock : SteadyClock) (limit : Option Int)
    (n : ℕ) (hn : 1 ≤ n) (hlimit : ∀ T ∈ limit, 0 < T) (calls : ℕ) :
    (∀ k < calls,
      ((orCall clock (fresh limit n) k).state = true ↔ FirstReached clock limit n k) ∧
      (FirstReached clock limit n k →
        (orCall clock (fresh limit n) k).returned = true)) ↔
      limit.isSome ∨ calls < n := by
  cases limit with
  | none =>
      have hcall : ∀ k, (orCall clock (fresh none n) k).state = false := by
        intro k
        show (orCall clock (ofCount n) k).state = false
        rw [orCall_ofCount]
      constructor
      · intro h
        by_contra hcalls
        simp only [Option.isSome_none, Bool.false_eq_true, false_or, Nat.not_lt] at hcalls
        have hran := (h (n - 1) (by omega)).1.mpr
          ((firstReached_none hn).mpr (by omega))
        rw [hcall] at hran
        cases hran
      · intro h k hk
        simp only [Option.isSome_none, Bool.false_eq_true, false_or] at h
        have hnot : ¬ FirstReached clock none n k := by
          rw [firstReached_none hn]
          omega
        rw [hcall]
        exact ⟨by simp [hnot], fun hfirst => absurd hfirst hnot⟩
  | some T =>
      constructor
      · intro _
        exact Or.inl rfl
      · intro _ k _
        have hT : 0 < T := hlimit T rfl
        obtain ⟨hran, hreturned⟩ := @orCall_timed_iff clock T n hT hn k
        exact ⟨hran, hreturned.mpr⟩

end Either

/-- With a limit of two calls or 300 ms, the second of two calls 10 ms apart is
the one that runs the callback. -/
theorem orCall_second_of_two :
    (1 ≤ 2 ∧ ∀ T ∈ some (300000000 : Int), 0 < T) ∧
      ∀ k < 2,
        ((orCall (.every 10000000) (fresh (some 300000000) (2 : ℕ)) k).state = true ↔
          FirstReached (.every 10000000) (some 300000000) 2 k) ∧
        (FirstReached (.every 10000000) (some 300000000) 2 k →
          (orCall (.every 10000000) (fresh (some 300000000) (2 : ℕ)) k).returned = true) :=
  ⟨⟨by decide, by simp⟩, (doByTimeOrCount_first_reached_iff (.every 10000000)
    (some 300000000) 2 (by decide) (by simp) 2).mpr (Or.inl rfl)⟩

/-- The first call of a task limited to one call is the first by which its limit
is reached, and it neither runs the callback nor returns true. -/
theorem orCall_count_only_never_runs :
    FirstReached (.every 10000000) none 1 0 ∧
      (orCall (.every 10000000) (fresh none 1) 0).state = false ∧
      (orCall (.every 10000000) (fresh none 1) 0).returned = false := by
  refine ⟨(firstReached_none le_rfl).mpr rfl, rfl, rfl⟩

/-! ### `doByTimeAndCount` on a fresh task -/

/-- By call `k` the count limit is met, and so is the time limit if there is
one. -/
def LimitsMet (clock : SteadyClock) (limit : Option Int) (n : Int) (k : ℕ) : Prop :=
  n ≤ k + 1 ∧ ∀ T ∈ limit, T ≤ clock.now k - clock.start 0

/-- Call `k` is the first one by which the limits are met. -/
def FirstMet (clock : SteadyClock) (limit : Option Int) (n : Int) (k : ℕ) : Prop :=
  LimitsMet clock limit n k ∧ ∀ i < k, ¬ LimitsMet clock limit n i

/-- A fresh task is open as soon as one of its limits is a real one. -/
theorem fresh_open {limit : Option Int} {n : Int} (hlimit : 1 ≤ n ∨ ∃ T ∈ limit, 0 < T) :
    Variant.timeAndCount.done (fresh limit n) = false := by
  cases limit with
  | none =>
      have hn : 1 ≤ n := by simpa using hlimit
      have hcount : ¬ n ≤ 0 := by omega
      simp [Variant.done, fresh, ofCount, checkCountDone, checkTimeDone, hcount]
  | some T =>
      have hboth : ¬ (n ≤ 0 ∧ T ≤ 0) := by
        simp only [Option.mem_def, Option.some.injEq, exists_eq_left'] at hlimit
        omega
      show (decide (n ≤ 0) && decide (T ≤ 0)) = false
      rw [← Bool.decide_and]
      exact decide_eq_false hboth

/-- **One run between two resets.**  Whatever the task, and whichever of the two
calls is the only one made: once a call has run the callback, no later call
runs it, each of them returns false, and each finds and leaves the task as that
call left it.  On a fresh task with a real limit the conjunctive call runs the
callback exactly on the first call that meets the limits. -/
theorem runs_once_between_resets (clock : SteadyClock) :
    (∀ (variant : Variant) (task : RunTask) (i j : ℕ),
      (variant.nth clock task i).state = true → i < j →
        (variant.nth clock task j).state = false ∧
        (variant.nth clock task j).returned = false ∧
        variant.before clock task j = (variant.nth clock task i).task ∧
        (variant.nth clock task j).task = variant.before clock task j) ∧
      ∀ (limit : Option Int) (n : Int), (1 ≤ n ∨ ∃ T ∈ limit, 0 < T) → ∀ k,
        ((Variant.timeAndCount.nth clock (fresh limit n) k).state = true ↔
          FirstMet clock limit n k) := by
  constructor
  · intro variant task i j hran hij
    rw [Variant.nth_after_ran hran hij]
    exact ⟨rfl, rfl, Variant.before_after_ran hran hij, rfl⟩
  · intro limit n hlimit k
    exact nth_ran_iff (fresh_open hlimit) k

/-- Two calls and 25 ms: of calls made every 10 ms the fourth runs the callback
and the fifth does not. -/
theorem runs_once_on_fourth_call :
    (1 ≤ (2 : Int) ∨ ∃ T ∈ some (25000000 : Int), 0 < T) ∧
      (Variant.timeAndCount.nth (.every 10000000) (fresh (some 25000000) 2) 3).state = true ∧
      (Variant.timeAndCount.nth (.every 10000000) (fresh (some 25000000) 2) 4).state = false := by
  have hlimit : 1 ≤ (2 : Int) ∨ ∃ T ∈ some (25000000 : Int), 0 < T := Or.inl (by decide)
  have hmet : ∀ i : ℕ, LimitsMet (.every 10000000) (some 25000000) 2 i ↔ 3 ≤ i := by
    intro i
    simp only [LimitsMet, SteadyClock.every, SteadyClock.ofNow, SteadyClock.now,
      SteadyClock.start, Option.mem_def, Option.some.injEq, forall_eq']
    omega
  have honce := runs_once_between_resets (.every 10000000)
  have hran := (honce.2 (some 25000000) 2 hlimit 3).mpr
    ⟨(hmet 3).mpr le_rfl, fun i hi hi' => by
      have := (hmet i).mp hi'
      omega⟩
  exact ⟨hlimit, hran, (honce.1 .timeAndCount _ 3 4 hran (by decide)).1⟩

end RunTask
