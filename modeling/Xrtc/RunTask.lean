import Mathlib.Data.List.Range
import Mathlib.Tactic.Linarith

/-!
# The throttle `RunTask`

A `RunTask` runs a callback once a number of calls has been made, once a time
has passed, or both.  Every field is optional in the source and is optional
here; durations and time points are integers (nanoseconds).  A call reads the
steady clock at most twice: once for the start point, when there is none yet,
and once for the elapsed time.  `reset` clears the counter and the elapsed time
and leaves the start point alone, so the elapsed time of every later call is
still counted from the first call ever made.
-/

/-- The two clock readings a call may take, in the order it takes them. -/
structure Reading where
  first : Int
  second : Int
deriving DecidableEq

/-- A steady clock: the readings offered to the calls `0, 1, 2, …` never go
back. -/
structure SteadyClock where
  reading : ℕ → Reading
  within : ∀ k, (reading k).first ≤ (reading k).second
  between : ∀ k, (reading k).second ≤ (reading (k + 1)).first

namespace SteadyClock

/-- The reading from which call `k` computes its elapsed time. -/
def now (clock : SteadyClock) (k : ℕ) : Int :=
  (clock.reading k).second

/-- The reading of call `k` that becomes the start point if there is none. -/
def start (clock : SteadyClock) (k : ℕ) : Int :=
  (clock.reading k).first

theorem now_mono (clock : SteadyClock) {i j : ℕ} (hij : i ≤ j) :
    clock.now i ≤ clock.now j := by
  induction j, hij using Nat.le_induction with
  | base => exact le_rfl
  | succ j _ ih =>
      have hbetween := clock.between j
      have hwithin := clock.within (j + 1)
      unfold now at ih ⊢
      omega

/-- A clock from one reading per call. -/
def ofNow (now : ℕ → Int) (hmono : ∀ k, now k ≤ now (k + 1)) : SteadyClock where
  reading k := ⟨now k, now k⟩
  within _ := le_rfl
  between := hmono

/-- Calls made every `period`. -/
def every (period : ℕ) : SteadyClock :=
  ofNow (fun k => k * period) (fun k => by
    show (k : Int) * period ≤ (k + 1 : ℕ) * period
    exact mul_le_mul_of_nonneg_right (by omega) (by omega))

end SteadyClock

structure RunTask where
  runTime : Option Int := none
  runCount : Option Int := none
  runMaxTime : Option Int := none
  runMaxCount : Option Int := none
  startRunTimePoint : Option Int := none
deriving DecidableEq

namespace RunTask

/-- `RunTask(run_max_count)`. -/
def ofCount (runMaxCount : Int := 1) : RunTask :=
  { runMaxCount := some runMaxCount }

/-- `RunTask(run_max_time, run_max_count)`. -/
def ofTime (runMaxTime : Int) (runMaxCount : Int := 1) : RunTask :=
  { runMaxTime := some runMaxTime, runMaxCount := some runMaxCount }

def checkCountDone (task : RunTask) : Bool :=
  match task.runMaxCount with
  | none => true
  | some runMaxCount => decide (runMaxCount ≤ task.runCount.getD 0)

def checkTimeDone (task : RunTask) : Bool :=
  match task.runMaxTime with
  | none => true
  | some runMaxTime => decide (runMaxTime ≤ task.runTime.getD 0)

def selfIncForCount (task : RunTask) : RunTask :=
  match task.runMaxCount with
  | none => task
  | some _ => { task with runCount := some (task.runCount.getD 0 + 1) }

def selfIncForTime (task : RunTask) (clock : Reading) : RunTask :=
  match task.runMaxTime with
  | none => task
  | some _ =>
      let start := task.startRunTimePoint.getD clock.first
      { task with
        startRunTimePoint := some start
        runTime := some (clock.second - start) }

/-- The start point survives a reset, as it does in the source. -/
def reset (task : RunTask) : RunTask :=
  { task with runCount := none, runTime := none }

/-- What a call leaves behind: its return value, the task, and what the
callback acts on. -/
structure Outcome (σ : Type*) where
  returned : Bool
  task : RunTask
  state : σ

variable {σ : Type*}

def doByTimeAndCount (task : RunTask) (clock : Reading) (yet : σ → σ) (s : σ) :
    Outcome σ :=
  if task.checkCountDone && task.checkTimeDone then ⟨false, task, s⟩
  else
    let next := task.selfIncForCount.selfIncForTime clock
    if !(next.checkCountDone && next.checkTimeDone) then ⟨false, next, s⟩
    else ⟨true, next, yet s⟩

def doByTimeOrCount (task : RunTask) (clock : Reading) (yet : σ → σ) (s : σ) :
    Outcome σ :=
  if task.checkCountDone || task.checkTimeDone then ⟨false, task, s⟩
  else
    let next := task.selfIncForCount.selfIncForTime clock
    if !(next.checkCountDone || next.checkTimeDone) then ⟨false, next, s⟩
    else ⟨true, next, yet s⟩

/-- The callers' pattern: `if (task.doByTimeAndCount(yet)) { task.reset(); }`. -/
def doThenReset (task : RunTask) (clock : Reading) (yet : σ → σ) (s : σ) :
    RunTask × σ :=
  let outcome := task.doByTimeAndCount clock yet s
  (if outcome.returned then outcome.task.reset else outcome.task, outcome.state)

/-- Whether a call runs its callback does not depend on the callback. -/
theorem doByTimeAndCount_returned (task : RunTask) (clock : Reading) (yet : σ → σ) (s : σ) :
    (task.doByTimeAndCount clock yet s).returned =
      (task.doByTimeAndCount clock id ()).returned := by
  simp only [doByTimeAndCount]
  split_ifs <;> rfl

theorem doByTimeAndCount_state (task : RunTask) (clock : Reading) (yet : σ → σ) (s : σ) :
    (task.doByTimeAndCount clock yet s).state =
      if (task.doByTimeAndCount clock id ()).returned then yet s else s := by
  simp only [doByTimeAndCount]
  split_ifs <;> simp_all

/-! ### Tasks with a time limit under the callers' pattern -/

/-- A task with both limits, described by its counter, the elapsed time of the
last call and the start point. -/
def timed (T n : Int) (count elapsed start : Option Int) : RunTask :=
  { runTime := elapsed, runCount := count, runMaxTime := some T,
    runMaxCount := some n, startRunTimePoint := start }

theorem checkCountDone_timed (T n : Int) (count elapsed start : Option Int) :
    (timed T n count elapsed start).checkCountDone = decide (n ≤ count.getD 0) :=
  rfl

theorem checkTimeDone_timed (T n : Int) (count elapsed start : Option Int) :
    (timed T n count elapsed start).checkTimeDone = decide (T ≤ elapsed.getD 0) :=
  rfl

theorem selfInc_timed (T n : Int) (count elapsed start : Option Int)
    (clock : Reading) :
    (timed T n count elapsed start).selfIncForCount.selfIncForTime clock =
      timed T n (some (count.getD 0 + 1))
        (some (clock.second - start.getD clock.first))
        (some (start.getD clock.first)) :=
  rfl

theorem reset_timed (T n : Int) (count elapsed start : Option Int) :
    (timed T n count elapsed start).reset = timed T n none none start :=
  rfl

/-- A call of a task that is not yet done counts itself and reads the clock;
it runs the callback when both limits are then reached. -/
theorem doByTimeAndCount_timed {T n : Int} {count elapsed start : Option Int}
    (clock : Reading) (yet : σ → σ) (s : σ)
    (hopen : ¬ (n ≤ count.getD 0 ∧ T ≤ elapsed.getD 0)) :
    (timed T n count elapsed start).doByTimeAndCount clock yet s =
      (let next := timed T n (some (count.getD 0 + 1))
        (some (clock.second - start.getD clock.first)) (some (start.getD clock.first))
      if n ≤ count.getD 0 + 1 ∧ T ≤ clock.second - start.getD clock.first then
        ⟨true, next, yet s⟩
      else ⟨false, next, s⟩) := by
  have hbefore : ((timed T n count elapsed start).checkCountDone &&
      (timed T n count elapsed start).checkTimeDone) = false := by
    rw [checkCountDone_timed, checkTimeDone_timed, ← Bool.decide_and]
    exact decide_eq_false hopen
  unfold doByTimeAndCount
  rw [hbefore, selfInc_timed]
  simp only [checkCountDone_timed, checkTimeDone_timed, Option.getD_some, ← Bool.decide_and]
  by_cases hdue : n ≤ count.getD 0 + 1 ∧ T ≤ clock.second - start.getD clock.first
  · rw [decide_eq_true hdue, if_pos hdue]
    rfl
  · rw [decide_eq_false hdue, if_neg hdue]
    rfl

/-- One throttled call of a task that is not yet done: when the callback runs,
the counter and the elapsed time start over, but the start point stays. -/
theorem doThenReset_timed {T n : Int} {count elapsed start : Option Int}
    (clock : Reading) (yet : σ → σ) (s : σ)
    (hopen : ¬ (n ≤ count.getD 0 ∧ T ≤ elapsed.getD 0)) :
    (timed T n count elapsed start).doThenReset clock yet s =
      if n ≤ count.getD 0 + 1 ∧ T ≤ clock.second - start.getD clock.first then
        (timed T n none none (some (start.getD clock.first)), yet s)
      else
        (timed T n (some (count.getD 0 + 1))
          (some (clock.second - start.getD clock.first))
          (some (start.getD clock.first)), s) := by
  unfold doThenReset
  rw [doByTimeAndCount_timed clock yet s hopen]
  by_cases hdue : n ≤ count.getD 0 + 1 ∧ T ≤ clock.second - start.getD clock.first
  · simp only [if_pos hdue, reset_timed]
    rfl
  · simp only [if_neg hdue]
    rfl

/-- The throttled calls `0, …, calls - 1` of `task`, with the times at which
the callback ran. -/
def throttled (clock : SteadyClock) (task : RunTask) : ℕ → RunTask × List Int
  | 0 => (task, [])
  | k + 1 =>
      let before := throttled clock task k
      before.1.doThenReset (clock.reading k) (fun log => log ++ [clock.now k]) before.2

/-- Call `k` of a fresh task is the first one that meets both limits. -/
def FirstDue (clock : SteadyClock) (T : Int) (n k : ℕ) : Prop :=
  (n ≤ k + 1 ∧ T ≤ clock.now k - clock.start 0) ∧
    ∀ i < k, ¬ (n ≤ i + 1 ∧ T ≤ clock.now i - clock.start 0)

section Throttled

variable {clock : SteadyClock} {T : Int} {n : ℕ}

/-- Before the first due call nothing has run and the counter is the number of
calls made. -/
theorem throttled_before (hn : 1 ≤ n) (k : ℕ)
    (hquiet : ∀ i < k, ¬ (n ≤ i + 1 ∧ T ≤ clock.now i - clock.start 0)) :
    ∃ count elapsed start,
      throttled clock (ofTime T n) k = (timed T n count elapsed start, []) ∧
      count.getD 0 = k ∧ ¬ ((n : Int) ≤ count.getD 0 ∧ T ≤ elapsed.getD 0) ∧
      start.getD (clock.start k) = clock.start 0 := by
  induction k with
  | zero =>
      refine ⟨none, none, none, rfl, rfl, ?_, rfl⟩
      simp only [Option.getD_none]
      omega
  | succ k ih =>
      obtain ⟨count, elapsed, start, hrun, hcount, hopen, hstart⟩ :=
        ih (fun i hi => hquiet i (by omega))
      have hdue := hquiet k (by omega)
      have hcall : ¬ ((n : Int) ≤ count.getD 0 + 1 ∧
          T ≤ (clock.reading k).second - start.getD (clock.reading k).first) := by
        intro h
        apply hdue
        have hs : start.getD (clock.reading k).first = clock.start 0 := hstart
        rw [hs] at h
        exact ⟨by omega, h.2⟩
      refine ⟨some (count.getD 0 + 1),
        some ((clock.reading k).second - start.getD (clock.reading k).first),
        some (start.getD (clock.reading k).first), ?_, ?_, hcall, hstart⟩
      · rw [throttled, hrun]
        rw [doThenReset_timed _ _ _ hopen, if_neg hcall]
      · rw [Option.getD_some, hcount]
        norm_cast

/-- From the first due call on the time limit is always met, so the callback
runs at every `n`-th call: after `m + 1` runs the counter is the number of calls
made since the last of them. -/
theorem throttled_after (hn : 1 ≤ n) {first : ℕ} (hfirst : FirstDue clock T n first)
    (k : ℕ) (hk : first < k) :
    ∃ m count elapsed,
      throttled clock (ofTime T n) k = (timed T n count elapsed (some (clock.start 0)),
        (List.range (m + 1)).map (fun j => clock.now (first + n * j))) ∧
      first + n * m < k ∧ k ≤ first + n * (m + 1) ∧
      count.getD 0 + (first + n * m + 1 : ℕ) = k := by
  induction k, hk using Nat.le_induction with
  | base =>
      obtain ⟨count, elapsed, start, hrun, hcount, hopen, hstart⟩ :=
        throttled_before hn first hfirst.2
      have hs : start.getD (clock.reading first).first = clock.start 0 := hstart
      have hdue : (n : Int) ≤ count.getD 0 + 1 ∧
          T ≤ (clock.reading first).second - start.getD (clock.reading first).first := by
        rw [hs, hcount]
        exact ⟨by exact_mod_cast hfirst.1.1, hfirst.1.2⟩
      refine ⟨0, none, none, ?_, by omega, by omega, by simp⟩
      rw [throttled, hrun]
      rw [doThenReset_timed _ _ _ hopen, if_pos hdue, hs]
      rfl
  | succ k hlt ih =>
      obtain ⟨m, count, elapsed, hrun, hlast, hnext, hcount⟩ := ih
      have hstep : n * (m + 1) = n * m + n := Nat.mul_succ n m
      have hcountLt : count.getD 0 < n := by omega
      have hopen : ¬ ((n : Int) ≤ count.getD 0 ∧ T ≤ elapsed.getD 0) := by
        intro h
        omega
      have htime : T ≤ (clock.reading k).second - clock.start 0 := by
        have hmono := clock.now_mono (show first ≤ k by omega)
        have hmet := hfirst.1.2
        unfold SteadyClock.now at hmono hmet
        omega
      have hcall := @doThenReset_timed _ T n count elapsed (some (clock.start 0))
        (clock.reading k) (fun log => log ++ [clock.now k])
        ((List.range (m + 1)).map (fun j => clock.now (first + n * j))) hopen
      rw [throttled, hrun]
      by_cases hdue : k = first + n * (m + 1)
      · -- the counter has reached `n` again
        refine ⟨m + 1, none, none, ?_, by omega, ?_, ?_⟩
        · rw [hcall, if_pos ⟨by omega, htime⟩, List.range_succ (n := m + 1), List.map_append,
            hdue]
          rfl
        · rw [Nat.mul_succ n (m + 1)]
          omega
        · simp only [Option.getD_none]
          omega
      · refine ⟨m, some (count.getD 0 + 1), some ((clock.reading k).second - clock.start 0),
          ?_, by omega, by omega, ?_⟩
        · rw [hcall, if_neg (by intro h; omega)]
          rfl
        · simp only [Option.getD_some]
          push_cast at hcount ⊢
          omega

/-- Two consecutive runs of the callback are `T` apart exactly when every `n`-th
call after the first due one is made `T` after its predecessor. -/
theorem isChain_throttled_after (hn : 1 ≤ n) {first : ℕ}
    (hfirst : FirstDue clock T n first) {k : ℕ} (hk : first < k) :
    (throttled clock (ofTime T n) k).2.IsChain (fun a b => T ≤ b - a) ↔
      ∀ j, first + n * (j + 1) < k →
        T ≤ clock.now (first + n * (j + 1)) - clock.now (first + n * j) := by
  obtain ⟨m, count, elapsed, hrun, hlast, hnext, -⟩ := throttled_after hn hfirst k hk
  rw [hrun, List.isChain_map, List.isChain_range]
  constructor
  · intro hchain j hj
    apply hchain j
    by_contra hle
    have hmul : n * (m + 1) ≤ n * (j + 1) := Nat.mul_le_mul_left n (by omega)
    omega
  · intro hspaced j hj
    apply hspaced j
    have hmul : n * (j + 1) ≤ n * m := Nat.mul_le_mul_left n hj
    omega

theorem FirstDue.unique {i j : ℕ} (hi : FirstDue clock T n i) (hj : FirstDue clock T n j) :
    i = j := by
  rcases Nat.lt_trichotomy i j with hlt | heq | hgt
  · exact absurd hi.1 (hj.2 i hlt)
  · exact heq
  · exact absurd hj.1 (hi.2 j hgt)

/-- Either no number below `k` has the property, or one of them is the first. -/
theorem quiet_or_first (P : ℕ → Prop) (k : ℕ) :
    (∀ i < k, ¬ P i) ∨ ∃ first < k, P first ∧ ∀ i < first, ¬ P i := by
  induction k with
  | zero => exact Or.inl (fun i hi => absurd hi (Nat.not_lt_zero i))
  | succ k ih =>
      rcases ih with hquiet | ⟨first, hlt, hfirst⟩
      · by_cases hk : P k
        · exact Or.inr ⟨k, by omega, hk, hquiet⟩
        · refine Or.inl (fun i hi => ?_)
          rcases Nat.lt_succ_iff_lt_or_eq.mp hi with hlt | rfl
          · exact hquiet i hlt
          · exact hk
      · exact Or.inr ⟨first, by omega, hfirst⟩

/-- Either no call below `k` is due, or one of them is the first due. -/
theorem quiet_or_firstDue (clock : SteadyClock) (T : Int) (n k : ℕ) :
    (∀ i < k, ¬ (n ≤ i + 1 ∧ T ≤ clock.now i - clock.start 0)) ∨
      ∃ first < k, FirstDue clock T n first :=
  quiet_or_first (fun i => n ≤ i + 1 ∧ T ≤ clock.now i - clock.start 0) k

/-- **Spacing of a throttled callback.**  Under the callers' pattern the runs of
the callback are `T` apart exactly when the callers themselves space every
`n`-th call by `T` once the first due call has been made: the time limit is in
force for the first run only. -/
theorem throttled_apart_iff (clock : SteadyClock) (T : Int) (n : ℕ) (hn : 1 ≤ n)
    (calls : ℕ) :
    (throttled clock (ofTime T n) calls).2.IsChain (fun a b => T ≤ b - a) ↔
      ∀ first, FirstDue clock T n first → ∀ j, first + n * (j + 1) < calls →
        T ≤ clock.now (first + n * (j + 1)) - clock.now (first + n * j) := by
  rcases quiet_or_firstDue clock T n calls with hquiet | ⟨first, hlt, hfirst⟩
  · obtain ⟨count, elapsed, start, hrun, -⟩ := throttled_before hn calls hquiet
    rw [hrun]
    constructor
    · intro _ first hfirst j hj
      exact absurd hfirst.1 (hquiet first (by omega))
    · intro _
      exact List.isChain_nil
  · rw [isChain_throttled_after hn hfirst hlt]
    constructor
    · intro hspaced first' hfirst'
      rw [hfirst'.unique hfirst]
      exact hspaced
    · intro hspaced
      exact hspaced first hfirst

end Throttled

/-- Calls made every 300 ms run the callback at every call but the first. -/
theorem throttled_every_interval :
    1 ≤ 1 ∧ (throttled (.every 300000000) (ofTime 300000000 (1 : ℕ)) 5).2.IsChain
      (fun a b => 300000000 ≤ b - a) := by
  refine ⟨le_rfl, (throttled_apart_iff (.every 300000000) 300000000 1 le_rfl 5).mpr ?_⟩
  intro first _ j _
  show (300000000 : Int) ≤ (first + 1 * (j + 1) : ℕ) * (300000000 : ℕ) -
    (first + 1 * j : ℕ) * (300000000 : ℕ)
  push_cast
  omega

/-- A call at 0, one at 300 ms and the others a millisecond later. -/
def burst : SteadyClock :=
  .ofNow (fun k => if k ≤ 1 then k * 300000000 else 301000000) (by
    intro k
    split_ifs <;> push_cast <;> omega)

/-- The third call runs the callback a millisecond after the second one did. -/
theorem throttled_burst_too_close :
    (throttled burst (ofTime 300000000 1) 3).2 = [300000000, 301000000] ∧
      ¬ (throttled burst (ofTime 300000000 1) 3).2.IsChain
        (fun a b => 300000000 ≤ b - a) := by
  have hlog : (throttled burst (ofTime 300000000 1) 3).2 = [300000000, 301000000] := by
    decide
  refine ⟨hlog, ?_⟩
  rw [hlog]
  decide

end RunTask
