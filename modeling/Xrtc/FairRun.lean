import Mathlib.Data.Nat.Find
import Mathlib.Order.WellFounded
import Xrtc.StepSystem

/-!
# Fair runs

An infinite run of a step system, the fairness it may have towards an actor,
and the rules by which something is shown to happen in it.  Moments at which
nothing happens are allowed, so that a run that has come to its end is an
infinite run too.

Fairness is the strong one: who is able to move again and again moves again and
again.  It is what a thread in front of a contended mutex needs.
-/

namespace StepSystem

variable {S I A : Type*} {M : StepSystem S I}

/-- An infinite run from a reached state.  Nothing happens at a moment without
an input. -/
structure Run (M : StepSystem S I) where
  state : ℕ → S
  input : ℕ → Option I
  start : M.Reachable (state 0)
  idle : ∀ n, input n = none → state (n + 1) = state n
  next : ∀ n i, input n = some i → M.step (state n) i = some (state (n + 1))

namespace Run

variable (r : M.Run)

/-- The input at moment `n` is one of actor `a`. -/
def Acts (who : I → A) (a : A) (n : ℕ) : Prop :=
  ∃ i, r.input n = some i ∧ who i = a

/-- Strong fairness: an actor that is able to move infinitely often moves
infinitely often. -/
def Fair (who : I → A) (able : S → A → Prop) (a : A) : Prop :=
  (∀ n, ∃ m, n ≤ m ∧ able (r.state m) a) → ∀ n, ∃ m, n ≤ m ∧ r.Acts who a m

/-- From moment `n` on, `Q` holds at some moment. -/
def Later (n : ℕ) (Q : S → Prop) : Prop :=
  ∃ m, n ≤ m ∧ Q (r.state m)

/-- Whenever `P` holds, `Q` holds then or later. -/
def LeadsTo (P Q : S → Prop) : Prop :=
  ∀ n, P (r.state n) → r.Later n Q

variable {r} {who : I → A} {able : S → A → Prop} {a : A} {P Q R : S → Prop} {n m : ℕ}

theorem reachable (r : M.Run) (n : ℕ) : M.Reachable (r.state n) := by
  induction n with
  | zero => exact r.start
  | succ n ih =>
      cases hi : r.input n with
      | none =>
          rw [r.idle n hi]
          exact ih
      | some i => exact ih.tail trivial (r.next n i hi)

theorem Later.now (h : Q (r.state n)) : r.Later n Q :=
  ⟨n, le_refl n, h⟩

theorem Later.mono (h : r.Later n Q) (hQ : ∀ s, Q s → R s) : r.Later n R := by
  obtain ⟨m, hm, hq⟩ := h
  exact ⟨m, hm, hQ _ hq⟩

theorem Later.from (h : r.Later m Q) (hnm : n ≤ m) : r.Later n Q := by
  obtain ⟨k, hk, hq⟩ := h
  exact ⟨k, hnm.trans hk, hq⟩

theorem Later.then (h : r.Later n Q) (hlead : r.LeadsTo Q R) : r.Later n R := by
  obtain ⟨m, hm, hq⟩ := h
  exact (hlead m hq).from hm

/-- **Rank rule.**  If `P` gives way to `Q`, or comes back with a smaller rank,
then it gives way to `Q` in the end. -/
theorem LeadsTo.of_rank {β : Type*} [LT β] [WellFoundedLT β] (rank : S → β)
    (h : ∀ n, P (r.state n) →
      r.Later n (fun s => Q s ∨ P s ∧ rank s < rank (r.state n))) : r.LeadsTo P Q := by
  suffices ∀ x n, rank (r.state n) = x → P (r.state n) → r.Later n Q from
    fun n hp => this _ n rfl hp
  intro x
  induction x using WellFoundedLT.induction with
  | ind x ih =>
      intro n hx hp
      obtain ⟨m, hm, hq | ⟨hp', hlt⟩⟩ := h n hp
      · exact ⟨m, hm, hq⟩
      · exact (ih _ (hx ▸ hlt) m rfl hp').from hm

/-- What holds now and is kept by every moment holds from now on. -/
theorem always_of_kept (hp : P (r.state n))
    (hkeep : ∀ m, n ≤ m → P (r.state m) → P (r.state (m + 1))) :
    ∀ m, n ≤ m → P (r.state m) := by
  intro m hm
  induction m, hm using Nat.le_induction with
  | base => exact hp
  | succ m hm ih => exact hkeep m hm ih

/-- What holds now and does not hold later is lost at one moment in between. -/
theorem lost_between (hp : P (r.state n)) (hnm : n ≤ m) (hnot : ¬ P (r.state m)) :
    ∃ k, n ≤ k ∧ P (r.state k) ∧ ¬ P (r.state (k + 1)) := by
  by_contra hnone
  push Not at hnone
  exact hnot (always_of_kept hp (fun k hk hpk => hnone k hk hpk) m hnm)

/-- **Fairness rule.**  An actor that only itself can get out of `P`, and that
is able to move again and again for as long as `P` holds, moves out of `P`. -/
theorem acts_of_fair (hfair : r.Fair who able a) (hp : P (r.state n))
    (hkeep : ∀ m, n ≤ m → P (r.state m) → ¬ r.Acts who a m → P (r.state (m + 1)))
    (hable : (∀ m, n ≤ m → P (r.state m)) → ∀ m, ∃ k, m ≤ k ∧ able (r.state k) a) :
    ∃ m, n ≤ m ∧ P (r.state m) ∧ r.Acts who a m := by
  by_contra hnone
  push Not at hnone
  have halways : ∀ m, n ≤ m → P (r.state m) :=
    always_of_kept hp fun m hm hpm => hkeep m hm hpm (hnone m hm hpm)
  obtain ⟨m, hm, hacts⟩ := hfair (hable halways) n
  exact hnone m hm (halways m hm) hacts

/-- The fairness rule for an actor that is able to move throughout `P`. -/
theorem acts_of_able (hfair : r.Fair who able a) (hp : P (r.state n))
    (hkeep : ∀ m, n ≤ m → P (r.state m) → ¬ r.Acts who a m → P (r.state (m + 1)))
    (hable : ∀ m, n ≤ m → P (r.state m) → able (r.state m) a) :
    ∃ m, n ≤ m ∧ P (r.state m) ∧ r.Acts who a m := by
  refine acts_of_fair hfair hp hkeep fun halways m => ?_
  exact ⟨max n m, le_max_right n m, hable _ (le_max_left n m) (halways _ (le_max_left n m))⟩

/-- An actor that never moves again is unable to move from some moment on. -/
theorem unable_of_still (hfair : r.Fair who able a)
    (hstill : ∀ m, n ≤ m → ¬ r.Acts who a m) :
    ∃ k, n ≤ k ∧ ∀ m, k ≤ m → ¬ able (r.state m) a := by
  by_contra hnone
  push Not at hnone
  obtain ⟨m, hm, hacts⟩ := hfair (fun k => by
    obtain ⟨m, hm, hable⟩ := hnone (max n k) (le_max_left n k)
    exact ⟨m, (le_max_right n k).trans hm, hable⟩) n
  exact hstill m hm hacts

end Run

/-- Executing one list of inputs after another. -/
theorem run_append (s : S) (l l' : List I) :
    M.run s (l ++ l') = (M.run s l).bind (fun s' => M.run s' l') := by
  induction l generalizing s with
  | nil => rfl
  | cons i l ih =>
      simp only [run, runUnder, List.cons_append, if_true] at ih ⊢
      cases M.step s i with
      | none => rfl
      | some s' => exact ih s'

end StepSystem
