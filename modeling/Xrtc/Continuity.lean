import Mathlib.Data.List.Chain
import Mathlib.Data.Nat.ModEq

/-!
# Modular counters

A receiver checks that each counter is one more, modulo `m`, than the counter
before it.  `CountsFrom m n` says more than that, namely where the counting
starts, and it splits over concatenation; for a stream whose first counter is
known the two are the same.
-/

namespace Continuity

variable {m n n' : ℕ} {counters counters' : List ℕ}

/-- The counters `n`, `n + 1` and so on, modulo `m`. -/
def CountsFrom (m : ℕ) : ℕ → List ℕ → Prop
  | _, [] => True
  | n, c :: counters => c = n % m ∧ CountsFrom m (n + 1) counters

theorem countsFrom_append :
    CountsFrom m n (counters ++ counters') ↔
      CountsFrom m n counters ∧ CountsFrom m (n + counters.length) counters' := by
  induction counters generalizing n with
  | nil => simp [CountsFrom]
  | cons c counters ih =>
      rw [List.cons_append, CountsFrom, CountsFrom, ih, List.length_cons, and_assoc,
        Nat.add_comm counters.length 1, Nat.add_assoc]

/-- Counters that count from `n` count from `n'` only if the two agree. -/
theorem CountsFrom.iff_modEq (h : CountsFrom m n counters) (hne : counters ≠ []) :
    CountsFrom m n' counters ↔ n' ≡ n [MOD m] := by
  induction counters generalizing n n' with
  | nil => exact absurd rfl hne
  | cons c counters ih =>
      obtain ⟨hc, hrest⟩ := h
      constructor
      · rintro ⟨hc', -⟩
        exact hc'.symm.trans hc
      · intro hmod
        refine ⟨hc.trans hmod.symm, ?_⟩
        by_cases hnil : counters = []
        · rw [hnil]
          trivial
        · exact (ih hrest hnil).mpr (hmod.add_right 1)

/-- Each counter is one more than the one before. -/
theorem isChain_cons_iff (c : ℕ) :
    (c :: counters).IsChain (fun a b => b = (a + 1) % m) ↔ CountsFrom m (c + 1) counters := by
  induction counters generalizing c with
  | nil => simp [CountsFrom]
  | cons d counters ih =>
      rw [List.isChain_cons_cons, CountsFrom, ih]
      apply and_congr_right
      rintro rfl
      -- counting from `c + 2` or from its residue is the same
      by_cases hnil : counters = []
      · subst hnil
        exact Iff.rfl
      · have hmod : (c + 1) % m + 1 ≡ c + 1 + 1 [MOD m] := (Nat.mod_modEq (c + 1) m).add_right 1
        constructor
        · intro h
          exact (h.iff_modEq hnil).mpr hmod.symm
        · intro h
          exact (h.iff_modEq hnil).mpr hmod

/-- A stream that starts with `n` is continuous if it counts from `n`. -/
theorem isChain_iff_countsFrom (hhead : ∀ c, counters.head? = some c → c = n)
    (hn : n < m) :
    counters.IsChain (fun a b => b = (a + 1) % m) ↔ CountsFrom m n counters := by
  cases counters with
  | nil => simp [CountsFrom]
  | cons c counters =>
      obtain rfl : c = n := hhead c rfl
      rw [isChain_cons_iff, CountsFrom, and_iff_right (Nat.mod_eq_of_lt hn).symm]

theorem CountsFrom.isChain (h : CountsFrom m n counters) (hn : n < m) :
    counters.IsChain (fun a b => b = (a + 1) % m) := by
  refine (isChain_iff_countsFrom ?_ hn).mpr h
  intro c hc
  cases counters with
  | nil => cases hc
  | cons d counters =>
      obtain rfl : d = c := Option.some.inj hc
      exact h.1.trans (Nat.mod_eq_of_lt hn)

end Continuity
