import Mathlib.Data.Nat.ModEq

/-!
# Streams read in blocks

A consumer that collects entries in a buffer and empties the buffer whenever it
holds `m` of them sees its stream as blocks of `m` consecutive entries.  At any
moment the buffer is the open block, the entries after the last complete one.
-/

namespace Blocks

variable {α : Type*} {m : ℕ}

/-- The entries after the last complete block. -/
def openBlock (m : ℕ) (l : List α) : List α :=
  l.drop (m * (l.length / m))

/-- The last complete block, empty when there is none yet. -/
def lastBlock (m : ℕ) (l : List α) : List α :=
  (l.take (m * (l.length / m))).drop (m * (l.length / m) - m)

theorem length_openBlock (l : List α) : (openBlock m l).length = l.length % m := by
  unfold openBlock
  rw [List.length_drop]
  have hsplit := Nat.div_add_mod l.length m
  omega

/-- One more entry does not complete the open block. -/
theorem div_succ_of_open {n : ℕ} (hopen : n % m + 1 < m) :
    (n + 1) / m = n / m := by
  have hsplit := Nat.div_add_mod n m
  apply Nat.div_eq_of_lt_le
  · rw [Nat.mul_comm]
    omega
  · rw [Nat.succ_mul, Nat.mul_comm]
    omega

/-- One more entry completes the open block. -/
theorem div_succ_of_full {n : ℕ} (hfull : n % m + 1 = m) :
    (n + 1) / m = n / m + 1 := by
  have hsplit := Nat.div_add_mod n m
  have hsucc : n + 1 = m * (n / m + 1) := by
    rw [Nat.mul_succ]
    omega
  rw [hsucc]
  exact Nat.mul_div_cancel_left _ (by omega)

theorem mod_succ_of_open {n : ℕ} (hopen : n % m + 1 < m) :
    (n + 1) % m = n % m + 1 := by
  have hbefore := Nat.div_add_mod n m
  have hafter := Nat.div_add_mod (n + 1) m
  rw [div_succ_of_open hopen] at hafter
  omega

theorem mod_succ_of_full {n : ℕ} (hfull : n % m + 1 = m) :
    (n + 1) % m = 0 := by
  have hbefore := Nat.div_add_mod n m
  have hafter := Nat.div_add_mod (n + 1) m
  rw [div_succ_of_full hfull, Nat.mul_succ] at hafter
  omega

theorem openBlock_append_of_open {l : List α} (x : α)
    (hopen : l.length % m + 1 < m) :
    openBlock m (l ++ [x]) = openBlock m l ++ [x] := by
  have hle : m * (l.length / m) ≤ l.length := Nat.mul_div_le l.length m
  unfold openBlock
  rw [List.length_append, List.length_singleton, div_succ_of_open hopen,
    List.drop_append_of_le_length hle]

theorem openBlock_append_of_full {l : List α} (x : α)
    (hfull : l.length % m + 1 = m) :
    openBlock m (l ++ [x]) = [] := by
  rw [← List.length_eq_zero_iff, length_openBlock, List.length_append,
    List.length_singleton]
  exact mod_succ_of_full hfull

theorem lastBlock_append_of_open {l : List α} (x : α)
    (hopen : l.length % m + 1 < m) :
    lastBlock m (l ++ [x]) = lastBlock m l := by
  have hle : m * (l.length / m) ≤ l.length := Nat.mul_div_le l.length m
  unfold lastBlock
  rw [List.length_append, List.length_singleton, div_succ_of_open hopen,
    List.take_append_of_le_length hle]

theorem lastBlock_append_of_full {l : List α} (x : α)
    (hfull : l.length % m + 1 = m) :
    lastBlock m (l ++ [x]) = openBlock m l ++ [x] := by
  have hle : m * (l.length / m) ≤ l.length := Nat.mul_div_le l.length m
  have hsplit := Nat.div_add_mod l.length m
  unfold lastBlock openBlock
  rw [List.length_append, List.length_singleton, div_succ_of_full hfull,
    Nat.mul_succ, Nat.add_sub_cancel, List.take_of_length_le (by simp; omega),
    List.drop_append_of_le_length hle]

theorem length_lastBlock (hm : 0 < m) {l : List α} (hl : m ≤ l.length) :
    (lastBlock m l).length = m := by
  have hle : m * (l.length / m) ≤ l.length := Nat.mul_div_le l.length m
  have hblock : m * 1 ≤ m * (l.length / m) :=
    Nat.mul_le_mul_left m ((Nat.one_le_div_iff hm).mpr hl)
  unfold lastBlock
  rw [List.length_drop, List.length_take]
  omega

end Blocks
