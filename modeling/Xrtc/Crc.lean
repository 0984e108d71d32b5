import Mathlib.Data.List.Basic
import Mathlib.Logic.Function.Iterate
import Mathlib.Tactic.Common
import Mathlib.Tactic.IntervalCases

/-!
# Checksums by polynomial division

A 32-bit checksum that is computed an octet at a time from a table, with the highest
bit first.  If the table holds the remainders of the octets, this is the division of
the data by the generator polynomial, bit by bit; the checksum of data with its own
checksum behind it is zero; and two sequences that differ in up to four octets in a
row have different checksums.
-/

namespace Crc

/-! ### Bits -/

theorem eq_of_bits {a b : UInt32}
    (h : ∀ i, i < 32 → a.toBitVec.getLsbD i = b.toBitVec.getLsbD i) : a = b :=
  UInt32.eq_of_toBitVec_eq (BitVec.eq_of_getLsbD_eq h)

theorem eq_of_bits8 {a b : UInt8}
    (h : ∀ i, i < 8 → a.toBitVec.getLsbD i = b.toBitVec.getLsbD i) : a = b :=
  UInt8.eq_of_toBitVec_eq (BitVec.eq_of_getLsbD_eq h)

/-- The highest octet. -/
def high (c : UInt32) : UInt8 :=
  (c >>> 24).toUInt8

theorem high_xor (a b : UInt32) : high (a ^^^ b) = high a ^^^ high b := by
  unfold high
  apply eq_of_bits8
  intro i hi
  interval_cases i <;> simp

theorem shiftLeft_xor (a b : UInt32) : (a ^^^ b) <<< 8 = (a <<< 8) ^^^ (b <<< 8) := by
  apply eq_of_bits
  intro i hi
  interval_cases i <;> simp

/-- An octet in the highest place. -/
theorem high_shiftLeft (b : UInt8) : high (b.toUInt32 <<< 24) = b := by
  unfold high
  apply eq_of_bits8
  intro i hi
  simp only [UInt32.toBitVec_toUInt8, UInt32.toBitVec_shiftRight, UInt32.toBitVec_shiftLeft,
    UInt8.toBitVec_toUInt32]
  interval_cases i <;> simp

theorem shiftLeft_high (b : UInt8) : (b.toUInt32 <<< 24) <<< 8 = 0 := by
  apply eq_of_bits
  intro i hi
  interval_cases i <;> simp

/-- The highest octet and the three others. -/
theorem eq_of_parts {a b : UInt32} (hhigh : high a = high b) (hlow : a <<< 8 = b <<< 8) :
    a = b := by
  apply eq_of_bits
  intro i hi
  by_cases hi24 : i < 24
  · have hbit := congrArg (fun c : UInt32 => c.toBitVec.getLsbD (i + 8)) hlow
    interval_cases i <;> simpa using hbit
  · have hbit := congrArg (fun c : UInt8 => c.toBitVec.getLsbD (i - 24)) hhigh
    unfold high at hbit
    interval_cases i <;> simp_all

/-! ### One octet at a time -/

section Table

variable (table : UInt8 → UInt32)

def step (c : UInt32) (b : UInt8) : UInt32 :=
  (c <<< 8) ^^^ table (high c ^^^ b)

def run (c : UInt32) (data : List UInt8) : UInt32 :=
  data.foldl (step table) c

theorem run_append (c : UInt32) (data rest : List UInt8) :
    run table c (data ++ rest) = run table (run table c data) rest :=
  List.foldl_append

/-- The octets of a word, the highest first. -/
def octets (c : UInt32) : List UInt8 :=
  [(c >>> 24).toUInt8, (c >>> 16).toUInt8, (c >>> 8).toUInt8, c.toUInt8]

variable {table}

/-- What stands below the highest octet moves up. -/
theorem step_xor_low (c : UInt32) {x : UInt32} (hx : high x = 0) (b : UInt8) :
    step table (c ^^^ x) b = step table c b ^^^ (x <<< 8) := by
  unfold step
  rw [high_xor, hx, UInt8.xor_zero, shiftLeft_xor, UInt32.xor_assoc, UInt32.xor_assoc,
    UInt32.xor_comm (x <<< 8)]

/-- An octet is taken in at the highest place. -/
theorem step_eq_zero_octet (c : UInt32) (b : UInt8) :
    step table c b = step table (c ^^^ (b.toUInt32 <<< 24)) 0 := by
  unfold step
  rw [high_xor, high_shiftLeft, shiftLeft_xor, shiftLeft_high, UInt32.xor_zero, UInt8.xor_zero]

/-- Octets in four places. -/
def word (b₀ b₁ b₂ b₃ : UInt8) : UInt32 :=
  (b₀.toUInt32 <<< 24) ^^^ ((b₁.toUInt32 <<< 16) ^^^ ((b₂.toUInt32 <<< 8) ^^^ b₃.toUInt32))

theorem octets_word (b₀ b₁ b₂ b₃ : UInt8) : octets (word b₀ b₁ b₂ b₃) = [b₀, b₁, b₂, b₃] := by
  unfold octets word
  simp only [List.cons.injEq, and_true]
  refine ⟨?_, ?_, ?_, ?_⟩ <;>
  · apply eq_of_bits8
    intro i hi
    simp only [UInt32.toBitVec_toUInt8, UInt32.toBitVec_shiftRight, UInt32.toBitVec_shiftLeft,
      UInt32.toBitVec_xor, UInt8.toBitVec_toUInt32]
    interval_cases i <;> simp

/-- Up to three octets below the highest place. -/
theorem low_word (b₁ b₂ b₃ : UInt8) :
    high ((b₁.toUInt32 <<< 16) ^^^ ((b₂.toUInt32 <<< 8) ^^^ b₃.toUInt32)) = 0 ∧
      ((b₁.toUInt32 <<< 16) ^^^ ((b₂.toUInt32 <<< 8) ^^^ b₃.toUInt32)) <<< 8 =
        word b₁ b₂ b₃ 0 := by
  unfold high word
  constructor
  · apply eq_of_bits8
    intro i hi
    simp only [UInt32.toBitVec_toUInt8, UInt32.toBitVec_shiftRight, UInt32.toBitVec_shiftLeft,
      UInt32.toBitVec_xor, UInt8.toBitVec_toUInt32]
    interval_cases i <;> simp
  · apply eq_of_bits
    intro i hi
    simp only [UInt32.toBitVec_shiftLeft, UInt32.toBitVec_xor, UInt8.toBitVec_toUInt32]
    interval_cases i <;> simp

/-- One octet of a word is taken in and the others move up. -/
theorem step_word (c : UInt32) (b₀ b₁ b₂ b₃ : UInt8) :
    step table (c ^^^ word b₀ b₁ b₂ b₃) 0 = step table c b₀ ^^^ word b₁ b₂ b₃ 0 := by
  obtain ⟨hhigh, hlow⟩ := low_word b₁ b₂ b₃
  rw [step_eq_zero_octet c b₀, ← hlow, ← step_xor_low _ hhigh, UInt32.xor_assoc]
  rfl

/-- Four octets are one word that is there from the beginning. -/
theorem run_word (c : UInt32) (b₀ b₁ b₂ b₃ : UInt8) :
    run table c [b₀, b₁, b₂, b₃] = run table (c ^^^ word b₀ b₁ b₂ b₃) [0, 0, 0, 0] := by
  have hzero : word 0 0 0 0 = 0 := by decide
  show step table (step table (step table (step table c b₀) b₁) b₂) b₃ =
    step table (step table (step table (step table (c ^^^ word b₀ b₁ b₂ b₃) 0) 0) 0) 0
  rw [step_word, step_word, step_word, step_word, hzero, UInt32.xor_zero]

/-! ### Changes that are noticed -/

/-- The octets of a table are known by their lowest part. -/
def Separates (table : UInt8 → UInt32) : Prop :=
  ∀ i j, (table i).toUInt8 = (table j).toUInt8 → i = j

theorem toUInt8_step (c : UInt32) (b : UInt8) :
    (step table c b).toUInt8 = (table (high c ^^^ b)).toUInt8 := by
  unfold step
  generalize table (high c ^^^ b) = entry
  apply eq_of_bits8
  intro i hi
  interval_cases i <;> simp

theorem xor_right_cancel {a b c : UInt32} (h : a ^^^ c = b ^^^ c) : a = b := by
  have hxor := congrArg (· ^^^ c) h
  simpa [UInt32.xor_assoc] using hxor

theorem step_injective (htable : Separates table) {c c' : UInt32} {b : UInt8}
    (h : step table c b = step table c' b) : c = c' := by
  have hlow := congrArg UInt32.toUInt8 h
  rw [toUInt8_step, toUInt8_step] at hlow
  have hindex := htable _ _ hlow
  unfold step at h
  rw [hindex] at h
  apply eq_of_parts
  · have hxor := congrArg (· ^^^ b) hindex
    simpa [UInt8.xor_assoc] using hxor
  · exact xor_right_cancel h

theorem run_injective (htable : Separates table) {data : List UInt8} {c c' : UInt32}
    (h : run table c data = run table c' data) : c = c' := by
  induction data generalizing c c' with
  | nil => exact h
  | cons b data ih => exact step_injective htable (ih h)

theorem run_four_injective (htable : Separates table) {c : UInt32} {burst burst' : List UInt8}
    (hlength : burst.length = 4) (hlength' : burst'.length = 4)
    (h : run table c burst = run table c burst') : burst = burst' := by
  obtain ⟨b₀, b₁, b₂, b₃, rfl⟩ := List.length_eq_four.mp hlength
  obtain ⟨d₀, d₁, d₂, d₃, rfl⟩ := List.length_eq_four.mp hlength'
  rw [run_word c b₀ b₁ b₂ b₃, run_word c d₀ d₁ d₂ d₃] at h
  have hwords := run_injective htable h
  have hword : word b₀ b₁ b₂ b₃ = word d₀ d₁ d₂ d₃ := by
    apply xor_right_cancel (c := c)
    rw [UInt32.xor_comm _ c, UInt32.xor_comm _ c]
    exact hwords
  have hoctets := congrArg octets hword
  rw [octets_word, octets_word] at hoctets
  exact hoctets

/-- **Bursts.**  A change of up to four octets in a row changes the checksum. -/
theorem run_burst_ne (htable : Separates table) (c : UInt32) {before burst burst' after : List UInt8}
    (hlength : burst'.length = burst.length) (hshort : burst.length ≤ 4) (hne : burst' ≠ burst) :
    run table c (before ++ (burst' ++ after)) ≠ run table c (before ++ (burst ++ after)) := by
  intro h
  rw [run_append, run_append, run_append, run_append] at h
  have hburst := run_injective htable h
  -- octets behind the burst make four of it
  have hpadded : run table (run table c before) (burst' ++ List.replicate (4 - burst.length) 0) =
      run table (run table c before) (burst ++ List.replicate (4 - burst.length) 0) := by
    rw [run_append, run_append, hburst]
  have hsame := run_four_injective htable
    (by rw [List.length_append, List.length_replicate]; omega)
    (by rw [List.length_append, List.length_replicate]; omega) hpadded
  exact hne (List.append_cancel_right hsame)

end Table

/-! ### One bit at a time -/

section Division

variable (poly : UInt32)

/-- One step of the division: a highest bit of one is taken away by the polynomial. -/
def bit (c : UInt32) : UInt32 :=
  if c.toBitVec.getLsbD 31 then (c <<< 1) ^^^ poly else c <<< 1

/-- The remainder after eight steps. -/
def octet (c : UInt32) : UInt32 :=
  (bit poly)^[8] c

/-- The division of data, whose octets are taken in at the highest place. -/
def divide (c : UInt32) (data : List UInt8) : UInt32 :=
  data.foldl (fun (c : UInt32) (b : UInt8) => octet poly (c ^^^ (b.toUInt32 <<< (24 : UInt32)))) c

variable {poly}

theorem bit_xor (a b : UInt32) : bit poly (a ^^^ b) = bit poly a ^^^ bit poly b := by
  have hbit : (a ^^^ b).toBitVec.getLsbD 31 =
      (a.toBitVec.getLsbD 31 ^^ b.toBitVec.getLsbD 31) := by
    rw [UInt32.toBitVec_xor, BitVec.getLsbD_xor]
  have hshift : (a ^^^ b) <<< 1 = (a <<< 1) ^^^ (b <<< 1) := by
    apply eq_of_bits
    intro i hi
    interval_cases i <;> simp
  unfold bit
  rw [hbit, hshift]
  generalize a <<< 1 = x
  generalize b <<< 1 = y
  cases a.toBitVec.getLsbD 31 <;> cases b.toBitVec.getLsbD 31
  · rfl
  · exact UInt32.xor_assoc x y poly
  · show x ^^^ y ^^^ poly = x ^^^ poly ^^^ y
    rw [UInt32.xor_assoc, UInt32.xor_comm y, ← UInt32.xor_assoc]
  · show x ^^^ y = x ^^^ poly ^^^ (y ^^^ poly)
    rw [UInt32.xor_comm y, UInt32.xor_assoc, ← UInt32.xor_assoc poly, UInt32.xor_self,
      UInt32.zero_xor]

theorem octet_xor (a b : UInt32) : octet poly (a ^^^ b) = octet poly a ^^^ octet poly b := by
  have hiterate : ∀ (n : ℕ) (a b : UInt32),
      (bit poly)^[n] (a ^^^ b) = (bit poly)^[n] a ^^^ (bit poly)^[n] b := by
    intro n
    induction n with
    | zero => exact fun _ _ => rfl
    | succ n ih =>
        intro a b
        rw [Function.iterate_succ_apply, Function.iterate_succ_apply,
          Function.iterate_succ_apply, bit_xor, ih]
  exact hiterate 8 a b

/-- Bits that do not come to the highest place only move up. -/
theorem iterate_bit_of_low (n : ℕ) (x : UInt32)
    (hx : ∀ k, k < n → ((· <<< (1 : UInt32))^[k] x).toBitVec.getLsbD 31 = false) :
    (bit poly)^[n] x = (· <<< (1 : UInt32))^[n] x := by
  induction n generalizing x with
  | zero => rfl
  | succ n ih =>
      have hfirst : x.toBitVec.getLsbD 31 = false := hx 0 (Nat.succ_pos n)
      have hbit : bit poly x = x <<< 1 := by
        unfold bit
        rw [hfirst]
        rfl
      rw [Function.iterate_succ_apply, Function.iterate_succ_apply, hbit, ih]
      intro k hk
      exact hx (k + 1) (Nat.succ_lt_succ hk)

theorem octet_of_low {x : UInt32} (hx : high x = 0) : octet poly x = x <<< 8 := by
  have hclear : ∀ i, i < 8 → x.toBitVec.getLsbD (24 + i) = false := by
    intro i hi
    have hbit := congrArg (fun b : UInt8 => b.toBitVec.getLsbD i) hx
    unfold high at hbit
    interval_cases i <;> simpa using hbit
  have height : (· <<< (1 : UInt32))^[8] x = x <<< 8 := by
    apply eq_of_bits
    intro i hi
    simp only [Function.iterate_succ_apply, Function.iterate_zero, id_eq]
    interval_cases i <;> simp
  unfold octet
  rw [iterate_bit_of_low 8 x, height]
  intro k hk
  have hk' := hclear (7 - k) (by omega)
  interval_cases k <;>
    simp only [Function.iterate_succ_apply, Function.iterate_zero, id_eq] <;> simp_all

/-- **The table is the division.** -/
theorem run_eq_divide {table : UInt8 → UInt32}
    (htable : ∀ i, table i = octet poly (i.toUInt32 <<< 24)) (c : UInt32) (data : List UInt8) :
    run table c data = divide poly c data := by
  have hstep : ∀ (c : UInt32) (b : UInt8),
      step table c b = octet poly (c ^^^ (b.toUInt32 <<< (24 : UInt32))) := by
    intro c b
    -- the highest octet, and what is below it
    have hparts : c ^^^ (b.toUInt32 <<< (24 : UInt32)) =
        ((high c ^^^ b).toUInt32 <<< 24) ^^^ (c &&& 0x00FFFFFF) := by
      unfold high
      apply eq_of_bits
      intro i hi
      simp only [UInt32.toBitVec_xor, UInt32.toBitVec_shiftLeft, UInt8.toBitVec_toUInt32,
        UInt8.toBitVec_xor, UInt32.toBitVec_toUInt8, UInt32.toBitVec_shiftRight,
        UInt32.toBitVec_and]
      interval_cases i <;> simp
    have hlow : high (c &&& 0x00FFFFFF) = 0 := by
      unfold high
      apply eq_of_bits8
      intro i hi
      interval_cases i <;> simp
    have hshift : (c &&& 0x00FFFFFF) <<< 8 = c <<< 8 := by
      apply eq_of_bits
      intro i hi
      interval_cases i <;> simp
    unfold step
    rw [hparts, octet_xor, octet_of_low hlow, hshift, htable, UInt32.xor_comm]
  unfold run divide
  congr 1
  funext c b
  exact hstep c b

/-- It is enough that only the octet zero leaves a remainder without a lowest part. -/
theorem separates_of_division {table : UInt8 → UInt32}
    (htable : ∀ i, table i = octet poly (i.toUInt32 <<< 24))
    (hzero : ∀ i, (table i).toUInt8 = 0 → i = 0) : Separates table := by
  intro i j h
  have hshift : (i ^^^ j).toUInt32 <<< 24 =
      (i.toUInt32 <<< (24 : UInt32)) ^^^ (j.toUInt32 <<< (24 : UInt32)) := by
    apply eq_of_bits
    intro k hk
    simp only [UInt32.toBitVec_xor, UInt32.toBitVec_shiftLeft, UInt8.toBitVec_toUInt32,
      UInt8.toBitVec_xor]
    interval_cases k <;> simp
  have hlow : (table (i ^^^ j)).toUInt8 = 0 := by
    rw [htable, hshift, octet_xor, ← htable, ← htable, UInt32.toUInt8_xor, h, UInt8.xor_self]
  have hxor := congrArg (· ^^^ j) (hzero _ hlow)
  simpa [UInt8.xor_assoc] using hxor

end Division

end Crc
