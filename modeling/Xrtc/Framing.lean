import Mathlib.Data.List.Basic

/-!
# Streams of fixed-size frames

A stream made of frames of one size is cut back into these frames, whatever they
contain; and bytes written over a part of a frame leave the parts before and
after it alone.
-/

namespace Framing

variable {α : Type*} {n : ℕ}

/-- The frames of `n` entries that a stream is made of. -/
def frames (n : ℕ) (stream : List α) : List (List α) :=
  (List.range (stream.length / n)).map (fun i => (stream.drop (n * i)).take n)

theorem frames_append_of_length (hn : 0 < n) {frame : List α} (hframe : frame.length = n)
    (rest : List α) : frames n (frame ++ rest) = frame :: frames n rest := by
  have hcount : (frame ++ rest).length / n = rest.length / n + 1 := by
    rw [List.length_append, hframe, Nat.add_comm]
    exact Nat.add_div_right _ hn
  unfold frames
  rw [hcount, List.range_succ_eq_map, List.map_cons, List.map_map]
  congr 1
  · rw [Nat.mul_zero, List.drop_zero, ← hframe]
    exact List.take_left
  · apply List.map_congr_left
    intro i _
    have hdrop : n * (i + 1) = frame.length + n * i := by
      rw [hframe, Nat.mul_succ, Nat.add_comm]
    show ((frame ++ rest).drop (n * (i + 1))).take n = _
    rw [hdrop, ← List.drop_drop, List.drop_left]

/-- Cutting undoes concatenation. -/
theorem frames_flatten (hn : 0 < n) {parts : List (List α)}
    (hparts : ∀ frame ∈ parts, frame.length = n) : frames n parts.flatten = parts := by
  induction parts with
  | nil => simp [frames]
  | cons frame parts ih =>
      rw [List.flatten_cons,
        frames_append_of_length hn (hparts frame List.mem_cons_self),
        ih (fun other hother => hparts other (List.mem_cons_of_mem _ hother))]

/-- Entries written over those of a frame from `pos` on. -/
def overwrite (frame : List α) (pos : ℕ) (entries : List α) : List α :=
  frame.take pos ++ entries ++ frame.drop (pos + entries.length)

/-- The part written over is the only one that changes. -/
theorem overwrite_append {before old after entries : List α} {pos : ℕ}
    (hpos : pos = before.length) (hlen : entries.length = old.length) :
    overwrite (before ++ old ++ after) pos entries = before ++ entries ++ after := by
  subst hpos
  have htake : (before ++ old ++ after).take before.length = before := by
    rw [List.append_assoc]
    exact List.take_left
  have hdrop : (before ++ old ++ after).drop (before.length + old.length) = after := by
    rw [← List.length_append]
    exact List.drop_left
  unfold overwrite
  rw [hlen, htake, hdrop]

/-- A list splits at every length it has. -/
theorem exists_split {l : List α} {i : ℕ} (hi : i ≤ l.length) :
    ∃ a b, l = a ++ b ∧ a.length = i ∧ b.length = l.length - i :=
  ⟨l.take i, l.drop i, (List.take_append_drop i l).symm, List.length_take_of_le hi,
    List.length_drop⟩

end Framing
