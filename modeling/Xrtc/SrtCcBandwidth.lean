import Xrtc.SrtCcEstimator

/-!
# The average bandwidth of a window

The six samples of a window are `uint64_t`, but they are summed with an `int`
accumulator.  What is divided by six is the 32-bit conversion of the exact sum,
widened again with its sign.
-/

open MachineInt

namespace SrtCc

theorem accumulateInt_eq (l : List ℕ) : accumulateInt l = toInt32 (l.sum : ℕ) := by
  have hsum := foldl_add_toInt32 l 0
  rw [zero_add] at hsum
  exact hsum

namespace Estimator

variable {fp : Doubles}

theorem average_eq (samples : List ℕ) :
    average samples = toUInt64 (toInt32 (samples.sum : ℕ)) / samples.length := by
  unfold average
  rw [accumulateInt_eq]

/-- Samples that do not fill the window are collected. -/
theorem foldl_updateMaxBW_open (samples : List ℕ) (e : Estimator)
    (h : e.bwArray.length + samples.length < BW_LIST_MAX) :
    (samples.foldl (updateMaxBW fp) e).bwArray = e.bwArray ++ samples := by
  induction samples generalizing e with
  | nil => simp
  | cons x samples ih =>
      rw [List.length_cons] at h
      have hstep := @updateMaxBW_open fp e x (by omega)
      rw [List.foldl_cons, hstep, ih]
      · simp
      · rw [List.length_append, List.length_singleton]
        omega

/-- A window that starts empty stores the average and the blend of its six
samples. -/
theorem foldl_updateMaxBW_window (samples : List ℕ) (e : Estimator)
    (hempty : e.bwArray = []) (hlen : samples.length = BW_LIST_MAX) :
    (samples.foldl (updateMaxBW fp) e).avgBw = average samples ∧
      (samples.foldl (updateMaxBW fp) e).bwMax =
        fp.blend (toUInt64 (maxElement samples + average samples)) := by
  obtain ⟨front, last, rfl⟩ : ∃ front last, samples = front ++ [last] := by
    rcases List.eq_nil_or_concat samples with rfl | ⟨front, last, h⟩
    · cases hlen
    · exact ⟨front, last, by rw [h, List.concat_eq_append]⟩
  rw [List.length_append, List.length_singleton] at hlen
  have hfront := @foldl_updateMaxBW_open fp front e (by rw [hempty, List.length_nil]; omega)
  rw [hempty, List.nil_append] at hfront
  rw [List.foldl_append, List.foldl_cons, List.foldl_nil]
  rw [updateMaxBW_full last (by rw [hfront]; exact hlen), hfront]
  exact ⟨rfl, rfl⟩

end Estimator

/-- The division hides a wrong sum only if the sum is right. -/
theorem average_eq_iff {sum : ℕ} (hsum : sum < 2 ^ 64) :
    toUInt64 (toInt32 sum) / 6 = sum / 6 ↔ sum < 2 ^ 31 ∨ 2 ^ 64 - 2 ^ 31 ≤ sum := by
  rw [← toUInt64_toInt32_eq_iff hsum]
  constructor
  · intro hdiv
    have hmod := toUInt64_toInt32_modEq sum
    omega
  · intro heq
    rw [heq]

/-- **The average of a window.**  For six samples whose exact sum fits in
`uint64_t`, the stored average is the floor of the mean, lies between the
samples and blends to at most twice the largest of them exactly when the sum
survives the `int` accumulator. -/
theorem window_average_iff (fp : Doubles) (e : Estimator) (samples : List ℕ)
    (hempty : e.bwArray = []) (hlen : samples.length = BW_LIST_MAX)
    (hsum : samples.sum < 2 ^ 64) :
    ((samples.foldl (Estimator.updateMaxBW fp) e).avgBw = samples.sum / 6 ∧
      (samples.min?.getD 0 ≤ (samples.foldl (Estimator.updateMaxBW fp) e).avgBw ∧
        (samples.foldl (Estimator.updateMaxBW fp) e).avgBw ≤ maxElement samples) ∧
      maxElement samples + (samples.foldl (Estimator.updateMaxBW fp) e).avgBw ≤
        2 * maxElement samples) ↔
      samples.sum < 2 ^ 31 ∨ 2 ^ 64 - 2 ^ 31 ≤ samples.sum := by
  have hsix : samples.length = 6 := hlen
  rw [(Estimator.foldl_updateMaxBW_window samples e hempty hlen).1, Estimator.average_eq,
    hsix, ← average_eq_iff hsum]
  constructor
  · intro h
    exact h.1
  · intro hmean
    rw [hmean]
    have hne : samples ≠ [] := List.ne_nil_of_length_pos (by omega)
    have hmin : samples.min?.getD 0 ≤ samples.sum / 6 := by
      rw [List.min?_eq_some_min hne, Option.getD_some, ← hsix]
      exact List.min_le_sum_div_length_nat hne
    have hmax : samples.sum / 6 ≤ maxElement samples := by
      unfold maxElement
      rw [List.max?_eq_some_max hne, Option.getD_some, ← hsix]
      exact List.sum_div_length_le_max_nat hne
    exact ⟨rfl, ⟨hmin, hmax⟩, by omega⟩

theorem window_average_small :
    (List.replicate 6 (100000000 : ℕ)).sum < 2 ^ 64 ∧
      ((List.replicate 6 (100000000 : ℕ)).foldl (Estimator.updateMaxBW .exact) {}).avgBw =
        (List.replicate 6 (100000000 : ℕ)).sum / 6 := by
  refine ⟨by decide, ?_⟩
  exact ((window_average_iff .exact {} (List.replicate 6 100000000) rfl rfl (by decide)).mpr
    (Or.inl (by decide))).1

/-- At six samples of 400 Mbit/s the sum no longer fits in an `int`, and the
average is larger than `2 ^ 60`. -/
theorem window_average_overflows :
    (List.replicate 6 (400000000 : ℕ)).sum < 2 ^ 64 ∧
      (List.replicate 6 (400000000 : ℕ)).sum / 6 = 400000000 ∧
      ((List.replicate 6 (400000000 : ℕ)).foldl (Estimator.updateMaxBW .exact) {}).avgBw =
        3074457345302430720 := by
  decide +kernel

end SrtCc
