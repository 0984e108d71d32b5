import Mathlib.Data.List.Nodup
import Mathlib.Data.List.Perm.Basic
import Std.Data.TreeMap.Lemmas

/-!
# Custody of tokens

Tokens enter a system, are held by it for a while and are released.  The three
bags are lists; `Balanced` says that, token by token, as many have entered as
are held or have been released.  A system whose tokens enter at most once then
has every token in exactly one place.  The parameter `p` restricts the
bookkeeping to the tokens of interest, so that releases of foreign tokens do
not count.

The last section reads an ordered map as the bag of its entries.
-/

namespace Custody

variable {α : Type*} [BEq α]

/-- As many tokens have entered as are held or have been released. -/
def Balanced (p : α → Prop) (entered held released : List α) : Prop :=
  ∀ a, p a → entered.count a = held.count a + released.count a

variable {p q : α → Prop} {entered held held' released : List α} {a : α}

/-- The held tokens change places. -/
theorem Balanced.keep (h : Balanced p entered held released) (hperm : held'.Perm held) :
    Balanced p entered held' released := by
  intro b hb
  rw [hperm.count_eq]
  exact h b hb

/-- A token enters. -/
theorem Balanced.enter (h : Balanced p entered held released)
    (hperm : held'.Perm (a :: held)) : Balanced p (a :: entered) held' released := by
  intro b hb
  have := h b hb
  rw [hperm.count_eq, List.count_cons, List.count_cons]
  omega

/-- A held token is released. -/
theorem Balanced.release (h : Balanced p entered held released)
    (hperm : held.Perm (a :: held')) : Balanced p entered held' (a :: released) := by
  intro b hb
  have := h b hb
  rw [hperm.count_eq, List.count_cons] at this
  rw [List.count_cons]
  omega

/-- Fewer tokens are of interest. -/
theorem Balanced.restrict (h : Balanced p entered held released)
    (himp : ∀ a, q a → p a) : Balanced q entered held released :=
  fun b hb => h b (himp b hb)

variable [LawfulBEq α]

/-- Something else is released. -/
theorem Balanced.foreign (h : Balanced p entered held released) (ha : ¬ p a) :
    Balanced p entered held (a :: released) := by
  intro b hb
  have hne : a ≠ b := by
    rintro rfl
    exact ha hb
  rw [List.count_cons_of_ne hne]
  exact h b hb

/-- **One place.**  A token that entered once is held once or has been released
once, and not both. -/
theorem Balanced.one_place (h : Balanced p entered held released) (ha : p a)
    (hentered : entered.Nodup) (hmem : a ∈ entered) :
    (held.count a = 1 ∧ a ∉ released) ∨ (a ∉ held ∧ released.count a = 1) := by
  have hone : entered.count a = 1 := List.count_eq_one_of_mem hentered hmem
  have := h a ha
  rw [← List.count_eq_zero, ← List.count_eq_zero (l := held)]
  omega

/-- What is held has entered. -/
theorem Balanced.mem_of_held (h : Balanced p entered held released) (ha : p a)
    (hmem : a ∈ held) : a ∈ entered := by
  have := h a ha
  have hpos := List.count_pos_iff.mpr hmem
  exact List.count_pos_iff.mp (by omega)

/-- What has been released has entered. -/
theorem Balanced.mem_of_released (h : Balanced p entered held released) (ha : p a)
    (hmem : a ∈ released) : a ∈ entered := by
  have := h a ha
  have hpos := List.count_pos_iff.mpr hmem
  exact List.count_pos_iff.mp (by omega)

/-- Tokens that enter at most once are released at most once. -/
theorem Balanced.released_le_one (h : Balanced p entered held released) (ha : p a)
    (hentered : entered.Nodup) : released.count a ≤ 1 := by
  have hone := List.nodup_iff_count_le_one.mp hentered a
  have := h a ha
  omega

/-! ## Ordered maps as bags of entries -/

section TreeMap

variable {K V : Type*} [Ord K] [Std.TransOrd K] [Std.LawfulEqOrd K]
  {m : Std.TreeMap K V} {k : K} {v : V}

theorem nodup_toList (m : Std.TreeMap K V) : m.toList.Nodup := by
  refine List.Pairwise.imp ?_ m.distinct_keys_toList
  rintro a b hab rfl
  exact hab (by simp)

theorem toList_insert_perm [DecidableEq K] (hk : k ∉ m) :
    (m.insert k v).toList.Perm ((k, v) :: m.toList) := by
  refine Std.TreeMap.toList_insert_perm.trans ?_
  rw [List.filter_eq_self.mpr]
  rintro ⟨k', v'⟩ hmem
  have hk' := (Std.TreeMap.mem_toList_iff_getElem?_eq_some).mp hmem
  simp only [decide_not, Bool.not_eq_eq_eq_not, Bool.not_true, decide_eq_false_iff_not]
  intro heq
  have : k = k' := by simpa using heq
  subst this
  exact hk (Std.TreeMap.mem_iff_isSome_getElem?.mpr (by simp [hk']))

theorem toList_perm_erase [DecidableEq K] (hk : m[k]? = some v) :
    m.toList.Perm ((k, v) :: (m.erase k).toList) := by
  have hnot : (k, v) ∉ (m.erase k).toList := by
    rw [Std.TreeMap.mem_toList_iff_getElem?_eq_some]
    simp
  refine (List.perm_ext_iff_of_nodup (nodup_toList m)
    (List.nodup_cons.mpr ⟨hnot, nodup_toList _⟩)).mpr ?_
  rintro ⟨k', v'⟩
  rw [List.mem_cons, Std.TreeMap.mem_toList_iff_getElem?_eq_some,
    Std.TreeMap.mem_toList_iff_getElem?_eq_some, Std.TreeMap.getElem?_erase]
  by_cases heq : k = k'
  · subst heq
    simp [hk, eq_comm]
  · simp [heq, Ne.symm heq]

theorem mem_map_fst_toList : k ∈ m.toList.map Prod.fst ↔ k ∈ m := by
  rw [Std.TreeMap.map_fst_toList_eq_keys]
  exact Std.TreeMap.mem_keys

end TreeMap

end Custody
