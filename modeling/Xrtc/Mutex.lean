import Mathlib.Logic.Function.Basic
import Mathlib.Logic.Relation

/-!
# Mutex ownership and the wait-for graph

Threads of type `T` are at program points of type `P`.  A mutex is described
by the number of times a program point holds it (`depth`) and by its owner
field; `Owned` says the two agree, so that a non-recursive mutex is held by
its owner exactly once and by nobody else.  Locking and unlocking are updates
of one program point together with the owner field.

The second half is about deadlock.  A thread waits for a resource, resources
are held by threads, and resources are ranked; when whoever holds a wanted
resource only ever waits for resources of smaller rank, the wait-for graph has
no cycle at all, not even a self-loop.
-/

namespace Mutex

variable {T P : Type*}

/-- The owner field `m` of a mutex agrees with where the threads are. -/
def Owned [DecidableEq T] (depth : T → Nat) (m : Option T) : Prop :=
  ∀ t, depth t = if m = some t then 1 else 0

section Ownership

variable [DecidableEq T] {depth : P → Nat} {pc : T → P} {m : Option T} {t : T} {p : P}

theorem Owned.eq_some (h : Owned (fun u => depth (pc u)) m)
    (ht : depth (pc t) ≠ 0) : m = some t := by
  by_contra hm
  have := h t
  simp [hm] at this
  exact ht this

theorem Owned.le_one (h : Owned (fun u => depth (pc u)) m) (t : T) :
    depth (pc t) ≤ 1 := by
  have ht : depth (pc t) = if m = some t then 1 else 0 := h t
  split at ht <;> omega

/-- At most one thread is inside. -/
theorem Owned.unique (h : Owned (fun u => depth (pc u)) m) {u : T}
    (ht : depth (pc t) ≠ 0) (hu : depth (pc u) ≠ 0) : u = t := by
  have hmt := h.eq_some ht
  have hmu := h.eq_some hu
  rw [hmt] at hmu
  exact (Option.some.inj hmu).symm

theorem Owned.depth_eq_zero (h : Owned (fun u => depth (pc u)) none) (t : T) :
    depth (pc t) = 0 := by
  simpa using h t

/-- A step that neither locks nor unlocks. -/
theorem Owned.keep (h : Owned (fun u => depth (pc u)) m) (hp : depth p = depth (pc t)) :
    Owned (fun u => depth (Function.update pc t p u)) m := by
  intro u
  by_cases hu : u = t
  · subst hu
    simpa [hp] using h u
  · simpa [Function.update_of_ne hu] using h u

/-- Locking. -/
theorem Owned.take (h : Owned (fun u => depth (pc u)) none)
    (hp : depth p = depth (pc t) + 1) :
    Owned (fun u => depth (Function.update pc t p u)) (some t) := by
  intro u
  by_cases hu : u = t
  · subst hu
    simp [hp, h.depth_eq_zero u]
  · simp [Function.update_of_ne hu, h.depth_eq_zero u, Ne.symm hu]

/-- Unlocking. -/
theorem Owned.drop (h : Owned (fun u => depth (pc u)) m)
    (hp : depth (pc t) = depth p + 1) :
    Owned (fun u => depth (Function.update pc t p u)) none := by
  have hm : m = some t := h.eq_some (by omega)
  have hle := h.le_one t
  intro u
  by_cases hu : u = t
  · subst hu
    simp only [Function.update_self, reduceCtorEq, if_false]
    omega
  · have := h u
    simp_all [Ne.symm hu]

end Ownership

section Waiting

variable {R : Type*} (wants : T → Option R) (holds : T → R → Prop)

/-- `t` waits for a resource that `u` holds. -/
def WaitsFor (t u : T) : Prop :=
  ∃ r, wants t = some r ∧ holds u r

/-- A thread lies on a cycle of waiting threads. -/
def Deadlocked (t : T) : Prop :=
  Relation.TransGen (WaitsFor wants holds) t t

variable {wants holds}

/-- Along a chain of waiting threads the ranks do not rise. -/
theorem rank_le_of_chain (rank : R → Nat)
    (hrank : ∀ t u r r', wants t = some r → holds u r → wants u = some r' →
      rank r' < rank r)
    {t u : T} (h : Relation.TransGen (WaitsFor wants holds) t u) :
    ∃ r v r', wants t = some r ∧ wants v = some r' ∧ holds u r' ∧ rank r' ≤ rank r := by
  induction h with
  | single h =>
      obtain ⟨r, hw, hh⟩ := h
      exact ⟨r, t, r, hw, hw, hh, Nat.le_refl _⟩
  | tail _ hlast ih =>
      obtain ⟨r, v, r', hw, hv, hh, hle⟩ := ih
      obtain ⟨r'', hw', hh'⟩ := hlast
      have hlt := hrank _ _ r' r'' hv hh hw'
      exact ⟨r, _, r'', hw, hw', hh', by omega⟩

/-- **Ranked resources.**  If whoever holds a wanted resource waits only for
resources of smaller rank, no cycle of waiting threads exists. -/
theorem not_deadlocked_of_rank (rank : R → Nat)
    (hrank : ∀ t u r r', wants t = some r → holds u r → wants u = some r' →
      rank r' < rank r) (t : T) :
    ¬ Deadlocked wants holds t := by
  intro hcycle
  obtain ⟨r, v, r', hw, hv, hh, hle⟩ := rank_le_of_chain rank hrank hcycle
  have hlt := hrank v t r' r hv hh hw
  omega

end Waiting

end Mutex
