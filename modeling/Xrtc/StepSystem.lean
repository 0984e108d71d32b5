import Mathlib.Logic.Relation

/-!
# Step systems and conditional reachability

A step system has one initial state and a step function that either refuses an
input or answers with the next state.  Everything nondeterministic about the
system (which thread moves, what an external call answers) is part of the
input, so a run is nothing but a list of inputs and can be executed.

A property of every run is proved by `ReachableUnder.induction`.  The extra
parameter `ok` restricts the runs considered to those whose every step meets a
condition on the state before the step and on its input; the unrestricted
notion is `Reachable`.
-/

/-- A system driven by inputs: `step s i` is the state after input `i`, or
`none` when the system cannot take that input in state `s`. -/
structure StepSystem (S I : Type*) where
  init : S
  step : S → I → Option S

namespace StepSystem

variable {S I : Type*} (M : StepSystem S I)

/-- The states reached by runs whose steps all satisfy `ok`. -/
def ReachableUnder (ok : S → I → Prop) : S → Prop :=
  Relation.ReflTransGen (fun s s' => ∃ i, ok s i ∧ M.step s i = some s') M.init

/-- The states reached by any run at all. -/
def Reachable : S → Prop :=
  M.ReachableUnder (fun _ _ => True)

variable {M}

/-- One more admissible step. -/
theorem ReachableUnder.tail {ok : S → I → Prop} {s s' : S} {i : I}
    (h : M.ReachableUnder ok s) (hok : ok s i) (hstep : M.step s i = some s') :
    M.ReachableUnder ok s' :=
  Relation.ReflTransGen.tail h ⟨i, hok, hstep⟩

/-- **Invariant rule.**  A property of the initial state that every admissible
step out of a reached state preserves holds in every reached state. -/
theorem ReachableUnder.induction {ok : S → I → Prop} {P : S → Prop}
    (hinit : P M.init)
    (hstep : ∀ s i s', M.ReachableUnder ok s → P s → ok s i →
      M.step s i = some s' → P s')
    {s : S} (h : M.ReachableUnder ok s) : P s := by
  unfold ReachableUnder at h
  induction h with
  | refl => exact hinit
  | tail hreach hlast ih =>
      obtain ⟨i, hok, hs⟩ := hlast
      exact hstep _ i _ hreach ih hok hs

/-- A weaker condition reaches at least as much. -/
theorem ReachableUnder.mono {ok ok' : S → I → Prop}
    (himp : ∀ s i, ok s i → ok' s i) {s : S} (h : M.ReachableUnder ok s) :
    M.ReachableUnder ok' s := by
  refine Relation.ReflTransGen.mono ?_ _ _ h
  rintro a b ⟨i, hok, hs⟩
  exact ⟨i, himp a i hok, hs⟩

variable (M)

/-- Execute a list of inputs, refusing a run as soon as one of its steps
violates `ok`. -/
def runUnder (ok : S → I → Prop) [∀ s i, Decidable (ok s i)] :
    S → List I → Option S
  | s, [] => some s
  | s, i :: rest =>
      if ok s i then (M.step s i).bind (fun s' => runUnder ok s' rest) else none

/-- Execute a list of inputs. -/
def run (s : S) (inputs : List I) : Option S :=
  M.runUnder (fun _ _ => True) s inputs

variable {M}

/-- What an executed run ends in is reached. -/
theorem ReachableUnder.of_runUnder {ok : S → I → Prop}
    [∀ s i, Decidable (ok s i)] {inputs : List I} :
    ∀ {s s' : S}, M.ReachableUnder ok s → M.runUnder ok s inputs = some s' →
      M.ReachableUnder ok s' := by
  induction inputs with
  | nil =>
      intro s s' h hrun
      obtain rfl : s = s' := by simpa [runUnder] using hrun
      exact h
  | cons i rest ih =>
      intro s s' h hrun
      by_cases hok : ok s i
      · simp only [runUnder, if_pos hok, Option.bind_eq_some_iff] at hrun
        obtain ⟨next, hstep, hrest⟩ := hrun
        exact ih (h.tail hok hstep) hrest
      · simp [runUnder, hok] at hrun

/-- The last state of a run executed from the initial state. -/
theorem reachableUnder_get (ok : S → I → Prop) [∀ s i, Decidable (ok s i)]
    (inputs : List I) (h : (M.runUnder ok M.init inputs).isSome) :
    M.ReachableUnder ok ((M.runUnder ok M.init inputs).get h) :=
  ReachableUnder.of_runUnder Relation.ReflTransGen.refl (Option.some_get h).symm

/-- The last state of a run executed without conditions. -/
theorem reachable_get (inputs : List I) (h : (M.run M.init inputs).isSome) :
    M.Reachable ((M.run M.init inputs).get h) :=
  reachableUnder_get (fun _ _ => True) inputs h

end StepSystem
