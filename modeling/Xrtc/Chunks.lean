import Mathlib.Data.List.Basic
import Mathlib.Tactic.Common

/-!
# Frames received in chunks

A receiver of frames of one size gets its stream in chunks that need not end where
a frame ends: it keeps what is too short for a frame and puts it in front of the
next chunk.  A step reads a frame at its position in the buffer, so it may look at
what stands around the frame; a stream is read the same however it is cut if the
steps do not make use of that.
-/

namespace Chunks

universe u

variable {α σ ε : Type u}

/-- The frames are read one after the other, and each step is the same wherever
its frame stands in a buffer. -/
inductive Reads (n : ℕ) (step : σ → List α → ℕ → Option (σ × List ε)) :
    σ → List (List α) → σ → List ε → Prop
  | nil (s : σ) : Reads n step s [] s []
  | cons {s s' s'' : σ} {frame : List α} {frames : List (List α)} {events rest : List ε}
      (hlength : frame.length = n)
      (hstep : ∀ before after : List α, n ∣ before.length →
        step s (before ++ (frame ++ after)) before.length = some (s', events))
      (hrest : Reads n step s' frames s'' rest) :
      Reads n step s (frame :: frames) s'' (events ++ rest)

variable {n : ℕ} {step : σ → List α → ℕ → Option (σ × List ε)}

theorem Reads.length {s s' : σ} {frames : List (List α)} {events : List ε}
    (h : Reads n step s frames s' events) : frames.flatten.length = n * frames.length := by
  induction h with
  | nil s => rfl
  | cons hlength hstep hrest ih =>
      rw [List.flatten_cons, List.length_append, hlength, ih, List.length_cons, Nat.mul_succ,
        Nat.add_comm]

theorem Reads.append {s s' s'' : σ} {frames frames' : List (List α)} {events events' : List ε}
    (h : Reads n step s frames s' events) (h' : Reads n step s' frames' s'' events') :
    Reads n step s (frames ++ frames') s'' (events ++ events') := by
  induction h with
  | nil s => exact h'
  | cons hlength hstep hrest ih =>
      rw [List.cons_append, List.append_assoc]
      exact .cons hlength hstep (ih h')

theorem Reads.split {s s'' : σ} {frames frames' : List (List α)} {events : List ε}
    (h : Reads n step s (frames ++ frames') s'' events) :
    ∃ s' before after, Reads n step s frames s' before ∧ Reads n step s' frames' s'' after ∧
      events = before ++ after := by
  induction frames generalizing s events with
  | nil => exact ⟨s, [], events, .nil s, h, rfl⟩
  | cons frame frames ih =>
      cases h with
      | @cons _ s₁ _ _ _ first rest hlength hstep hrest =>
          obtain ⟨s', before, after, hbefore, hafter, rfl⟩ := ih hrest
          exact ⟨s', first ++ before, after, .cons hlength hstep hbefore, hafter,
            (List.append_assoc _ _ _).symm⟩

end Chunks
