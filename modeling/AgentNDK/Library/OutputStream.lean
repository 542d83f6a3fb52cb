import Mathlib.Data.List.TakeDrop

/-! A buffered output stream onto an empty file, any call on which may fail
after any number of elements. -/

namespace OutputStream
universe u

/-- How a call on a stream ends: everything it has to do is done, or it fails
when so many elements are through. -/
inductive Outcome
  | completes
  | fails (count : Nat)
  deriving DecidableEq

namespace Outcome

/-- How many of the elements get through. -/
def through : Outcome → Nat → Nat
  | .completes, n => n
  | .fails count, n => min count n

@[simp] theorem through_completes (n : Nat) : Outcome.completes.through n = n := rfl

@[simp] theorem through_fails (count n : Nat) : (Outcome.fails count).through n = min count n := rfl

theorem through_le (outcome : Outcome) (n : Nat) : outcome.through n ≤ n := by
  cases outcome with
  | completes => exact Nat.le_refl n
  | fails count => exact Nat.min_le_right count n

end Outcome

structure Stream (α : Type u) where
  /-- what is in the file -/
  file : List α
  /-- what was written to the stream and is not yet in the file -/
  buffer : List α
  /-- no call has failed so far -/
  good : Bool

namespace Stream
variable {α : Type u}

/-- A stream onto a file that has been opened, or not. -/
def opened (opens : Bool) : Stream α :=
  ⟨[], [], opens⟩

/-- What the stream does not take over is lost. -/
def write (os : Stream α) (outcome : Outcome) (elements : List α) : Stream α :=
  { os with
    buffer := os.buffer ++ elements.take (outcome.through elements.length)
    good := os.good && outcome = .completes }

/-- What does not get to the file stays in the buffer. -/
def flush (os : Stream α) (outcome : Outcome) : Stream α where
  file := os.file ++ os.buffer.take (outcome.through os.buffer.length)
  buffer := os.buffer.drop (outcome.through os.buffer.length)
  good := os.good && outcome = .completes

/-- Closing flushes once more. -/
def close (os : Stream α) (outcome : Outcome) : Stream α :=
  os.flush outcome

end Stream

/-- How the three calls end. -/
structure Outcomes where
  write : Outcome
  flush : Outcome
  close : Outcome

namespace Outcomes

/-- How many elements are in the file after the three calls. -/
def reached (outcomes : Outcomes) (n : Nat) : Nat :=
  let written := outcomes.write.through n
  let flushed := outcomes.flush.through written
  flushed + outcomes.close.through (written - flushed)

/-- The stream takes all elements, and if neither of the later calls completes
they get that many to the file between them. -/
structure Lossless (outcomes : Outcomes) (n : Nat) : Prop where
  write : ∀ count, outcomes.write = .fails count → n ≤ count
  drained : ∀ count rest, outcomes.flush = .fails count → outcomes.close = .fails rest →
    n ≤ count + rest

theorem reached_eq_iff (outcomes : Outcomes) (n : Nat) :
    outcomes.reached n = n ↔ outcomes.Lossless n := by
  obtain ⟨write, flush, close⟩ := outcomes
  constructor
  · intro all
    simp only [reached] at all
    have written := write.through_le n
    have flushed := flush.through_le (write.through n)
    have closed := close.through_le (write.through n - flush.through (write.through n))
    refine ⟨?_, ?_⟩
    · rintro count rfl
      simp only [Outcome.through_fails] at all written flushed closed
      omega
    · rintro count rest rfl rfl
      simp only [Outcome.through_fails] at all
      omega
  · rintro ⟨taken, drained⟩
    have written : write.through n = n := by
      cases write with
      | completes => rfl
      | fails count => exact Nat.min_eq_right (taken count rfl)
    simp only [reached, written]
    cases flush with
    | completes =>
      have rest := close.through_le (n - n)
      rw [Outcome.through_completes]
      omega
    | fails count =>
      rw [Outcome.through_fails]
      cases close with
      | completes =>
        rw [Outcome.through_completes]
        omega
      | fails rest =>
        have enough := drained count rest rfl rfl
        rw [Outcome.through_fails]
        omega

theorem reached_le (outcomes : Outcomes) (n : Nat) : outcomes.reached n ≤ outcomes.write.through n := by
  have flushed := outcomes.flush.through_le (outcomes.write.through n)
  have closed := outcomes.close.through_le
    (outcomes.write.through n - outcomes.flush.through (outcomes.write.through n))
  simp only [reached]
  omega

section
variable {α : Type u}

/-- The file after a write, a flush and a close. -/
def file (outcomes : Outcomes) (opens : Bool) (elements : List α) : List α :=
  ((((Stream.opened opens).write outcomes.write elements).flush outcomes.flush).close outcomes.close).file

/-- It holds the front of what was written. -/
theorem file_eq_take (outcomes : Outcomes) (opens : Bool) (elements : List α) :
    outcomes.file opens elements = elements.take (outcomes.reached elements.length) := by
  have written := outcomes.write.through_le elements.length
  have reached_le := outcomes.reached_le elements.length
  simp only [file, Stream.close, Stream.flush, Stream.write, Stream.opened, List.nil_append,
    List.length_take, List.length_drop, Nat.min_eq_left written]
  rw [← List.take_add, List.take_take]
  exact congrArg (elements.take ·) (Nat.min_eq_left reached_le)

theorem file_eq_iff (outcomes : Outcomes) (opens : Bool) (elements : List α) :
    outcomes.file opens elements = elements ↔ outcomes.Lossless elements.length := by
  rw [file_eq_take, List.take_eq_self_iff, ← reached_eq_iff]
  have taken := outcomes.reached_le elements.length
  have written := outcomes.write.through_le elements.length
  omega

end

end Outcomes

end OutputStream
