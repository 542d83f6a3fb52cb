import Mathlib.Data.List.Nodup

/-! Threads that are interrupted. A handler runs with its own source masked,
besides what is masked where it comes in, and returns to the mask it found. -/

namespace Interrupts
universe u
variable {ι : Type u} {w : Nat} {number : ι → Nat}

/-- An activation of a handler. -/
structure Frame (ι : Type u) (w : Nat) where
  source : ι
  /-- the mask it returns to -/
  saved : BitVec w

/-- The bit of a source is set. -/
def masked (mask : BitVec w) (bit : Nat) : BitVec w :=
  mask ||| BitVec.twoPow w bit

def unmasked (mask : BitVec w) (bit : Nat) : BitVec w :=
  mask &&& ~~~ BitVec.twoPow w bit

theorem getLsbD_masked {bit : Nat} (inside : bit < w) (mask : BitVec w) (n : Nat) :
    (masked mask bit).getLsbD n = (mask.getLsbD n || decide (n = bit)) := by
  rw [masked, BitVec.getLsbD_or, BitVec.getLsbD_twoPow]
  by_cases same : n = bit
  · simp [same, inside]
  · simp [same, Ne.symm same]

theorem getLsbD_masked_self {bit : Nat} (inside : bit < w) (mask : BitVec w) :
    (masked mask bit).getLsbD bit = true := by
  rw [getLsbD_masked inside, decide_eq_true rfl, Bool.or_true]

theorem getLsbD_masked_of_ne {bit n : Nat} (other : n ≠ bit) (mask : BitVec w) :
    (masked mask bit).getLsbD n = mask.getLsbD n := by
  rw [masked, BitVec.getLsbD_or, BitVec.getLsbD_twoPow, decide_eq_false other.symm, Bool.and_false,
    Bool.or_false]

theorem getLsbD_unmasked_of_ne {bit n : Nat} (other : n ≠ bit) (mask : BitVec w) :
    (unmasked mask bit).getLsbD n = mask.getLsbD n := by
  rw [unmasked, BitVec.getLsbD_and, BitVec.getLsbD_not, BitVec.getLsbD_twoPow, decide_eq_false other.symm,
    Bool.and_false, Bool.not_false, Bool.and_true]
  by_cases inside : n < w
  · rw [decide_eq_true inside, Bool.and_true]
  · rw [BitVec.getLsbD_of_ge mask n (Nat.le_of_not_lt inside), Bool.false_and]

theorem getLsbD_unmasked_self (bit : Nat) (mask : BitVec w) : (unmasked mask bit).getLsbD bit = false := by
  rw [unmasked, BitVec.getLsbD_and, BitVec.getLsbD_not, BitVec.getLsbD_twoPow, decide_eq_true rfl]
  by_cases inside : bit < w
  · rw [decide_eq_true inside]
    exact Bool.and_false _
  · rw [decide_eq_false inside]
    exact Bool.and_false _

theorem masked_masked (mask : BitVec w) (bit : Nat) : masked (masked mask bit) bit = masked mask bit := by
  rw [masked, masked, BitVec.or_assoc, BitVec.or_self]

/-- The mask that the thread goes on with when all its handlers have returned. -/
def base : List (Frame ι w) → BitVec w → BitVec w
  | [], mask => mask
  | frame :: outer, _ => base outer frame.saved

/-- The innermost handler came in at a mask without its source, and so on outwards. -/
def Nested (number : ι → Nat) : List (Frame ι w) → BitVec w → Prop
  | [], _ => True
  | frame :: outer, mask => frame.saved.getLsbD (number frame.source) = false ∧
    mask = masked frame.saved (number frame.source) ∧ Nested number outer frame.saved

section Nestings
variable {frames : List (Frame ι w)} {mask : BitVec w}

/-- A handler comes in. -/
theorem Nested.enter (nested : Nested number frames mask) {source : ι}
    (opened : mask.getLsbD (number source) = false) :
    Nested number (⟨source, mask⟩ :: frames) (masked mask (number source)) :=
  ⟨opened, rfl, nested⟩

/-- It masks its own source again, which is so already. -/
theorem Nested.again {frame : Frame ι w} (nested : Nested number (frame :: frames) mask) :
    masked mask (number frame.source) = mask := by
  rw [nested.2.1, masked_masked]

/-- What is masked is what was masked at first, and the sources of the handlers. -/
theorem Nested.getLsbD (inside : ∀ source, number source < w) (nested : Nested number frames mask) (n : Nat) :
    mask.getLsbD n = true ↔
      (base frames mask).getLsbD n = true ∨ ∃ frame ∈ frames, number frame.source = n := by
  induction frames generalizing mask with
  | nil => simp [base]
  | cons frame outer ih =>
    obtain ⟨_, same, nested⟩ := nested
    rw [same, getLsbD_masked (inside frame.source), base, Bool.or_eq_true, ih nested, decide_eq_true_eq]
    simp only [List.exists_mem_cons_iff]
    constructor
    · rintro ((old | outer) | rfl)
      · exact Or.inl old
      · exact Or.inr (Or.inr outer)
      · exact Or.inr (Or.inl rfl)
    · rintro (old | rfl | outer)
      · exact Or.inl (Or.inl old)
      · exact Or.inr rfl
      · exact Or.inl (Or.inr outer)

/-- A handler comes in only where its source is not masked at first. -/
theorem Nested.free (inside : ∀ source, number source < w) (nested : Nested number frames mask) :
    ∀ frame ∈ frames, (base frames mask).getLsbD (number frame.source) = false := by
  induction frames generalizing mask with
  | nil => exact fun _ member => absurd member List.not_mem_nil
  | cons frame outer ih =>
    obtain ⟨free, _, nested⟩ := nested
    refine List.forall_mem_cons.mpr ⟨Bool.eq_false_iff.mpr fun set => ?_, ih nested⟩
    exact Bool.eq_false_iff.mp free ((nested.getLsbD inside _).mpr (Or.inl set))

/-- No two handlers of one source are under way. -/
theorem Nested.distinct (inside : ∀ source, number source < w) (nested : Nested number frames mask) :
    (frames.map fun frame => number frame.source).Nodup := by
  induction frames generalizing mask with
  | nil => exact List.nodup_nil
  | cons frame outer ih =>
    obtain ⟨free, _, nested⟩ := nested
    refine List.nodup_cons.mpr ⟨fun again => ?_, ih nested⟩
    obtain ⟨other, member, same⟩ := List.mem_map.mp again
    exact Bool.eq_false_iff.mp free ((nested.getLsbD inside _).mpr (Or.inr ⟨other, member, same⟩))

end Nestings

end Interrupts
