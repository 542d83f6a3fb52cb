import Mathlib.Data.List.Induction
import AgentNDK.Library.JsonSound
import AgentNDK.Library.Encoding

namespace JsonText
open CText Runs

/-- No quotation mark and no backslash: the text cannot end the string it is
written in, nor start an escape. -/
def Bare (t : Text) : Prop :=
  '"' ∉ t ∧ '\\' ∉ t

def controlFree (t : Text) : Bool :=
  t.all fun c => 0x20 ≤ c.toNat

theorem isUnescaped_of_bare {t : Text} (bare : Bare t) {c : Char} (member : c ∈ t) :
    isUnescaped c = decide (0x20 ≤ c.toNat) := by
  have notQuote : c ≠ '"' := fun same => bare.1 (same ▸ member)
  have notSlash : c ≠ '\\' := fun same => bare.2 (same ▸ member)
  rw [isUnescaped, bne_iff_ne.mpr notQuote, bne_iff_ne.mpr notSlash, Bool.and_true, Bool.and_true]

theorem bare_of_plain {t : Text} (plain : Plain t) : Bare t := by
  constructor <;>
  · intro member
    have := plain _ member
    revert this
    decide

theorem controlFree_of_plain {t : Text} (plain : Plain t) : controlFree t = true := by
  simp only [controlFree, List.all_eq_true, decide_eq_true_eq]
  intro c member
  have := plain c member
  simp only [isPlain, Bool.and_eq_true, decide_eq_true_eq] at this
  omega

theorem isUnescaped_of_plain {t : Text} (plain : Plain t) : ∀ c ∈ t, isUnescaped c = true := by
  intro c member
  rw [isUnescaped_of_bare (bare_of_plain plain) member]
  simpa using List.all_eq_true.mp (controlFree_of_plain plain) c member

/-- A text that an unescaped string may hold: no control character, and valid
UTF-8. -/
def Readable (t : Text) : Prop :=
  controlFree t = true ∧ Utf8 t

theorem readable_of_plain {t : Text} (plain : Plain t) : Readable t :=
  ⟨controlFree_of_plain plain, plain.utf8⟩

theorem readable_append {s t : Text} {c : Char} (plain : isPlain c = true) :
    Readable (s ++ c :: t) ↔ Readable s ∧ Readable t := by
  have shown : Plain [c] := fun d member => (List.mem_singleton.mp member) ▸ plain
  have space := controlFree_of_plain shown
  have ascii : c.toNat < 0x80 := by
    simp only [isPlain, Bool.and_eq_true, decide_eq_true_eq] at plain
    omega
  simp only [controlFree, List.all_cons, List.all_nil, Bool.and_true] at space
  simp only [Readable, controlFree, List.all_append, List.all_cons, space, Bool.true_and,
    Bool.and_eq_true, utf8_append_ascii ascii]
  exact and_and_and_comm

theorem Bare.tail {c : Char} {t : Text} (bare : Bare (c :: t)) : Bare t :=
  ⟨fun member => bare.1 (List.mem_cons_of_mem c member),
    fun member => bare.2 (List.mem_cons_of_mem c member)⟩

theorem run_bare {t : Text} (bare : Bare t) (role : Role) (acc : Text) (stack : List Frame) :
    run step ⟨.str role acc, stack⟩ t =
      if controlFree t then some ⟨.str role (acc ++ t), stack⟩ else none := by
  induction t generalizing acc with
  | nil => simp [controlFree]
  | cons c t ih =>
    have notQuote : c ≠ '"' := fun same => bare.1 (same ▸ List.mem_cons_self)
    have notSlash : c ≠ '\\' := fun same => bare.2 (same ▸ List.mem_cons_self)
    have plain := isUnescaped_of_bare bare List.mem_cons_self
    rw [run_cons]
    by_cases control : 0x20 ≤ c.toNat
    · have stepped : step ⟨.str role acc, stack⟩ c = some ⟨.str role (acc ++ [c]), stack⟩ := by
        simp [step, strStep, notQuote, notSlash, plain, control]
      rw [stepped, Option.bind_some, ih bare.tail]
      simp [controlFree, control]
    · have stepped : step ⟨.str role acc, stack⟩ c = none := by
        simp [step, strStep, notQuote, notSlash, plain, control]
      rw [stepped, Option.bind_none]
      simp [controlFree, control]

/-- An unescaped string reads as itself exactly when it has no control character. -/
theorem readsAs_quoted {t : Text} (bare : Bare t) :
    ReadsAs ('"' :: t ++ ['"']) (if controlFree t then some (.str t) else none) := by
  intro fresh stack
  have opened : run step ⟨.value fresh, stack⟩ ['"'] = some ⟨.str .value [], stack⟩ := rfl
  rw [show '"' :: t ++ ['"'] = ['"'] ++ (t ++ ['"']) from rfl, run_append_of opened, run_append,
    run_bare bare]
  split <;> rfl

/-- A string without its end: the next quotation mark ends it early, and what
stands there cannot follow a value. -/
theorem readsAs_unclosed {t : Text} (bare : Bare t) {c : Char} (other : isDelimiter c = false)
    (rest : Text) : ReadsAs ('"' :: t ++ '"' :: c :: rest) none := by
  intro fresh stack
  simp only [isDelimiter, Bool.or_eq_false_iff, beq_eq_false_iff_ne] at other
  obtain ⟨⟨⟨space, comma⟩, bracket⟩, brace⟩ := other
  have opened : run step ⟨.value fresh, stack⟩ ['"'] = some ⟨.str .value [], stack⟩ := rfl
  have refused : doneStep (.str t) stack c = none := by
    unfold doneStep
    rw [if_neg (by simp [space])]
    split <;> first | rfl | contradiction
  rw [show '"' :: t ++ '"' :: c :: rest = ['"'] ++ (t ++ '"' :: c :: rest) from rfl,
    run_append_of opened, run_append, run_bare bare]
  split
  · simp [step, strStep, Role.close, refused]
  · rfl

/-- A text written where a value is expected: what it reads as, and the
condition under which it is valid UTF-8, if it reads as anything. -/
structure Piece (t : Text) (o : Option Json) (encoded : Prop) : Prop where
  reads : ReadsAs t o
  utf8 : o.isSome = true → (Utf8 t ↔ encoded)

theorem Piece.stuck {t : Text} (reads : ReadsAs t none) (encoded : Prop) : Piece t none encoded :=
  ⟨reads, by simp⟩

theorem Piece.quoted {t : Text} (bare : Bare t) :
    Piece ('"' :: t ++ ['"']) (if controlFree t then some (.str t) else none) (Utf8 t) :=
  ⟨readsAs_quoted bare, fun _ => (utf8_cons (by decide)).trans (utf8_snoc (by decide))⟩

theorem Piece.number {t : Text} (number : Number t) (plain : Plain t) :
    Piece t (some (.num t)) True :=
  ⟨readsAs_number number, fun _ => iff_true_intro plain.utf8⟩

end JsonText
