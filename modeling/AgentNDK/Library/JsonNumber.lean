import AgentNDK.Library.JsonReader

namespace JsonText
open CText Runs

def Sign (m : Text) : Prop :=
  m = [] ∨ m = ['-']

/-- What the literal read so far looks like in each state of the number reader. -/
def NumState.Shape (literal : Text) : NumState → Prop
  | .minus => literal = ['-']
  | .zero => ∃ m, literal = m ++ ['0'] ∧ Sign m
  | .int => ∃ m d ds, literal = m ++ d :: ds ∧ Sign m ∧ d.isDigit = true ∧ d ≠ '0' ∧ Digits ds
  | .point => ∃ m i, literal = m ++ i ++ ['.'] ∧ Sign m ∧ IntPart i
  | .frac => ∃ m i d ds, literal = m ++ i ++ '.' :: d :: ds ∧ Sign m ∧ IntPart i ∧
      d.isDigit = true ∧ Digits ds
  | .exp => ∃ m i f e, literal = m ++ i ++ f ++ [e] ∧ Sign m ∧ IntPart i ∧ FracPart f ∧
      isExpMark e = true
  | .expSign => ∃ m i f e s, literal = m ++ i ++ f ++ [e, s] ∧ Sign m ∧ IntPart i ∧ FracPart f ∧
      isExpMark e = true ∧ isSign s = true
  | .expDigits => ∃ m i f e s d ds, literal = m ++ i ++ f ++ e :: (s ++ d :: ds) ∧ Sign m ∧
      IntPart i ∧ FracPart f ∧ isExpMark e = true ∧ (s = [] ∨ ∃ c, s = [c] ∧ isSign c = true) ∧
      d.isDigit = true ∧ Digits ds

theorem digits_snoc {ds : Text} {c : Char} (digits : Digits ds) (digit : c.isDigit = true) :
    Digits (ds ++ [c]) :=
  List.forall_mem_append.mpr ⟨digits, List.forall_mem_singleton.mpr digit⟩

theorem digits_nil : Digits [] := by simp [Digits]

/-- A complete integer part, as either state that ends one describes it. -/
theorem intPart_of_shape {st : NumState} {literal : Text} (int : st = .zero ∨ st = .int)
    (shape : st.Shape literal) : ∃ m i, literal = m ++ i ∧ Sign m ∧ IntPart i := by
  rcases int with rfl | rfl
  · obtain ⟨m, rfl, sign⟩ := shape
    exact ⟨m, ['0'], rfl, sign, Or.inl rfl⟩
  · obtain ⟨m, d, ds, rfl, sign, digit, nonzero, digits⟩ := shape
    exact ⟨m, d :: ds, rfl, sign, Or.inr ⟨d, ds, rfl, digit, nonzero, digits⟩⟩

/-- Everything up to the exponent, as the states that may start one describe it. -/
theorem fracPart_of_shape {st : NumState} {literal : Text}
    (before : st = .zero ∨ st = .int ∨ st = .frac) (shape : st.Shape literal) :
    ∃ m i f, literal = m ++ i ++ f ∧ Sign m ∧ IntPart i ∧ FracPart f := by
  rcases before with zero | int | rfl
  · obtain ⟨m, i, rfl, sign, int⟩ := intPart_of_shape (Or.inl zero) shape
    exact ⟨m, i, [], by simp, sign, int, Or.inl rfl⟩
  · obtain ⟨m, i, rfl, sign, int⟩ := intPart_of_shape (Or.inr int) shape
    exact ⟨m, i, [], by simp, sign, int, Or.inl rfl⟩
  · obtain ⟨m, i, d, ds, rfl, sign, int, digit, digits⟩ := shape
    exact ⟨m, i, '.' :: d :: ds, rfl, sign, int, Or.inr ⟨d, ds, rfl, digit, digits⟩⟩

theorem number_of_shape {st : NumState} {literal : Text} (complete : st.complete = true)
    (shape : st.Shape literal) : Number literal := by
  have noExp : st = .zero ∨ st = .int ∨ st = .frac → Number literal := by
    intro before
    obtain ⟨m, i, f, rfl, sign, int, frac⟩ := fracPart_of_shape before shape
    exact ⟨m, i, f, [], by simp, sign, int, frac, Or.inl rfl⟩
  cases st with
  | zero => exact noExp (by simp)
  | int => exact noExp (by simp)
  | frac => exact noExp (by simp)
  | expDigits =>
    obtain ⟨m, i, f, e, s, d, ds, rfl, sign, int, frac, mark, signed, digit, digits⟩ := shape
    exact ⟨m, i, f, _, rfl, sign, int, frac, Or.inr ⟨e, s, d, ds, rfl, mark, signed, digit, digits⟩⟩
  | _ => simp [NumState.complete] at complete

theorem shape_point {st : NumState} {literal : Text} (int : st = .zero ∨ st = .int)
    (shape : st.Shape literal) : NumState.point.Shape (literal ++ ['.']) := by
  obtain ⟨m, i, rfl, sign, int⟩ := intPart_of_shape int shape
  exact ⟨m, i, rfl, sign, int⟩

theorem shape_exp {st : NumState} {literal : Text} {c : Char}
    (before : st = .zero ∨ st = .int ∨ st = .frac) (mark : isExpMark c = true)
    (shape : st.Shape literal) : NumState.exp.Shape (literal ++ [c]) := by
  obtain ⟨m, i, f, rfl, sign, int, frac⟩ := fracPart_of_shape before shape
  exact ⟨m, i, f, c, rfl, sign, int, frac, mark⟩

theorem shape_first {st : NumState} {c : Char} (first : NumState.first c = some st) : st.Shape [c] := by
  unfold NumState.first at first
  split at first
  · rename_i minus
    cases Option.some.inj first
    simp [NumState.Shape, minus]
  · split at first
    · rename_i zero
      cases Option.some.inj first
      exact ⟨[], by simp [zero], Or.inl rfl⟩
    · split at first
      · rename_i nonzero digit
        cases Option.some.inj first
        exact ⟨[], c, [], rfl, Or.inl rfl, digit, nonzero, digits_nil⟩
      · simp at first

/-- One more character of a number keeps the literal in the shape of its state. -/
theorem shape_next {st st' : NumState} {literal : Text} {c : Char} (shape : st.Shape literal)
    (stepped : st.next c = some st') : st'.Shape (literal ++ [c]) := by
  cases st with
  | minus =>
    cases shape
    simp only [NumState.next] at stepped
    split at stepped
    · rename_i zero
      cases Option.some.inj stepped
      exact ⟨['-'], by simp [zero], Or.inr rfl⟩
    · split at stepped
      · rename_i nonzero digit
        cases Option.some.inj stepped
        exact ⟨['-'], c, [], rfl, Or.inr rfl, digit, nonzero, digits_nil⟩
      · simp at stepped
  | zero =>
    simp only [NumState.next] at stepped
    split at stepped
    · rename_i point
      cases Option.some.inj stepped
      exact point ▸ shape_point (Or.inl rfl) shape
    · split at stepped
      · rename_i mark
        cases Option.some.inj stepped
        exact shape_exp (Or.inl rfl) mark shape
      · simp at stepped
  | int =>
    simp only [NumState.next] at stepped
    split at stepped
    · rename_i digit
      cases Option.some.inj stepped
      obtain ⟨m, d, ds, rfl, sign, first, nonzero, digits⟩ := shape
      exact ⟨m, d, ds ++ [c], by simp, sign, first, nonzero, digits_snoc digits digit⟩
    · split at stepped
      · rename_i point
        cases Option.some.inj stepped
        exact point ▸ shape_point (Or.inr rfl) shape
      · split at stepped
        · rename_i mark
          cases Option.some.inj stepped
          exact shape_exp (Or.inr (Or.inl rfl)) mark shape
        · simp at stepped
  | point =>
    simp only [NumState.next] at stepped
    split at stepped
    · rename_i digit
      cases Option.some.inj stepped
      obtain ⟨m, i, rfl, sign, int⟩ := shape
      exact ⟨m, i, c, [], by simp, sign, int, digit, digits_nil⟩
    · simp at stepped
  | frac =>
    simp only [NumState.next] at stepped
    split at stepped
    · rename_i digit
      cases Option.some.inj stepped
      obtain ⟨m, i, d, ds, rfl, sign, int, first, digits⟩ := shape
      exact ⟨m, i, d, ds ++ [c], by simp, sign, int, first, digits_snoc digits digit⟩
    · split at stepped
      · rename_i mark
        cases Option.some.inj stepped
        exact shape_exp (Or.inr (Or.inr rfl)) mark shape
      · simp at stepped
  | exp =>
    obtain ⟨m, i, f, e, rfl, sign, int, frac, mark⟩ := shape
    simp only [NumState.next] at stepped
    split at stepped
    · rename_i signed
      cases Option.some.inj stepped
      exact ⟨m, i, f, e, c, by simp, sign, int, frac, mark, signed⟩
    · split at stepped
      · rename_i digit
        cases Option.some.inj stepped
        exact ⟨m, i, f, e, [], c, [], by simp, sign, int, frac, mark, Or.inl rfl, digit, digits_nil⟩
      · simp at stepped
  | expSign =>
    obtain ⟨m, i, f, e, s, rfl, sign, int, frac, mark, signed⟩ := shape
    simp only [NumState.next] at stepped
    split at stepped
    · rename_i digit
      cases Option.some.inj stepped
      exact ⟨m, i, f, e, [s], c, [], by simp, sign, int, frac, mark, Or.inr ⟨s, rfl, signed⟩,
        digit, digits_nil⟩
    · simp at stepped
  | expDigits =>
    obtain ⟨m, i, f, e, s, d, ds, rfl, sign, int, frac, mark, signed, first, digits⟩ := shape
    simp only [NumState.next] at stepped
    split at stepped
    · rename_i digit
      cases Option.some.inj stepped
      exact ⟨m, i, f, e, s, d, ds ++ [c], by simp, sign, int, frac, mark, signed, first,
        digits_snoc digits digit⟩
    · simp at stepped

end JsonText
