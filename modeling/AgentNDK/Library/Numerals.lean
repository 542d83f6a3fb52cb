import Mathlib.Data.Nat.Digits.Defs
import AgentNDK.Library.JsonGrammar

namespace CText

/-- The unsigned decimal conversion of `printf`. -/
def decimal (n : Nat) : Text :=
  Nat.toDigits 10 n

/-- The signed decimal conversion. -/
def signedDecimal : Int → Text
  | .ofNat n => decimal n
  | .negSucc n => '-' :: decimal (n + 1)

/-- The number a signed decimal numeral denotes. -/
def readDecimal : Text → Int
  | '-' :: digits => -(Nat.ofDigitChars 10 digits 0 : Int)
  | digits => Nat.ofDigitChars 10 digits 0

/-- The lower-case hexadecimal conversion. -/
def hexadecimal (n : Nat) : Text :=
  Nat.toDigits 16 n

/-- The `0` flag with a field width: zeros on the left up to the width. -/
def zeroPad (width : Nat) (digits : Text) : Text :=
  List.replicate (width - digits.length) '0' ++ digits

/-- The `0` flag on a signed conversion: the zeros go after the sign. -/
def zeroPadSigned (width : Nat) : Int → Text
  | .ofNat n => zeroPad width (decimal n)
  | .negSucc n => '-' :: zeroPad (width - 1) (decimal (n + 1))

/-- The characters numerals are made of. -/
def isNumeral (c : Char) : Bool :=
  c.isAlphanum || c == '-'

def Numeral (t : Text) : Prop :=
  ∀ c ∈ t, isNumeral c = true

theorem digitChar_isNumeral {d : Nat} (small : d < 16) : isNumeral d.digitChar = true := by
  revert d
  decide

theorem toDigits_numeral {base : Nat} (lower : 1 < base) (upper : base ≤ 16) (n : Nat) :
    Numeral (Nat.toDigits base n) := by
  induction n using Nat.strong_induction_on with
  | _ n ih =>
    rw [Nat.toDigits_eq_if lower]
    split
    · intro c member
      cases List.mem_singleton.mp member
      exact digitChar_isNumeral (by omega)
    · intro c member
      rcases List.mem_append.mp member with prior | last
      · exact ih (n / base) (Nat.div_lt_self (by omega) lower) c prior
      · cases List.mem_singleton.mp last
        exact digitChar_isNumeral ((Nat.mod_lt n (by omega)).trans_le upper)

theorem decimal_numeral (n : Nat) : Numeral (decimal n) :=
  toDigits_numeral (by decide) (by decide) n

theorem hexadecimal_numeral (n : Nat) : Numeral (hexadecimal n) :=
  toDigits_numeral (by decide) (by decide) n

theorem Numeral.cons {c : Char} {t : Text} (head : isNumeral c = true) (tail : Numeral t) :
    Numeral (c :: t) := by
  intro d member
  rcases List.mem_cons.mp member with rfl | later
  · exact head
  · exact tail d later

theorem Numeral.append {s t : Text} (left : Numeral s) (right : Numeral t) : Numeral (s ++ t) :=
  fun c member => (List.mem_append.mp member).elim (left c) (right c)

theorem signedDecimal_numeral (i : Int) : Numeral (signedDecimal i) := by
  cases i with
  | ofNat n => exact decimal_numeral n
  | negSucc n => exact (decimal_numeral (n + 1)).cons rfl

theorem zeroPad_numeral {digits : Text} (numeral : Numeral digits) (width : Nat) :
    Numeral (zeroPad width digits) := by
  refine Numeral.append (fun c member => ?_) numeral
  rw [(List.mem_replicate.mp member).2]
  rfl

theorem zeroPadSigned_numeral (width : Nat) (i : Int) : Numeral (zeroPadSigned width i) := by
  cases i with
  | ofNat n => exact zeroPad_numeral (decimal_numeral n) width
  | negSucc n => exact (zeroPad_numeral (decimal_numeral (n + 1)) (width - 1)).cons rfl

/-! How long numerals get. -/

theorem decimal_length_le {n k : Nat} (positive : 0 < k) (bound : n < 10 ^ k) :
    (decimal n).length ≤ k :=
  Nat.toDigits_length 10 n k positive bound

theorem hexadecimal_length_le {n k : Nat} (positive : 0 < k) (bound : n < 16 ^ k) :
    (hexadecimal n).length ≤ k :=
  Nat.toDigits_length 16 n k positive bound

theorem signedDecimal_length_le {i : Int} {k : Nat} (positive : 0 < k) (bound : i.natAbs < 10 ^ k) :
    (signedDecimal i).length ≤ k + 1 := by
  cases i with
  | ofNat n => exact (decimal_length_le positive bound).trans (Nat.le_succ k)
  | negSucc n => exact Nat.succ_le_succ (decimal_length_le positive bound)

theorem zeroPad_length_le {digits : Text} {width k : Nat} (bound : digits.length ≤ k) :
    (zeroPad width digits).length ≤ max width k := by
  simp only [zeroPad, List.length_append, List.length_replicate]
  omega

theorem zeroPadSigned_length_le {i : Int} {width k : Nat} (positive : 0 < k)
    (bound : i.natAbs < 10 ^ k) : (zeroPadSigned width i).length ≤ max width k + 1 := by
  cases i with
  | ofNat n => exact (zeroPad_length_le (decimal_length_le positive bound)).trans (Nat.le_succ _)
  | negSucc n =>
    have bound' : n + 1 < 10 ^ k := bound
    have short : (zeroPad (width - 1) (decimal (n + 1))).length ≤ max (width - 1) k :=
      zeroPad_length_le (decimal_length_le positive bound')
    simp only [zeroPadSigned, List.length_cons]
    omega

end CText

namespace JsonText
open CText

theorem digits_decimal (n : Nat) : Digits (decimal n) :=
  fun _ member => Nat.isDigit_of_mem_toDigits (by decide) (by decide) member

theorem readDecimal_signedDecimal (i : Int) : readDecimal (signedDecimal i) = i := by
  cases i with
  | ofNat n =>
    have notSign : ∀ t, signedDecimal (.ofNat n) ≠ '-' :: t := by
      intro t same
      have sign : '-' ∈ decimal n := (show decimal n = '-' :: t from same) ▸ List.mem_cons_self
      exact absurd (digits_decimal n '-' sign) (by decide)
    unfold readDecimal
    split
    · rename_i t same
      exact absurd same (notSign t)
    · exact congrArg Int.ofNat Nat.ofDigitChars_ten_toDigits
  | negSucc n =>
    have digits : Nat.ofDigitChars 10 (decimal (n + 1)) 0 = n + 1 := Nat.ofDigitChars_ten_toDigits
    rw [signedDecimal, readDecimal, digits]
    rfl

/-- The number lower-case hexadecimal digits denote. -/
def readHexadecimal (digits : Text) : Nat :=
  digits.foldl (fun n c => 16 * n + (hexValue c).getD 0) 0

theorem hexValue_digitChar {d : Nat} (small : d < 16) : hexValue d.digitChar = some d := by
  revert d
  decide

theorem readHexadecimal_hexadecimal (n : Nat) : readHexadecimal (hexadecimal n) = n := by
  induction n using Nat.strong_induction_on with
  | _ n ih =>
    by_cases small : n < 16
    · rw [hexadecimal, Nat.toDigits_of_lt_base small, readHexadecimal, List.foldl_cons, List.foldl_nil,
        hexValue_digitChar small, Option.getD_some, Nat.mul_zero, Nat.zero_add]
    · have prior := ih (n / 16) (by omega)
      rw [readHexadecimal, hexadecimal] at prior
      rw [hexadecimal, Nat.toDigits_of_base_le (by decide) (by omega), readHexadecimal,
        List.foldl_append, prior, List.foldl_cons, List.foldl_nil,
        hexValue_digitChar (Nat.mod_lt _ (by decide)), Option.getD_some]
      omega

theorem minus_not_mem_hexadecimal (n : Nat) : '-' ∉ hexadecimal n := by
  induction n using Nat.strong_induction_on with
  | _ n ih =>
    have digit : ∀ d < 16, '-' ≠ d.digitChar := by decide
    by_cases small : n < 16
    · rw [hexadecimal, Nat.toDigits_of_lt_base small, List.mem_singleton]
      exact digit n small
    · rw [hexadecimal, Nat.toDigits_of_base_le (by decide) (by omega), List.mem_append,
        List.mem_singleton, not_or]
      exact ⟨ih (n / 16) (by omega), digit _ (Nat.mod_lt _ (by decide))⟩

/-- The number a hexadecimal numeral with an optional minus sign denotes. -/
def readSignedHexadecimal : Text → Int
  | '-' :: digits => -(readHexadecimal digits : Int)
  | digits => readHexadecimal digits

theorem intPart_decimal (n : Nat) : IntPart (decimal n) := by
  induction n using Nat.strong_induction_on with
  | _ n ih =>
    by_cases small : n < 10
    · rw [decimal, Nat.toDigits_of_lt_base small]
      by_cases zero : n = 0
      · exact Or.inl (by rw [zero]; rfl)
      · have digit : n.digitChar.isDigit = true ∧ n.digitChar ≠ '0' := by
          have each : ∀ d < 10, d ≠ 0 → d.digitChar.isDigit = true ∧ d.digitChar ≠ '0' := by decide
          exact each n small zero
        exact Or.inr ⟨_, [], rfl, digit.1, digit.2, by simp [Digits]⟩
    · have last : decimal n = decimal (n / 10) ++ [(n % 10).digitChar] :=
        Nat.toDigits_of_base_le (by decide) (by omega)
      rcases ih (n / 10) (by omega) with zero | ⟨d, ds, shape, digit, nonzero, _⟩
      · have value := congrArg (Nat.ofDigitChars 10 · 0) zero
        simp only [decimal, Nat.ofDigitChars_ten_toDigits] at value
        have same : Nat.ofDigitChars 10 ['0'] 0 = 0 := by decide
        omega
      · refine Or.inr ⟨d, ds ++ [(n % 10).digitChar], by rw [last, shape]; rfl, digit, nonzero, ?_⟩
        intro c member
        exact digits_decimal n c (by rw [last, shape]; exact List.mem_cons_of_mem d member)

/-- The integers a writer prints are JSON numbers. -/
theorem number_decimal (n : Nat) : Number (decimal n) :=
  ⟨[], decimal n, [], [], by simp, Or.inl rfl, intPart_decimal n, Or.inl rfl, Or.inl rfl⟩

theorem number_signedDecimal (i : Int) : Number (signedDecimal i) := by
  cases i with
  | ofNat n => exact number_decimal n
  | negSucc n =>
    exact ⟨['-'], decimal (n + 1), [], [], by simp [signedDecimal], Or.inr rfl,
      intPart_decimal (n + 1), Or.inl rfl, Or.inl rfl⟩

/-! Padded numerals. -/

theorem digits_zeroPad (width n : Nat) : Digits (zeroPad width (decimal n)) := by
  intro c member
  rcases List.mem_append.mp member with zero | digit
  · rw [(List.mem_replicate.mp zero).2]
    rfl
  · exact digits_decimal n c digit

theorem zeroPad_length {width n : Nat} (positive : 0 < width) (small : n < 10 ^ width) :
    (zeroPad width (decimal n)).length = width := by
  have fits := decimal_length_le positive small
  rw [zeroPad, List.length_append, List.length_replicate]
  omega

/-- The zeros do not count. -/
theorem ofDigitChars_zeroPad (width n : Nat) :
    Nat.ofDigitChars 10 (zeroPad width (decimal n)) 0 = n := by
  rw [zeroPad, Nat.ofDigitChars_append, Nat.ofDigitChars_replicate_zero, Nat.mul_zero]
  exact Nat.ofDigitChars_ten_toDigits

theorem zeroPad_decimal_inj {width m n : Nat}
    (same : zeroPad width (decimal m) = zeroPad width (decimal n)) : m = n := by
  rw [← ofDigitChars_zeroPad width m, same, ofDigitChars_zeroPad]

end JsonText
