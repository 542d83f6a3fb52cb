import AgentNDK.Library.Numerals

namespace CText

/-- A continuation byte of a multi-byte UTF-8 sequence. -/
def isContinuation (c : Char) : Bool :=
  0x80 ≤ c.toNat && c.toNat ≤ 0xbf

/-- The lead bytes of two, three and four byte sequences, with the range the
second byte is confined to: no overlong forms, surrogates or code points past
the last one. -/
def secondRange (lead : Char) : Option (Nat × Nat × Nat) :=
  let b := lead.toNat
  if 0xc2 ≤ b ∧ b ≤ 0xdf then some (0x80, 0xbf, 0)
  else if b = 0xe0 then some (0xa0, 0xbf, 1)
  else if b = 0xed then some (0x80, 0x9f, 1)
  else if 0xe1 ≤ b ∧ b ≤ 0xef then some (0x80, 0xbf, 1)
  else if b = 0xf0 then some (0x90, 0xbf, 2)
  else if 0xf1 ≤ b ∧ b ≤ 0xf3 then some (0x80, 0xbf, 2)
  else if b = 0xf4 then some (0x80, 0x8f, 2)
  else none

/-- The bytes are well-formed UTF-8. -/
inductive Utf8 : Text → Prop
  | nil : Utf8 []
  | ascii {c t} : c.toNat < 0x80 → Utf8 t → Utf8 (c :: t)
  | wide {lead second low high more tail t} : secondRange lead = some (low, high, more) →
      low ≤ second.toNat → second.toNat ≤ high → tail.length = more →
      (∀ c ∈ tail, isContinuation c = true) → Utf8 t → Utf8 (lead :: second :: (tail ++ t))

theorem Utf8.append {s t : Text} (left : Utf8 s) (right : Utf8 t) : Utf8 (s ++ t) := by
  induction left with
  | nil => exact right
  | ascii small _ ih => exact .ascii small ih
  | wide range lower upper count follow _ ih =>
    simpa using Utf8.wide range lower upper count follow ih

/-- The bytes of a multi-byte sequence are not ASCII. -/
theorem secondRange_bounds {lead : Char} {low high more : Nat}
    (range : secondRange lead = some (low, high, more)) : 0x80 ≤ lead.toNat ∧ 0x80 ≤ low := by
  unfold secondRange at range
  dsimp only at range
  repeat' split at range
  all_goals first
    | cases range
      omega
    | cases range

/-- An ASCII character is never inside a multi-byte sequence, so a text is
encoded well on both sides of it or not at all. -/
theorem utf8_append_ascii {s t : Text} {c : Char} (ascii : c.toNat < 0x80) :
    Utf8 (s ++ c :: t) ↔ Utf8 s ∧ Utf8 t := by
  refine ⟨fun whole => ?_, fun parts => parts.1.append (.ascii ascii parts.2)⟩
  generalize shape : s ++ c :: t = text at whole
  induction whole generalizing s with
  | nil => simp at shape
  | @ascii d u small rest ih =>
    cases s with
    | nil =>
      obtain ⟨_, rfl⟩ := List.cons.inj shape
      exact ⟨.nil, rest⟩
    | cons e s =>
      obtain ⟨rfl, same⟩ := List.cons.inj shape
      obtain ⟨left, right⟩ := ih same
      exact ⟨.ascii small left, right⟩
  | @wide lead second low high more tail u range lower upper count follow rest ih =>
    have bounds := secondRange_bounds range
    rcases s with _ | ⟨d, _ | ⟨e, s⟩⟩
    · obtain ⟨rfl, _⟩ := List.cons.inj shape
      omega
    · obtain ⟨_, same⟩ := List.cons.inj shape
      obtain ⟨rfl, _⟩ := List.cons.inj same
      omega
    · obtain ⟨rfl, tailShape⟩ := List.cons.inj shape
      obtain ⟨rfl, same⟩ := List.cons.inj tailShape
      rcases List.append_eq_append_iff.mp same with ⟨inside, split, tailSame⟩ | ⟨inside, rfl, split⟩
      · cases inside with
        | nil =>
          have left := (@ih [] (by simpa using tailSame)).2
          refine ⟨?_, left⟩
          have closed := Utf8.wide range lower upper count follow .nil
          simpa [split] using closed
        | cons x inside =>
          obtain ⟨rfl, _⟩ := List.cons.inj tailSame
          have continued := follow c (by rw [split]; simp)
          simp only [isContinuation, Bool.and_eq_true, decide_eq_true_eq] at continued
          omega
      · obtain ⟨left, right⟩ := ih split.symm
        exact ⟨.wide range lower upper count follow left, right⟩

theorem utf8_cons {c : Char} {t : Text} (ascii : c.toNat < 0x80) : Utf8 (c :: t) ↔ Utf8 t := by
  have parts := @utf8_append_ascii [] t c ascii
  simpa [show Utf8 [] from .nil] using parts

theorem utf8_snoc {s : Text} {c : Char} (ascii : c.toNat < 0x80) : Utf8 (s ++ [c]) ↔ Utf8 s := by
  have parts := @utf8_append_ascii s [] c ascii
  simpa [show Utf8 [] from .nil] using parts

/-- Printable ASCII without quotation marks, apostrophes and backslashes. -/
def isPlain (c : Char) : Bool :=
  0x20 ≤ c.toNat && c.toNat < 0x7f && c != '\'' && c != '"' && c != '\\'

def Plain (t : Text) : Prop :=
  ∀ c ∈ t, isPlain c = true

-- by way of the list, since the characters are finitely many too
instance (t : Text) : Decidable (Plain t) :=
  List.decidableBAll (fun c => isPlain c = true) t

theorem Plain.append {s t : Text} (left : Plain s) (right : Plain t) : Plain (s ++ t) :=
  fun c member => (List.mem_append.mp member).elim (left c) (right c)

theorem Plain.utf8 {t : Text} (plain : Plain t) : Utf8 t := by
  induction t with
  | nil => exact .nil
  | cons c t ih =>
    have head := plain c List.mem_cons_self
    simp only [isPlain, Bool.and_eq_true, decide_eq_true_eq] at head
    exact .ascii (by omega) (ih fun d member => plain d (List.mem_cons_of_mem c member))

theorem Plain.nulFree {t : Text} (plain : Plain t) : nul ∉ t := by
  intro member
  have := plain nul member
  revert this
  decide

theorem isPlain_of_isNumeral {c : Char} (numeral : isNumeral c = true) : isPlain c = true := by
  delta isNumeral Char.isAlphanum Char.isAlpha Char.isUpper Char.isLower Char.isDigit at numeral
  simp only [Bool.or_eq_true, Bool.and_eq_true, decide_eq_true_eq, beq_iff_eq, ge_iff_le,
    UInt32.le_iff_toNat_le] at numeral
  change (((65 ≤ c.toNat ∧ c.toNat ≤ 90) ∨ (97 ≤ c.toNat ∧ c.toNat ≤ 122)) ∨
    (48 ≤ c.toNat ∧ c.toNat ≤ 57)) ∨ c = '-' at numeral
  have bounds : 0x2d ≤ c.toNat ∧ c.toNat < 0x7f ∧ c.toNat ≠ 0x5c := by
    rcases numeral with alphanum | rfl
    · omega
    · decide
  simp only [isPlain, Bool.and_eq_true, decide_eq_true_eq, bne_iff_ne, ne_eq]
  refine ⟨⟨⟨⟨by omega, by omega⟩, ?_⟩, ?_⟩, ?_⟩ <;> (rintro rfl; revert bounds; decide)

theorem Numeral.plain {t : Text} (numeral : Numeral t) : Plain t :=
  fun c member => isPlain_of_isNumeral (numeral c member)

end CText
