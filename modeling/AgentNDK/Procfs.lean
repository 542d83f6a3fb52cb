import Mathlib.Data.List.DropRight
import AgentNDK.Backtrace
import AgentNDK.Library.Numerals

namespace AgentNDK
open CText

/-- The characters up to and including the first newline. -/
def firstLine : Text → Text
  | [] => []
  | c :: t => if c = '\n' then [c] else c :: firstLine t

/-- `fgets` into a buffer of `size` cells; `none` at the end of the file. -/
def fgets (size : Nat) (content : Text) : Option Text :=
  if content = [] then none else some ((firstLine content).take (size - 1))

/-- Trailing white space is cut off, but never the first character. -/
def trimTrailingWs : Text → Text
  | [] => []
  | c :: rest => c :: rest.rdropWhile fun d => d == '\n' || d == '\r' || d == '\t' || d == ' '

/-- The shape of every procfs getter: the first line of a file, trimmed, or
what the result held before when the file cannot be opened or is empty. -/
def readProcLine (file : Option Text) (unread : Text) : Text :=
  match file.bind (fgets 1024) with
  | some buff => trimTrailingWs (cstr buff)
  | none => unread

variable {tgt : Target}

def getProcessName (os : Os tgt) : Text :=
  readProcLine os.cmdline "<unknown>"

def getThreadStat (os : Os tgt) (tid : Int32) : Text :=
  readProcLine (os.threadStat tid) ""

theorem trimTrailingWs_begins (t : Text) : trimTrailingWs t <+: t := by
  cases t with
  | nil => exact List.prefix_rfl
  | cons c rest => exact (List.prefix_cons_inj c).mpr (List.rdropWhile_prefix _ _)

theorem readProcLine_nulFree {file : Option Text} {unread : Text} (free : nul ∉ unread) :
    nul ∉ readProcLine file unread := by
  unfold readProcLine
  split
  · rename_i buff _
    exact fun member => nul_not_mem_cstr buff ((trimTrailingWs_begins _).subset member)
  · exact free

theorem readProcLine_length {file : Option Text} {unread : Text} (short : unread.length ≤ 1023) :
    (readProcLine file unread).length ≤ 1023 := by
  unfold readProcLine
  split
  · rename_i buff found
    obtain ⟨content, _, got⟩ := Option.bind_eq_some_iff.mp found
    have cut : buff.length ≤ 1023 := by
      unfold fgets at got
      split at got
      · simp at got
      · cases Option.some.inj got
        simp only [List.length_take]
        omega
    exact ((trimTrailingWs_begins _).length_le.trans (List.takeWhile_sublist _).length_le).trans cut
  · exact short

theorem getProcessName_nulFree (os : Os tgt) : nul ∉ getProcessName os :=
  readProcLine_nulFree (by decide)

theorem getProcessName_length (os : Os tgt) : (getProcessName os).length ≤ 1023 :=
  readProcLine_length (by decide)

/-! The C library's scanners, as far as the procfs lines need them. -/

def isSpace (c : Char) : Bool :=
  c == ' ' || c == '\t' || c == '\n' || c == '\x0b' || c == '\x0c' || c == '\r'

/-- `strtol` in base 10, for a `long` of `bits` bits. -/
def strtol (bits : Nat) (t : Text) : Int :=
  let value : Int := match t.dropWhile isSpace with
    | '-' :: digits => -Nat.ofDigitChars 10 (digits.takeWhile Char.isDigit) 0
    | '+' :: digits => Nat.ofDigitChars 10 (digits.takeWhile Char.isDigit) 0
    | digits => Nat.ofDigitChars 10 (digits.takeWhile Char.isDigit) 0
  max (-2 ^ (bits - 1)) (min value (2 ^ (bits - 1) - 1))

/-- `strtoull` in base 10, which negates a signed number modulo 2^64. -/
def strtoull (t : Text) : BitVec 64 :=
  let value (digits : Text) : BitVec 64 :=
    BitVec.ofNat 64 (min (Nat.ofDigitChars 10 (digits.takeWhile Char.isDigit) 0) (2 ^ 64 - 1))
  match t.dropWhile isSpace with
  | '-' :: digits => -value digits
  | '+' :: digits => value digits
  | digits => value digits

/-- `strtok_r`: the next token and the saved position, which is null once the
text is used up. -/
def strtokR (delims : Text) (ppos : Option Text) : Option Text × Option Text :=
  match ppos with
  | none => (none, none)
  | some s =>
    let s := s.dropWhile delims.contains
    if s = [] then (none, none)
    else
      let token := s.takeWhile fun c => !delims.contains c
      match s.dropWhile fun c => !delims.contains c with
      | [] => (some token, none)
      | _ :: rest => (some token, some rest)

theorem takeWhile_decimal (n : Nat) : (decimal n).takeWhile Char.isDigit = decimal n :=
  List.takeWhile_eq_self_iff.mpr fun _ member =>
    Nat.isDigit_of_mem_toDigits (by decide) (by decide) member

theorem decimal_head_isDigit (n : Nat) : ∃ c t, decimal n = c :: t ∧ c.isDigit = true := by
  cases shape : decimal n with
  | nil => exact absurd shape Nat.toDigits_ne_nil
  | cons c t =>
    have member : c ∈ decimal n := shape ▸ List.mem_cons_self
    exact ⟨c, t, rfl, Nat.isDigit_of_mem_toDigits (by decide) (by decide) member⟩

theorem isSpace_of_isDigit {c : Char} (digit : c.isDigit = true) : isSpace c = false := by
  simp only [isSpace, Bool.or_eq_false_iff, beq_eq_false_iff_ne]
  refine ⟨⟨⟨⟨⟨?_, ?_⟩, ?_⟩, ?_⟩, ?_⟩, ?_⟩ <;> (rintro rfl; cases digit)

/-- A decimal number reads back as itself when the type has room for it. -/
theorem strtol_decimal {bits n : Nat} (room : n < 2 ^ (bits - 1)) :
    strtol bits (decimal n) = n := by
  obtain ⟨c, t, shape, digit⟩ := decimal_head_isDigit n
  have whole := takeWhile_decimal n
  have value : Nat.ofDigitChars 10 (decimal n) 0 = n := Nat.ofDigitChars_ten_toDigits
  have lead : isSpace c = false ∧ c ≠ '-' ∧ c ≠ '+' := by
    refine ⟨isSpace_of_isDigit digit, ?_, ?_⟩ <;> (rintro rfl; cases digit)
  rw [shape] at whole value
  have bound : (n : Int) < 2 ^ (bits - 1) := by exact_mod_cast room
  unfold strtol
  rw [shape, List.dropWhile_cons_of_neg (by simp [lead.1])]
  split
  · rename_i same
    cases same
    exact absurd rfl lead.2.1
  · rename_i same
    cases same
    exact absurd rfl lead.2.2
  · have lower : -(2 ^ (bits - 1) : Int) ≤ n := by
      have positive : (0 : Int) < 2 ^ (bits - 1) := by positivity
      omega
    rw [whole, value]
    dsimp only
    rw [min_eq_left (by omega), max_eq_right lower]

/-! What a getter keeps of a line. -/

/-- The line is kept up to white space and the room of the buffer; a newline
would end it. -/
theorem firstLine_append {s : Text} (free : '\n' ∉ s) (t : Text) :
    firstLine (s ++ t) = s ++ firstLine t := by
  induction s with
  | nil => rfl
  | cons c s ih =>
    rw [List.mem_cons, not_or] at free
    rw [List.cons_append, firstLine, if_neg (Ne.symm free.1), ih free.2, List.cons_append]

theorem firstLine_begins (t : Text) : firstLine t <+: t := by
  induction t with
  | nil => exact List.prefix_rfl
  | cons c t ih =>
    rw [firstLine]
    split
    · exact List.prefix_append [c] t
    · exact List.prefix_cons_inj c |>.mpr ih

theorem rdropWhile_append {p : Char → Bool} {s : Text} (kept : s.rdropWhile p = s) (t : Text) :
    ∃ u, u <+: t ∧ (s ++ t).rdropWhile p = s ++ u := by
  induction t using List.reverseRecOn with
  | nil => exact ⟨[], List.prefix_rfl, by rw [List.append_nil, kept]⟩
  | append_singleton t c ih =>
    obtain ⟨u, before, dropped⟩ := ih
    rw [← List.append_assoc, List.rdropWhile_concat]
    split
    · exact ⟨u, before.trans (List.prefix_append t [c]), dropped⟩
    · exact ⟨t ++ [c], List.prefix_rfl, List.append_assoc _ _ _⟩

/-- A text that fits into the buffer and does not end in white space is the
beginning of what is read. -/
theorem readProcLine_append {first : Char} {s : Text} (newline : '\n' ∉ first :: s)
    (free : nul ∉ first :: s) (short : (first :: s).length ≤ 1023)
    (visible : ∀ c ∈ s.getLast?, isSpace c = false) (t unread : Text) :
    ∃ u, u <+: t ∧ readProcLine (some (first :: s ++ t)) unread = first :: s ++ u := by
  have read : fgets 1024 (first :: s ++ t) =
      some (first :: s ++ (firstLine t).take (1023 - (first :: s).length)) := by
    rw [fgets, if_neg (by simp), firstLine_append newline, List.take_append, List.take_of_length_le short]
  have text (rest : Text) : cstr (first :: s ++ rest) = first :: s ++ cstr rest :=
    List.takeWhile_append_of_pos (List.takeWhile_eq_self_iff.mp (cstr_of_nulFree free))
  have kept : s.rdropWhile (fun d => d == '\n' || d == '\r' || d == '\t' || d == ' ') = s := by
    refine List.rdropWhile_eq_self_iff.mpr fun nonempty => ?_
    have last := visible _ (List.getLast?_eq_some_getLast nonempty)
    generalize s.getLast nonempty = c at last
    rw [Bool.or_eq_true, Bool.or_eq_true, Bool.or_eq_true, beq_iff_eq, beq_iff_eq, beq_iff_eq, beq_iff_eq]
    rintro (((rfl | rfl) | rfl) | rfl) <;> cases last
  obtain ⟨u, within, trimmed⟩ :=
    rdropWhile_append kept (cstr ((firstLine t).take (1023 - (first :: s).length)))
  refine ⟨u, ?_, ?_⟩
  · exact within.trans ((List.takeWhile_prefix _).trans ((List.take_prefix _ _).trans (firstLine_begins t)))
  · rw [readProcLine, Option.bind_some, read]
    dsimp only
    rw [text, List.cons_append, trimTrailingWs, trimmed, List.cons_append]

theorem readProcLine_begins {content : Text} (nonempty : content ≠ []) (unread : Text) :
    readProcLine (some content) unread <+: content := by
  rw [readProcLine, Option.bind_some, fgets, if_neg nonempty]
  exact (trimTrailingWs_begins _).trans
    ((List.takeWhile_prefix _).trans ((List.take_prefix _ _).trans (firstLine_begins content)))

/-- A getter's result begins with such a text in the case that the file does. -/
theorem begins_readProcLine_iff {first : Char} {s : Text} (newline : '\n' ∉ first :: s)
    (free : nul ∉ first :: s) (short : (first :: s).length ≤ 1023)
    (visible : ∀ c ∈ s.getLast?, isSpace c = false) {unread : Text} (other : ¬ first :: s <+: unread)
    (file : Option Text) : first :: s <+: readProcLine file unread ↔
      ∃ content, file = some content ∧ first :: s <+: content := by
  constructor
  · intro read
    cases file with
    | none => exact absurd read other
    | some content =>
      by_cases nonempty : content = []
      · subst nonempty
        exact absurd read other
      · exact ⟨content, rfl, read.trans (readProcLine_begins nonempty unread)⟩
  · rintro ⟨_, rfl, t, rfl⟩
    obtain ⟨u, _, read⟩ := readProcLine_append newline free short visible t unread
    rw [read]
    exact List.prefix_append _ u

end AgentNDK
