import AgentNDK.ThreadState

namespace AgentNDK
open CText JsonText
variable {tgt : Target}

/-! Tokens cut off the front of a text. -/

section Tokens
variable {delims token : Text} {d : Char}

/-- The token a text begins with, and what follows its delimiter. -/
theorem strtokR_append (inside : ∀ c ∈ token, delims.contains c = false) (nonempty : token ≠ [])
    (rest : Text) : strtokR delims (some (token ++ rest)) =
      (some (token ++ rest.takeWhile fun c => !delims.contains c),
        (rest.dropWhile fun c => !delims.contains c).tail?) := by
  have free : ∀ c ∈ token, (!delims.contains c) = true := by
    intro c member
    rw [inside c member, Bool.not_false]
  obtain ⟨first, later, rfl⟩ := List.exists_cons_of_ne_nil nonempty
  have outside := inside first List.mem_cons_self
  unfold strtokR
  dsimp only
  rw [List.cons_append, List.dropWhile_cons_of_neg (by rw [outside]; exact Bool.false_ne_true),
    if_neg (List.cons_ne_nil _ _), ← List.cons_append, List.takeWhile_append_of_pos free,
    List.dropWhile_append_of_pos free]
  cases rest.dropWhile fun c => !delims.contains c <;> rfl

theorem strtokR_token (inside : ∀ c ∈ token, delims.contains c = false) (nonempty : token ≠ [])
    (ends : delims.contains d = true) (rest : Text) :
    strtokR delims (some (token ++ d :: rest)) = (some token, some rest) := by
  rw [strtokR_append inside nonempty]
  simp only [List.takeWhile_cons, List.dropWhile_cons, ends, Bool.not_true, Bool.false_eq_true, if_false,
    List.append_nil, List.tail?_cons]

theorem strtokR_lead (ends : delims.contains d = true) (rest : Text) :
    strtokR delims (some (d :: rest)) = strtokR delims (some rest) := by
  unfold strtokR
  dsimp only
  rw [List.dropWhile_cons_of_pos ends]

/-- A token begins with the first character that is no delimiter. -/
theorem strtokR_head (s : Text) :
    (strtokR delims (some s)).1.bind List.head? = (s.dropWhile delims.contains).head? := by
  unfold strtokR
  dsimp only
  cases shape : s.dropWhile delims.contains with
  | nil => rfl
  | cons c t =>
    have outside : delims.contains c = false := by
      have head := List.head?_dropWhile_not delims.contains s
      rw [shape] at head
      exact head
    rw [if_neg (List.cons_ne_nil _ _), List.takeWhile_cons_of_pos (by rw [outside]; rfl)]
    split <;> rfl

end Tokens

/-! Numbers as the scanners read them. -/

theorem strtol_signedDecimal {bits : Nat} {i : Int} (lower : -2 ^ (bits - 1) ≤ i)
    (upper : i < 2 ^ (bits - 1)) : strtol bits (signedDecimal i) = i := by
  cases i with
  | ofNat n =>
    have room : (n : Int) < 2 ^ (bits - 1) := upper
    exact strtol_decimal (by exact_mod_cast room)
  | negSucc n =>
    have value : Nat.ofDigitChars 10 (decimal (n + 1)) 0 = n + 1 := Nat.ofDigitChars_ten_toDigits
    have denotes : Int.negSucc n = -((n + 1 : Nat) : Int) := rfl
    unfold strtol
    rw [signedDecimal, List.dropWhile_cons_of_neg (by decide)]
    split
    · rename_i digits same
      cases same
      dsimp only
      rw [takeWhile_decimal, value, ← denotes, min_eq_left (by omega), max_eq_right lower]
    · rename_i same
      cases same
    · rename_i unsigned _
      exact absurd rfl (unsigned _)

theorem strtoull_decimal {n : Nat} (small : n < 2 ^ 64) {rest : Text}
    (ends : ∀ c ∈ rest.head?, c.isDigit = false) :
    strtoull (decimal n ++ rest) = BitVec.ofNat 64 n := by
  obtain ⟨c, t, shape, digit⟩ := decimal_head_isDigit n
  have value : Nat.ofDigitChars 10 (decimal n) 0 = n := Nat.ofDigitChars_ten_toDigits
  have stops : rest.takeWhile Char.isDigit = [] := by
    cases rest with
    | nil => rfl
    | cons c rest => exact List.takeWhile_cons_of_neg (by rw [ends c rfl]; exact Bool.false_ne_true)
  have whole : (decimal n ++ rest).takeWhile Char.isDigit = decimal n := by
    rw [List.takeWhile_append_of_pos (digits_decimal n), stops, List.append_nil]
  rw [shape, List.cons_append] at whole
  rw [shape] at value
  unfold strtoull
  rw [shape, List.cons_append,
    List.dropWhile_cons_of_neg (by rw [isSpace_of_isDigit digit]; exact Bool.false_ne_true)]
  split
  · rename_i same
    cases same
    cases digit
  · rename_i same
    cases same
    cases digit
  · dsimp only
    rw [whole, value, Nat.min_eq_left (by omega)]

/-! The line of the kernel. -/

/-- Fields, a space before each. -/
def spaced (fields : List Int) : Text :=
  fields.flatMap fun field => ' ' :: signedDecimal field

/-- The numeric fields of a stat line. -/
structure StatFields (tgt : Target) where
  /-- 4 to 17, from the parent's id to the times -/
  leading : List Int
  /-- 18 -/
  priority : Int32
  /-- 19 to 27, from the nice value to the end of the code -/
  middle : List Int
  /-- 28 -/
  startStack : tgt.Word
  later : List Int
  leading_length : leading.length = 14
  middle_length : middle.length = 9
  numeric : ∀ field ∈ leading ++ middle, field.natAbs < 10 ^ 20

namespace StatFields

/-- The fields up to the one that is read last. -/
def upToStack (fields : StatFields tgt) : List Int :=
  fields.leading ++ fields.priority.toInt :: (fields.middle ++ [(fields.startStack.toNat : Int)])

end StatFields

/-- `tid (comm) letter f4 ... f28 ...` -/
def statLine (tid : Int32) (comm : Text) (letter : Char) (fields : StatFields tgt) : Text :=
  signedDecimal tid.toInt ++ ' ' :: '(' :: (comm ++ ')' :: ' ' :: letter ::
    (spaced fields.upToStack ++ (spaced fields.later ++ ['\n'])))

/-- The system with this line in the stat file of every thread. -/
def Os.withStat (os : Os tgt) (line : Text) : Os tgt :=
  { os with threadStat := fun _ => some line }

/-- Every stat line of the thread name is read as it was written. -/
def ReadsName (os : Os tgt) (tid : Int32) (comm : Text) : Prop :=
  ∀ (letter : Char) (fields : StatFields tgt), letter.isAlpha = true →
    let info := collectThreadInfo (os.withStat (statLine tid comm letter fields)) tid
    info.threadState.text = stateWord letter ∧ info.priority = fields.priority ∧
      info.stack = fields.startStack ∧ info.threadName.text = comm.takeWhile isNameChar

theorem firstLine_ended {s : Text} (ended : '\n' ∈ s) (t : Text) :
    firstLine (s ++ t) = firstLine s := by
  induction s with
  | nil => exact absurd ended List.not_mem_nil
  | cons c s ih =>
    rw [List.cons_append, firstLine, firstLine]
    by_cases newline : c = '\n'
    · rw [if_pos newline, if_pos newline]
    · rw [if_neg newline, if_neg newline, ih ((List.mem_cons.mp ended).resolve_left (Ne.symm newline))]

/-! What a line is made of. -/

theorem spaced_append (left right : List Int) : spaced (left ++ right) = spaced left ++ spaced right :=
  List.flatMap_append

theorem signedDecimal_ne_nil (i : Int) : signedDecimal i ≠ [] := by
  cases i with
  | ofNat n => exact Nat.toDigits_ne_nil
  | negSucc n => exact List.cons_ne_nil _ _

theorem delimiter_notMem {c : Char} (delimiter : isNumeral c = false) (i : Int) : c ∉ signedDecimal i := by
  intro member
  have numeral := signedDecimal_numeral i c member
  rw [delimiter] at numeral
  cases numeral

theorem spaced_notMem {c : Char} (delimiter : isNumeral c = false) (visible : c ≠ ' ') (fields : List Int) :
    c ∉ spaced fields := by
  intro member
  obtain ⟨field, _, at_field⟩ := List.mem_flatMap.mp member
  exact delimiter_notMem delimiter field ((List.mem_cons.mp at_field).resolve_left visible)

theorem spaced_length_le {fields : List Int} (numeric : ∀ field ∈ fields, field.natAbs < 10 ^ 20) :
    (spaced fields).length ≤ 22 * fields.length := by
  induction fields with
  | nil => exact Nat.le_refl 0
  | cons field fields ih =>
    have first := signedDecimal_length_le (by decide) (numeric field List.mem_cons_self)
    have later := ih fun field member => numeric field (List.mem_cons_of_mem _ member)
    have split : spaced (field :: fields) = ' ' :: signedDecimal field ++ spaced fields := rfl
    rw [split, List.length_append, List.length_cons, List.length_cons]
    omega

namespace StatFields

theorem upToStack_length (fields : StatFields tgt) : fields.upToStack.length = 25 := by
  rw [upToStack, List.length_append, List.length_cons, List.length_append, fields.leading_length,
    fields.middle_length]
  rfl

theorem upToStack_numeric (fields : StatFields tgt) :
    ∀ field ∈ fields.upToStack, field.natAbs < 10 ^ 20 := by
  intro field member
  have lower := fields.priority.le_toInt
  have upper := fields.priority.toInt_lt
  have small : fields.startStack.toNat < 2 ^ 64 :=
    Nat.lt_of_lt_of_le fields.startStack.isLt (Nat.pow_le_pow_right (by decide) tgt.abi.wordBits_le)
  simp only [upToStack, List.mem_append, List.mem_cons, List.not_mem_nil, or_false] at member
  rcases member with leading | rfl | middle | rfl
  · exact fields.numeric field (List.mem_append_left _ leading)
  · omega
  · exact fields.numeric field (List.mem_append_right _ middle)
  · omega

end StatFields

/-- The line up to the start of the stack. -/
def statStart (tid : Int32) (comm : Text) (letter : Char) (fields : StatFields tgt) : Text :=
  signedDecimal tid.toInt ++ ' ' :: '(' :: (comm ++ ')' :: ' ' :: letter :: spaced fields.upToStack)

section Start
variable (tid : Int32) (comm : Text) (letter : Char) (fields : StatFields tgt)

theorem statLine_start : statLine tid comm letter fields =
    statStart tid comm letter fields ++ (spaced fields.later ++ ['\n']) := by
  simp [statLine, statStart]

theorem statStart_notMem {c : Char} (delimiter : isNumeral c = false) (visible : c ≠ ' ')
    (noParenthesis : c ≠ '(' ∧ c ≠ ')') (alpha : letter.isAlpha = true) (free : c ∉ comm) :
    c ∉ statStart tid comm letter fields := by
  have notLetter : c ≠ letter := by
    rintro rfl
    rw [isNumeral, Char.isAlphanum, alpha] at delimiter
    cases delimiter
  simp only [statStart, List.mem_append, List.mem_cons, not_or]
  exact ⟨delimiter_notMem delimiter _, visible, noParenthesis.1, free, noParenthesis.2, visible, notLetter,
    spaced_notMem delimiter visible _⟩

theorem statStart_length (short : comm.length ≤ 15) :
    (statStart tid comm letter fields).length ≤ 1023 := by
  have lower := tid.le_toInt
  have upper := tid.toInt_lt
  have id := signedDecimal_length_le (i := tid.toInt) (k := 10) (by decide) (by omega)
  have numbers := spaced_length_le fields.upToStack_numeric
  rw [fields.upToStack_length] at numbers
  simp only [statStart, List.length_append, List.length_cons]
  omega

/-- The line begins with the thread id and ends in a digit of the stack. -/
theorem statStart_ends : ∃ first s, statStart tid comm letter fields = first :: s ∧
    ∀ c ∈ s.getLast?, c.isDigit = true := by
  obtain ⟨first, t, shape⟩ := List.exists_cons_of_ne_nil (signedDecimal_ne_nil tid.toInt)
  have stack : spaced fields.upToStack = spaced (fields.leading ++ fields.priority.toInt :: fields.middle) ++
      ' ' :: decimal fields.startStack.toNat := by
    rw [StatFields.upToStack, ← List.cons_append, ← List.append_assoc, spaced_append]
    exact congrArg _ (List.append_nil _)
  obtain ⟨before, whole⟩ : ∃ before, statStart tid comm letter fields =
      first :: (before ++ decimal fields.startStack.toNat) := by
    refine ⟨t ++ ' ' :: '(' :: (comm ++ ')' :: ' ' :: letter ::
      (spaced (fields.leading ++ fields.priority.toInt :: fields.middle) ++ [' '])), ?_⟩
    rw [statStart, stack, shape]
    simp
  refine ⟨first, _, whole, fun c last => ?_⟩
  have nonempty : decimal fields.startStack.toNat ≠ [] := Nat.toDigits_ne_nil
  rw [List.getLast?_append_of_ne_nil _ nonempty] at last
  exact digits_decimal _ c (List.mem_of_getLast? last)

end Start

/-- What is read of the line: all up to the start of the stack, and what the
buffer has room for of the rest. -/
theorem getThreadStat_line (os : Os tgt) (tid : Int32) {comm : Text} (short : comm.length ≤ 15)
    (free : nul ∉ comm) (newline : '\n' ∉ comm) {letter : Char} (alpha : letter.isAlpha = true)
    (fields : StatFields tgt) : ∃ rest, rest <+: spaced fields.later ++ ['\n'] ∧
      getThreadStat (os.withStat (statLine tid comm letter fields)) tid =
        statStart tid comm letter fields ++ rest := by
  obtain ⟨first, s, shape, digit⟩ := statStart_ends tid comm letter fields
  have noNewline : '\n' ∉ statStart tid comm letter fields :=
    statStart_notMem tid comm letter fields (by decide) (by decide) (by decide) alpha newline
  have noNul : nul ∉ statStart tid comm letter fields :=
    statStart_notMem tid comm letter fields (by decide) (by decide) (by decide) alpha free
  have fits := statStart_length tid comm letter fields short
  rw [shape] at noNewline noNul fits
  unfold getThreadStat
  rw [Os.withStat, statLine_start, shape]
  exact readProcLine_append noNewline noNul fits (fun c last => isSpace_of_isDigit (digit c last)) _ _

/-! The tokens of the line. -/

/-- The text behind the space of the first field. -/
def fieldsFrom (fields : List Int) (rest : Text) : Text :=
  (spaced fields ++ rest).drop 1

theorem spaced_eq {fields : List Int} (nonempty : fields ≠ []) (rest : Text) :
    spaced fields ++ rest = ' ' :: fieldsFrom fields rest := by
  obtain ⟨field, later, rfl⟩ := List.exists_cons_of_ne_nil nonempty
  rfl

theorem field_inside (field : Int) : ∀ c ∈ signedDecimal field, List.contains " ".toList c = false := by
  intro c member
  refine Bool.eq_false_iff.mpr fun contained => ?_
  obtain rfl : c = ' ' := List.mem_singleton.mp (List.contains_iff_mem.mp contained)
  exact delimiter_notMem (by decide) field member

theorem strtokR_field (field : Int) {fields : List Int} (more : fields ≠ []) (rest : Text) :
    strtokR " " (some (fieldsFrom (field :: fields) rest)) =
      (some (signedDecimal field), some (fieldsFrom fields rest)) := by
  have split : fieldsFrom (field :: fields) rest = signedDecimal field ++ ' ' :: fieldsFrom fields rest := by
    rw [← spaced_eq more, ← List.append_assoc]
    rfl
  rw [split]
  exact strtokR_token (field_inside field) (signedDecimal_ne_nil field) rfl _

theorem skipTokens_fields (skipped : List Int) {fields : List Int} (more : fields ≠ []) (rest : Text) :
    skipTokens (some (fieldsFrom (skipped ++ fields) rest)) skipped.length =
      some (fieldsFrom fields rest) := by
  induction skipped with
  | nil => rfl
  | cons field skipped ih =>
    rw [List.cons_append, List.length_cons, skipTokens,
      strtokR_field field (List.append_ne_nil_of_right_ne_nil skipped more), ih]

theorem collectThreadInfo_line {os : Os tgt} {tid : Int32} {rest : Text}
    (line : getThreadStat os tid = signedDecimal tid.toInt ++ ' ' :: rest) :
    collectThreadInfo os tid =
      { parseStat (some rest) { ThreadInfo.zeroed tgt with tid } with crashed := tid == os.gettid } := by
  have token : strtokR " " (some (getThreadStat os tid)) = (some (signedDecimal tid.toInt), some rest) := by
    rw [line]
    exact strtokR_token (field_inside _) (signedDecimal_ne_nil _) rfl rest
  unfold collectThreadInfo
  dsimp only
  rw [token]
  split
  · rename_i empty
    rw [line] at empty
    exact absurd empty (by simp)
  · rfl

theorem strtokR_name {comm : Text} (free : ')' ∉ comm) (rest : Text) :
    strtokR ")" (some ('(' :: (comm ++ ')' :: rest))) = (some ('(' :: comm), some rest) := by
  have inside : ∀ c ∈ '(' :: comm, List.contains ")".toList c = false := by
    intro c member
    refine Bool.eq_false_iff.mpr fun contained => ?_
    obtain rfl : c = ')' := List.mem_singleton.mp (List.contains_iff_mem.mp contained)
    exact free ((List.mem_cons.mp member).resolve_left (by decide))
  exact strtokR_token inside (List.cons_ne_nil _ _) rfl rest

theorem strtokR_state {letter : Char} (visible : letter ≠ ' ') {fields : List Int} (more : fields ≠ [])
    (rest : Text) : strtokR " " (some (' ' :: letter :: (spaced fields ++ rest))) =
      (some [letter], some (fieldsFrom fields rest)) := by
  have inside : ∀ c ∈ [letter], List.contains " ".toList c = false := by
    intro c member
    refine Bool.eq_false_iff.mpr fun contained => visible ?_
    rw [← List.mem_singleton.mp member]
    exact List.mem_singleton.mp (List.contains_iff_mem.mp contained)
  rw [strtokR_lead rfl, spaced_eq more]
  exact strtokR_token inside (List.cons_ne_nil _ _) rfl _

/-- Without a closing parenthesis in the name every token stands in its place. -/
theorem parseStat_line {comm : Text} (free : ')' ∉ comm) {letter : Char} (visible : letter ≠ ' ')
    (fields : StatFields tgt) (rest : Text) (info : ThreadInfo tgt) :
    parseStat (some ('(' :: (comm ++ ')' :: ' ' :: letter :: (spaced fields.upToStack ++ rest)))) info =
      readStack (some (decimal fields.startStack.toNat ++ rest.takeWhile fun c => !List.contains " ".toList c))
        (readPriority (some (signedDecimal fields.priority.toInt))
          (readState (some [letter]) (readName (some ('(' :: comm)) info))) := by
  obtain ⟨leading, priority, middle, startStack, later, fourteen, nine, numeric⟩ := fields
  dsimp only [StatFields.upToStack]
  have toPriority := skipTokens_fields leading
    (List.cons_ne_nil priority.toInt (middle ++ [(startStack.toNat : Int)])) rest
  have toStack := skipTokens_fields middle (List.cons_ne_nil (startStack.toNat : Int) []) rest
  have last : (strtokR " " (some (fieldsFrom [(startStack.toNat : Int)] rest))).1 =
      some (decimal startStack.toNat ++ rest.takeWhile fun c => !List.contains " ".toList c) := by
    have whole : fieldsFrom [(startStack.toNat : Int)] rest = signedDecimal startStack.toNat ++ rest := by
      simp [fieldsFrom, spaced]
    rw [whole]
    exact congrArg Prod.fst (strtokR_append (field_inside _) (signedDecimal_ne_nil _) rest)
  rw [fourteen] at toPriority
  rw [nine] at toStack
  unfold parseStat
  dsimp only
  rw [strtokR_name free]
  dsimp only
  rw [strtokR_state visible (List.append_ne_nil_of_right_ne_nil _ (List.cons_ne_nil _ _))]
  dsimp only
  rw [toPriority, strtokR_field _ (List.append_ne_nil_of_right_ne_nil _ (List.cons_ne_nil _ _))]
  dsimp only
  rw [toStack, last]

/-! What each token is read as. -/

theorem readName_text {comm : Text} (free : nul ∉ comm) (short : comm.length ≤ 15)
    (info : ThreadInfo tgt) (unnamed : info.threadName.text = []) :
    (readName (some ('(' :: comm)) info).threadName.text = comm.takeWhile isNameChar := by
  have sub := List.takeWhile_sublist (l := comm) isNameChar
  unfold readName
  rw [Option.bind_some, scanName]
  by_cases empty : comm.takeWhile isNameChar = []
  · rw [if_pos empty, empty]
    exact unnamed
  · have fits : (comm.takeWhile isNameChar).length ≤ 31 := sub.length_le.trans (short.trans (by decide))
    rw [if_neg empty]
    dsimp only [CharArray.ofText]
    rw [cstr_of_nulFree fun member => free (sub.subset member), List.take_of_length_le fits]

theorem stateWord_whole (letter : Char) : (cstr (stateWord letter)).take 15 = stateWord letter := by
  unfold stateWord
  split <;> decide

theorem priority_value (priority : Int32) :
    Int32.ofInt (strtol tgt.abi.wordBits (signedDecimal priority.toInt)) = priority := by
  have lower := priority.le_toInt
  have upper := priority.toInt_lt
  have room : (2 : Int) ^ 31 ≤ 2 ^ (tgt.abi.wordBits - 1) := by
    have wide : 32 ≤ tgt.abi.wordBits := by
      cases tgt.abi <;> simp [Abi.wordBits]
    exact_mod_cast Nat.pow_le_pow_right (by decide) (by omega)
  rw [strtol_signedDecimal (by omega) (by omega), Int32.ofInt_toInt]

theorem stack_value (startStack : tgt.Word) {rest : Text} (ends : ∀ c ∈ rest.head?, c.isDigit = false) :
    (strtoull (decimal startStack.toNat ++ rest)).setWidth tgt.abi.wordBits = startStack := by
  have small : startStack.toNat < 2 ^ 64 :=
    Nat.lt_of_lt_of_le startStack.isLt (Nat.pow_le_pow_right (by decide) tgt.abi.wordBits_le)
  rw [strtoull_decimal small ends]
  refine BitVec.eq_of_toNat_eq ?_
  rw [BitVec.toNat_setWidth, BitVec.toNat_ofNat, Nat.mod_eq_of_lt small, Nat.mod_eq_of_lt startStack.isLt]

theorem later_head {later : List Int} {rest : Text} (within : rest <+: spaced later ++ ['\n']) :
    ∀ c ∈ rest.head?, c.isDigit = false := by
  intro c head
  obtain ⟨more, rfl⟩ := List.head?_eq_some_iff.mp head
  obtain ⟨after, whole⟩ := within
  cases later with
  | nil =>
    obtain rfl : c = '\n' := (List.cons.inj whole).1
    rfl
  | cons field later =>
    obtain rfl : c = ' ' := (List.cons.inj whole).1
    rfl

theorem reads_of_free {os : Os tgt} {tid : Int32} {comm : Text} (short : comm.length ≤ 15)
    (free : nul ∉ comm) (parenthesis : ')' ∉ comm) (newline : '\n' ∉ comm) : ReadsName os tid comm := by
  intro letter fields alpha
  obtain ⟨rest, within, line⟩ := getThreadStat_line os tid short free newline alpha fields
  have visible : letter ≠ ' ' := by
    rintro rfl
    cases alpha
  have ends := later_head ((List.takeWhile_prefix fun c => !List.contains " ".toList c).trans within)
  rw [statStart, List.append_assoc, List.cons_append, List.cons_append, List.append_assoc,
    List.cons_append, List.cons_append, List.cons_append] at line
  dsimp only
  rw [collectThreadInfo_line line, parseStat_line parenthesis visible]
  refine ⟨stateWord_whole letter, priority_value _, stack_value _ ends, ?_⟩
  show (readName (some ('(' :: comm)) { ThreadInfo.zeroed tgt with tid }).threadName.text = _
  exact readName_text free short _ rfl

/-! With a closing parenthesis or a newline in the name, the state letter is not read. -/

theorem parseStat_threadState (ppos : Option Text) (info : ThreadInfo tgt) :
    (parseStat ppos info).threadState =
      (readState (strtokR " " (strtokR ")" ppos).2).1 (readName (strtokR ")" ppos).1 info)).threadState := by
  have stack (token : Option Text) (info : ThreadInfo tgt) :
      (readStack token info).threadState = info.threadState := by
    cases token <;> rfl
  have priority (token : Option Text) (info : ThreadInfo tgt) :
      (readPriority token info).threadState = info.threadState := by
    cases token <;> rfl
  unfold parseStat
  exact (stack _ _).trans (priority _ _)

/-- Only the first character of the token counts. -/
theorem readState_congr {s t : Option Text} (same : s.bind List.head? = t.bind List.head?)
    (info : ThreadInfo tgt) : readState s info = readState t info := by
  have byHead (token : Option Text) : readState token info =
      readState ((token.bind List.head?).map fun letter => [letter]) info := by
    rcases token with _ | (_ | ⟨letter, later⟩) <;> rfl
  rw [byHead s, byHead t, same]

theorem head_dropWhile_append {p : Char → Bool} {c : Char} (kept : p c = false) (before s t : Text) :
    ((before ++ c :: s).dropWhile p).head? = ((before ++ c :: t).dropWhile p).head? := by
  have visible : ¬ p c = true := by
    rw [kept]
    exact Bool.false_ne_true
  induction before with
  | nil =>
    rw [List.nil_append, List.nil_append, List.dropWhile_cons_of_neg visible,
      List.dropWhile_cons_of_neg visible]
    rfl
  | cons d before ih =>
    rw [List.cons_append, List.cons_append]
    by_cases dropped : p d = true
    · rw [List.dropWhile_cons_of_pos dropped, List.dropWhile_cons_of_pos dropped, ih]
    · rw [List.dropWhile_cons_of_neg dropped, List.dropWhile_cons_of_neg dropped]
      rfl

/-- Behind a parenthesis in the name, the state comes from the name. -/
theorem collectThreadInfo_parenthesis {os os' : Os tgt} {tid : Int32} {before behind : Text}
    (free : ')' ∉ before) {rest rest' : Text}
    (line : getThreadStat os tid = signedDecimal tid.toInt ++ ' ' :: '(' :: (before ++ ')' ::
      (behind ++ ')' :: rest)))
    (line' : getThreadStat os' tid = signedDecimal tid.toInt ++ ' ' :: '(' :: (before ++ ')' ::
      (behind ++ ')' :: rest'))) :
    (collectThreadInfo os tid).threadState = (collectThreadInfo os' tid).threadState := by
  rw [collectThreadInfo_line line, collectThreadInfo_line line']
  dsimp only
  rw [parseStat_threadState, parseStat_threadState, strtokR_name free, strtokR_name free]
  dsimp only
  refine congrArg _ (readState_congr ?_ _)
  rw [strtokR_head, strtokR_head]
  exact head_dropWhile_append rfl behind rest rest'

theorem fgets_ended {s : Text} (ended : '\n' ∈ s) (size : Nat) (t : Text) :
    fgets size (s ++ t) = fgets size s := by
  have nonempty := List.ne_nil_of_mem ended
  rw [fgets, fgets, if_neg nonempty, if_neg (List.append_ne_nil_of_left_ne_nil nonempty t), firstLine_ended ended]

theorem collectThreadInfo_newline (os : Os tgt) (tid : Int32) {comm : Text} (ended : '\n' ∈ comm)
    (letter letter' : Char) (fields : StatFields tgt) :
    (collectThreadInfo (os.withStat (statLine tid comm letter fields)) tid).threadState =
      (collectThreadInfo (os.withStat (statLine tid comm letter' fields)) tid).threadState := by
  have cut (letter : Char) : getThreadStat (os.withStat (statLine tid comm letter fields)) tid =
      readProcLine (some (signedDecimal tid.toInt ++ ' ' :: '(' :: comm)) "" := by
    have inside : '\n' ∈ signedDecimal tid.toInt ++ ' ' :: '(' :: comm :=
      List.mem_append_right _ (List.mem_cons_of_mem _ (List.mem_cons_of_mem _ ended))
    have split : statLine tid comm letter fields = (signedDecimal tid.toInt ++ ' ' :: '(' :: comm) ++
        (')' :: ' ' :: letter :: (spaced fields.upToStack ++ (spaced fields.later ++ ['\n']))) := by
      simp [statLine]
    unfold getThreadStat readProcLine
    rw [Os.withStat, Option.bind_some, Option.bind_some, split, fgets_ended inside]
  unfold collectThreadInfo
  rw [cut letter, cut letter']

def StatFields.zeroed (tgt : Target) : StatFields tgt where
  leading := List.replicate 14 0
  priority := 0
  middle := List.replicate 9 0
  startStack := 0
  later := []
  leading_length := List.length_replicate
  middle_length := List.length_replicate
  numeric := by
    intro field member
    rw [List.replicate_append_replicate] at member
    rw [(List.mem_replicate.mp member).2]
    exact Nat.pow_pos (by decide)

/-- Every stat line of a name is read as it was written exactly when the name
has no closing parenthesis and no newline. -/
theorem readsName_iff (os : Os tgt) (tid : Int32) {comm : Text} (short : comm.length ≤ 15)
    (free : nul ∉ comm) : ReadsName os tid comm ↔ ')' ∉ comm ∧ '\n' ∉ comm := by
  constructor
  · intro reads
    have alphaR : Char.isAlpha 'R' = true := rfl
    have alphaS : Char.isAlpha 'S' = true := rfl
    have running := (reads 'R' (StatFields.zeroed tgt) alphaR).1
    have sleeping := (reads 'S' (StatFields.zeroed tgt) alphaS).1
    have differ : stateWord 'R' ≠ stateWord 'S' := by decide
    rw [← running, ← sleeping] at differ
    have newline : '\n' ∉ comm := fun ended =>
      differ (congrArg CharArray.text (collectThreadInfo_newline os tid ended 'R' 'S' _))
    refine ⟨fun member => differ (congrArg CharArray.text ?_), newline⟩
    obtain ⟨before, behind, rfl, first⟩ := List.eq_append_cons_of_mem member
    obtain ⟨rest, _, line⟩ := getThreadStat_line os tid short free newline alphaR (StatFields.zeroed tgt)
    obtain ⟨rest', _, line'⟩ := getThreadStat_line os tid short free newline alphaS (StatFields.zeroed tgt)
    simp only [statStart, List.append_assoc, List.cons_append] at line line'
    exact collectThreadInfo_parenthesis first line line'
  · rintro ⟨parenthesis, newline⟩
    exact reads_of_free short free parenthesis newline

/-- Spaces and an opening parenthesis do no harm. -/
theorem readsName_spaces : ReadsName (Os.running [1] 1) 1 "Binder (pool" :=
  (readsName_iff (Os.running [1] 1) 1 (by decide) (by decide)).mpr (by decide)

/-- The state of a thread named `a)b` is taken from the `b`. -/
theorem parenthesis_not_readsName : ¬ ReadsName (Os.running [1] 1) 1 "a)b" := by
  intro reads
  have state := (reads 'S' (StatFields.zeroed .x86Build) rfl).1
  revert state
  decide +kernel

end AgentNDK
