import AgentNDK.Library.JsonReader

namespace JsonText
open CText Runs

/-- Reading `t` where a value is expected ends with the value `o`, or gets
stuck when `o` is `none`, whatever containers are open around it. -/
def ReadsAs (t : Text) (o : Option Json) : Prop :=
  ∀ fresh stack, (run step ⟨.value fresh, stack⟩ t).map settle = o.map fun v => ⟨.done v, stack⟩

/-- The characters that end a number literal. -/
def isDelimiter (c : Char) : Bool :=
  isWs c || c == ',' || c == ']' || c == '}'

theorem isDelimiter_of_isWs {c : Char} (ws : isWs c = true) : isDelimiter c = true := by
  simp [isDelimiter, ws]

theorem next_delimiter {c : Char} (delim : isDelimiter c = true) (st : NumState) : st.next c = none := by
  simp only [isDelimiter, isWs, Bool.or_eq_true, beq_iff_eq] at delim
  rcases delim with (((((rfl | rfl) | rfl) | rfl) | rfl) | rfl) | rfl <;> cases st <;> rfl

/-- Before a delimiter a complete number may as well be a finished value. -/
theorem step_settle {c : Char} (delim : isDelimiter c = true) (cfg : Config) :
    step (settle cfg) c = step cfg c := by
  obtain ⟨mode, stack⟩ := cfg
  cases mode with
  | num st literal =>
    cases complete : st.complete <;> simp [settle, step, numStep, next_delimiter delim, complete]
  | _ => rfl

theorem run_settle {c : Char} (delim : isDelimiter c = true) (cfg : Config) (rest : Text) :
    run step (settle cfg) (c :: rest) = run step cfg (c :: rest) := by
  rw [run_cons, run_cons, step_settle delim]

namespace ReadsAs
variable {t : Text} {v : Json}

theorem before_delimiter (reads : ReadsAs t (some v)) {c : Char} (delim : isDelimiter c = true)
    (fresh : Bool) (stack : List Frame) (rest : Text) :
    run step ⟨.value fresh, stack⟩ (t ++ c :: rest) = run step ⟨.done v, stack⟩ (c :: rest) := by
  obtain ⟨cfg, reach, settled⟩ := Option.map_eq_some_iff.mp (reads fresh stack)
  rw [run_append_of reach, ← run_settle delim, settled]

theorem stuck (reads : ReadsAs t none) (fresh : Bool) (stack : List Frame) (rest : Text) :
    run step ⟨.value fresh, stack⟩ (t ++ rest) = none := by
  rw [run_append, Option.map_eq_none_iff.mp (reads fresh stack), Option.bind_none]

end ReadsAs

theorem run_ws {cfg : Config} (stay : ∀ c, isWs c = true → step cfg c = some cfg) {w : Text}
    (ws : Ws w) : run step cfg w = some cfg := by
  induction w with
  | nil => rfl
  | cons c w ih =>
    rw [run_cons, stay c (ws c List.mem_cons_self), Option.bind_some]
    exact ih fun d member => ws d (List.mem_cons_of_mem c member)

theorem run_ws_value {w : Text} (ws : Ws w) (fresh : Bool) (stack : List Frame) :
    run step ⟨.value fresh, stack⟩ w = some ⟨.value fresh, stack⟩ :=
  run_ws (fun c h => by simp [step, valueStep, h]) ws

theorem run_ws_key {w : Text} (ws : Ws w) (fresh : Bool) (stack : List Frame) :
    run step ⟨.key fresh, stack⟩ w = some ⟨.key fresh, stack⟩ :=
  run_ws (fun c h => by simp [step, keyStep, h]) ws

theorem run_ws_colon {w : Text} (ws : Ws w) (key : Text) (stack : List Frame) :
    run step ⟨.colon key, stack⟩ w = some ⟨.colon key, stack⟩ :=
  run_ws (fun c h => by simp [step, colonStep, h]) ws

theorem run_ws_done {w : Text} (ws : Ws w) (v : Json) (stack : List Frame) :
    run step ⟨.done v, stack⟩ w = some ⟨.done v, stack⟩ :=
  run_ws (fun c h => by simp [step, doneStep, h]) ws

theorem run_hex {h : Text} {ds : List Nat} (digits : HexDigits h ds) (short : ds.length < 4)
    (role : Role) (acc : Text) (stack : List Frame) :
    run step ⟨.hex role acc [], stack⟩ h = some ⟨.hex role acc ds, stack⟩ := by
  induction digits with
  | nil => rfl
  | @snoc t ds c d _ value ih =>
    simp only [List.length_append, List.length_singleton] at short
    rw [run_append_of (ih (by omega))]
    simp [step, hexStep, value, show ds.length ≠ 3 by omega]

theorem run_hex_four {h : Text} {ds : List Nat} (digits : HexDigits h ds) (four : ds.length = 4)
    (role : Role) (acc : Text) (stack : List Frame) :
    run step ⟨.hex role acc [], stack⟩ h = some ⟨.str role (acc ++ [hexChar ds]), stack⟩ := by
  cases digits with
  | nil => simp at four
  | @snoc t ds c d prior value =>
    simp only [List.length_append, List.length_singleton, Nat.reduceEqDiff] at four
    rw [run_append_of (run_hex prior (by omega) role acc stack)]
    simp [step, hexStep, value, four]

theorem isUnescaped_ne {c : Char} (plain : isUnescaped c = true) : c ≠ '"' ∧ c ≠ '\\' := by
  simp only [isUnescaped, Bool.and_eq_true, bne_iff_ne] at plain
  exact ⟨plain.1.2, plain.2⟩

theorem run_chars {t s : Text} (chars : Chars t s) (role : Role) (acc : Text) (stack : List Frame) :
    run step ⟨.str role acc, stack⟩ t = some ⟨.str role (acc ++ s), stack⟩ := by
  induction chars with
  | nil => simp
  | plain _ plain ih =>
    rw [run_append_of ih]
    simp [step, strStep, plain, isUnescaped_ne plain]
  | @escape t s e c _ known ih =>
    have notUnicode : e ≠ 'u' := by
      rintro rfl
      simp [simpleEscape] at known
    rw [run_append_of ih]
    simp [step, strStep, escapeStep, notUnicode, known]
  | @unicode t s h ds _ digits four ih =>
    rw [List.append_assoc, run_append_of ih]
    have opened : run step ⟨.str role (acc ++ s), stack⟩ ['\\', 'u'] =
        some ⟨.hex role (acc ++ s) [], stack⟩ := rfl
    rw [run_append_of opened, run_hex_four digits four, List.append_assoc]

theorem run_digits {st : NumState} (stay : ∀ c, c.isDigit = true → st.next c = some st) {ds : Text}
    (digits : Digits ds) (literal : Text) (stack : List Frame) :
    run step ⟨.num st literal, stack⟩ ds = some ⟨.num st (literal ++ ds), stack⟩ := by
  induction ds generalizing literal with
  | nil => simp
  | cons c ds ih =>
    have stepped : step ⟨.num st literal, stack⟩ c = some ⟨.num st (literal ++ [c]), stack⟩ := by
      simp [step, numStep, stay c (digits c List.mem_cons_self)]
    rw [run_cons, stepped, Option.bind_some,
      ih (fun d member => digits d (List.mem_cons_of_mem c member)), List.append_assoc]
    rfl

theorem isDigit_ne {d : Char} (digit : d.isDigit = true) :
    isWs d = false ∧ isExpMark d = false ∧ isSign d = false ∧ d ≠ '.' ∧ d ≠ '-' ∧ d ≠ '"' ∧
      d ≠ '[' ∧ d ≠ ']' ∧ d ≠ '{' ∧ d ≠ 'n' ∧ d ≠ 't' ∧ d ≠ 'f' := by
  refine ⟨?_, ?_, ?_, ?_, ?_, ?_, ?_, ?_, ?_, ?_, ?_, ?_⟩
  · simp only [isWs, Bool.or_eq_false_iff, beq_eq_false_iff_ne]
    refine ⟨⟨⟨?_, ?_⟩, ?_⟩, ?_⟩ <;> (rintro rfl; revert digit; decide)
  · simp only [isExpMark, Bool.or_eq_false_iff, beq_eq_false_iff_ne]
    refine ⟨?_, ?_⟩ <;> (rintro rfl; revert digit; decide)
  · simp only [isSign, Bool.or_eq_false_iff, beq_eq_false_iff_ne]
    refine ⟨?_, ?_⟩ <;> (rintro rfl; revert digit; decide)
  all_goals (rintro rfl; revert digit; decide)

theorem valueStep_digit {d : Char} (digit : d.isDigit = true) (fresh : Bool) (stack : List Frame) :
    valueStep fresh stack d =
      some ⟨.num (if d = '0' then .zero else .int) [d], stack⟩ := by
  obtain ⟨ws, _, _, _, minus, quote, open', close, brace, n, t, f⟩ := isDigit_ne digit
  simp only [valueStep, ws, Bool.false_eq_true, if_false]
  split <;> simp_all [NumState.first]

/-- A sign and an integer part bring the reader to one of two states. -/
theorem run_intPart {m i : Text} (sign : m = [] ∨ m = ['-']) (int : IntPart i) (fresh : Bool)
    (stack : List Frame) : ∃ st, (st = .zero ∨ st = .int) ∧
      run step ⟨.value fresh, stack⟩ (m ++ i) = some ⟨.num st (m ++ i), stack⟩ := by
  have lead : ∀ d ds, d.isDigit = true → (d = '0' → ds = []) → Digits ds →
      run step ⟨.value fresh, stack⟩ (m ++ d :: ds) =
        some ⟨.num (if d = '0' then .zero else .int) (m ++ d :: ds), stack⟩ := by
    intro d ds digit alone digits
    have first : run step ⟨.value fresh, stack⟩ (m ++ [d]) =
        some ⟨.num (if d = '0' then .zero else .int) (m ++ [d]), stack⟩ := by
      rcases sign with rfl | rfl
      · simp [step, valueStep_digit digit]
      · by_cases zero : d = '0' <;>
          simp [step, valueStep, isWs, NumState.first, numStep, NumState.next, zero, digit]
    rw [List.append_cons, run_append_of first]
    by_cases zero : d = '0'
    · simp [alone zero]
    · rw [if_neg zero]
      exact run_digits (fun c digit => by simp [NumState.next, digit]) digits _ _
  rcases int with rfl | ⟨d, ds, rfl, digit, nonzero, digits⟩
  · exact ⟨.zero, Or.inl rfl, by simpa using lead '0' [] rfl (fun _ => rfl) (by simp [Digits])⟩
  · refine ⟨.int, Or.inr rfl, ?_⟩
    simpa [nonzero] using lead d ds digit (fun zero => absurd zero nonzero) digits

theorem run_fracPart {f : Text} (frac : FracPart f) {st : NumState} (int : st = .zero ∨ st = .int)
    (literal : Text) (stack : List Frame) : ∃ st', (st' = .zero ∨ st' = .int ∨ st' = .frac) ∧
      run step ⟨.num st literal, stack⟩ f = some ⟨.num st' (literal ++ f), stack⟩ := by
  rcases frac with rfl | ⟨d, ds, rfl, digit, digits⟩
  · exact ⟨st, by tauto, by simp⟩
  · refine ⟨.frac, by simp, ?_⟩
    have first : run step ⟨.num st literal, stack⟩ ['.', d] =
        some ⟨.num .frac (literal ++ ['.', d]), stack⟩ := by
      rcases int with rfl | rfl <;> simp [step, numStep, NumState.next, digit, show ('.' : Char).isDigit = false from rfl]
    rw [show '.' :: d :: ds = ['.', d] ++ ds from rfl, run_append_of first,
      run_digits (fun c digit => by simp [NumState.next, digit]) digits, List.append_assoc]

theorem run_expPart {e : Text} (exp : ExpPart e) {st : NumState}
    (before : st = .zero ∨ st = .int ∨ st = .frac) (literal : Text) (stack : List Frame) :
    ∃ st', st'.complete = true ∧
      run step ⟨.num st literal, stack⟩ e = some ⟨.num st' (literal ++ e), stack⟩ := by
  rcases exp with rfl | ⟨mark, s, d, ds, rfl, isMark, sign, digit, digits⟩
  · exact ⟨st, by rcases before with rfl | rfl | rfl <;> rfl, by simp⟩
  · refine ⟨.expDigits, rfl, ?_⟩
    have notPoint : mark ≠ '.' ∧ mark.isDigit = false := by
      simp only [isExpMark, Bool.or_eq_true, beq_iff_eq] at isMark
      rcases isMark with rfl | rfl <;> decide
    have marked : run step ⟨.num st literal, stack⟩ [mark] =
        some ⟨.num .exp (literal ++ [mark]), stack⟩ := by
      rcases before with rfl | rfl | rfl <;> simp [step, numStep, NumState.next, isMark, notPoint]
    have first : run step ⟨.num .exp (literal ++ [mark]), stack⟩ (s ++ [d]) =
        some ⟨.num .expDigits (literal ++ mark :: (s ++ [d])), stack⟩ := by
      rcases sign with rfl | ⟨c, rfl, isSign⟩
      · simp [step, numStep, NumState.next, digit, (isDigit_ne digit).2.2.1]
      · simp [step, numStep, NumState.next, digit, isSign]
    rw [show mark :: (s ++ d :: ds) = [mark] ++ ((s ++ [d]) ++ ds) by simp, run_append_of marked,
      run_append_of first, run_digits (fun c digit => by simp [NumState.next, digit]) digits]
    simp

theorem readsAs_number {t : Text} (number : Number t) : ReadsAs t (some (.num t)) := by
  obtain ⟨m, i, f, e, rfl, sign, int, frac, exp⟩ := number
  intro fresh stack
  obtain ⟨_, atInt, readInt⟩ := run_intPart sign int fresh stack
  obtain ⟨_, atFrac, readFrac⟩ := run_fracPart frac atInt (m ++ i) stack
  obtain ⟨_, complete, readExp⟩ := run_expPart exp atFrac (m ++ i ++ f) stack
  rw [List.append_assoc (m ++ i), run_append_of readInt, run_append_of readFrac, readExp]
  simp [settle, complete]

theorem readsAs_str {t s : Text} (chars : Chars t s) : ReadsAs ('"' :: t ++ ['"']) (some (.str s)) := by
  intro fresh stack
  have opened : run step ⟨.value fresh, stack⟩ ['"'] = some ⟨.str .value [], stack⟩ := rfl
  rw [show '"' :: t ++ ['"'] = ['"'] ++ (t ++ ['"']) from rfl, run_append_of opened,
    run_append_of (run_chars chars .value [] stack)]
  rfl

theorem readsAs_item {a t b : Text} {v : Json} (before : Ws a) (reads : ReadsAs t (some v))
    (after : Ws b) : ReadsAs (a ++ t ++ b) (some v) := by
  intro fresh stack
  rw [List.append_assoc, run_append_of (run_ws_value before fresh stack)]
  cases b with
  | nil => rw [List.append_nil]; exact reads fresh stack
  | cons c b =>
    have delim := isDelimiter_of_isWs (after c List.mem_cons_self)
    rw [reads.before_delimiter delim, run_ws_done after]
    rfl

/-- The reader at a key, and what it does up to the value of the member. -/
theorem run_key {a c k b : Text} (before : Ws a) (chars : Chars c k) (between : Ws b) (fresh : Bool)
    (ms : List (Text × Json)) (stack : List Frame) :
    run step ⟨.key fresh, .obj ms :: stack⟩ (a ++ '"' :: c ++ '"' :: b ++ [':']) =
      some ⟨.value false, .mem ms k :: stack⟩ := by
  have opened : run step ⟨.key fresh, .obj ms :: stack⟩ ['"'] =
      some ⟨.str .key [], .obj ms :: stack⟩ := rfl
  have closed : run step ⟨.str .key k, .obj ms :: stack⟩ ['"'] =
      some ⟨.colon k, .obj ms :: stack⟩ := rfl
  rw [show a ++ '"' :: c ++ '"' :: b ++ [':'] = a ++ (['"'] ++ (c ++ (['"'] ++ (b ++ [':'])))) by simp,
    run_append_of (run_ws_key before fresh _), run_append_of opened,
    run_append_of (run_chars chars .key [] _), List.nil_append, run_append_of closed,
    run_append_of (run_ws_colon between k _)]
  rfl

/-- What the reader does on each kind of phrase of the grammar. -/
def Phrase.ReadBy (t : Text) : Phrase → Prop
  | .value v | .item v => ReadsAs t (some v)
  | .member k v => ∀ fresh ms stack,
      (run step ⟨.key fresh, .obj ms :: stack⟩ t).map settle = some ⟨.done v, .mem ms k :: stack⟩
  | .elements vs => ∀ stack,
      run step ⟨.value true, .arr [] :: stack⟩ t = some ⟨.value vs.isEmpty, .arr vs :: stack⟩
  | .members ms => ∀ stack,
      run step ⟨.key true, .obj [] :: stack⟩ t = some ⟨.key ms.isEmpty, .obj ms :: stack⟩

/-- A member ends where a delimiter follows it. -/
theorem member_before_delimiter {t k : Text} {v : Json} (reads : (Phrase.member k v).ReadBy t)
    {c : Char} (delim : isDelimiter c = true) (fresh : Bool) (ms : List (Text × Json))
    (stack : List Frame) (rest : Text) :
    run step ⟨.key fresh, .obj ms :: stack⟩ (t ++ c :: rest) =
      run step ⟨.done v, .mem ms k :: stack⟩ (c :: rest) := by
  obtain ⟨cfg, reach, settled⟩ := Option.map_eq_some_iff.mp (reads fresh ms stack)
  rw [run_append_of reach, ← run_settle delim, settled]

/-- Completeness: the reader reads every phrase the grammar derives. -/
theorem Denotes.readBy {p : Phrase} {t : Text} (denotes : Denotes p t) : p.ReadBy t := by
  induction denotes with
  | wordNull => intro fresh stack; rfl
  | wordTrue => intro fresh stack; rfl
  | wordFalse => intro fresh stack; rfl
  | num number => exact readsAs_number number
  | str chars => exact readsAs_str chars
  | @arrNil w ws =>
    intro fresh stack
    have opened : run step ⟨.value fresh, stack⟩ ['['] = some ⟨.value true, .arr [] :: stack⟩ := rfl
    rw [show '[' :: w ++ [']'] = ['['] ++ (w ++ [']']) from rfl, run_append_of opened,
      run_append_of (run_ws_value ws true _)]
    rfl
  | @arr vs e v t _ _ elements item =>
    intro fresh stack
    have opened : run step ⟨.value fresh, stack⟩ ['['] = some ⟨.value true, .arr [] :: stack⟩ := rfl
    rw [show '[' :: e ++ t ++ [']'] = ['['] ++ (e ++ (t ++ [']'])) by simp, run_append_of opened,
      run_append_of (elements stack), item.before_delimiter rfl]
    rfl
  | @objNil w ws =>
    intro fresh stack
    have opened : run step ⟨.value fresh, stack⟩ ['{'] = some ⟨.key true, .obj [] :: stack⟩ := rfl
    rw [show '{' :: w ++ ['}'] = ['{'] ++ (w ++ ['}']) from rfl, run_append_of opened,
      run_append_of (run_ws_key ws true _)]
    rfl
  | @obj ms e k v t _ _ members member =>
    intro fresh stack
    have opened : run step ⟨.value fresh, stack⟩ ['{'] = some ⟨.key true, .obj [] :: stack⟩ := rfl
    rw [show '{' :: e ++ t ++ ['}'] = ['{'] ++ (e ++ (t ++ ['}'])) by simp, run_append_of opened,
      run_append_of (members stack), member_before_delimiter member rfl]
    rfl
  | item before _ after reads => exact readsAs_item before reads after
  | @member a c k b v t before chars between _ item =>
    intro fresh ms stack
    rw [show a ++ '"' :: c ++ '"' :: b ++ ':' :: t = (a ++ '"' :: c ++ '"' :: b ++ [':']) ++ t by simp,
      run_append_of (run_key before chars between fresh ms stack)]
    exact item false _
  | elementsNil => intro stack; rfl
  | @elementsSnoc vs e v t _ _ elements item =>
    intro stack
    rw [List.append_assoc, run_append_of (elements stack), item.before_delimiter rfl]
    simp
  | membersNil => intro stack; rfl
  | @membersSnoc ms e k v t _ _ members member =>
    intro stack
    rw [List.append_assoc, run_append_of (members stack), member_before_delimiter member rfl]
    simp

theorem parse_of_readsAs {t : Text} {o : Option Json} (reads : ReadsAs t o) : parse t = o := by
  have outcome := reads false []
  cases o with
  | none => rw [parse, start, Option.map_eq_none_iff.mp outcome, Option.bind_none]
  | some v =>
    obtain ⟨cfg, reach, settled⟩ := Option.map_eq_some_iff.mp outcome
    rw [parse, start, reach, Option.bind_some, result, settled]

theorem parse_of_document {t : Text} {v : Json} (document : Document t v) : parse t = some v :=
  parse_of_readsAs document.readBy

end JsonText
