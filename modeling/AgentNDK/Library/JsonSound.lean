import AgentNDK.Library.JsonComplete
import AgentNDK.Library.JsonNumber

namespace JsonText
open CText Runs

/-- The text before the innermost position where an item or a member may
start, for the containers that are open there. -/
inductive Opened : List Frame → Text → Prop
  | top : Opened [] []
  | arr {stack p w vs e} : Opened stack p → Ws w → Denotes (.elements vs) e →
      Opened (.arr vs :: stack) (p ++ w ++ '[' :: e)
  | obj {stack p w ms e} : Opened stack p → Ws w → Denotes (.members ms) e →
      Opened (.obj ms :: stack) (p ++ w ++ '{' :: e)
  | mem {stack p ms a c k b} : Opened (.obj ms :: stack) p → Ws a → Chars c k → Ws b →
      Opened (.mem ms k :: stack) (p ++ a ++ '"' :: c ++ '"' :: b ++ [':'])

/-- The text of an unfinished string, by what is being read of it. -/
inductive Unclosed : Mode → Text → Prop
  | str {role acc c} : Chars c acc → Unclosed (.str role acc) c
  | escape {role acc c} : Chars c acc → Unclosed (.escape role acc) (c ++ ['\\'])
  | hex {role acc c h ds} : Chars c acc → HexDigits h ds → ds.length < 4 →
      Unclosed (.hex role acc ds) (c ++ ['\\', 'u'] ++ h)

def Mode.role : Mode → Option Role
  | .str role _ | .escape role _ | .hex role _ _ => some role
  | _ => none

/-- Where a string may stand: a key inside an object, a value anywhere. -/
def Role.Fits : Role → List Frame → Prop
  | .key, stack => ∃ ms outer, stack = .obj ms :: outer
  | .value, _ => True

/-- The reader's invariant: the text read so far is what the grammar puts
before the point its configuration describes. -/
inductive Reads : Config → Text → Prop
  | value {fresh stack p w} : Opened stack p → Ws w →
      (fresh = true → ∃ outer, stack = .arr [] :: outer) → Reads ⟨.value fresh, stack⟩ (p ++ w)
  | key {fresh ms stack p w} : Opened (.obj ms :: stack) p → Ws w → (fresh = true → ms = []) →
      Reads ⟨.key fresh, .obj ms :: stack⟩ (p ++ w)
  | colon {k ms stack p a c b} : Opened (.obj ms :: stack) p → Ws a → Chars c k → Ws b →
      Reads ⟨.colon k, .obj ms :: stack⟩ (p ++ a ++ '"' :: c ++ '"' :: b)
  | done {v stack p t} : Opened stack p → Denotes (.item v) t → Reads ⟨.done v, stack⟩ (p ++ t)
  | string {mode role stack p a t} : Opened stack p → Ws a → mode.role = some role →
      role.Fits stack → Unclosed mode t → Reads ⟨mode, stack⟩ (p ++ a ++ '"' :: t)
  | num {st stack p a literal} : Opened stack p → Ws a → st.Shape literal →
      Reads ⟨.num st literal, stack⟩ (p ++ a ++ literal)
  | word {rest v stack p a t} : Opened stack p → Ws a → rest ≠ [] → Denotes (.value v) (t ++ rest) →
      Reads ⟨.word rest v, stack⟩ (p ++ a ++ t)

theorem ws_snoc {w : Text} {c : Char} (ws : Ws w) (space : isWs c = true) : Ws (w ++ [c]) :=
  List.forall_mem_append.mpr ⟨ws, List.forall_mem_singleton.mpr space⟩

theorem ws_nil : Ws [] := by simp [Ws]

theorem item_of_value {a t : Text} {v : Json} (before : Ws a) (value : Denotes (.value v) t) :
    Denotes (.item v) (a ++ t) := by
  simpa using Denotes.item before value ws_nil

theorem elements_nil {e : Text} (elements : Denotes (.elements []) e) : e = [] := by
  generalize shape : Phrase.elements [] = p at elements
  cases elements with
  | elementsNil => rfl
  | elementsSnoc => simp at shape
  | _ => cases shape

theorem members_nil {e : Text} (members : Denotes (.members []) e) : e = [] := by
  generalize shape : Phrase.members [] = p at members
  cases members with
  | membersNil => rfl
  | membersSnoc => simp at shape
  | _ => cases shape

theorem valueStep_reads {fresh : Bool} {stack : List Frame} {p : Text} {c : Char} {next : Config}
    (opened : Opened stack p) (w : Text) (ws : Ws w)
    (start : fresh = true → ∃ outer, stack = .arr [] :: outer)
    (stepped : valueStep fresh stack c = some next) : Reads next (p ++ w ++ [c]) := by
  unfold valueStep at stepped
  split at stepped
  · rename_i space
    cases Option.some.inj stepped
    rw [List.append_assoc]
    exact .value opened (ws_snoc ws space) start
  · split at stepped
    · cases Option.some.inj stepped
      exact .string opened ws rfl trivial (.str .nil)
    · cases Option.some.inj stepped
      simpa using Reads.value (.arr opened ws .elementsNil) ws_nil fun _ => ⟨stack, rfl⟩
    · cases Option.some.inj stepped
      simpa using Reads.key (.obj opened ws .membersNil) ws_nil fun _ => rfl
    · cases Option.some.inj stepped
      exact .word opened ws (by simp) .wordNull
    · cases Option.some.inj stepped
      exact .word opened ws (by simp) .wordTrue
    · cases Option.some.inj stepped
      exact .word opened ws (by simp) .wordFalse
    · split at stepped
      · rename_i vs outer
        cases Option.some.inj stepped
        obtain ⟨_, same⟩ := start rfl
        cases same
        cases opened with
        | @arr _ p w' _ e inner before elements =>
          cases elements_nil elements
          have value : Denotes (.item (.arr [])) (w' ++ ('[' :: w ++ [']'])) :=
            item_of_value before (.arrNil ws)
          simpa using Reads.done inner value
      · simp at stepped
    · obtain ⟨st, first, same⟩ := Option.map_eq_some_iff.mp stepped
      cases same
      exact .num opened ws (shape_first first)

theorem keyStep_reads {fresh : Bool} {ms : List (Text × Json)} {stack : List Frame} {p : Text}
    {c : Char} {next : Config} (opened : Opened (.obj ms :: stack) p) (w : Text) (ws : Ws w)
    (start : fresh = true → ms = []) (stepped : keyStep fresh (.obj ms :: stack) c = some next) :
    Reads next (p ++ w ++ [c]) := by
  unfold keyStep at stepped
  split at stepped
  · rename_i space
    cases Option.some.inj stepped
    rw [List.append_assoc]
    exact .key opened (ws_snoc ws space) start
  · split at stepped
    · cases Option.some.inj stepped
      exact .string opened ws rfl ⟨ms, stack, rfl⟩ (.str .nil)
    · split at stepped
      · rename_i same
        cases same
        cases Option.some.inj stepped
        cases start rfl
        cases opened with
        | @obj _ p w' _ e inner before members =>
          cases members_nil members
          have value : Denotes (.item (.obj [])) (w' ++ ('{' :: w ++ ['}'])) :=
            item_of_value before (.objNil ws)
          simpa using Reads.done inner value
      · simp at stepped
    · simp at stepped

theorem colonStep_reads {k a cs b : Text} {ms : List (Text × Json)} {stack : List Frame} {p : Text}
    {c : Char} {next : Config} (opened : Opened (.obj ms :: stack) p) (before : Ws a)
    (chars : Chars cs k) (between : Ws b) (stepped : colonStep k (.obj ms :: stack) c = some next) :
    Reads next (p ++ a ++ '"' :: cs ++ '"' :: b ++ [c]) := by
  unfold colonStep at stepped
  split at stepped
  · rename_i space
    cases Option.some.inj stepped
    simpa using Reads.colon opened before chars (ws_snoc between space)
  · split at stepped
    · rename_i same _
      cases same
      cases Option.some.inj stepped
      simpa using Reads.value (.mem opened before chars between) ws_nil (by simp)
    · simp at stepped

/-- A closing bracket or a comma turns the finished item into an element or
a member of the container around it. -/
theorem doneStep_reads {v : Json} {stack : List Frame} {p t : Text} {c : Char} {next : Config}
    (opened : Opened stack p) (item : Denotes (.item v) t) (stepped : doneStep v stack c = some next) :
    Reads next (p ++ t ++ [c]) := by
  unfold doneStep at stepped
  split at stepped
  · rename_i space
    cases Option.some.inj stepped
    cases item with
    | @item a _ t b before value after =>
      simpa using Reads.done opened (.item before value (ws_snoc after space))
  · split at stepped
    · cases Option.some.inj stepped
      cases opened with
      | arr inner before elements =>
        simpa using Reads.value (.arr inner before (.elementsSnoc elements item)) ws_nil (by simp)
    · cases Option.some.inj stepped
      cases opened with
      | arr inner before elements =>
        simpa using Reads.done inner (item_of_value before (.arr elements item))
    · cases Option.some.inj stepped
      cases opened with
      | mem inside before chars between =>
        cases inside with
        | obj inner lead members =>
          have member := Denotes.member before chars between item
          simpa using Reads.key (.obj inner lead (.membersSnoc members member)) ws_nil (by simp)
    · cases Option.some.inj stepped
      cases opened with
      | mem inside before chars between =>
        cases inside with
        | obj inner lead members =>
          have member := Denotes.member before chars between item
          simpa using Reads.done inner (item_of_value lead (.obj members member))
    · simp at stepped

theorem close_reads {role : Role} {acc a cs : Text} {stack : List Frame} {p : Text}
    (opened : Opened stack p) (before : Ws a) (fits : role.Fits stack) (chars : Chars cs acc) :
    Reads (role.close acc stack) (p ++ a ++ '"' :: cs ++ ['"']) := by
  cases role with
  | key =>
    obtain ⟨ms, outer, rfl⟩ := fits
    exact .colon opened before chars ws_nil
  | value => simpa [Role.close] using Reads.done opened (item_of_value before (.str chars))

theorem strStep_reads {role : Role} {acc a cs : Text} {stack : List Frame} {p : Text} {c : Char}
    {next : Config} (opened : Opened stack p) (before : Ws a) (fits : role.Fits stack)
    (chars : Chars cs acc) (stepped : strStep role acc stack c = some next) :
    Reads next (p ++ a ++ '"' :: cs ++ [c]) := by
  unfold strStep at stepped
  split at stepped
  · rename_i quote
    cases Option.some.inj stepped
    exact quote ▸ close_reads opened before fits chars
  · split at stepped
    · rename_i backslash
      cases Option.some.inj stepped
      cases backslash
      simpa using Reads.string opened before rfl fits (.escape chars)
    · split at stepped
      · rename_i plain
        cases Option.some.inj stepped
        simpa using Reads.string opened before rfl fits (.str (.plain chars plain))
      · simp at stepped

theorem escapeStep_reads {role : Role} {acc a cs : Text} {stack : List Frame} {p : Text} {c : Char}
    {next : Config} (opened : Opened stack p) (before : Ws a) (fits : role.Fits stack)
    (chars : Chars cs acc) (stepped : escapeStep role acc stack c = some next) :
    Reads next (p ++ a ++ '"' :: (cs ++ ['\\']) ++ [c]) := by
  unfold escapeStep at stepped
  split at stepped
  · rename_i unicode
    cases Option.some.inj stepped
    cases unicode
    simpa using Reads.string opened before rfl fits (.hex chars .nil (by simp))
  · obtain ⟨d, known, same⟩ := Option.map_eq_some_iff.mp stepped
    cases same
    simpa using Reads.string opened before rfl fits (.str (.escape chars known))

theorem hexStep_reads {role : Role} {acc a cs h : Text} {ds : List Nat} {stack : List Frame}
    {p : Text} {c : Char} {next : Config} (opened : Opened stack p) (before : Ws a)
    (fits : role.Fits stack) (chars : Chars cs acc) (digits : HexDigits h ds) (short : ds.length < 4)
    (stepped : hexStep role acc ds stack c = some next) :
    Reads next (p ++ a ++ '"' :: (cs ++ ['\\', 'u'] ++ h) ++ [c]) := by
  obtain ⟨d, value, same⟩ := Option.map_eq_some_iff.mp stepped
  have extended := HexDigits.snoc digits value
  split at same
  · cases same
    have whole := Chars.unicode chars extended (by simp; omega)
    simpa using Reads.string opened before rfl fits (.str whole)
  · cases same
    simpa using Reads.string opened before rfl fits (.hex chars extended (by simp; omega))

theorem numStep_reads {st : NumState} {literal a : Text} {stack : List Frame} {p : Text} {c : Char}
    {next : Config} (opened : Opened stack p) (before : Ws a) (shape : st.Shape literal)
    (stepped : numStep st literal stack c = some next) : Reads next (p ++ a ++ literal ++ [c]) := by
  unfold numStep at stepped
  split at stepped
  · rename_i st' continued
    cases Option.some.inj stepped
    simpa using Reads.num opened before (shape_next shape continued)
  · split at stepped
    · rename_i complete
      have item := item_of_value before (.num (number_of_shape complete shape))
      rw [List.append_assoc p]
      exact doneStep_reads opened item stepped
    · simp at stepped

theorem wordStep_reads {rest : Text} {v : Json} {a t : Text} {stack : List Frame} {p : Text}
    {c : Char} {next : Config} (opened : Opened stack p) (before : Ws a)
    (value : Denotes (.value v) (t ++ rest)) (stepped : wordStep rest v stack c = some next) :
    Reads next (p ++ a ++ t ++ [c]) := by
  unfold wordStep at stepped
  split at stepped
  · simp at stepped
  · rename_i d rest
    split at stepped
    · rename_i same
      cases Option.some.inj stepped
      cases same
      split
      · rename_i last
        cases List.isEmpty_iff.mp last
        rw [List.append_assoc, List.append_assoc]
        exact .done opened (item_of_value before value)
      · rename_i more
        rw [List.append_assoc]
        exact .word opened before (by simpa using more) (by simpa using value)
    · simp at stepped

theorem step_reads {cfg next : Config} {t : Text} {c : Char} (reads : Reads cfg t)
    (stepped : step cfg c = some next) : Reads next (t ++ [c]) := by
  cases reads with
  | value opened ws start => exact valueStep_reads opened _ ws start stepped
  | key opened ws start => exact keyStep_reads opened _ ws start stepped
  | colon opened before chars between => exact colonStep_reads opened before chars between stepped
  | done opened item => exact doneStep_reads opened item stepped
  | string opened before role fits unclosed =>
    cases unclosed with
    | str chars =>
      cases role
      exact strStep_reads opened before fits chars stepped
    | escape chars =>
      cases role
      exact escapeStep_reads opened before fits chars stepped
    | hex chars digits short =>
      cases role
      exact hexStep_reads opened before fits chars digits short stepped
  | num opened before shape => exact numStep_reads opened before shape stepped
  | word opened before _ value => exact wordStep_reads opened before value stepped

theorem run_reads {cfg last : Config} {before t : Text} (reads : Reads cfg before)
    (reach : run step cfg t = some last) : Reads last (before ++ t) := by
  induction t generalizing cfg before with
  | nil =>
    cases Option.some.inj reach
    simpa using reads
  | cons c t ih =>
    obtain ⟨next, first, rest⟩ := Option.bind_eq_some_iff.mp reach
    simpa using ih (step_reads reads first) rest

/-- Soundness: what the reader accepts is a document the grammar derives. -/
theorem document_of_parse {t : Text} {v : Json} (accepted : parse t = some v) : Document t v := by
  obtain ⟨cfg, reach, final⟩ := Option.bind_eq_some_iff.mp accepted
  have reads : Reads cfg t := by
    simpa using run_reads (.value .top ws_nil (by simp)) reach
  cases reads with
  | done opened item =>
    simp only [result, settle] at final
    split at final
    · rename_i same
      cases same
      cases Option.some.inj final
      cases opened
      exact item
    · simp at final
  | num opened before shape =>
    simp only [result, settle] at final
    split at final
    · rename_i same
      split at same
      · rename_i complete
        cases same
        cases Option.some.inj final
        cases opened
        exact item_of_value before (.num (number_of_shape complete shape))
      · cases same
    · simp at final
  | string _ _ _ _ unclosed => cases unclosed <;> simp [result, settle] at final
  | _ => simp [result, settle] at final

/-- The reader is exact: it accepts the documents of the grammar and reads
each of them as the value it denotes. -/
theorem parse_eq_some_iff {t : Text} {v : Json} : parse t = some v ↔ Document t v :=
  ⟨document_of_parse, parse_of_document⟩

/-- A text is well-formed JSON when some value is what it denotes. -/
def WellFormed (t : Text) : Prop :=
  ∃ v, Document t v

theorem wellFormed_iff_of_readsAs {t : Text} {o : Option Json} (reads : ReadsAs t o) :
    WellFormed t ↔ o.isSome = true := by
  simp only [WellFormed, ← parse_eq_some_iff, parse_of_readsAs reads]
  exact Option.isSome_iff_exists.symm

end JsonText
