import AgentNDK.Library.JsonPieces

namespace JsonText
open CText Runs

/-- All the values, or `none` when one of them is missing. -/
def allSome {α : Type} : List (Option α) → Option (List α)
  | [] => some []
  | o :: os => o.bind fun v => (allSome os).map (v :: ·)

theorem allSome_eq_some {α : Type} {os : List (Option α)} {vs : List α} :
    allSome os = some vs ↔ os = vs.map some := by
  induction os generalizing vs with
  | nil => cases vs <;> simp [allSome]
  | cons o os ih =>
    cases o with
    | none => cases vs <;> simp [allSome]
    | some v =>
      cases vs with
      | nil => simp [allSome]
      | cons w vs =>
        simp only [allSome, Option.bind_some, Option.map_eq_some_iff, List.map_cons,
          List.cons.injEq, Option.some.injEq, ih]
        exact ⟨fun ⟨_, same, head, tail⟩ => ⟨head, tail ▸ same⟩,
          fun ⟨head, same⟩ => ⟨vs, same, head, rfl⟩⟩

theorem allSome_snoc {α : Type} (os : List (Option α)) (o : Option α) :
    allSome (os ++ [o]) = (allSome os).bind fun vs => o.map fun v => vs ++ [v] := by
  induction os with
  | nil => cases o <;> rfl
  | cons p os ih =>
    rw [List.cons_append, allSome, allSome, ih]
    cases p <;> cases allSome os <;> cases o <;> rfl

theorem isSome_allSome {α : Type} (os : List (Option α)) :
    (allSome os).isSome = true ↔ ∀ o ∈ os, o.isSome = true := by
  induction os with
  | nil => simp [allSome]
  | cons o os ih => cases o <;> simp [allSome, ih]

/-! Containers written piece by piece, each piece followed by its comma. -/

section Joined
variable {α : Type} (text : α → Text)

theorem joined_dropLast (as : List α) (last : α) :
    (((as ++ [last]).map fun a => text a ++ [',']).flatten).dropLast =
      (as.map fun a => text a ++ [',']).flatten ++ text last := by
  rw [List.map_append, List.flatten_append, List.map_singleton, List.flatten_singleton,
    ← List.append_assoc, List.dropLast_concat]

/-- The commas are ASCII, so each piece is encoded well or not for itself. -/
theorem utf8_joined {as : List α} {encoded : α → Prop} (each : ∀ a ∈ as, Utf8 (text a) ↔ encoded a)
    (rest : Text) : Utf8 ((as.map fun a => text a ++ [',']).flatten ++ rest) ↔
      (∀ a ∈ as, encoded a) ∧ Utf8 rest := by
  induction as with
  | nil => simp
  | cons a as ih =>
    obtain ⟨first, later⟩ := List.forall_mem_cons.mp each
    rw [List.map_cons, List.flatten_cons, List.append_assoc, List.append_assoc,
      List.singleton_append, utf8_append_ascii (by decide), ih later, first]
    simp only [List.forall_mem_cons, and_assoc]

end Joined

/-- A member as a writer emits it: its key, the text of its value, the value
that text reads as (`none` when the reader gets stuck in it), and the
condition under which the text is valid UTF-8. -/
structure Field where
  key : Text
  text : Text
  value : Option Json
  encoded : Prop

namespace Field

def render (f : Field) : Text :=
  '"' :: f.key ++ '"' :: ':' :: f.text

def member (f : Field) : Option (Text × Json) :=
  f.value.map fun v => (f.key, v)

/-- A member under a plain key, whose value is written as a piece. -/
def Written (f : Field) : Prop :=
  Plain f.key ∧ Piece f.text f.value f.encoded

end Field

theorem chars_of_unescaped {t : Text} (plain : ∀ c ∈ t, isUnescaped c = true) : Chars t t := by
  induction t using List.reverseRecOn with
  | nil => exact .nil
  | append_singleton t c ih =>
    exact .plain (ih fun d member => plain d (List.mem_append_left _ member)) (plain c (by simp))

theorem run_render {f : Field} (reads : f.Written) (fresh : Bool) (ms : List (Text × Json))
    (stack : List Frame) (rest : Text) :
    run step ⟨.key fresh, .obj ms :: stack⟩ (f.render ++ rest) =
      run step ⟨.value false, .mem ms f.key :: stack⟩ (f.text ++ rest) := by
  have keyed := run_key ws_nil (chars_of_unescaped (isUnescaped_of_plain reads.1)) ws_nil fresh ms stack
  rw [show f.render ++ rest = ([] ++ '"' :: f.key ++ '"' :: [] ++ [':']) ++ (f.text ++ rest) by
    simp [Field.render], run_append_of keyed]

/-- The members before the last one, each with its comma. -/
def fieldsText (fs : List Field) : Text :=
  (fs.map fun f => f.render ++ [',']).flatten

theorem run_fields {fs : List Field} (reads : ∀ f ∈ fs, f.Written) (fresh : Bool)
    (ms : List (Text × Json)) (stack : List Frame) :
    run step ⟨.key fresh, .obj ms :: stack⟩ (fieldsText fs) =
      (allSome (fs.map Field.member)).map fun l =>
        ⟨.key (fresh && fs.isEmpty), .obj (ms ++ l) :: stack⟩ := by
  induction fs generalizing fresh ms with
  | nil => simp [fieldsText, allSome]
  | cons f fs ih =>
    have head := reads f List.mem_cons_self
    rw [show fieldsText (f :: fs) = f.render ++ ([','] ++ fieldsText fs) by simp [fieldsText],
      run_render head]
    cases value : f.value with
    | none =>
      have stuckHead : ReadsAs f.text none := value ▸ head.2.reads
      rw [stuckHead.stuck]
      simp [Field.member, value, allSome]
    | some v =>
      have readsHead : ReadsAs f.text (some v) := value ▸ head.2.reads
      rw [List.singleton_append, readsHead.before_delimiter rfl, run_cons, step_comma_mem,
        Option.bind_some, ih (fun g member => reads g (List.mem_cons_of_mem f member))]
      simp [Field.member, value, allSome, Option.map_map, Function.comp_def]

/-- The last member, followed by the closing brace. -/
theorem run_last {f : Field} (reads : f.Written) (fresh : Bool) (ms : List (Text × Json))
    (stack : List Frame) : run step ⟨.key fresh, .obj ms :: stack⟩ (f.render ++ ['}']) =
      f.member.map fun m => ⟨.done (.obj (ms ++ [m])), stack⟩ := by
  rw [run_render reads]
  cases value : f.value with
  | none =>
    have stuckHere : ReadsAs f.text none := value ▸ reads.2.reads
    rw [stuckHere.stuck]
    simp [Field.member, value]
  | some v =>
    have readsHere : ReadsAs f.text (some v) := value ▸ reads.2.reads
    rw [readsHere.before_delimiter rfl]
    simp [Field.member, value]

theorem readsAs_obj {fs : List Field} {last : Field} (reads : ∀ f ∈ fs, f.Written)
    (lastReads : last.Written) : ReadsAs ('{' :: fieldsText fs ++ last.render ++ ['}'])
      ((allSome ((fs ++ [last]).map Field.member)).map .obj) := by
  intro fresh stack
  have opened : run step ⟨.value fresh, stack⟩ ['{'] = some ⟨.key true, .obj [] :: stack⟩ := rfl
  rw [show '{' :: fieldsText fs ++ last.render ++ ['}'] =
    ['{'] ++ (fieldsText fs ++ (last.render ++ ['}'])) by simp, run_append_of opened, run_append,
    run_fields reads, List.map_append, List.map_singleton, allSome_snoc]
  cases allSome (fs.map Field.member) with
  | none => rfl
  | some l =>
    simp only [Option.map_some, Option.bind_some, run_last lastReads]
    cases last.member <;> rfl

/-- A comma before the closing brace: the reader expects another key there. -/
theorem Piece.trailingComma {fs : List Field} (reads : ∀ f ∈ fs, f.Written) (nonempty : fs ≠ [])
    (encoded : Prop) : Piece ('{' :: fieldsText fs ++ ['}']) none encoded := by
  refine .stuck (fun fresh stack => ?_) encoded
  have opened : run step ⟨.value fresh, stack⟩ ['{'] = some ⟨.key true, .obj [] :: stack⟩ := rfl
  rw [show '{' :: fieldsText fs ++ ['}'] = ['{'] ++ (fieldsText fs ++ ['}']) from rfl,
    run_append_of opened, run_append, run_fields reads]
  cases allSome (fs.map Field.member) with
  | none => rfl
  | some l =>
    simp only [Option.map_some, Option.bind_some, List.isEmpty_eq_false_iff.mpr nonempty]
    rfl

/-- An array element as a writer emits it. -/
structure Element where
  text : Text
  value : Option Json
  encoded : Prop

def Element.Written (e : Element) : Prop :=
  Piece e.text e.value e.encoded

/-- The elements, each with its comma. -/
def elementsText (es : List Element) : Text :=
  (es.map fun e => e.text ++ [',']).flatten

theorem run_elements {es : List Element} (reads : ∀ e ∈ es, e.Written) (fresh : Bool)
    (vs : List Json) (stack : List Frame) :
    run step ⟨.value fresh, .arr vs :: stack⟩ (elementsText es) =
      (allSome (es.map Element.value)).map fun l =>
        ⟨.value (fresh && es.isEmpty), .arr (vs ++ l) :: stack⟩ := by
  induction es generalizing fresh vs with
  | nil => simp [elementsText, allSome]
  | cons e es ih =>
    have head := reads e List.mem_cons_self
    rw [show elementsText (e :: es) = e.text ++ ',' :: elementsText es by simp [elementsText]]
    cases value : e.value with
    | none =>
      have stuckHead : ReadsAs e.text none := value ▸ head.reads
      rw [stuckHead.stuck]
      simp [value, allSome]
    | some v =>
      have readsHead : ReadsAs e.text (some v) := value ▸ head.reads
      rw [readsHead.before_delimiter rfl, run_cons, step_comma_arr, Option.bind_some,
        ih (fun d member => reads d (List.mem_cons_of_mem e member))]
      simp [value, allSome, Option.map_map, Function.comp_def]

theorem elementsText_dropLast (es : List Element) (last : Element) :
    (elementsText (es ++ [last])).dropLast = elementsText es ++ last.text :=
  joined_dropLast Element.text es last

/-- Elements joined by popping the last comma read as the array of their values. -/
theorem readsAs_arr {es : List Element} (reads : ∀ e ∈ es, e.Written) :
    ReadsAs ('[' :: (elementsText es).dropLast ++ [']'])
      ((allSome (es.map Element.value)).map .arr) := by
  intro fresh stack
  have opened : run step ⟨.value fresh, stack⟩ ['['] = some ⟨.value true, .arr [] :: stack⟩ := rfl
  induction es using List.reverseRecOn with
  | nil => rfl
  | append_singleton es last _ =>
    have lastReads : ReadsAs last.text last.value := (reads last (by simp)).reads
    rw [elementsText_dropLast, show '[' :: (elementsText es ++ last.text) ++ [']'] =
      ['['] ++ (elementsText es ++ (last.text ++ [']'])) by simp, run_append_of opened, run_append,
      run_elements (fun e member => reads e (List.mem_append_left _ member)), List.map_append,
      List.map_singleton, allSome_snoc]
    cases allSome (es.map Element.value) with
    | none => rfl
    | some l =>
      simp only [Option.map_some, Option.bind_some]
      cases value : last.value with
      | none =>
        rw [(show ReadsAs last.text none from value ▸ lastReads).stuck]
        rfl
      | some v =>
        rw [(show ReadsAs last.text (some v) from value ▸ lastReads).before_delimiter rfl]
        simp [settle]

/-! The same containers with their encoding. -/

theorem utf8_render {f : Field} (written : f.Written) (value : f.value.isSome = true) :
    Utf8 f.render ↔ f.encoded := by
  rw [Field.render, List.cons_append, utf8_cons (by decide), utf8_append_ascii (by decide),
    utf8_cons (by decide), written.2.utf8 value]
  exact and_iff_right written.1.utf8

theorem utf8_fields {fs : List Field} (written : ∀ f ∈ fs, f.Written)
    (values : ∀ f ∈ fs, f.value.isSome = true) (rest : Text) :
    Utf8 (fieldsText fs ++ rest) ↔ (∀ f ∈ fs, f.encoded) ∧ Utf8 rest :=
  utf8_joined Field.render (fun f member => utf8_render (written f member) (values f member)) rest

theorem utf8_elements {es : List Element} (written : ∀ e ∈ es, e.Written)
    (values : ∀ e ∈ es, e.value.isSome = true) (rest : Text) :
    Utf8 (elementsText es ++ rest) ↔ (∀ e ∈ es, e.encoded) ∧ Utf8 rest :=
  utf8_joined Element.text (fun e member => (written e member).utf8 (values e member)) rest

theorem isSome_members {fs : List Field} :
    (allSome (fs.map Field.member)).isSome = true ↔ ∀ f ∈ fs, f.value.isSome = true := by
  simp [isSome_allSome, Field.member]

/-- The object of the members, the last comma popped. -/
def objectText (fs : List Field) : Text :=
  '{' :: (fieldsText fs).dropLast ++ ['}']

theorem fieldsText_dropLast (fs : List Field) (last : Field) :
    (fieldsText (fs ++ [last])).dropLast = fieldsText fs ++ last.render :=
  joined_dropLast Field.render fs last

/-- The array of the elements, the last comma popped. -/
def arrayText (es : List Element) : Text :=
  '[' :: (elementsText es).dropLast ++ [']']

theorem Piece.obj {fs : List Field} (written : ∀ f ∈ fs, f.Written) :
    Piece (objectText fs) ((allSome (fs.map Field.member)).map .obj) (∀ f ∈ fs, f.encoded) := by
  rcases List.eq_nil_or_concat' fs with rfl | ⟨init, last, rfl⟩
  · refine ⟨fun fresh stack => rfl, fun _ => iff_of_true ?_ (by simp)⟩
    exact .ascii (by decide) (.ascii (by decide) .nil)
  have before : ∀ f ∈ init, f.Written := fun f member => written f (List.mem_append_left _ member)
  have lastWritten := written last (by simp)
  rw [objectText, fieldsText_dropLast]
  refine ⟨by simpa using readsAs_obj before lastWritten, fun value => ?_⟩
  rw [Option.isSome_map, isSome_members] at value
  have final := utf8_render lastWritten (value last (by simp))
  rw [utf8_snoc (by decide), utf8_cons (by decide),
    utf8_fields before fun f member => value f (List.mem_append_left _ member), final]
  simp only [List.forall_mem_append, List.forall_mem_singleton]

theorem Piece.arr {es : List Element} (written : ∀ e ∈ es, e.Written) :
    Piece (arrayText es) ((allSome (es.map Element.value)).map .arr) (∀ e ∈ es, e.encoded) := by
  refine ⟨readsAs_arr written, fun value => ?_⟩
  rw [Option.isSome_map, isSome_allSome] at value
  have each : ∀ e ∈ es, e.value.isSome = true := fun e member => value _ (List.mem_map_of_mem member)
  rw [arrayText, utf8_snoc (by decide), utf8_cons (by decide)]
  rcases List.eq_nil_or_concat' es with rfl | ⟨ds, last, rfl⟩
  · simp [elementsText, show Utf8 [] from .nil]
  · have final := (written last (by simp)).utf8 (each last (by simp))
    rw [elementsText_dropLast, utf8_elements (fun d member => written d (List.mem_append_left _ member))
      (fun d member => each d (List.mem_append_left _ member)), final]
    simp only [List.forall_mem_append, List.forall_mem_singleton]

/-! The members a writer has for each kind of value. -/

namespace Field

def string (key t : Text) : Field where
  key := key
  text := '"' :: t ++ ['"']
  value := if controlFree t then some (.str t) else none
  encoded := Utf8 t

def number (key t : Text) : Field where
  key := key
  text := t
  value := some (.num t)
  encoded := True

def bool (key : Text) (b : Bool) : Field where
  key := key
  text := if b then ['t', 'r', 'u', 'e'] else ['f', 'a', 'l', 's', 'e']
  value := some (.bool b)
  encoded := True

def object (key : Text) (fs : List Field) : Field where
  key := key
  text := objectText fs
  value := (allSome (fs.map member)).map .obj
  encoded := ∀ f ∈ fs, f.encoded

def array (key : Text) (es : List Element) : Field where
  key := key
  text := arrayText es
  value := (allSome (es.map Element.value)).map .arr
  encoded := ∀ e ∈ es, e.encoded

theorem string_written {key t : Text} (plain : Plain key) (bare : Bare t) :
    (string key t).Written :=
  ⟨plain, Piece.quoted bare⟩

theorem number_written {key t : Text} (plain : Plain key) (isNumber : Number t) (digits : Plain t) :
    (number key t).Written :=
  ⟨plain, Piece.number isNumber digits⟩

theorem bool_written {key : Text} (plain : Plain key) (b : Bool) : (bool key b).Written := by
  have words : Plain ['t', 'r', 'u', 'e'] ∧ Plain ['f', 'a', 'l', 's', 'e'] := by decide
  refine ⟨plain, ?_, fun _ => iff_true_intro (Plain.utf8 ?_)⟩
  · cases b <;> exact fun fresh stack => rfl
  · cases b
    · exact words.2
    · exact words.1

theorem object_written {key : Text} (plain : Plain key) {fs : List Field}
    (written : ∀ f ∈ fs, f.Written) : (object key fs).Written :=
  ⟨plain, Piece.obj written⟩

theorem array_written {key : Text} (plain : Plain key) {es : List Element}
    (written : ∀ e ∈ es, e.Written) : (array key es).Written :=
  ⟨plain, Piece.arr written⟩

/-- The member reads as some value and is valid UTF-8. -/
def Reads (f : Field) : Prop :=
  f.value.isSome = true ∧ f.encoded

theorem string_reads {key t : Text} : (string key t).Reads ↔ Readable t := by
  have value : (if controlFree t = true then some (Json.str t) else none).isSome = true ↔
      controlFree t = true := by
    split <;> simp_all
  exact and_congr_left fun _ => value

theorem number_reads (key t : Text) : (number key t).Reads :=
  ⟨rfl, trivial⟩

theorem bool_reads (key : Text) (b : Bool) : (bool key b).Reads :=
  ⟨rfl, trivial⟩

theorem object_reads {key : Text} {fs : List Field} : (object key fs).Reads ↔ ∀ f ∈ fs, f.Reads := by
  have value : ((allSome (fs.map member)).map Json.obj).isSome = true ↔
      ∀ f ∈ fs, f.value.isSome = true := by
    rw [Option.isSome_map, isSome_members]
  exact (and_congr_left fun _ => value).trans forall₂_and.symm

end Field

/-- The element reads as some value and is valid UTF-8. -/
def Element.Reads (e : Element) : Prop :=
  e.value.isSome = true ∧ e.encoded

theorem Field.array_reads {key : Text} {es : List Element} :
    (Field.array key es).Reads ↔ ∀ e ∈ es, e.Reads := by
  have value : ((allSome (es.map Element.value)).map Json.arr).isSome = true ↔
      ∀ e ∈ es, e.value.isSome = true := by
    simp [isSome_allSome]
  exact (and_congr_left fun _ => value).trans forall₂_and.symm

/-- An object as an element of an array. -/
def Element.object (fs : List Field) : Element where
  text := objectText fs
  value := (allSome (fs.map Field.member)).map .obj
  encoded := ∀ f ∈ fs, f.encoded

theorem Element.object_written {fs : List Field} (written : ∀ f ∈ fs, f.Written) :
    (Element.object fs).Written :=
  Piece.obj written

theorem Element.object_reads {fs : List Field} : (Element.object fs).Reads ↔ ∀ f ∈ fs, f.Reads :=
  @Field.object_reads [] fs

/-- A text is a JSON document when it is valid UTF-8 and the grammar derives it. -/
def JsonDocument (t : Text) : Prop :=
  Utf8 t ∧ WellFormed t

theorem Piece.document_iff {t : Text} {o : Option Json} {encoded : Prop} (piece : Piece t o encoded) :
    JsonDocument t ↔ o.isSome = true ∧ encoded := by
  have form := wellFormed_iff_of_readsAs piece.reads
  constructor
  · intro document
    have value := form.mp document.2
    exact ⟨value, (piece.utf8 value).mp document.1⟩
  · rintro ⟨value, encoding⟩
    exact ⟨(piece.utf8 value).mpr encoding, form.mpr value⟩

/-- The text of an object is a document exactly when each of its members reads. -/
theorem document_objectText {fs : List Field} (written : ∀ f ∈ fs, f.Written) :
    JsonDocument (objectText fs) ↔ ∀ f ∈ fs, f.Reads :=
  (Piece.obj written).document_iff.trans Element.object_reads

end JsonText
