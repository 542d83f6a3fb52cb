import AgentNDK.Emitter
import AgentNDK.Library.JsonContainers

namespace AgentNDK
open CText JsonText
variable {tgt : Target}

/-- Free of the two quotation marks the report is framed with, and of the
backslash, which the emitter does not escape. -/
def Unquoted (t : Text) : Prop :=
  '\'' ∉ t ∧ Bare t

theorem unquoted_of_plain {t : Text} (plain : Plain t) : Unquoted t := by
  refine ⟨fun member => ?_, bare_of_plain plain⟩
  have := plain _ member
  revert this
  decide

theorem Unquoted.append {s t : Text} (left : Unquoted s) (right : Unquoted t) : Unquoted (s ++ t) := by
  simp only [Unquoted, Bare, List.mem_append, not_or]
  exact ⟨⟨left.1, right.1⟩, ⟨left.2.1, right.2.1⟩, left.2.2, right.2.2⟩

theorem Unquoted.take {t : Text} (unquoted : Unquoted t) (n : Nat) : Unquoted (t.take n) :=
  ⟨fun member => unquoted.1 (List.mem_of_mem_take member),
    fun member => unquoted.2.1 (List.mem_of_mem_take member),
    fun member => unquoted.2.2 (List.mem_of_mem_take member)⟩

@[simp] theorem requote_append (s t : Text) : requote (s ++ t) = requote s ++ requote t :=
  List.map_append

@[simp] theorem requote_cons (c : Char) (t : Text) :
    requote (c :: t) = (if c = '\'' then '"' else c) :: requote t := rfl

@[simp] theorem requote_nil : requote [] = [] := rfl

theorem requote_dropLast (t : Text) : requote t.dropLast = (requote t).dropLast := by
  rw [requote, List.map_dropLast]
  rfl

theorem requote_flatten (ts : List Text) : requote ts.flatten = (ts.map requote).flatten := by
  rw [requote, List.map_flatten]
  rfl

theorem requote_eq {t : Text} (unquoted : '\'' ∉ t) : requote t = t := by
  induction t with
  | nil => rfl
  | cons c t ih =>
    have notQuote : c ≠ '\'' := fun same => unquoted (same ▸ List.mem_cons_self)
    rw [requote_cons, if_neg notQuote, ih fun member => unquoted (List.mem_cons_of_mem c member)]

theorem requote_plain {t : Text} (plain : Plain t) : requote t = t :=
  requote_eq (unquoted_of_plain plain).1

theorem requote_quoted {key value : Text} (plain : Plain key) (unquoted : '\'' ∉ value) :
    requote (quoted key value) = (Field.string key value).render := by
  simp [quoted, Field.render, Field.string, requote_plain plain, requote_eq unquoted]

theorem requote_bare {key value : Text} (plain : Plain key) (digits : Plain value) :
    requote (bare key value) = (Field.number key value).render := by
  simp [bare, Field.render, Field.number, requote_plain plain, requote_plain digits]

theorem number_fmtZu_written {key : Text} (plain : Plain key) {w : Nat} (value : BitVec w) :
    (Field.number key (fmtZu value)).Written :=
  Field.number_written plain (number_decimal _) (fmtZu_numeral value).plain

theorem number_fmtD_written {key : Text} (plain : Plain key) {w : Nat} (value : BitVec w) :
    (Field.number key (fmtD value)).Written :=
  Field.number_written plain (number_signedDecimal _) (fmtD_numeral value).plain

/-- One more member, written with its comma before it. -/
theorem fieldsText_snoc {fs : List Field} (nonempty : fs ≠ []) (f : Field) :
    (fieldsText (fs ++ [f])).dropLast = (fieldsText fs).dropLast ++ ',' :: f.render := by
  obtain rfl | ⟨init, last, rfl⟩ := List.eq_nil_or_concat' fs
  · exact absurd rfl nonempty
  · rw [fieldsText_dropLast, fieldsText_dropLast]
    simp [fieldsText]

/-! The frame string, and where the buffer of its line ends. -/

/-- The symbol part of the frame string. -/
def symbolPart (stackframe : Stackframe tgt) : Text :=
  if stackframe.symName.text ≠ [] then
    " (" ++ stackframe.symName.text ++ "+" ++ fmtD stackframe.symAddrOffset ++ ")"
  else []

/-- The frame string before any of it is cut off. -/
def frameLine (stackframe : Stackframe tgt) : Text :=
  '#' :: zeroPad 2 (fmtZu stackframe.index) ++ " pc " ++ fmtX 16 stackframe.pc ++ " " ++
    stackframe.soPath.text ++ symbolPart stackframe

/-- The frame string fits the buffer together with its key, quotes and comma. -/
def FrameFits (stackframe : Stackframe tgt) : Prop :=
  (frameLine stackframe).length ≤ 2037

instance (stackframe : Stackframe tgt) : Decidable (FrameFits stackframe) :=
  inferInstanceAs (Decidable (_ ≤ _))

theorem symbolPart_length (stackframe : Stackframe tgt) : (symbolPart stackframe).length ≤ 269 := by
  have name := stackframe.symName.fits
  have offset := fmtD_length stackframe.symAddrOffset
  unfold symbolPart
  split
  · simp
    omega
  · simp

theorem frameToString_eq (stackframe : Stackframe tgt) :
    frameToString stackframe [] = ('#' :: zeroPad 2 (fmtZu stackframe.index) ++ " pc " ++
      fmtX 16 stackframe.pc ++ " " ++ stackframe.soPath.text).take 2047 ++ symbolPart stackframe := by
  have short := symbolPart_length stackframe
  unfold symbolPart at short ⊢
  unfold frameToString
  dsimp only
  split
  · rename_i named
    rw [if_pos named] at short
    rw [emitF_fit (by omega), emitF, List.nil_append]
  · rw [emitF, List.nil_append, List.append_nil]

theorem frameToString_fits {stackframe : Stackframe tgt} (fits : FrameFits stackframe) :
    frameToString stackframe [] = frameLine stackframe := by
  unfold FrameFits frameLine at fits
  rw [List.length_append] at fits
  rw [frameToString_eq, frameLine, List.take_of_length_le (by omega)]

/-- A frame string that does not fit is still too long after the first cut. -/
theorem frameToString_misfit {stackframe : Stackframe tgt} (misfit : ¬ FrameFits stackframe) :
    2038 ≤ (frameToString stackframe []).length := by
  unfold FrameFits frameLine at misfit
  rw [List.length_append] at misfit
  rw [frameToString_eq, List.length_append, List.length_take]
  omega

/-- Where the frame string fits, so do the path and its key. -/
theorem soPath_fits {stackframe : Stackframe tgt} (fits : FrameFits stackframe) :
    stackframe.soPath.text.length ≤ 2034 := by
  unfold FrameFits frameLine at fits
  simp at fits
  omega

theorem frameToString_unquoted {stackframe : Stackframe tgt}
    (path : Unquoted stackframe.soPath.text) (name : Unquoted stackframe.symName.text) :
    Unquoted (frameToString stackframe []) := by
  have index := unquoted_of_plain (zeroPad_numeral (fmtZu_numeral stackframe.index) 2).plain
  have pc := unquoted_of_plain (fmtX_numeral 16 stackframe.pc).plain
  have offset := unquoted_of_plain (fmtD_numeral stackframe.symAddrOffset).plain
  have words : ∀ word ∈ [(['#'] : Text), " pc ", " ", " (", "+", ")"], Unquoted word := by
    intro word member
    have plain : ∀ word ∈ [(['#'] : Text), " pc ", " ", " (", "+", ")"], Plain word := by decide
    exact unquoted_of_plain (plain word member)
  have symbol : Unquoted (symbolPart stackframe) := by
    unfold symbolPart
    split
    · exact ((((words _ (by simp)).append name).append (words _ (by simp))).append offset).append
        (words _ (by simp))
    · exact unquoted_of_plain (by decide)
  rw [frameToString_eq]
  have opening := (((((words ['#'] (by simp)).append index).append (words " pc " (by simp))).append
    pc).append (words " " (by simp))).append path
  exact (opening.take 2047).append symbol

/-! Lines and the members they show. -/

/-- A formatted line is one member of the report, and the buffer has room for
it and a comma. -/
structure Shows (line : Text) (f : Field) : Prop where
  text : requote line = f.render
  written : f.Written
  short : line.length ≤ 2046

theorem shows_quoted {key value : Text} (plain : Plain key) (unquoted : Unquoted value)
    (short : key.length + value.length ≤ 2041) : Shows (quoted key value) (.string key value) where
  text := requote_quoted plain unquoted.1
  written := Field.string_written plain unquoted.2
  short := by
    rw [quoted_length]
    omega

theorem shows_fmtD {key : Text} (plain : Plain key) (short : key.length ≤ 20) {w : Nat}
    (value : BitVec w) : Shows (bare key (fmtD value)) (.number key (fmtD value)) where
  text := requote_bare plain (fmtD_numeral value).plain
  written := number_fmtD_written plain value
  short := by
    have digits := fmtD_length value
    rw [bare_length]
    omega

theorem shows_fmtZu {key : Text} (plain : Plain key) (short : key.length ≤ 20) (value : tgt.Word) :
    Shows (bare key (fmtZu value)) (.number key (fmtZu value)) where
  text := requote_bare plain (fmtZu_numeral value).plain
  written := number_fmtZu_written plain value
  short := by
    have digits := fmtZu_length value
    rw [bare_length]
    omega

theorem emitLines_shows {lines : List Text} {fs : List Field} (each : List.Forall₂ Shows lines fs)
    (state : Text) :
    requote (emitLines state (lines.map (· ++ [',']))) = requote state ++ fieldsText fs := by
  induction each generalizing state with
  | nil => simp [emitLines, fieldsText]
  | @cons line f lines fs shows _ ih =>
    have fit : (line ++ [',']).length ≤ 2047 := by
      have short := shows.short
      rw [List.length_append, List.length_singleton]
      omega
    rw [List.map_cons, emitLines, List.foldl_cons, ← emitLines, ih, emitF_fit fit]
    simp [fieldsText, shows.text]

/-- The last line has no comma after it. -/
theorem emitLines_last {lines : List Text} {fs : List Field} (each : List.Forall₂ Shows lines fs)
    {last : Text} {f : Field} (shows : Shows last f) :
    requote (emitLines [] (lines.map (· ++ [',']) ++ [last])) = (fieldsText (fs ++ [f])).dropLast := by
  have before := emitLines_shows each []
  have fit : last.length ≤ 2047 := shows.short.trans (by decide)
  have final : emitLines [] (lines.map (· ++ [',']) ++ [last]) =
      emitF (emitLines [] (lines.map (· ++ [',']))) last := by
    rw [emitLines, List.foldl_append]
    rfl
  rw [final, emitF_fit fit, requote_append, before, shows.text, fieldsText_dropLast]
  rfl

theorem written_of_shows {lines : List Text} {fs : List Field} (each : List.Forall₂ Shows lines fs) :
    ∀ f ∈ fs, f.Written := by
  induction each with
  | nil => simp
  | cons shows _ ih => exact List.forall_mem_cons.mpr ⟨shows.written, ih⟩

/-! The members of a frame. -/

def frameNumbers (stackframe : Stackframe tgt) : List Field :=
  [ .number "index" (fmtD stackframe.index), .number "address" (fmtZu stackframe.address),
    .number "pc" (fmtZu stackframe.pc), .number "so_base" (fmtZu stackframe.soBase),
    .number "sym_addr" (fmtZu stackframe.symAddr) ]

def optionalField (key value : Text) : List Field :=
  if value ≠ [] then [.string key value] else []

def frameFields (stackframe : Stackframe tgt) : List Field :=
  (.string "cstr" (frameLine stackframe) :: frameNumbers stackframe ++
      [.number "sym_addr_offset" (fmtZu stackframe.symAddrOffset)]) ++
    optionalField "so_path" stackframe.soPath.text ++ optionalField "sym_name" stackframe.symName.text

theorem frameNumbers_shown (stackframe : Stackframe tgt) :
    List.Forall₂ Shows [ bare "index" (fmtD stackframe.index), bare "address" (fmtZu stackframe.address),
      bare "pc" (fmtZu stackframe.pc), bare "so_base" (fmtZu stackframe.soBase),
      bare "sym_addr" (fmtZu stackframe.symAddr) ] (frameNumbers stackframe) :=
  .cons (shows_fmtD (by decide) (by decide) _) <| .cons (shows_fmtZu (by decide) (by decide) _) <|
    .cons (shows_fmtZu (by decide) (by decide) _) <| .cons (shows_fmtZu (by decide) (by decide) _) <|
    .cons (shows_fmtZu (by decide) (by decide) _) .nil

theorem optionalField_appended {fs : List Field} (nonempty : fs ≠ []) {key value state : Text}
    (sofar : requote state = (fieldsText fs).dropLast) (plain : Plain key)
    (unquoted : Unquoted value) (fits : key.length + value.length ≤ 2041) :
    requote (if value ≠ [] then emitF state (',' :: quoted key value) else state) =
      (fieldsText (fs ++ optionalField key value)).dropLast := by
  unfold optionalField
  split
  · have room : (',' :: quoted key value).length ≤ 2047 := by
      rw [List.length_cons, quoted_length]
      omega
    rw [emitF_fit room, requote_append, requote_cons, requote_quoted plain unquoted.1,
      fieldsText_snoc nonempty, sofar]
    rfl
  · rw [List.append_nil, sofar]

theorem optionalField_written {key value : Text} (plain : Plain key) (unquoted : Unquoted value) :
    ∀ f ∈ optionalField key value, f.Written := by
  unfold optionalField
  split
  · exact List.forall_mem_singleton.mpr (Field.string_written plain unquoted.2)
  · simp

section Frame
variable {stackframe : Stackframe tgt} (path : Unquoted stackframe.soPath.text)
  (name : Unquoted stackframe.symName.text)
include path name

theorem frameFields_written (fits : FrameFits stackframe) :
    ∀ f ∈ frameFields stackframe, f.Written := by
  have line := frameToString_unquoted path name
  rw [frameToString_fits fits] at line
  have offset := number_fmtZu_written (show Plain "sym_addr_offset" by decide)
    stackframe.symAddrOffset
  have cstr : (Field.string "cstr" (frameLine stackframe)).Written :=
    Field.string_written (by decide) line.2
  have numbers := written_of_shows (frameNumbers_shown stackframe)
  have soPath := optionalField_written (show Plain "so_path" by decide) path
  have symName := optionalField_written (show Plain "sym_name" by decide) name
  simp only [frameFields, List.forall_mem_append, List.forall_mem_cons, List.cons_append]
  exact ⟨cstr, ⟨⟨numbers, offset, by simp⟩, soPath⟩, symName⟩

theorem frameToJson_fits (fits : FrameFits stackframe) :
    requote (frameToJson stackframe []) = objectText (frameFields stackframe) := by
  have line := frameToString_unquoted path name
  have cstr : Shows (quoted "cstr" (frameToString stackframe []))
      (.string "cstr" (frameLine stackframe)) := by
    rw [frameToString_fits fits] at line ⊢
    exact shows_quoted (by decide) line (Nat.add_le_add_left fits 4)
  have common := emitLines_last (.cons cstr (frameNumbers_shown stackframe))
    (shows_fmtZu (by decide) (by decide) stackframe.symAddrOffset :
      Shows (bare "sym_addr_offset" (fmtZu stackframe.symAddrOffset)) _)
  have pathShort := soPath_fits fits
  have nameShort := stackframe.symName.fits
  have withPath := optionalField_appended (by simp) common (show Plain "so_path" by decide) path
    (by simp; omega)
  have withName := optionalField_appended (by simp) withPath (show Plain "sym_name" by decide) name
    (by simp; omega)
  simp only [frameToJson, emitE, emitGroup, untilNull, List.intercalate_singleton, objectText,
    frameFields, List.nil_append, requote_append, requote_cons, requote_nil]
  exact congrArg (fun body => '{' :: body ++ ['}']) withName

end Frame

theorem readable_nil : Readable [] :=
  readable_of_plain (by decide)

theorem symbolPart_readable (stackframe : Stackframe tgt) :
    Readable (symbolPart stackframe) ↔ Readable stackframe.symName.text := by
  unfold symbolPart
  split
  · have offset := (fmtD_numeral stackframe.symAddrOffset).plain
    have tail : Readable (fmtD stackframe.symAddrOffset ++ ")") :=
      readable_of_plain (offset.append (by decide))
    have shape : " (" ++ stackframe.symName.text ++ "+" ++ fmtD stackframe.symAddrOffset ++ ")" =
        ([' '] ++ '(' :: stackframe.symName.text) ++ '+' :: (fmtD stackframe.symAddrOffset ++ ")") := by
      simp
    rw [shape, readable_append (by decide), readable_append (by decide)]
    simp only [tail, and_true, show Readable [' '] from readable_of_plain (by decide), true_and]
  · rename_i unnamed
    rw [not_not.mp unnamed]

/-- The frame string is readable when the path and the symbol name are. -/
theorem frameLine_readable (stackframe : Stackframe tgt) :
    Readable (frameLine stackframe) ↔
      Readable stackframe.soPath.text ∧ Readable stackframe.symName.text := by
  have index := (zeroPad_numeral (fmtZu_numeral stackframe.index) 2).plain
  have pc := (fmtX_numeral 16 stackframe.pc).plain
  have opening : Readable (['#'] ++ zeroPad 2 (fmtZu stackframe.index) ++ " pc " ++
      fmtX 16 stackframe.pc) :=
    readable_of_plain ((((show Plain ['#'] by decide).append index).append (by decide)).append pc)
  rw [← symbolPart_readable]
  have shape : frameLine stackframe = (['#'] ++ zeroPad 2 (fmtZu stackframe.index) ++ " pc " ++
      fmtX 16 stackframe.pc) ++ ' ' :: (stackframe.soPath.text ++ symbolPart stackframe) := by
    simp [frameLine]
  rw [shape, readable_append (by decide), and_iff_right opening]
  unfold symbolPart
  split
  · rw [show stackframe.soPath.text ++ (" (" ++ stackframe.symName.text ++ "+" ++
      fmtD stackframe.symAddrOffset ++ ")") = stackframe.soPath.text ++ ' ' ::
        ("(" ++ stackframe.symName.text ++ "+" ++ fmtD stackframe.symAddrOffset ++ ")") by simp,
      readable_append (by decide)]
    have spaced := @readable_append [] ("(" ++ stackframe.symName.text ++ "+" ++
      fmtD stackframe.symAddrOffset ++ ")") ' ' (by decide)
    rw [and_iff_right readable_nil] at spaced
    exact and_congr_right fun _ => spaced.symm
  · rw [List.append_nil]
    exact (and_iff_left readable_nil).symm

theorem optionalField_reads (key value : Text) :
    (∀ f ∈ optionalField key value, f.Reads) ↔ Readable value := by
  unfold optionalField
  split
  · rw [List.forall_mem_singleton]
    exact Field.string_reads
  · rename_i empty
    rw [not_not.mp empty]
    exact iff_of_true (by simp) readable_nil

theorem frameFields_reads (stackframe : Stackframe tgt) :
    (∀ f ∈ frameFields stackframe, f.Reads) ↔
      Readable stackframe.soPath.text ∧ Readable stackframe.symName.text := by
  have numbers : ∀ f ∈ frameNumbers stackframe, f.Reads := by
    simp only [frameNumbers, List.forall_mem_cons]
    exact ⟨⟨rfl, trivial⟩, ⟨rfl, trivial⟩, ⟨rfl, trivial⟩, ⟨rfl, trivial⟩, ⟨rfl, trivial⟩, by simp⟩
  simp only [frameFields, List.forall_mem_append, List.forall_mem_cons, List.cons_append,
    Field.string_reads, frameLine_readable, optionalField_reads]
  exact ⟨fun all => all.1,
    fun both => ⟨both, ⟨⟨numbers, Field.number_reads _ _, by simp⟩, both.1⟩, both.2⟩⟩

theorem emitted_extends (test : Prop) [Decidable test] (state line : Text) :
    state <+: if test then emitF state line else state := by
  split
  · exact List.prefix_append _ _
  · exact List.prefix_rfl

/-- Behind the line of the frame string stands the one of the index. -/
theorem frameToJson_eq (stackframe : Stackframe tgt) :
    ∃ rest, frameToJson stackframe [] = '{' :: (quoted "cstr" (frameToString stackframe []) ++
      [',']).take 2047 ++ '\'' :: 'i' :: rest ++ ['}'] := by
  have start : ∀ lines, (quoted "cstr" (frameToString stackframe []) ++ [',']).take 2047 ++
      ['\'', 'i'] <+: emitLines [] ((quoted "cstr" (frameToString stackframe []) ++ [',']) ::
        (bare "index" (fmtD stackframe.index) ++ [',']) :: lines) := by
    intro lines
    rw [emitLines_eq]
    exact ⟨_, List.append_assoc _ _ _⟩
  obtain ⟨rest, same⟩ := ((start _).trans (emitted_extends (stackframe.soPath.text ≠ []) _
    (',' :: quoted "so_path" stackframe.soPath.text))).trans
    (emitted_extends (stackframe.symName.text ≠ []) _ (',' :: quoted "sym_name" stackframe.symName.text))
  refine ⟨rest, ?_⟩
  simp only [frameToJson, emitE, emitGroup, untilNull, List.intercalate_singleton, List.nil_append]
  rw [← same]
  simp

/-- A frame string that does not fit: the buffer cuts off the quote that ends
it, or the comma behind that quote. -/
theorem cutLine_stuck {cstr : Text} (line : Unquoted cstr) (long : 2038 ≤ cstr.length) (rest : Text) :
    ReadsAs ('"' :: requote ((cstr ++ ['\'', ',']).take 2039) ++ '"' :: 'i' :: rest) none := by
  by_cases whole : cstr.length = 2038
  · have cut : (cstr ++ ['\'', ',']).take 2039 = cstr ++ ['\''] := by
      rw [List.take_append, whole, List.take_of_length_le (by omega)]
      rfl
    have shape : '"' :: requote (cstr ++ ['\'']) ++ '"' :: 'i' :: rest =
        '"' :: cstr ++ '"' :: '"' :: 'i' :: rest := by
      simp [requote_eq line.1]
    rw [cut, shape]
    exact readsAs_unclosed line.2 (by decide) _
  · rw [List.take_append_of_le_length (by omega), requote_eq (line.take 2039).1]
    exact readsAs_unclosed (line.take 2039).2 (by decide) _

theorem frameToJson_misfit {stackframe : Stackframe tgt} (path : Unquoted stackframe.soPath.text)
    (name : Unquoted stackframe.symName.text) (misfit : ¬ FrameFits stackframe) :
    ∃ rest, requote (frameToJson stackframe []) =
      objectText [⟨"cstr", rest, none, True⟩] ∧ ReadsAs rest none := by
  have line := frameToString_unquoted path name
  obtain ⟨rest, shape⟩ := frameToJson_eq stackframe
  refine ⟨_, ?_, cutLine_stuck line (frameToString_misfit misfit) (requote rest)⟩
  have render := fieldsText_dropLast []
    ⟨"cstr", '"' :: requote ((frameToString stackframe [] ++ ['\'', ',']).take 2039) ++
      '"' :: 'i' :: requote rest, none, True⟩
  rw [List.nil_append] at render
  rw [objectText, render, shape]
  simp [quoted, fieldsText, Field.render]

/-- The array element a frame is emitted as. -/
def frameElement (stackframe : Stackframe tgt) : Element :=
  if FrameFits stackframe then .object (frameFields stackframe)
  else ⟨requote (frameToJson stackframe []), none, True⟩

theorem frameElement_reads (stackframe : Stackframe tgt) :
    (frameElement stackframe).Reads ↔ FrameFits stackframe ∧
      Readable stackframe.soPath.text ∧ Readable stackframe.symName.text := by
  unfold frameElement
  split
  · rename_i fits
    rw [Element.object_reads, frameFields_reads, and_iff_right fits]
  · rename_i misfit
    exact iff_of_false (fun reads => Bool.false_ne_true reads.1) fun all => misfit all.1

theorem frameElement_written {stackframe : Stackframe tgt} (path : Unquoted stackframe.soPath.text)
    (name : Unquoted stackframe.symName.text) : (frameElement stackframe).Written ∧
      (frameElement stackframe).text = requote (emitStackframe stackframe []) := by
  unfold frameElement
  split
  · rename_i fits
    exact ⟨Element.object_written (frameFields_written path name fits),
      (frameToJson_fits path name fits).symm⟩
  · rename_i misfit
    obtain ⟨rest, shape, stuck⟩ := frameToJson_misfit path name misfit
    have written : ∀ f ∈ [(⟨"cstr", rest, none, True⟩ : Field)], f.Written :=
      List.forall_mem_singleton.mpr ⟨show Plain "cstr" by decide, Piece.stuck stuck True⟩
    refine ⟨Piece.stuck ?_ True, rfl⟩
    dsimp only
    rw [shape]
    exact (Piece.obj written).reads

/-! The lines handed to the buffer one by one. -/

/-- What the `_EMIT_F` calls of `frame_to_string` format. -/
def frameToStringLines (stackframe : Stackframe tgt) : List Text :=
  ('#' :: zeroPad 2 (fmtZu stackframe.index) ++ " pc " ++ fmtX 16 stackframe.pc ++ " " ++
    stackframe.soPath.text) ::
  if stackframe.symName.text ≠ [] then
    [ " (" ++ stackframe.symName.text ++ "+" ++ fmtD stackframe.symAddrOffset ++ ")" ]
  else []

/-- What those of `frame_to_json` format. -/
def frameToJsonLines (stackframe : Stackframe tgt) : List Text :=
  [ quoted "cstr" (frameToString stackframe []) ++ [','],
    bare "index" (fmtD stackframe.index) ++ [','],
    bare "address" (fmtZu stackframe.address) ++ [','],
    bare "pc" (fmtZu stackframe.pc) ++ [','],
    bare "so_base" (fmtZu stackframe.soBase) ++ [','],
    bare "sym_addr" (fmtZu stackframe.symAddr) ++ [','],
    bare "sym_addr_offset" (fmtZu stackframe.symAddrOffset) ] ++
  (if stackframe.soPath.text ≠ [] then [',' :: quoted "so_path" stackframe.soPath.text] else []) ++
  if stackframe.symName.text ≠ [] then [',' :: quoted "sym_name" stackframe.symName.text] else []

theorem emitLines_append (state : Text) (lines more : List Text) :
    emitLines state (lines ++ more) = emitLines (emitLines state lines) more :=
  List.foldl_append

theorem emitLines_optional (test : Prop) [Decidable test] (state line : Text) :
    emitLines state (if test then [line] else []) = if test then emitF state line else state := by
  split <;> rfl

/-- These are all the lines of a frame. -/
theorem frameToString_lines (stackframe : Stackframe tgt) (frame : Text) :
    frameToString stackframe frame = emitLines frame (frameToStringLines stackframe) := by
  unfold frameToString frameToStringLines
  rw [emitLines, List.foldl_cons, ← emitLines, emitLines_optional]

theorem frameToJson_lines (stackframe : Stackframe tgt) (state : Text) :
    frameToJson stackframe state =
      emitE state none [some (emitLines [] (frameToJsonLines stackframe)), none] := by
  unfold frameToJson frameToJsonLines
  rw [emitLines_append, emitLines_append, emitLines_optional, emitLines_optional]

/-- A line shorter than the buffer is emitted complete. -/
theorem emitLines_complete {lines : List Text} (short : ∀ line ∈ lines, line.length < 2048)
    (state : Text) : emitLines state lines = state ++ lines.flatten := by
  have whole : lines.map (·.take 2047) = lines := by
    refine (List.map_congr_left fun line member => ?_).trans (List.map_id lines)
    exact List.take_of_length_le (Nat.le_of_lt_succ (short line member))
  rw [emitLines_eq, whole]

theorem frameLine_length (stackframe : Stackframe tgt) :
    (frameLine stackframe).length = max 2 (fmtZu stackframe.index).length +
      stackframe.soPath.text.length + (symbolPart stackframe).length + 22 := by
  have pc : (fmtX 16 stackframe.pc).length = 16 := by
    have short : (hexadecimal (stackframe.pc.toNat % 2 ^ 32)).length ≤ 8 :=
      hexadecimal_length_le (by decide) (Nat.mod_lt _ (by decide))
    simp only [fmtX, zeroPad, List.length_append, List.length_replicate]
    omega
  have index : (zeroPad 2 (fmtZu stackframe.index)).length = max 2 (fmtZu stackframe.index).length := by
    simp only [zeroPad, List.length_append, List.length_replicate]
    omega
  simp [frameLine, pc, index]
  omega

theorem frameToStringLines_short {stackframe : Stackframe tgt} (fits : FrameFits stackframe) :
    ∀ line ∈ frameToStringLines stackframe, line.length < 2048 := by
  have symbol := symbolPart_length stackframe
  unfold FrameFits frameLine at fits
  rw [List.length_append] at fits
  unfold symbolPart at symbol
  unfold frameToStringLines
  refine List.forall_mem_cons.mpr ⟨by omega, ?_⟩
  split
  · rename_i named
    rw [if_pos named] at symbol
    exact List.forall_mem_singleton.mpr (by omega)
  · simp

theorem frameToJsonLines_short {stackframe : Stackframe tgt} (fits : FrameFits stackframe) :
    ∀ line ∈ frameToJsonLines stackframe, line.length < 2048 := by
  have line : (frameToString stackframe []).length ≤ 2037 := frameToString_fits fits ▸ fits
  have path := soPath_fits fits
  have name := stackframe.symName.fits
  have index := fmtD_length stackframe.index
  have zu : ∀ value : tgt.Word, (fmtZu value).length ≤ 20 := fmtZu_length
  have numbers := And.intro (zu stackframe.address) (And.intro (zu stackframe.pc)
    (And.intro (zu stackframe.soBase) (And.intro (zu stackframe.symAddr) (zu stackframe.symAddrOffset))))
  have optional : ∀ (test : Prop) [Decidable test] (line : Text), line.length < 2048 →
      ∀ l ∈ if test then [line] else [], l.length < 2048 := by
    intro test _ line short
    split
    · exact List.forall_mem_singleton.mpr short
    · simp
  unfold frameToJsonLines
  refine List.forall_mem_append.mpr ⟨List.forall_mem_append.mpr ⟨?_, optional _ _ ?_⟩, optional _ _ ?_⟩
  · simp only [List.forall_mem_cons, List.length_append, quoted_length, bare_length,
      List.length_singleton]
    simp
    omega
  · simp [quoted_length]
    omega
  · simp [quoted_length]
    omega

/-- Every line of a frame fits the buffer exactly when its path and the symbol
part of the frame string leave the frame string room for key, quotes and comma. -/
theorem frame_lines_short_iff (stackframe : Stackframe tgt) :
    (∀ line ∈ frameToStringLines stackframe ++ frameToJsonLines stackframe, line.length < 2048) ↔
      max 2 (fmtZu stackframe.index).length + stackframe.soPath.text.length +
        (symbolPart stackframe).length ≤ 2015 := by
  have length := frameLine_length stackframe
  have fits : FrameFits stackframe ↔ max 2 (fmtZu stackframe.index).length +
      stackframe.soPath.text.length + (symbolPart stackframe).length ≤ 2015 := by
    unfold FrameFits
    omega
  rw [← fits, List.forall_mem_append]
  constructor
  · intro short
    by_contra misfit
    have long := frameToString_misfit misfit
    have line := short.2 (quoted "cstr" (frameToString stackframe []) ++ [','])
      (List.mem_append_left _ (List.mem_append_left _ List.mem_cons_self))
    have key : ("cstr" : Text).length = 4 := rfl
    rw [List.length_append, quoted_length, key, List.length_singleton] at line
    omega
  · exact fun fits => ⟨frameToStringLines_short fits, frameToJsonLines_short fits⟩

/-- The fallback for `PATH_MAX` keeps every frame short. -/
theorem frameFits_of_fallback (fallback : tgt.pathMax ≤ 1024) (stackframe : Stackframe tgt) :
    FrameFits stackframe := by
  have path := stackframe.soPath.fits
  have symbol := symbolPart_length stackframe
  have index := fmtZu_length stackframe.index
  have length := frameLine_length stackframe
  unfold FrameFits
  omega

/-- A library under a path of 2100 characters, and no symbol. -/
def deepProcess : Os .x86Build :=
  { Os.running [7] 7 with
    dladdr := fun _ => some ⟨some (List.replicate 2100 'a'), 0x800, none, 0⟩ }

/-- The line of its frame string ends within the path. -/
theorem deep_frame_cut : ¬ ∀ line ∈
    frameToStringLines (transformAddrToStackframe deepProcess 0 0x1000) ++
      frameToJsonLines (transformAddrToStackframe deepProcess 0 0x1000), line.length < 2048 := by
  intro short
  have line := short _ (List.mem_append_left _ List.mem_cons_self)
  revert line
  decide +kernel

end AgentNDK
