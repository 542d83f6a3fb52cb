import AgentNDK.FrameReport

namespace AgentNDK
open CText JsonText
variable {tgt : Target}

/-- The text `"name":` is followed by the bracketed items. -/
theorem requote_items {name : Text} (plain : Plain name) (short : name.length ≤ 2000)
    (opening closing : Char) (notQuote : opening ≠ '\'' ∧ closing ≠ '\'') (args : List (Option Text)) :
    requote (emitGroup opening closing [] (some name) args) = '"' :: name ++ '"' :: ':' ::
      (opening :: requote (List.intercalate [','] (untilNull args)) ++ [closing]) := by
  have fits : ('\'' :: name ++ ("':" : Text)).length ≤ 2047 := by
    simp
    omega
  unfold emitGroup
  dsimp only
  rw [emitF_fit fits]
  simp [requote_plain plain, notQuote]

theorem requote_group {name : Text} (plain : Plain name) (short : name.length ≤ 2000)
    (opening closing : Char) (notQuote : opening ≠ '\'' ∧ closing ≠ '\'') (body : Text) :
    requote (emitGroup opening closing [] (some name) [some body, none]) =
      '"' :: name ++ '"' :: ':' :: (opening :: requote body ++ [closing]) := by
  have one : untilNull [some body, none] = [body] := rfl
  rw [requote_items plain short _ _ notQuote, one, List.intercalate_singleton]

theorem emitGroup_state (opening closing : Char) (state : Text) (name : Option Text)
    (args : List (Option Text)) : emitGroup opening closing state name args =
      state ++ emitGroup opening closing [] name args := by
  cases name <;> simp [emitGroup, emitF]

/-- A joined list of items reads as the elements its items are. -/
theorem requote_joinItems {items : List Text} {es : List Element}
    (same : items.map requote = es.map Element.text) :
    requote (joinItems items) = (elementsText es).dropLast := by
  have each : (items.map (· ++ [','])).map requote = es.map fun e => e.text ++ [','] := by
    have commas := congrArg (List.map (· ++ [','])) same
    simpa [Function.comp_def] using commas
  rw [joinItems_eq, requote_dropLast, requote_flatten, each, elementsText]

/-! Threads and their frames. -/

/-- The resolved frames a thread is emitted with. -/
def threadFrames (os : Os tgt) (thread : ThreadInfo tgt) : List (Stackframe tgt) :=
  match thread.backtraceState with
  | none => []
  | some state => stackframes os state

def threadLines (thread : ThreadInfo tgt) : List Field :=
  [ .number "threadNumber" (fmtD thread.tid.toBitVec), .string "threadId" thread.threadName.text,
    .string "state" thread.threadState.text, .number "priority" (fmtD thread.priority.toBitVec),
    .bool "crashed" thread.crashed ]

def threadFields (os : Os tgt) (thread : ThreadInfo tgt) : List Field :=
  threadLines thread ++ [.array "stack" ((threadFrames os thread).map frameElement)]

def threadElement (os : Os tgt) (thread : ThreadInfo tgt) : Element :=
  .object (threadFields os thread)

/-- The strings of a thread that the report shows. -/
def threadStrings (os : Os tgt) (thread : ThreadInfo tgt) : List Text :=
  [thread.threadName.text, thread.threadState.text] ++
    (threadFrames os thread).flatMap fun frame => [frame.soPath.text, frame.symName.text]

theorem forall_mem_threadStrings {os : Os tgt} {thread : ThreadInfo tgt} {P : Text → Prop} :
    (∀ s ∈ threadStrings os thread, P s) ↔ (P thread.threadName.text ∧ P thread.threadState.text) ∧
      ∀ frame ∈ threadFrames os thread, P frame.soPath.text ∧ P frame.symName.text := by
  simp only [threadStrings, List.forall_mem_append, List.forall_mem_flatMap, List.forall_mem_cons,
    List.not_mem_nil, false_imp_iff, implies_true, and_true]

theorem shows_crashed (crashed : Bool) :
    Shows (bare "crashed" (if crashed then "true" else "false")) (.bool "crashed" crashed) where
  text := by cases crashed <;> rfl
  written := Field.bool_written (by decide) crashed
  short := by cases crashed <;> decide

section Thread
variable {os : Os tgt} {thread : ThreadInfo tgt}
  (unquoted : ∀ s ∈ threadStrings os thread, Unquoted s)
include unquoted

theorem threadLines_shown : List.Forall₂ Shows
    [ bare "threadNumber" (fmtD thread.tid.toBitVec), quoted "threadId" thread.threadName.text,
      quoted "state" thread.threadState.text, bare "priority" (fmtD thread.priority.toBitVec),
      bare "crashed" (if thread.crashed then "true" else "false") ] (threadLines thread) := by
  obtain ⟨⟨name, state⟩, _⟩ := forall_mem_threadStrings.mp unquoted
  have nameShort := thread.threadName.fits
  have stateShort := thread.threadState.fits
  exact .cons (shows_fmtD (by decide) (by decide) _) <|
    .cons (shows_quoted (by decide) name (by simp; omega)) <|
    .cons (shows_quoted (by decide) state (by simp; omega)) <|
    .cons (shows_fmtD (by decide) (by decide) _) <| .cons (shows_crashed _) .nil

theorem frames_written : ∀ e ∈ (threadFrames os thread).map frameElement, e.Written := by
  intro e member
  obtain ⟨frame, inside, rfl⟩ := List.mem_map.mp member
  obtain ⟨path, name⟩ := (forall_mem_threadStrings.mp unquoted).2 frame inside
  exact (frameElement_written path name).1

theorem requote_emitCallstack :
    requote (emitCallstack os thread.backtraceState []) =
      (Field.array "stack" ((threadFrames os thread).map frameElement)).render := by
  have each := (forall_mem_threadStrings.mp unquoted).2
  unfold threadFrames at each ⊢
  unfold emitCallstack emitA
  rw [requote_group (by decide) (by decide) _ _ (by decide)]
  cases recorded : thread.backtraceState with
  | none => rfl
  | some state =>
    rw [recorded] at each
    have frames : ((stackframes os state).map (emitStackframe · [])).map requote =
        ((stackframes os state).map frameElement).map Element.text := by
      rw [List.map_map, List.map_map]
      refine List.map_congr_left fun frame member => ?_
      exact (frameElement_written (each frame member).1 (each frame member).2).2.symm
    dsimp only
    rw [requote_joinItems frames]
    simp [Field.render, Field.array, arrayText]

theorem threadElement_written : (threadElement os thread).Written ∧
    (threadElement os thread).text = requote (emitThreadInfo os thread []) := by
  have lines := threadLines_shown unquoted
  have stack : (Field.array "stack" ((threadFrames os thread).map frameElement)).Written :=
    Field.array_written (by decide) (frames_written unquoted)
  refine ⟨Element.object_written ?_, ?_⟩
  · rw [threadFields, List.forall_mem_append, List.forall_mem_singleton]
    exact ⟨written_of_shows lines, stack⟩
  · have text := emitLines_shows lines []
    have callstack := requote_emitCallstack unquoted
    simp only [threadElement, Element.object, objectText, threadFields, fieldsText_dropLast,
      emitThreadInfo, emitE, emitGroup, untilNull, emitC, List.intercalate_singleton,
      List.nil_append, requote_append, requote_cons, List.flatten_cons, List.flatten_nil,
      List.append_nil, callstack]
    rw [← List.nil_append (fieldsText _)]
    exact congrArg (fun body => '{' :: (body ++ _) ++ ['}']) text.symm

end Thread

theorem threadElement_reads (os : Os tgt) (thread : ThreadInfo tgt) :
    (threadElement os thread).Reads ↔ (∀ s ∈ threadStrings os thread, Readable s) ∧
      ∀ frame ∈ threadFrames os thread, FrameFits frame := by
  have lines : (∀ f ∈ threadLines thread, f.Reads) ↔
      Readable thread.threadName.text ∧ Readable thread.threadState.text := by
    simp only [threadLines, List.forall_mem_cons, Field.string_reads]
    exact ⟨fun all => ⟨all.2.1, all.2.2.1⟩, fun both => ⟨Field.number_reads _ _, both.1, both.2,
      Field.number_reads _ _, Field.bool_reads _ _, by simp⟩⟩
  have frames : (Field.array "stack" ((threadFrames os thread).map frameElement)).Reads ↔
      ∀ frame ∈ threadFrames os thread, FrameFits frame ∧
        Readable frame.soPath.text ∧ Readable frame.symName.text := by
    rw [Field.array_reads, List.forall_mem_map]
    exact forall₂_congr fun frame _ => frameElement_reads frame
  rw [threadElement, Element.object_reads, threadFields, List.forall_mem_append, lines,
    List.forall_mem_singleton, frames, forall_mem_threadStrings, forall₂_and]
  tauto

/-! The context, the signal and the registers. -/

def contextFields (os : Os tgt) (native_context : NativeContext tgt) (backtrace : Backtrace tgt) :
    List Field :=
  [ .string "name" (getProcessName os), .string "description" backtrace.description.text,
    .number "timestamp" (fmtLd 0 backtrace.timestamp), .string "abi" backtrace.arch.text,
    .number "pid" (fmtD backtrace.pid.toBitVec), .number "ppid" (fmtD backtrace.ppid.toBitVec),
    .number "uid" (fmtD backtrace.uid.toBitVec), .string "buildid" native_context.buildId.text,
    .string "sessionid" native_context.sessionId.text, .string "platform" "android" ]

/-- The strings of the context that the report shows. -/
def contextStrings (os : Os tgt) (native_context : NativeContext tgt) (backtrace : Backtrace tgt) :
    List Text :=
  [ getProcessName os, backtrace.description.text, backtrace.arch.text, native_context.buildId.text,
    native_context.sessionId.text ]

theorem shows_timestamp (timestamp : tgt.Word) :
    Shows (bare "timestamp" (fmtLd 0 timestamp)) (.number "timestamp" (fmtLd 0 timestamp)) where
  text := requote_bare (by decide) (fmtLd_numeral 0 timestamp).plain
  written := by
    have signed : fmtLd 0 timestamp = signedDecimal timestamp.toInt := by
      unfold fmtLd zeroPadSigned signedDecimal zeroPad
      split <;> simp
    rw [signed]
    exact Field.number_written (by decide) (number_signedDecimal _) (signedDecimal_numeral _).plain
  short := by
    have digits := fmtLd_length 0 tgt.abi.wordBits_le timestamp
    rw [bare_length]
    simp
    omega

section Context
variable {os : Os tgt} {native_context : NativeContext tgt} {backtrace : Backtrace tgt}

theorem contextLines_shown
    (unquoted : ∀ s ∈ contextStrings os native_context backtrace, Unquoted s) :
    List.Forall₂ Shows
      [ quoted "name" (getProcessName os), quoted "description" backtrace.description.text,
        bare "timestamp" (fmtLd 0 backtrace.timestamp), quoted "abi" backtrace.arch.text,
        bare "pid" (fmtD backtrace.pid.toBitVec), bare "ppid" (fmtD backtrace.ppid.toBitVec),
        bare "uid" (fmtD backtrace.uid.toBitVec), quoted "buildid" native_context.buildId.text,
        quoted "sessionid" native_context.sessionId.text ]
      (contextFields os native_context backtrace).dropLast := by
  simp only [contextStrings, List.forall_mem_cons] at unquoted
  obtain ⟨name, description, arch, buildId, sessionId, _⟩ := unquoted
  have nameShort := getProcessName_length os
  have descriptionShort := backtrace.description.fits
  have archShort := backtrace.arch.fits
  have buildShort := native_context.buildId.text_length_le
  have sessionShort := native_context.sessionId.text_length_le
  exact .cons (shows_quoted (by decide) name (by simp; omega)) <|
    .cons (shows_quoted (by decide) description (by simp; omega)) <|
    .cons (shows_timestamp _) <| .cons (shows_quoted (by decide) arch (by simp; omega)) <|
    .cons (shows_fmtD (by decide) (by decide) _) <| .cons (shows_fmtD (by decide) (by decide) _) <|
    .cons (shows_fmtD (by decide) (by decide) _) <|
    .cons (shows_quoted (by decide) buildId (by simp; omega)) <|
    .cons (shows_quoted (by decide) sessionId (by simp; omega)) .nil

theorem shows_platform : Shows (quoted "platform" "android") (.string "platform" "android") :=
  shows_quoted (by decide) (unquoted_of_plain (by decide)) (by decide)

theorem requote_emitContext
    (unquoted : ∀ s ∈ contextStrings os native_context backtrace, Unquoted s) :
    requote (emitContext os native_context backtrace []) =
      (fieldsText (contextFields os native_context backtrace)).dropLast :=
  emitLines_last (contextLines_shown unquoted) shows_platform

theorem contextFields_written
    (unquoted : ∀ s ∈ contextStrings os native_context backtrace, Unquoted s) :
    ∀ f ∈ contextFields os native_context backtrace, f.Written := by
  intro f member
  rcases List.mem_append.mp (show f ∈ (contextFields os native_context backtrace).dropLast ++
    [.string "platform" "android"] from member) with before | last
  · exact written_of_shows (contextLines_shown unquoted) f before
  · exact List.mem_singleton.mp last ▸ shows_platform.written

theorem contextFields_reads : (∀ f ∈ contextFields os native_context backtrace, f.Reads) ↔
    ∀ s ∈ contextStrings os native_context backtrace, Readable s := by
  simp only [contextFields, contextStrings, List.forall_mem_cons, Field.string_reads,
    Field.number_reads, readable_of_plain (show Plain "android" by decide), List.not_mem_nil,
    false_imp_iff, implies_true, and_true, true_and]

end Context

def signalInfoFields (siginfo : Siginfo tgt) : List Field :=
  [ .string "signalName" (getSignalDescription siginfo.siSigno (-1)),
    .number "signalCode" (fmtD siginfo.siCode.toBitVec),
    .number "faultAddress" (fmtZu siginfo.siAddr) ]

def exceptionFields (siginfo : Siginfo tgt) : List Field :=
  [ .string "name" "Native exception",
    .string "cause" (getSignalDescription siginfo.siSigno siginfo.siCode),
    .object "signalInfo" (signalInfoFields siginfo) ]

/-- The exception member. Without a siginfo the comma after its name stays. -/
def exceptionField (siginfo : Option (Siginfo tgt)) : Field :=
  match siginfo with
  | none => ⟨"exception", '{' :: fieldsText [.string "name" "Native exception"] ++ ['}'], none, True⟩
  | some siginfo => .object "exception" (exceptionFields siginfo)

theorem shows_description {key : Text} (plain : Plain key) (short : key.length ≤ 20)
    (signo code : Int32) : Shows (quoted key (getSignalDescription signo code))
      (.string key (getSignalDescription signo code)) := by
  have bound := getSignalDescription_length signo code
  exact shows_quoted plain (unquoted_of_plain (getSignalDescription_plain signo code)) (by omega)

theorem exceptionName_shown :
    Shows (quoted "name" "Native exception") (.string "name" "Native exception") :=
  shows_quoted (by decide) (unquoted_of_plain (by decide)) (by decide)

theorem exceptionLines_shown (siginfo : Siginfo tgt) : List.Forall₂ Shows
    [ quoted "name" "Native exception",
      quoted "cause" (getSignalDescription siginfo.siSigno siginfo.siCode) ]
    (exceptionFields siginfo).dropLast :=
  .cons exceptionName_shown <| .cons (shows_description (by decide) (by decide) _ _) .nil

theorem signalInfo_shown (siginfo : Siginfo tgt) : List.Forall₂ Shows
    [ quoted "signalName" (getSignalDescription siginfo.siSigno (-1)),
      bare "signalCode" (fmtD siginfo.siCode.toBitVec) ] (signalInfoFields siginfo).dropLast :=
  .cons (shows_description (by decide) (by decide) _ _) <|
    .cons (shows_fmtD (by decide) (by decide) _) .nil

theorem faultAddress_shown (siginfo : Siginfo tgt) : Shows (bare "faultAddress" (fmtZu siginfo.siAddr))
    (.number "faultAddress" (fmtZu siginfo.siAddr)) :=
  shows_fmtZu (by decide) (by decide) _

theorem signalInfo_written (siginfo : Siginfo tgt) :
    (Field.object "signalInfo" (signalInfoFields siginfo)).Written := by
  refine Field.object_written (by decide) ?_
  have before := written_of_shows (signalInfo_shown siginfo)
  simp only [signalInfoFields, List.dropLast, List.forall_mem_cons] at before ⊢
  exact ⟨before.1, before.2.1, (faultAddress_shown siginfo).written, by simp⟩

theorem exceptionField_written (siginfo : Option (Siginfo tgt)) : (exceptionField siginfo).Written := by
  unfold exceptionField
  split
  · exact ⟨show Plain "exception" by decide, Piece.trailingComma
      (List.forall_mem_singleton.mpr exceptionName_shown.written) (by simp) True⟩
  · rename_i siginfo
    refine Field.object_written (by decide) ?_
    have before := written_of_shows (exceptionLines_shown siginfo)
    simp only [exceptionFields, List.dropLast, List.forall_mem_cons] at before ⊢
    exact ⟨before.1, before.2.1, signalInfo_written siginfo, by simp⟩

theorem exceptionFields_read (siginfo : Siginfo tgt) : ∀ f ∈ exceptionFields siginfo, f.Reads := by
  have description := getSignalDescription_plain siginfo.siSigno
  have info : ∀ f ∈ signalInfoFields siginfo, f.Reads := by
    simp only [signalInfoFields, List.forall_mem_cons]
    exact ⟨Field.string_reads.mpr (readable_of_plain (description (-1))), Field.number_reads _ _,
      Field.number_reads _ _, by simp⟩
  simp only [exceptionFields, List.forall_mem_cons]
  exact ⟨Field.string_reads.mpr (readable_of_plain (by decide)),
    Field.string_reads.mpr (readable_of_plain (description siginfo.siCode)),
    Field.object_reads.mpr info, by simp⟩

theorem exceptionField_reads (siginfo : Option (Siginfo tgt)) :
    (exceptionField siginfo).Reads ↔ siginfo ≠ none := by
  cases siginfo with
  | none => exact iff_of_false (fun reads => Bool.false_ne_true reads.1) fun some => some rfl
  | some siginfo => exact iff_of_true (Field.object_reads.mpr (exceptionFields_read siginfo)) (by simp)

theorem requote_emitSignalContext (siginfo : Option (Siginfo tgt)) :
    requote (emitSignalContext siginfo []) = (exceptionField siginfo).render := by
  unfold emitSignalContext emitE
  rw [requote_group (by decide) (by decide) _ _ (by decide)]
  cases siginfo with
  | none =>
    have lines := emitLines_shows (.cons exceptionName_shown .nil) []
    simp only [emitLines, List.map_cons, List.map_nil, List.foldl_cons, List.foldl_nil] at lines
    exact congrArg (fun body => '"' :: _ ++ '"' :: ':' :: ('{' :: body ++ ['}'])) lines
  | some siginfo =>
    have lines := emitLines_shows (exceptionLines_shown siginfo) []
    have info := emitLines_last (signalInfo_shown siginfo) (faultAddress_shown siginfo)
    have whole := fieldsText_dropLast (exceptionFields siginfo).dropLast
      (.object "signalInfo" (signalInfoFields siginfo))
    simp only [emitLines, List.map_cons, List.map_nil, List.foldl_cons, List.foldl_nil,
      List.cons_append, List.nil_append, requote_nil] at lines info
    dsimp only
    rw [emitGroup_state, requote_append, lines, requote_group (by decide) (by decide) _ _ (by decide)]
    simp only [emitLines, List.foldl_cons, List.foldl_nil, info]
    exact congrArg (fun body => '"' :: _ ++ '"' :: ':' :: ('{' :: body ++ ['}'])) whole.symm

/-! The registers, each of them a numeral. -/

/-- The line shows a member that reads, whatever the register holds. -/
def ShowsRegister (line : Text) : Prop :=
  nul ∉ line ∧ ∃ f, Shows line f ∧ f.Reads

theorem register_quoted {key value : Text} (plain : Plain key) (keyShort : key.length ≤ 21)
    (numeral : Numeral value) (short : value.length ≤ 40) : ShowsRegister (quoted key value) :=
  ⟨quoted_nulFree plain numeral.plain.nulFree, .string key value,
    shows_quoted plain (unquoted_of_plain numeral.plain) (by omega),
    Field.string_reads.mpr (readable_of_plain numeral.plain)⟩

theorem register_fmtD {key : Text} (plain : Plain key) (short : key.length ≤ 20) {w : Nat}
    (value : BitVec w) : ShowsRegister (bare key (fmtD value)) :=
  ⟨bare_nulFree plain (fmtD_numeral value).plain.nulFree, _, shows_fmtD plain short value,
    Field.number_reads _ _⟩

theorem register_fmtX {key : Text} (plain : Plain key) (keyShort : key.length ≤ 21) {width : Nat}
    (narrow : width ≤ 16) {w : Nat} (value : BitVec w) :
    ShowsRegister (quoted key (fmtX width value)) := by
  have digits := fmtX_length width value
  exact register_quoted plain keyShort (fmtX_numeral width value) (by omega)

/-- The name of a register with a number. -/
theorem registerName_plain {letter : Char} (plain : isPlain letter = true) (i : Nat) :
    Plain (letter :: decimal i) := by
  intro c member
  rcases List.mem_cons.mp member with rfl | digit
  · exact plain
  · exact (decimal_numeral i).plain c digit

theorem registerName_length (letter : Char) {i : Nat} (small : i < 100) :
    (letter :: decimal i).length ≤ 21 := by
  have digits := decimal_length_le (show 0 < 2 by decide) small
  rw [List.length_cons]
  omega

theorem registerLines_i386 (m : McontextX86 32) :
    (∀ line ∈ (registerLines .i386 m).1, ShowsRegister line) ∧
      ShowsRegister (registerLines .i386 m).2 := by
  have unsigned : ∀ {key : Text} (_ : Plain key) (_ : key.length ≤ 21) (value : BitVec 32),
      ShowsRegister (quoted key (fmtLu 8 value)) := fun plain short value =>
    register_quoted plain short (fmtLu_numeral 8 value) ((fmtLu_length 8 value).trans (by decide))
  refine ⟨?_, register_fmtD (by decide) (by decide) _⟩
  simp only [registerLines, List.forall_mem_cons]
  exact ⟨unsigned (by decide) (by decide) _, unsigned (by decide) (by decide) _,
    unsigned (by decide) (by decide) _, unsigned (by decide) (by decide) _,
    unsigned (by decide) (by decide) _, unsigned (by decide) (by decide) _,
    unsigned (by decide) (by decide) _, register_fmtX (by decide) (by decide) (by decide) _,
    register_fmtX (by decide) (by decide) (by decide) _, register_fmtD (by decide) (by decide) _,
    by simp⟩

theorem registerLines_x86_64 (m : McontextX86 64) :
    (∀ line ∈ (registerLines .x86_64 m).1, ShowsRegister line) ∧
      ShowsRegister (registerLines .x86_64 m).2 := by
  refine ⟨?_, register_fmtD (by decide) (by decide) _⟩
  simp only [registerLines, List.forall_mem_append, List.forall_mem_map, List.forall_mem_cons]
  refine ⟨fun i member => ?_, register_fmtX (by decide) (by decide) (by decide) _,
    register_fmtX (by decide) (by decide) (by decide) _, register_fmtD (by decide) (by decide) _,
    by simp⟩
  have small := List.mem_range.mp member
  have digits := fmtLd_length 16 (Nat.le_refl 64) (McontextX86.gregs m i)
  exact register_quoted (registerName_plain (by decide) i) (registerName_length 'r' (by omega))
    (fmtLd_numeral 16 _) (digits.trans (by decide))

theorem registerLines_arm (thumb neon : Bool) (m : McontextArm) :
    (∀ line ∈ (registerLines (.arm thumb neon) m).1, ShowsRegister line) ∧
      ShowsRegister (registerLines (.arm thumb neon) m).2 := by
  refine ⟨?_, ?_⟩
  · simp only [registerLines, List.forall_mem_append, List.forall_mem_map, List.forall_mem_cons]
    refine ⟨fun i member => ?_, register_fmtX (by decide) (by decide) (by decide) _,
      register_fmtX (by decide) (by decide) (by decide) _,
      register_fmtX (by decide) (by decide) (by decide) _,
      register_fmtX (by decide) (by decide) (by decide) _,
      register_fmtX (by decide) (by decide) (by decide) _,
      register_fmtX (by decide) (by decide) (by decide) _, register_fmtD (by decide) (by decide) _,
      register_fmtD (by decide) (by decide) _, by simp⟩
    have small := List.mem_range.mp member
    exact register_fmtX (registerName_plain (by decide) i) (registerName_length 'r' (by omega))
      (by decide) _
  · have digits : (fmtP 0 (McontextArm.faultAddress m)).length ≤ _ := fmtP_length (by decide) _
    exact register_quoted (by decide) (by decide) (fmtP_numeral 0 _) (digits.trans (by decide))

theorem registerLines_aarch64 (m : McontextArm64) :
    (∀ line ∈ (registerLines .aarch64 m).1, ShowsRegister line) ∧
      ShowsRegister (registerLines .aarch64 m).2 := by
  refine ⟨?_, ?_⟩
  · simp only [registerLines, List.forall_mem_append, List.forall_mem_map, List.forall_mem_cons]
    refine ⟨fun i member => ?_, register_fmtX (by decide) (by decide) (by decide) _,
      register_fmtX (by decide) (by decide) (by decide) _,
      register_fmtX (by decide) (by decide) (by decide) _,
      register_fmtX (by decide) (by decide) (by decide) _, by simp⟩
    have small := List.mem_range.mp member
    exact register_fmtX (registerName_plain (by decide) i) (registerName_length 'x' (by omega))
      (by decide) _
  · have digits : (fmtP 16 (McontextArm64.faultAddress m)).length ≤ _ := fmtP_length (by decide) _
    exact register_quoted (by decide) (by decide) (fmtP_numeral 16 _) (digits.trans (by decide))

theorem registerLines_shown (abi : Abi) (m : Mcontext abi) :
    (∀ line ∈ (registerLines abi m).1, ShowsRegister line) ∧ ShowsRegister (registerLines abi m).2 := by
  cases abi with
  | i386 => exact registerLines_i386 m
  | x86_64 => exact registerLines_x86_64 m
  | arm thumb neon => exact registerLines_arm thumb neon m
  | aarch64 => exact registerLines_aarch64 m

/-- The members of lines that each show one. -/
theorem exists_shown {lines : List Text} (each : ∀ line ∈ lines, ShowsRegister line) :
    ∃ fs, List.Forall₂ Shows lines fs ∧ ∀ f ∈ fs, f.Reads := by
  induction lines with
  | nil => exact ⟨[], .nil, by simp⟩
  | cons line lines ih =>
    obtain ⟨_, f, shows, reads⟩ := each line List.mem_cons_self
    obtain ⟨fs, rest, allRead⟩ := ih fun l member => each l (List.mem_cons_of_mem line member)
    exact ⟨f :: fs, .cons shows rest, List.forall_mem_cons.mpr ⟨reads, allRead⟩⟩

theorem requote_emitRegisters (sa_ucontext : Ucontext tgt) :
    ∃ registers text, emitRegisters (some sa_ucontext) [] = some text ∧
      requote text = (Field.object "registers" registers).render ∧
      (Field.object "registers" registers).Written ∧ (Field.object "registers" registers).Reads := by
  obtain ⟨each, final⟩ := registerLines_shown tgt.abi sa_ucontext.ucMcontext
  obtain ⟨fs, shows, reads⟩ := exists_shown each
  obtain ⟨_, f, last, lastReads⟩ := final
  have text := emitLines_last shows last
  refine ⟨fs ++ [f], _, rfl, ?_, Field.object_written (by decide) ?_, Field.object_reads.mpr ?_⟩
  · unfold emitE
    rw [requote_group (by decide) (by decide) _ _ (by decide), text]
    rfl
  · exact List.forall_mem_append.mpr ⟨written_of_shows shows, List.forall_mem_singleton.mpr last.written⟩
  · exact List.forall_mem_append.mpr ⟨reads, List.forall_mem_singleton.mpr lastReads⟩

end AgentNDK
