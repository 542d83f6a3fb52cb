import AgentNDK.ReportDocument
import AgentNDK.NativeStackTrace

namespace AgentNDK
open CText JsonText
variable {tgt : Target}

/-- A string without quotation mark, apostrophe, backslash or control character. -/
def Clean (t : Text) : Prop :=
  Unquoted t ∧ controlFree t = true

theorem controlFree_append (s t : Text) : controlFree (s ++ t) = (controlFree s && controlFree t) :=
  List.all_append

theorem clean_of_plain {t : Text} (plain : Plain t) : Clean t :=
  ⟨unquoted_of_plain plain, controlFree_of_plain plain⟩

theorem Clean.append {s t : Text} (left : Clean s) (right : Clean t) : Clean (s ++ t) :=
  ⟨left.1.append right.1, by rw [controlFree_append, left.2, right.2]; rfl⟩

theorem Clean.printable {t : Text} (clean : Clean t) : Printable (.str t) :=
  .str clean.1.2 clean.2

theorem printable_fmtD {w : Nat} (value : BitVec w) : Printable (.num (fmtD value)) :=
  .num ((natAbs_toInt_lt _).trans (by decide))

theorem printable_fmtZu (value : tgt.Word) : Printable (.num (fmtZu value)) :=
  .num (show (Int.ofNat value.toNat).natAbs < 2 ^ 64 from tgt.word_lt value)

theorem member_string {t : Text} (clean : Clean t) (key : Text) :
    (Field.string key t).member = some (key, .str t) := by
  simp [Field.member, Field.string, clean.2]

theorem member_object {fs : List Field} {ms : JSONObject}
    (members : allSome (fs.map Field.member) = some ms) (key : Text) :
    (Field.object key fs).member = some (key, .obj ms) := by
  simp only [Field.member, Field.object, members, Option.map_some]

theorem member_array {es : List Element} {vs : List Json}
    (values : allSome (es.map Element.value) = some vs) (key : Text) :
    (Field.array key es).member = some (key, .arr vs) := by
  simp only [Field.member, Field.array, values, Option.map_some]

/-! The values the members of a report have. -/

def optionalMember (key value : Text) : JSONObject :=
  if value ≠ [] then [(key, .str value)] else []

def commonMembers (frame : Stackframe tgt) : JSONObject :=
  [ ("cstr", .str (frameLine frame)), ("index", .num (fmtD frame.index)),
    ("address", .num (fmtZu frame.address)), ("pc", .num (fmtZu frame.pc)),
    ("so_base", .num (fmtZu frame.soBase)), ("sym_addr", .num (fmtZu frame.symAddr)),
    ("sym_addr_offset", .num (fmtZu frame.symAddrOffset)) ]

def frameMembers (frame : Stackframe tgt) : JSONObject :=
  commonMembers frame ++ optionalMember "so_path" frame.soPath.text ++
    optionalMember "sym_name" frame.symName.text

def threadMembers (os : Os tgt) (thread : ThreadInfo tgt) : JSONObject :=
  [ ("threadNumber", .num (fmtD thread.tid.toBitVec)), ("threadId", .str thread.threadName.text),
    ("state", .str thread.threadState.text), ("priority", .num (fmtD thread.priority.toBitVec)),
    ("crashed", .bool thread.crashed),
    ("stack", .arr ((threadFrames os thread).map fun frame => .obj (frameMembers frame))) ]

theorem optionalField_members {key value : Text} (clean : Clean value) :
    (optionalField key value).map Field.member = (optionalMember key value).map some := by
  unfold optionalField optionalMember
  split
  · rw [List.map_singleton, List.map_singleton, member_string clean]
  · rfl

theorem optionalMember_keys (key value : Text) :
    (optionalMember key value).map (·.1) = [key] ∨ (optionalMember key value).map (·.1) = [] := by
  unfold optionalMember
  split
  · exact Or.inl rfl
  · exact Or.inr rfl

theorem frameMembers_keys (frame : Stackframe tgt) :
    ((frameMembers frame).map (·.1)).Nodup ∧ ∀ key ∈ (frameMembers frame).map (·.1), Plain key := by
  have common : (commonMembers frame).map (·.1) =
      (["cstr", "index", "address", "pc", "so_base", "sym_addr", "sym_addr_offset"] : List Text) := rfl
  rw [frameMembers, List.map_append, List.map_append, common]
  rcases optionalMember_keys "so_path" frame.soPath.text with path | path <;>
    rcases optionalMember_keys "sym_name" frame.symName.text with name | name <;>
    rw [path, name] <;> decide

section Frame
variable {frame : Stackframe tgt} (path : Clean frame.soPath.text) (name : Clean frame.symName.text)
include path name

theorem frameLine_clean (fits : FrameFits frame) : Clean (frameLine frame) := by
  have unquoted := frameToString_unquoted path.1 name.1
  rw [frameToString_fits fits] at unquoted
  refine ⟨unquoted, ?_⟩
  have index := controlFree_of_plain (zeroPad_numeral (fmtZu_numeral frame.index) 2).plain
  have pc := controlFree_of_plain (fmtX_numeral 16 frame.pc).plain
  have offset := controlFree_of_plain (fmtD_numeral frame.symAddrOffset).plain
  have symbol : controlFree (symbolPart frame) = true := by
    unfold symbolPart
    split
    · simp only [controlFree_append, name.2, offset]
      decide
    · rfl
  have opening : controlFree ('#' :: zeroPad 2 (fmtZu frame.index)) = true :=
    index
  simp only [frameLine, controlFree_append, opening, pc, path.2, symbol]
  decide

theorem frameElement_value (fits : FrameFits frame) :
    (frameElement frame).value = some (.obj (frameMembers frame)) := by
  have line := member_string (frameLine_clean path name fits) "cstr"
  have members : (frameFields frame).map Field.member = (frameMembers frame).map some := by
    simp only [frameFields, frameMembers, commonMembers, List.map_append, optionalField_members path,
      optionalField_members name, List.map_cons, line, frameNumbers]
    rfl
  rw [frameElement, if_pos fits, Element.object, allSome_eq_some.mpr members, Option.map_some]

theorem frameMembers_printable (fits : FrameFits frame) : Printable (.obj (frameMembers frame)) := by
  have line := (frameLine_clean path name fits).printable
  have keys := frameMembers_keys frame
  refine .obj keys.1 (fun m member => keys.2 _ (List.mem_map_of_mem member)) ?_
  have optional : ∀ {key value : Text}, Clean value → ∀ m ∈ optionalMember key value, Printable m.2 := by
    intro key value clean
    unfold optionalMember
    split
    · exact List.forall_mem_singleton.mpr clean.printable
    · simp
  simp only [frameMembers, commonMembers, List.forall_mem_append, List.forall_mem_cons]
  exact ⟨⟨⟨line, printable_fmtD _, printable_fmtZu _, printable_fmtZu _, printable_fmtZu _,
    printable_fmtZu _, printable_fmtZu _, by simp⟩, optional path⟩, optional name⟩

end Frame

section Thread
variable {os : Os tgt} {thread : ThreadInfo tgt} (clean : ∀ s ∈ threadStrings os thread, Clean s)
  (fit : ∀ frame ∈ threadFrames os thread, FrameFits frame)
include clean fit

theorem threadElement_value :
    (threadElement os thread).value = some (.obj (threadMembers os thread)) := by
  obtain ⟨⟨name, state⟩, frames⟩ := forall_mem_threadStrings.mp clean
  have stack : allSome (((threadFrames os thread).map frameElement).map Element.value) =
      some ((threadFrames os thread).map fun frame => .obj (frameMembers frame)) := by
    rw [allSome_eq_some, List.map_map, List.map_map]
    exact List.map_congr_left fun frame member =>
      frameElement_value (frames frame member).1 (frames frame member).2 (fit frame member)
  have members : (threadFields os thread).map Field.member = (threadMembers os thread).map some := by
    simp only [threadFields, threadLines, threadMembers, List.map_append, List.map_cons,
      member_string name, member_string state, member_array stack]
    rfl
  rw [threadElement, Element.object, allSome_eq_some.mpr members, Option.map_some]

theorem threadMembers_printable : Printable (.obj (threadMembers os thread)) := by
  obtain ⟨⟨name, state⟩, frames⟩ := forall_mem_threadStrings.mp clean
  have stack : Printable
      (.arr ((threadFrames os thread).map fun frame => .obj (frameMembers frame))) :=
    .arr (List.forall_mem_map.mpr fun frame member =>
      frameMembers_printable (frames frame member).1 (frames frame member).2 (fit frame member))
  have keys : (threadMembers os thread).map (·.1) =
      (["threadNumber", "threadId", "state", "priority", "crashed", "stack"] : List Text) := rfl
  refine .obj ?_ (fun m member => ?_) ?_
  · rw [keys]
    decide
  · have plain : ∀ key ∈ (threadMembers os thread).map (·.1), Plain key := by
      rw [keys]
      decide
    exact plain _ (List.mem_map_of_mem member)
  · simp only [threadMembers, List.forall_mem_cons]
    exact ⟨printable_fmtD _, name.printable, state.printable, printable_fmtD _, .bool _, stack, by simp⟩

end Thread

def signalInfoMembers (siginfo : Siginfo tgt) : JSONObject :=
  [ ("signalName", .str (getSignalDescription siginfo.siSigno (-1))),
    ("signalCode", .num (fmtD siginfo.siCode.toBitVec)),
    ("faultAddress", .num (fmtZu siginfo.siAddr)) ]

def exceptionMembers (siginfo : Siginfo tgt) : JSONObject :=
  [ ("name", .str "Native exception"),
    ("cause", .str (getSignalDescription siginfo.siSigno siginfo.siCode)),
    ("signalInfo", .obj (signalInfoMembers siginfo)) ]

theorem exceptionField_member (siginfo : Siginfo tgt) : (exceptionField (some siginfo)).member =
    some (("exception" : Text), .obj (exceptionMembers siginfo)) := by
  have description := fun code => clean_of_plain (getSignalDescription_plain siginfo.siSigno code)
  have info : allSome ((signalInfoFields siginfo).map Field.member) =
      some (signalInfoMembers siginfo) := by
    rw [allSome_eq_some, signalInfoFields, signalInfoMembers, List.map_cons,
      member_string (description (-1))]
    rfl
  have name := clean_of_plain (show Plain "Native exception" by decide)
  refine member_object ?_ "exception"
  rw [allSome_eq_some, exceptionFields, exceptionMembers]
  simp only [List.map_cons, List.map_nil, member_string name,
    member_string (description siginfo.siCode), member_object info]

/-! How the decoder reads members. -/

theorem opt_append (before after : JSONObject) (name : Text) :
    OrgJson.opt (before ++ after) name = (OrgJson.opt after name).or (OrgJson.opt before name) := by
  rw [OrgJson.opt, List.reverse_append, List.lookup_append]
  rfl

theorem opt_optionalMember (key value name : Text) : OrgJson.opt (optionalMember key value) name =
    if value ≠ [] ∧ name = key then some (.str value) else none := by
  unfold optionalMember
  by_cases empty : value = []
  · rw [if_neg (not_not.mpr empty), if_neg fun both => both.1 empty]
    rfl
  · rw [if_pos empty, OrgJson.opt, List.reverse_singleton, List.lookup_cons, List.lookup_nil]
    by_cases same : name = key
    · rw [if_pos ⟨empty, same⟩, beq_iff_eq.mpr same]
    · rw [if_neg fun both => same both.2, beq_eq_false_iff_ne.mpr same]

section Held
variable {org : OrgJson} {held : Json → Json} (holding : org.Holding held) {ms : JSONObject} {name : Text}
include holding

theorem getString_held {s : Text} (found : OrgJson.opt ms name = some (.str s)) :
    org.getString (ms.map fun m => (m.1, held m.2)) name = some s := by
  rw [OrgJson.getString, opt_held, found, Option.map_some, Option.map_some, holding.toStr_str]

theorem optBoolean_held {b : Bool} (found : OrgJson.opt ms name = some (.bool b)) (fallback : Bool) :
    org.optBoolean (ms.map fun m => (m.1, held m.2)) name fallback = b := by
  rw [OrgJson.optBoolean, opt_held, found, Option.map_some, Option.bind_some, holding.toBoolean_bool]
  rfl

theorem getInt_held {i : Int32} (found : OrgJson.opt ms name = some (.num (fmtD i.toBitVec))) :
    org.getInt (ms.map fun m => (m.1, held m.2)) name = some i.toInt := by
  rw [OrgJson.getInt, opt_held, found]
  exact holding.toInt_num i.toInt i.le_toInt i.toInt_lt

theorem getLong_held {i : Int32} (found : OrgJson.opt ms name = some (.num (fmtD i.toBitVec))) :
    org.getLong (ms.map fun m => (m.1, held m.2)) name = some i.toInt := by
  have lower := i.le_toInt
  have upper := i.toInt_lt
  rw [OrgJson.getLong, opt_held, found]
  exact holding.toLong_num i.toInt (by omega) (by omega)

theorem getLong_word {w : Nat} {value : BitVec w} (small : value.toNat < 2 ^ 63)
    (found : OrgJson.opt ms name = some (.num (fmtZu value))) :
    org.getLong (ms.map fun m => (m.1, held m.2)) name = some (value.toNat : Int) := by
  rw [OrgJson.getLong, opt_held, found]
  exact holding.toLong_num value.toNat (by omega) (by omega)

theorem getJSONObject_held {inner : JSONObject} (found : OrgJson.opt ms name = some (.obj inner)) :
    OrgJson.getJSONObject (ms.map fun m => (m.1, held m.2)) name =
      some (inner.map fun m => (m.1, held m.2)) := by
  rw [OrgJson.getJSONObject, opt_held, found, Option.map_some, holding.obj]

theorem getJSONArray_held {vs : List Json} (found : OrgJson.opt ms name = some (.arr vs)) :
    OrgJson.getJSONArray (ms.map fun m => (m.1, held m.2)) name = some (vs.map held) := by
  rw [OrgJson.getJSONArray, opt_held, found, Option.map_some, holding.arr]

end Held

/-- What a frame is decoded as. -/
def decodedFrame (frame : Stackframe tgt) : StackTraceElement where
  declaringClass := "0x" ++ hexadecimal frame.address.toNat
  methodName := if frame.symName.text = [] then "???" else frame.symName.text
  fileName :=
    if frame.soPath.text = [] then "0x" ++ hexadecimal frame.soBase.toNat else frame.soPath.text
  lineNumber := -2

/-- What a thread is decoded as. -/
def decodedThread (os : Os tgt) (thread : ThreadInfo tgt) : NativeThreadInfo where
  crashed := thread.crashed
  state := thread.threadState.text
  threadId := thread.tid.toInt
  threadName := thread.threadName.text
  threadPriority := thread.priority.toInt
  stackTrace := (threadFrames os thread).map fun frame => some (decodedFrame frame)

/-- The message of a signal up to the address. -/
def messageBeforeAddress (siginfo : Siginfo tgt) : Text :=
  getSignalDescription siginfo.siSigno (-1) ++ " (code " ++ signedDecimal siginfo.siCode.toInt ++ ") " ++
    getSignalDescription siginfo.siSigno siginfo.siCode ++ " at 0x"

/-- The message of a signal. -/
def decodedMessage (siginfo : Siginfo tgt) : Text :=
  getSignalDescription siginfo.siSigno (-1) ++ " (code " ++ signedDecimal siginfo.siCode.toInt ++ ") " ++
    getSignalDescription siginfo.siSigno siginfo.siCode ++ " at 0x" ++
    hexadecimal siginfo.siAddr.toNat

/-- The addresses the decoder reads are no Doubles. -/
def AddressesFit (os : Os tgt) (backtrace : Backtrace tgt) : Prop :=
  ∀ thread ∈ backtrace.threads, ∀ frame ∈ threadFrames os thread,
    frame.address.toNat < 2 ^ 63 ∧ frame.soBase.toNat < 2 ^ 63

theorem opt_frameMembers (frame : Stackframe tgt) (name : Text) :
    OrgJson.opt (frameMembers frame) name =
      if frame.symName.text ≠ [] ∧ name = "sym_name" then some (.str frame.symName.text)
      else if frame.soPath.text ≠ [] ∧ name = "so_path" then some (.str frame.soPath.text)
      else OrgJson.opt (commonMembers frame) name := by
  rw [frameMembers, opt_append, opt_append, opt_optionalMember, opt_optionalMember]
  split
  · rfl
  · split <;> rfl

theorem opt_frameMembers_common (frame : Stackframe tgt) (name : Text) (symName : name ≠ "sym_name")
    (soPath : name ≠ "so_path") :
    OrgJson.opt (frameMembers frame) name = OrgJson.opt (commonMembers frame) name :=
  (opt_frameMembers frame name).trans <|
    (if_neg fun both => symName both.2).trans (if_neg fun both => soPath both.2)

theorem opt_frameMembers_symName (frame : Stackframe tgt) :
    OrgJson.opt (frameMembers frame) "sym_name" =
      if frame.symName.text ≠ [] then some (.str frame.symName.text) else none := by
  have missing : OrgJson.opt (commonMembers frame) "sym_name" = none := rfl
  have found := opt_frameMembers frame "sym_name"
  by_cases named : frame.symName.text ≠ []
  · rw [if_pos named]
    exact found.trans (if_pos ⟨named, rfl⟩)
  · rw [if_neg named]
    have other : ¬ (("sym_name" : Text) = "so_path") := by decide
    exact (found.trans (if_neg fun both => named both.1)).trans
      ((if_neg fun both => other both.2).trans missing)

theorem opt_frameMembers_soPath (frame : Stackframe tgt) :
    OrgJson.opt (frameMembers frame) "so_path" =
      if frame.soPath.text ≠ [] then some (.str frame.soPath.text) else none := by
  have missing : OrgJson.opt (commonMembers frame) "so_path" = none := rfl
  have other : ¬ (("so_path" : Text) = "sym_name") := by decide
  have found := (opt_frameMembers frame "so_path").trans (if_neg fun both => other both.2)
  by_cases known : frame.soPath.text ≠ []
  · rw [if_pos known]
    exact found.trans (if_pos ⟨known, rfl⟩)
  · rw [if_neg known]
    exact (found.trans (if_neg fun both => known both.1)).trans missing

section Decoded
variable {org : OrgJson} {held : Json → Json} (holding : org.Holding held)
include holding

/-- A member the frame leaves out is read as its default. -/
theorem optString_frame {frame : Stackframe tgt} {name value : Text} (fallback : Text)
    (found : OrgJson.opt (frameMembers frame) name = if value ≠ [] then some (.str value) else none) :
    org.optString ((frameMembers frame).map fun m => (m.1, held m.2)) name fallback =
      if value = [] then fallback else value := by
  unfold OrgJson.optString
  by_cases empty : value = []
  · rw [if_pos empty, OrgJson.getString, opt_held, found, if_neg (not_not.mpr empty)]
    rfl
  · rw [if_pos empty] at found
    rw [if_neg empty, getString_held holding found]
    rfl

theorem frame_decoded {frame : Stackframe tgt}
    (small : frame.address.toNat < 2 ^ 63 ∧ frame.soBase.toNat < 2 ^ 63) :
    NativeStackFrame.fromJson org ((frameMembers frame).map fun m => (m.1, held m.2)) =
      decodedFrame frame := by
  have address := getLong_word holding small.1
    ((opt_frameMembers_common frame "address" (by decide) (by decide)).trans rfl)
  have soBase := getLong_word holding small.2
    ((opt_frameMembers_common frame "so_base" (by decide) (by decide)).trans rfl)
  have lineNumber : OrgJson.opt (frameMembers frame) "lineNumber" = none :=
    (opt_frameMembers_common frame "lineNumber" (by decide) (by decide)).trans rfl
  have symName := optString_frame holding "???" (opt_frameMembers_symName frame)
  have soPath := optString_frame holding ("0x" ++ hexadecimal frame.soBase.toNat)
    (opt_frameMembers_soPath frame)
  unfold NativeStackFrame.fromJson OrgJson.optLong OrgJson.optInt OrgJson.getInt decodedFrame
  simp only [address, soBase, opt_held, lineNumber, symName]
  congr 1

theorem stack_decoded {frames : List (Stackframe tgt)}
    (small : ∀ frame ∈ frames, frame.address.toNat < 2 ^ 63 ∧ frame.soBase.toNat < 2 ^ 63) :
    stackTraceFromJson org (some ((frames.map fun frame => .obj (frameMembers frame)).map held)) =
      frames.map fun frame => some (decodedFrame frame) := by
  rw [stackTraceFromJson, List.map_map, List.map_map]
  refine List.map_congr_left fun frame member => ?_
  rw [Function.comp_apply, Function.comp_apply, holding.obj, stackElementFromJson,
    frame_decoded holding (small frame member)]

/-- The name is read from the member the emitter calls threadId. -/
theorem thread_decoded {os : Os tgt} {thread : ThreadInfo tgt}
    (small : ∀ frame ∈ threadFrames os thread,
      frame.address.toNat < 2 ^ 63 ∧ frame.soBase.toNat < 2 ^ 63) :
    NativeThreadInfo.fromJsonObject org ((threadMembers os thread).map fun m => (m.1, held m.2)) =
      decodedThread os thread := by
  have threadNumber : OrgJson.opt (threadMembers os thread) "threadNumber" =
    some (.num (fmtD thread.tid.toBitVec)) := rfl
  have threadId : OrgJson.opt (threadMembers os thread) "threadId" =
    some (.str thread.threadName.text) := rfl
  have state : OrgJson.opt (threadMembers os thread) "state" =
    some (.str thread.threadState.text) := rfl
  have priority : OrgJson.opt (threadMembers os thread) "priority" =
    some (.num (fmtD thread.priority.toBitVec)) := rfl
  have crashed : OrgJson.opt (threadMembers os thread) "crashed" = some (.bool thread.crashed) := rfl
  have stack : OrgJson.opt (threadMembers os thread) "stack" =
    some (.arr ((threadFrames os thread).map fun frame => .obj (frameMembers frame))) := rfl
  unfold NativeThreadInfo.fromJsonObject OrgJson.optString OrgJson.optLong OrgJson.optInt decodedThread
  rw [getString_held holding threadId, getString_held holding state, getInt_held holding priority,
    getLong_held holding threadNumber, optBoolean_held holding crashed,
    getJSONArray_held holding stack, stack_decoded holding small]
  rfl

/-- The message, with whatever Long the fault address is read as. -/
theorem exception_message {siginfo : Siginfo tgt} {faultAddress : Int} {backtrace : JSONObject}
    (read : org.getLong ((signalInfoMembers siginfo).map fun m => (m.1, held m.2)) "faultAddress" =
      some faultAddress)
    (found : OrgJson.opt backtrace "exception" = some (.obj (exceptionMembers siginfo)))
    (exceptionMessage : Text) :
    decodeException org (backtrace.map fun m => (m.1, held m.2)) exceptionMessage =
      messageBeforeAddress siginfo ++ signedHexadecimal faultAddress := by
  have name : OrgJson.opt (exceptionMembers siginfo) "name" = some (.str "Native exception") := rfl
  have cause : OrgJson.opt (exceptionMembers siginfo) "cause" =
    some (.str (getSignalDescription siginfo.siSigno siginfo.siCode)) := rfl
  have signalInfo : OrgJson.opt (exceptionMembers siginfo) "signalInfo" =
    some (.obj (signalInfoMembers siginfo)) := rfl
  have signalName : OrgJson.opt (signalInfoMembers siginfo) "signalName" =
    some (.str (getSignalDescription siginfo.siSigno (-1))) := rfl
  have signalCode : OrgJson.opt (signalInfoMembers siginfo) "signalCode" =
    some (.num (fmtD siginfo.siCode.toBitVec)) := rfl
  unfold decodeException OrgJson.optString
  rw [getJSONObject_held holding found]
  dsimp only
  rw [getString_held holding name, getString_held holding cause, getJSONObject_held holding signalInfo]
  dsimp only
  rw [getString_held holding signalName, getInt_held holding signalCode, read]
  rfl

theorem exception_decoded {siginfo : Siginfo tgt} (small : siginfo.siAddr.toNat < 2 ^ 63)
    {backtrace : JSONObject}
    (found : OrgJson.opt backtrace "exception" = some (.obj (exceptionMembers siginfo)))
    (exceptionMessage : Text) :
    decodeException org (backtrace.map fun m => (m.1, held m.2)) exceptionMessage =
      decodedMessage siginfo := by
  have faultAddress : OrgJson.opt (signalInfoMembers siginfo) "faultAddress" =
    some (.num (fmtZu siginfo.siAddr)) := rfl
  rw [exception_message holding (getLong_word holding small faultAddress) found]
  rfl

end Decoded

/-- Every thread goes through its own text once more. -/
theorem threads_decoded {org : OrgJson} (lawful : org.Lawful) {os : Os tgt}
    {threads : List (ThreadInfo tgt)}
    (clean : ∀ thread ∈ threads, ∀ s ∈ threadStrings os thread, Clean s)
    (fit : ∀ thread ∈ threads, ∀ frame ∈ threadFrames os thread, FrameFits frame)
    (small : ∀ thread ∈ threads, ∀ frame ∈ threadFrames os thread,
      frame.address.toNat < 2 ^ 63 ∧ frame.soBase.toNat < 2 ^ 63) :
    NativeThreadInfo.allThreads org
      ((threads.map fun thread => .obj (threadMembers os thread)).map org.held) =
        some (threads.map (decodedThread os)) := by
  induction threads with
  | nil => rfl
  | cons thread threads ih =>
    rw [List.forall_mem_cons] at clean fit small
    have later := ih clean.2 fit.2 small.2
    have again := lawful.reparse _ (threadMembers_printable clean.1 fit.1)
    have first : NativeThreadInfo.fromJson org (org.print (org.held (.obj (threadMembers os thread)))) =
        some (decodedThread os thread) := by
      rw [NativeThreadInfo.fromJson, again, lawful.reholding.obj]
      exact congrArg some (thread_decoded lawful.reholding small.1)
    rw [lawful.holding.obj] at first
    rw [List.map_cons, List.map_cons, List.map_cons, lawful.holding.obj]
    rw [NativeThreadInfo.allThreads, first, later]
    · rfl
    · simp

section Report
variable {os : Os tgt} {native_context : NativeContext tgt} {backtrace : Backtrace tgt}

/-- The members of a report behind those the decoder passes over. -/
def backtraceMembers (os : Os tgt) (siginfo : Siginfo tgt) (threads : List (ThreadInfo tgt)) :
    JSONObject :=
  [ ("exception", .obj (exceptionMembers siginfo)),
    ("threads", .arr (threads.map fun thread => .obj (threadMembers os thread))) ]

theorem contextFields_values (clean : ∀ s ∈ contextStrings os native_context backtrace, Clean s) :
    ∀ f ∈ contextFields os native_context backtrace, f.value.isSome = true := by
  have value : ∀ {key t : Text}, Clean t → (Field.string key t).value.isSome = true := by
    intro key t clean
    rw [Field.string, if_pos clean.2]
    rfl
  simp only [contextStrings, List.forall_mem_cons] at clean
  obtain ⟨name, description, arch, buildId, sessionId, _⟩ := clean
  simp only [contextFields, List.forall_mem_cons]
  exact ⟨value name, value description, rfl, value arch, rfl, rfl, rfl, value buildId, value sessionId,
    value (clean_of_plain (by decide)), by simp⟩

theorem report_members {siginfo : Siginfo tgt} {sa_ucontext : Ucontext tgt}
    (clean : ∀ s ∈ emittedStrings os native_context backtrace, Clean s) (fit : FramesFit os backtrace)
    (signal : backtrace.state.siginfo = some siginfo)
    (given : backtrace.state.saUcontext = some sa_ucontext) :
    ∃ before, Document (emitBacktrace os native_context backtrace)
      (.obj [("backtrace", .obj (before ++ backtraceMembers os siginfo backtrace.threads))]) := by
  obtain ⟨context, threads⟩ := (forall_mem_emittedStrings given).mp clean
  have threadsUnquoted := fun thread inside s member => (threads thread inside s member).1
  obtain ⟨registers, registersWritten, reads, text⟩ :=
    emitBacktrace_context given (fun s member => (context s member).1) threadsUnquoted
  have values : ∀ f ∈ contextFields os native_context backtrace ++ [.object "registers" registers],
      f.value.isSome = true :=
    List.forall_mem_append.mpr ⟨contextFields_values context, List.forall_mem_singleton.mpr reads.1⟩
  obtain ⟨before, members⟩ := Option.isSome_iff_exists.mp (isSome_members.mpr values)
  have elements : allSome ((backtrace.threads.map (threadElement os)).map Element.value) =
      some (backtrace.threads.map fun thread => .obj (threadMembers os thread)) := by
    rw [allSome_eq_some, List.map_map, List.map_map]
    exact List.map_congr_left fun thread member =>
      threadElement_value (threads thread member) (fit thread member)
  have whole : allSome ((contextFields os native_context backtrace ++
      [Field.object "registers" registers] ++ [exceptionField (some siginfo)] ++
      [Field.array "threads" (backtrace.threads.map (threadElement os))]).map Field.member) =
      some (before ++ backtraceMembers os siginfo backtrace.threads) := by
    rw [List.map_append, List.map_singleton, allSome_snoc, List.map_append, List.map_singleton,
      allSome_snoc, members, exceptionField_member, member_array elements "threads"]
    exact congrArg some (List.append_assoc before [_] [_])
  have written : ∀ f ∈ contextFields os native_context backtrace ++ [.object "registers" registers] ++
      [exceptionField (some siginfo)] ++
      [.array "threads" (backtrace.threads.map (threadElement os))], f.Written := by
    simp only [List.forall_mem_append, List.forall_mem_singleton]
    exact ⟨⟨⟨contextFields_written fun s member => (context s member).1, registersWritten⟩,
      exceptionField_written _⟩, threadsField_written threadsUnquoted⟩
  have piece := Piece.obj (List.forall_mem_singleton.mpr
    (Field.object_written (show Plain "backtrace" by decide) written))
  refine ⟨before, parse_eq_some_iff.mp ?_⟩
  rw [text, signal, parse_of_readsAs piece.reads, List.map_singleton, member_object whole]
  rfl

/-- A report of clean strings whose frame strings fit and whose addresses are
no Doubles decodes to what it was emitted for. -/
theorem transformNativeStackTrace_emitBacktrace {org : OrgJson} (lawful : org.Lawful)
    {siginfo : Siginfo tgt} {sa_ucontext : Ucontext tgt}
    (signal : backtrace.state.siginfo = some siginfo)
    (given : backtrace.state.saUcontext = some sa_ucontext)
    (clean : ∀ s ∈ emittedStrings os native_context backtrace, Clean s) (fit : FramesFit os backtrace)
    (faultAddress : siginfo.siAddr.toNat < 2 ^ 63) (addresses : AddressesFit os backtrace) :
    transformNativeStackTrace org (emitBacktrace os native_context backtrace) =
      some
        { crashedThread := (backtrace.threads.find? (·.crashed)).map (decodedThread os)
          threads := backtrace.threads.map (decodedThread os)
          exceptionMessage := decodedMessage siginfo } := by
  obtain ⟨before, document⟩ := report_members clean fit signal given
  have exception : OrgJson.opt (before ++ backtraceMembers os siginfo backtrace.threads) "exception" =
      some (.obj (exceptionMembers siginfo)) := by
    rw [opt_append]
    rfl
  have threads : OrgJson.opt (before ++ backtraceMembers os siginfo backtrace.threads) "threads" =
      some (.arr (backtrace.threads.map fun thread => .obj (threadMembers os thread))) := by
    rw [opt_append]
    rfl
  have parsed := lawful.parse_document _ _ document
  rw [lawful.holding.obj] at parsed
  have member : OrgJson.opt [(("backtrace" : Text),
      Json.obj (before ++ backtraceMembers os siginfo backtrace.threads))] "backtrace" =
    some (.obj (before ++ backtraceMembers os siginfo backtrace.threads)) := rfl
  have strings := ((forall_mem_emittedStrings given).mp clean).2
  have decoded : decodeThreads org
      ((before ++ backtraceMembers os siginfo backtrace.threads).map fun m => (m.1, org.held m.2)) =
      backtrace.threads.map (decodedThread os) := by
    rw [decodeThreads, getJSONArray_held lawful.holding threads]
    dsimp only
    rw [threads_decoded lawful strings fit addresses]
    rfl
  unfold transformNativeStackTrace
  rw [parsed]
  dsimp only
  rw [getJSONObject_held lawful.holding member]
  dsimp only
  rw [decoded, exception_decoded lawful.holding faultAddress exception, List.find?_map]
  rfl

/-- The frames of a thread carry the recorded addresses, in order. -/
theorem threadFrames_addresses (os : Os tgt) (thread : ThreadInfo tgt) :
    (threadFrames os thread).map (·.address) =
      thread.backtraceState.elim [] BacktraceState.recorded := by
  unfold threadFrames stackframes
  cases thread.backtraceState with
  | none => rfl
  | some state =>
    have address : ∀ index ip, (transformAddrToStackframe os index ip).address = ip := by
      intro index ip
      unfold transformAddrToStackframe
      dsimp only
      split <;> rfl
    simp only [List.map_map, Function.comp_def, address]
    exact List.zipIdx_map_fst 0 state.recorded

end Report

/-- The report of a crash in a process of two threads decodes. -/
theorem running_report_decoded : transformNativeStackTrace OrgJson.verbatim
    (emitBacktrace (Os.running [6, 7] 7) (NativeContext.zeroed _) runningBacktrace) =
    some
      { crashedThread := (runningBacktrace.threads.find? (·.crashed)).map
          (decodedThread (Os.running [6, 7] 7))
        threads := runningBacktrace.threads.map (decodedThread (Os.running [6, 7] 7))
        exceptionMessage := decodedMessage (⟨11, 1, 0⟩ : Siginfo .x86Build) } := by
  have plain : ∀ s ∈ emittedStrings (Os.running [6, 7] 7) (NativeContext.zeroed _) runningBacktrace,
      Plain s := by decide +kernel
  have fit : FramesFit (Os.running [6, 7] 7) runningBacktrace := by decide +kernel
  have addresses : AddressesFit (Os.running [6, 7] 7) runningBacktrace := by
    unfold AddressesFit
    decide +kernel
  exact transformNativeStackTrace_emitBacktrace OrgJson.verbatim_lawful rfl rfl
    (fun s member => clean_of_plain (plain s member)) fit (by decide) addresses

end AgentNDK
