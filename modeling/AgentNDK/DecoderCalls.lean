import AgentNDK.NativeStackTrace
import AgentNDK.Library.Throwing

/-! The decoder call by call: its try blocks, the fields they assign, and the
exceptions that leave them. -/

namespace AgentNDK
open CText JsonText Throwing

/-- An exception, with the message of a lookup. -/
abbrev Thrown := Option Text

/-- The fields of `NativeStackTrace` as they are declared. -/
structure NativeStackTrace.Fields where
  crashedThread : Option NativeThreadInfo
  threads : List NativeThreadInfo
  exceptionMessage : Option Text

def NativeStackTrace.Fields.declared : NativeStackTrace.Fields :=
  ⟨none, [], some "Native exception"⟩

def NativeStackTrace.fields (trace : NativeStackTrace) : NativeStackTrace.Fields :=
  ⟨trace.crashedThread, trace.threads, some trace.exceptionMessage⟩

structure NativeException where
  nativeStackTrace : Option NativeStackTrace.Fields
  stackTrace : List StackTraceElement

structure NativeCrash where
  nativeException : NativeException

/-- `NativeStackFrame`, with the element it delegates to. -/
structure NativeStackFrame where
  delegate : StackTraceElement

namespace Calls

/-- `NativeStackFrame(className)`. -/
def newNativeStackFrame (className : Text) : NativeStackFrame :=
  ⟨⟨className, "<unknown>", "<unknown>", -2⟩⟩

def isNull : Json → Bool
  | .null => true
  | _ => false

section
variable {σ : Type} (org : OrgJson)

/-- A lookup that throws when there is nothing to be found under the name. -/
def lookup {α : Type} (o : JSONObject) (name : Text) (found : Option α) : Method Thrown σ α :=
  orThrow (some (org.message o name)) found

def getJSONObject (o : JSONObject) (name : Text) : Method Thrown σ JSONObject :=
  lookup org o name (OrgJson.getJSONObject o name)

def getJSONArray (o : JSONObject) (name : Text) : Method Thrown σ (List Json) :=
  lookup org o name (OrgJson.getJSONArray o name)

def getString (o : JSONObject) (name : Text) : Method Thrown σ Text :=
  lookup org o name (org.getString o name)

def getInt (o : JSONObject) (name : Text) : Method Thrown σ Int :=
  lookup org o name (org.getInt o name)

def getLong (o : JSONObject) (name : Text) : Method Thrown σ Int :=
  lookup org o name (org.getLong o name)

/-- `JSONObject(text)`. -/
def newJSONObject (text : Text) : Method Thrown σ JSONObject :=
  match org.parse text with
  | some (.obj ms) => pure ms
  | _ => throw none

/-- `get(i) as JSONObject`. -/
def asJSONObject : Json → Method Thrown σ JSONObject
  | .obj ms => pure ms
  | _ => throw none

/-- `NativeStackFrame().fromJson(frame)`: every lookup in it has a fallback. -/
def stackFrameFromJson (frame : JSONObject) : NativeStackFrame :=
  { newNativeStackFrame "<native>" with delegate := NativeStackFrame.fromJson org frame }

/-- The body of the loop in `stackTraceFromJson`. -/
def storeFrame (element : Json) (i : Nat) : Method Thrown (List (Option StackTraceElement)) Unit := do
  if !isNull element then
    try
      let frame ← asJSONObject element
      modify (·.set i (some (stackFrameFromJson org frame).delegate))
    catch _ =>
      modify (·.set i (some ⟨"<unknown>", "<unknown>", "<unknown>", -2⟩))

def storeFrames : List Json → Nat → Method Thrown (List (Option StackTraceElement)) Unit
  | [], _ => pure ()
  | element :: rest, i => do
    storeFrame org element i
    storeFrames rest (i + 1)

def stackTraceFromJson (allFrames : Option (List Json)) : List (Option StackTraceElement) :=
  after (ignoring do
    match allFrames with
    | none => pure ()
    | some frames =>
      set (List.replicate frames.length (none : Option StackTraceElement))
      storeFrames org frames 0 : Method Thrown (List (Option StackTraceElement)) Unit) []

def fromJsonObject (jsonObject : Option JSONObject) : Method Thrown NativeThreadInfo Unit :=
  match jsonObject with
  | none => pure ()
  | some jsonObject => ignoring do
      modify fun info => { info with crashed := org.optBoolean jsonObject "crashed" false }
      modify fun info => { info with state := org.optString jsonObject "state" "" }
      modify fun info => { info with threadId := org.optLong jsonObject "threadNumber" 0 }
      modify fun info => { info with threadName := org.optString jsonObject "threadId" "" }
      modify fun info => { info with threadPriority := org.optInt jsonObject "priority" (-1) }
      modify fun info => { info with
        stackTrace := stackTraceFromJson org (OrgJson.getJSONArray jsonObject "stack") }

/-- `fromJson(threadInfoAsJsonStr)`. -/
def fromJson (threadInfoAsJsonStr : Option Text) : Method Thrown NativeThreadInfo Unit := do
  match threadInfoAsJsonStr with
  | none => fromJsonObject org none
  | some text =>
    let jsonObject ← newJSONObject org text
    fromJsonObject org (some jsonObject)

/-- The constructor from a text; `fresh` has the fields the one without
arguments leaves. -/
def newNativeThreadInfo (fresh : NativeThreadInfo) (threadInfoAsJson : Text) :
    Except Thrown NativeThreadInfo :=
  construct (fromJson org (some threadInfoAsJson)) fresh

def allThreads (fresh : NativeThreadInfo) : List Json → Method Thrown σ (List NativeThreadInfo)
  | [] => pure []
  | element :: rest => do
    if isNull element then allThreads fresh rest
    else
      let threadInfo ← make (newNativeThreadInfo org fresh (org.print element))
      let threads ← allThreads fresh rest
      return threadInfo :: threads

/-- The two inner try blocks. -/
def readException (backtrace : JSONObject) : Method Thrown NativeStackTrace.Fields Unit := do
  let exception ← getJSONObject org backtrace "exception"
  let cause := org.optString exception "cause" ""
  let name ← getString org exception "name"
  modify fun trace => { trace with exceptionMessage := some (name ++ ": " ++ cause) }
  let signalInfo ← getJSONObject org exception "signalInfo"
  let signalName ← getString org signalInfo "signalName"
  let signalCode ← getInt org signalInfo "signalCode"
  let faultAddress ← getLong org signalInfo "faultAddress"
  modify fun trace => { trace with exceptionMessage := some (signalName ++ " (code " ++
    signedDecimal signalCode ++ ") " ++ cause ++ " at 0x" ++ signedHexadecimal faultAddress) }

def readThreads (fresh : NativeThreadInfo) (backtrace : JSONObject) :
    Method Thrown NativeStackTrace.Fields Unit := do
  let elements ← getJSONArray org backtrace "threads"
  let threads ← allThreads org fresh elements
  modify fun trace => { trace with threads := threads }
  modify fun trace => { trace with crashedThread := trace.threads.find? (·.crashed) }

def transformNativeStackTraceJson (fresh : NativeThreadInfo) (jsonObj : JSONObject) :
    Method Thrown NativeStackTrace.Fields Unit := do
  try
    let backtrace ← getJSONObject org jsonObj "backtrace"
    ignoring (readException org backtrace)
    ignoring (readThreads org fresh backtrace)
  catch e =>
    modify fun trace => { trace with exceptionMessage := some (e.getD "null") }

/-- The text is parsed before the first try block. -/
def transformNativeStackTrace (fresh : NativeThreadInfo) (stackTraceAsString : Text) :
    Method Thrown NativeStackTrace.Fields Unit := do
  let jsonObj ← newJSONObject org stackTraceAsString
  transformNativeStackTraceJson org fresh jsonObj

def newNativeStackTrace (fresh : NativeThreadInfo) (stackTraceAsString : Option Text) :
    Except Thrown NativeStackTrace.Fields :=
  construct (match stackTraceAsString with
    | none => pure ()
    | some text => transformNativeStackTrace org fresh text) NativeStackTrace.Fields.declared

/-- `getStackTrace()`: the loop over the stack of the crashed thread. -/
def getStackTrace (exception : NativeException) : List StackTraceElement :=
  match exception.nativeStackTrace with
  | none => []
  | some trace =>
    match trace.crashedThread with
    | none => []
    | some thread => thread.stackTrace.foldl
        (fun elements element => match element with
          | some element => elements ++ [element]
          | none => elements) []

/-- The initialiser of NativeException on the thread with this stack trace. -/
def initException (fresh : NativeThreadInfo) (currentThread : List StackTraceElement)
    (stackTraceAsJson : Option Text) : Method Thrown NativeException Unit := do
  modify fun exception => { exception with stackTrace := currentThread }
  match stackTraceAsJson with
  | none => pure ()
  | some text =>
    let trace ← make (newNativeStackTrace org fresh (some text))
    modify fun exception => { exception with nativeStackTrace := some trace }
    modify fun exception => { exception with stackTrace := getStackTrace exception }

def newNativeException (fresh : NativeThreadInfo) (currentThread : List StackTraceElement)
    (stackTraceAsJson : Option Text) : Except Thrown NativeException :=
  construct (initException org fresh currentThread stackTraceAsJson) ⟨none, []⟩

/-- The constructor from a text; `superCrash` is the one of the superclass. -/
def newNativeCrash (superCrash : NativeException → Except Thrown Unit) (fresh : NativeThreadInfo)
    (currentThread : List StackTraceElement) (crashAsJson : Text) : Except Thrown NativeCrash := do
  let nativeException ← newNativeException org fresh currentThread (some crashAsJson)
  superCrash nativeException
  return ⟨nativeException⟩

/-! What the calls come to. -/

theorem storeFrame_run (element : Json) (i : Nat) (stack : List (Option StackTraceElement)) :
    (storeFrame org element i).run stack =
      .ok () (if isNull element then stack else stack.set i (stackElementFromJson org element)) := by
  cases element <;> rfl

/-- The loop fills the array from the front, whatever the elements are. -/
theorem storeFrames_run (elements : List Json) (stored : List (Option StackTraceElement)) :
    (storeFrames org elements stored.length).run (stored ++ List.replicate elements.length none) =
      .ok () (stored ++ elements.map (AgentNDK.stackElementFromJson org)) := by
  induction elements generalizing stored with
  | nil => rfl
  | cons element rest ih =>
    have placed : (if isNull element then stored ++ List.replicate (rest.length + 1) none
        else (stored ++ List.replicate (rest.length + 1) none).set stored.length
          (stackElementFromJson org element)) =
        stored ++ [stackElementFromJson org element] ++ List.replicate rest.length none := by
      cases element <;> simp [isNull, stackElementFromJson, List.replicate_succ]
    have later := ih (stored ++ [stackElementFromJson org element])
    rw [List.length_append, List.length_singleton] at later
    rw [storeFrames, List.length_cons, run_bind_ok (storeFrame_run org element _ _), placed, later,
      List.map_cons, List.append_assoc, List.singleton_append]

theorem stackTraceFromJson_eq (allFrames : Option (List Json)) :
    stackTraceFromJson org allFrames = AgentNDK.stackTraceFromJson org allFrames := by
  cases allFrames with
  | none => rfl
  | some frames =>
    have filled := storeFrames_run org frames []
    rw [List.length_nil, List.nil_append, List.nil_append] at filled
    exact (after_of_ok (run_ignoring _ _)).trans
      (after_of_ok ((run_bind_ok (run_set _ _) _).trans filled))

theorem fromJsonObject_run (jsonObject : JSONObject) (info : NativeThreadInfo) :
    (fromJsonObject org (some jsonObject)).run info =
      .ok () (NativeThreadInfo.fromJsonObject org jsonObject) := by
  unfold NativeThreadInfo.fromJsonObject
  rw [← stackTraceFromJson_eq]
  rfl

theorem newJSONObject_ok {text : Text} {jsonObject : JSONObject}
    (parsed : org.parse text = some (.obj jsonObject)) (s : σ) :
    (newJSONObject org text).run s = .ok jsonObject s := by
  rw [newJSONObject, parsed, run_pure]

theorem newJSONObject_error {text : Text} (unread : ∀ ms, org.parse text ≠ some (.obj ms)) (s : σ) :
    (newJSONObject org text : Method Thrown σ JSONObject).run s = .error none s := by
  unfold newJSONObject
  split
  · rename_i ms parsed
    exact absurd parsed (unread ms)
  · rfl

theorem newNativeThreadInfo_eq (fresh : NativeThreadInfo) (text : Text) :
    newNativeThreadInfo org fresh text =
      match NativeThreadInfo.fromJson org text with
      | some info => .ok info
      | none => .error none := by
  by_cases read : ∃ ms, org.parse text = some (.obj ms)
  · obtain ⟨jsonObject, parsed⟩ := read
    rw [NativeThreadInfo.fromJson, parsed]
    exact construct_of_ok ((run_bind_ok (newJSONObject_ok org parsed _) _).trans
      (fromJsonObject_run org jsonObject fresh))
  · have unread := not_exists.mp read
    have none : NativeThreadInfo.fromJson org text = none := by
      unfold NativeThreadInfo.fromJson
      split
      · rename_i ms parsed
        exact absurd parsed (unread ms)
      · rfl
    rw [none]
    exact construct_of_error (run_bind_error (newJSONObject_error org unread _) _)

theorem allThreads_run (fresh : NativeThreadInfo) (elements : List Json) (s : σ) :
    (allThreads org fresh elements).run s =
      match NativeThreadInfo.allThreads org elements with
      | some threads => .ok threads s
      | none => .error none s := by
  induction elements with
  | nil => rfl
  | cons element rest ih =>
    by_cases null : element = .null
    · subst null
      exact ih
    · have shown : isNull element = false := by
        cases element <;> simp_all [isNull]
      rw [allThreads, shown, if_neg (by decide), newNativeThreadInfo_eq,
        NativeThreadInfo.allThreads.eq_3 org element rest null]
      cases NativeThreadInfo.fromJson org (org.print element) with
      | none => rfl
      | some info =>
        rw [make, run_bind_ok (run_pure _ _)]
        cases later : NativeThreadInfo.allThreads org rest with
        | none =>
          rw [later] at ih
          exact run_bind_error ih _
        | some threads =>
          rw [later] at ih
          exact run_bind_ok ih _

/-- A lookup that finds something goes on, one that does not throws. -/
theorem run_lookup_bind {α β : Type} (o : JSONObject) (name : Text) (found : Option α)
    (next : α → Method Thrown σ β) (s : σ) : (lookup org o name found >>= next).run s =
      match found with
      | some a => (next a).run s
      | none => .error (some (org.message o name)) s := by
  cases found <;> rfl

/-- However far the exception member is read, the message is the one of the
last assignment reached. -/
theorem readException_after (backtrace : JSONObject) (crashedThread : Option NativeThreadInfo)
    (threads : List NativeThreadInfo) (message : Text) :
    after (readException org backtrace) ⟨crashedThread, threads, some message⟩ =
      ⟨crashedThread, threads, some (decodeException org backtrace message)⟩ := by
  unfold after readException decodeException getJSONObject getString getInt getLong
  rw [run_lookup_bind]
  cases OrgJson.getJSONObject backtrace "exception" with
  | none => rfl
  | some exception =>
    dsimp only
    rw [run_lookup_bind]
    cases org.getString exception "name" with
    | none => rfl
    | some name =>
      dsimp only
      rw [run_bind_ok (run_modify _ _), run_lookup_bind]
      cases OrgJson.getJSONObject exception "signalInfo" with
      | none => rfl
      | some signalInfo =>
        dsimp only
        rw [run_lookup_bind]
        cases org.getString signalInfo "signalName" with
        | none => rfl
        | some signalName =>
          dsimp only
          rw [run_lookup_bind]
          cases org.getInt signalInfo "signalCode" with
          | none => rfl
          | some signalCode =>
            dsimp only
            rw [run_lookup_bind]
            cases org.getLong signalInfo "faultAddress" <;> rfl

theorem readThreads_after (fresh : NativeThreadInfo) (backtrace : JSONObject) (message : Option Text) :
    after (readThreads org fresh backtrace) ⟨none, [], message⟩ =
      ⟨(decodeThreads org backtrace).find? (·.crashed), decodeThreads org backtrace, message⟩ := by
  unfold after readThreads decodeThreads getJSONArray
  rw [run_lookup_bind]
  cases OrgJson.getJSONArray backtrace "threads" with
  | none => rfl
  | some elements =>
    dsimp only
    have read := allThreads_run org fresh elements (⟨none, [], message⟩ : NativeStackTrace.Fields)
    cases decoded : NativeThreadInfo.allThreads org elements with
    | none =>
      rw [decoded] at read
      rw [run_bind_error read]
      rfl
    | some threads =>
      rw [decoded] at read
      rw [run_bind_ok read]
      rfl

/-- The try blocks catch what is thrown in them, and leave the fields that
`transformNativeStackTrace` of the decoder computes. -/
theorem transformNativeStackTraceJson_run (fresh : NativeThreadInfo) (jsonObj : JSONObject) :
    (transformNativeStackTraceJson org fresh jsonObj).run NativeStackTrace.Fields.declared =
      .ok () (match OrgJson.getJSONObject jsonObj "backtrace" with
        | none => ⟨none, [], some (org.message jsonObj "backtrace")⟩
        | some backtrace => ⟨(decodeThreads org backtrace).find? (·.crashed), decodeThreads org backtrace,
            some (decodeException org backtrace "Native exception")⟩) := by
  unfold transformNativeStackTraceJson
  cases found : OrgJson.getJSONObject jsonObj "backtrace" with
  | none =>
    refine (run_catch_error (t := NativeStackTrace.Fields.declared)
      (e := some (org.message jsonObj "backtrace")) ?_ _).trans rfl
    unfold getJSONObject
    rw [run_lookup_bind, found]
  | some backtrace =>
    refine run_catch_ok ?_ _
    unfold getJSONObject
    rw [run_lookup_bind, found]
    dsimp only
    rw [run_bind_ok (run_ignoring _ _), run_ignoring, NativeStackTrace.Fields.declared,
      readException_after, readThreads_after]

theorem newNativeStackTrace_error (fresh : NativeThreadInfo) {text : Text}
    (unread : ∀ ms, org.parse text ≠ some (.obj ms)) :
    newNativeStackTrace org fresh (some text) = .error none :=
  construct_of_error (run_bind_error (newJSONObject_error org unread _) _)

theorem newNativeStackTrace_ok (fresh : NativeThreadInfo) {text : Text} {jsonObj : JSONObject}
    (parsed : org.parse text = some (.obj jsonObj)) : ∃ trace,
      AgentNDK.transformNativeStackTrace org text = some trace ∧
        newNativeStackTrace org fresh (some text) = .ok trace.fields := by
  have made := construct_of_ok ((run_bind_ok (newJSONObject_ok org parsed _) _).trans
    (transformNativeStackTraceJson_run org fresh jsonObj))
  unfold AgentNDK.transformNativeStackTrace newNativeStackTrace
  rw [parsed]
  dsimp only
  cases found : OrgJson.getJSONObject jsonObj "backtrace" with
  | none =>
    rw [found] at made
    exact ⟨_, rfl, made⟩
  | some backtrace =>
    rw [found] at made
    exact ⟨_, rfl, made⟩

/-- An object of NativeException for every one of NativeStackTrace, and none
without. -/
theorem newNativeException_ok {fresh : NativeThreadInfo} (currentThread : List StackTraceElement)
    {text : Text} {trace : NativeStackTrace.Fields}
    (made : newNativeStackTrace org fresh (some text) = .ok trace) :
    newNativeException org fresh currentThread (some text) =
      .ok ⟨some trace, getStackTrace ⟨some trace, currentThread⟩⟩ := by
  unfold newNativeException initException
  dsimp only
  rw [made]
  rfl

theorem newNativeException_error {fresh : NativeThreadInfo} (currentThread : List StackTraceElement)
    {text : Text} {e : Thrown} (threw : newNativeStackTrace org fresh (some text) = .error e) :
    newNativeException org fresh currentThread (some text) = .error e := by
  unfold newNativeException initException
  dsimp only
  rw [threw]
  rfl

/-- The fields of a thread info that nothing was read into. -/
def freshThreadInfo : NativeThreadInfo :=
  ⟨false, [], 0, [], -1, []⟩

/-- The three constructors throw nothing and set the message. -/
def Yields (superCrash : NativeException → Except Thrown Unit) (fresh : NativeThreadInfo)
    (currentThread : List StackTraceElement) (text : Text) : Prop :=
  (∃ trace, newNativeStackTrace org fresh (some text) = .ok trace ∧ trace.exceptionMessage ≠ none) ∧
    (∃ exception trace, newNativeException org fresh currentThread (some text) = .ok exception ∧
      exception.nativeStackTrace = some trace ∧ trace.exceptionMessage ≠ none) ∧
    ∃ crash trace, newNativeCrash org superCrash fresh currentThread text = .ok crash ∧
      crash.nativeException.nativeStackTrace = some trace ∧ trace.exceptionMessage ≠ none

/-- No text survives that the parser does not read as an object: it is parsed
outside of every try block. Every other error on the way is caught. -/
theorem yields_iff {superCrash : NativeException → Except Thrown Unit}
    (returns : ∀ exception, superCrash exception = .ok ()) (fresh : NativeThreadInfo)
    (currentThread : List StackTraceElement) (text : Text) :
    Yields org superCrash fresh currentThread text ↔ ∃ ms, org.parse text = some (.obj ms) := by
  constructor
  · rintro ⟨⟨trace, made, _⟩, _⟩
    by_contra unread
    rw [newNativeStackTrace_error org fresh (not_exists.mp unread)] at made
    cases made
  · rintro ⟨jsonObj, parsed⟩
    obtain ⟨trace, _, made⟩ := newNativeStackTrace_ok org fresh parsed
    have exception := newNativeException_ok org currentThread made
    have message : trace.fields.exceptionMessage ≠ none := Option.some_ne_none _
    have crash : newNativeCrash org superCrash fresh currentThread text =
        .ok ⟨⟨some trace.fields, getStackTrace ⟨some trace.fields, currentThread⟩⟩⟩ := by
      rw [newNativeCrash, exception]
      show (superCrash _ >>= fun _ => pure _) = _
      rw [returns]
      rfl
    exact ⟨⟨_, made, message⟩, ⟨_, _, exception, rfl, message⟩, _, _, crash, rfl, message⟩

/-- The empty object is an object. -/
theorem yields_empty : Yields OrgJson.verbatim (fun _ => .ok ()) freshThreadInfo [] "\x7b\x7d" :=
  (yields_iff OrgJson.verbatim (fun _ => rfl) freshThreadInfo [] "\x7b\x7d").mpr
    ⟨[], by rfl⟩

/-- The parser's exception leaves the constructor for a text that is no JSON. -/
theorem unread_not_yields :
    ¬ Yields OrgJson.verbatim (fun _ => .ok ()) freshThreadInfo [] "not json" := by
  have unread : (OrgJson.verbatim.parse "not json").isNone = true := by decide +kernel
  rintro ⟨⟨trace, made, _⟩, _⟩
  rw [newNativeStackTrace_error] at made
  · cases made
  · intro ms parsed
    rw [parsed] at unread
    exact Bool.false_ne_true unread

theorem getStackTrace_eq (exception : NativeException) : getStackTrace exception =
    ((exception.nativeStackTrace.bind (·.crashedThread)).elim [] (·.stackTrace)).filterMap id := by
  have loop : ∀ (stack : List (Option StackTraceElement)) (elements : List StackTraceElement),
      stack.foldl (fun elements element => match element with
        | some element => elements ++ [element]
        | none => elements) elements = elements ++ stack.filterMap id := by
    intro stack
    induction stack with
    | nil => simp
    | cons element rest ih =>
      intro elements
      rw [List.foldl_cons, ih]
      cases element <;> simp
  obtain ⟨nativeStackTrace, _⟩ := exception
  unfold getStackTrace
  rcases nativeStackTrace with _ | ⟨_ | thread, _, _⟩
  · rfl
  · rfl
  · exact loop thread.stackTrace []

/-- What an element of the array that is not null is decoded to. -/
def elementOf (element : Json) : StackTraceElement :=
  (AgentNDK.stackElementFromJson org element).getD ⟨"<unknown>", "<unknown>", "<unknown>", -2⟩

theorem stackElementFromJson_eq (element : Json) : AgentNDK.stackElementFromJson org element =
    if isNull element then none else some (elementOf org element) := by
  cases element <;> rfl

/-- Position by position the decoded stack depends on the element there alone,
and what a NativeException shows is the stack of its crashed thread without
the nulls, in order. -/
theorem stack_by_position : ∃ decode : Json → StackTraceElement,
    (∀ (jsonObject : JSONObject) (elements : List Json) (info : NativeThreadInfo),
      OrgJson.getJSONArray jsonObject "stack" = some elements →
      ∃ decoded, (fromJsonObject org (some jsonObject)).run info = .ok () decoded ∧
        decoded.stackTrace.length = elements.length ∧
        ∀ (i : Nat) (element : Json), elements[i]? = some element →
          decoded.stackTrace[i]? = some (if isNull element then none else some (decode element))) ∧
    ∀ exception : NativeException, getStackTrace exception =
      ((exception.nativeStackTrace.bind (·.crashedThread)).elim [] (·.stackTrace)).filterMap id := by
  refine ⟨elementOf org, ?_, getStackTrace_eq⟩
  intro jsonObject elements info array
  have stack : (NativeThreadInfo.fromJsonObject org jsonObject).stackTrace =
      elements.map (AgentNDK.stackElementFromJson org) := by
    rw [NativeThreadInfo.fromJsonObject, array]
    rfl
  refine ⟨_, fromJsonObject_run org jsonObject info, by rw [stack, List.length_map], ?_⟩
  intro i element placed
  rw [stack, List.getElem?_map, placed, Option.map_some, stackElementFromJson_eq]

end

/-- A stack of a null, a number and an object without members. -/
theorem stack_by_position_mixed : ∃ (decode : Json → StackTraceElement) (decoded : NativeThreadInfo),
    (fromJsonObject OrgJson.verbatim (some [("stack", .arr [.null, .num "3", .obj []])])).run
      freshThreadInfo = .ok () decoded ∧ decoded.stackTrace.length = 3 ∧
    ∀ (i : Nat) (element : Json), [Json.null, .num "3", .obj []][i]? = some element →
      decoded.stackTrace[i]? = some (if isNull element then none else some (decode element)) := by
  obtain ⟨decode, positions, _⟩ := stack_by_position OrgJson.verbatim
  obtain ⟨decoded, made, length, each⟩ := positions [("stack", .arr [.null, .num "3", .obj []])]
    [.null, .num "3", .obj []] freshThreadInfo rfl
  exact ⟨decode, decoded, made, length, each⟩

end Calls

end AgentNDK
