import AgentNDK.OrgJson

namespace AgentNDK
open CText JsonText

structure StackTraceElement where
  declaringClass : Text
  methodName : Text
  fileName : Text
  lineNumber : Int
  deriving DecidableEq

/-- `NativeThreadInfo`, with the fields decoding sets. -/
structure NativeThreadInfo where
  crashed : Bool
  state : Text
  threadId : Int
  threadName : Text
  threadPriority : Int
  /-- null where the array has a JSON null -/
  stackTrace : List (Option StackTraceElement)
  deriving DecidableEq

structure NativeStackTrace where
  crashedThread : Option NativeThreadInfo
  threads : List NativeThreadInfo
  exceptionMessage : Text
  deriving DecidableEq

section
variable (org : OrgJson)

/-- `NativeStackFrame.fromJson`: the delegate it builds. -/
def NativeStackFrame.fromJson (frame : JSONObject) : StackTraceElement where
  declaringClass :=
    "0x" ++ signedHexadecimal (org.optLong frame "address" (org.optLong frame "so_base" (-1)))
  methodName := org.optString frame "sym_name" "???"
  fileName := org.optString frame "so_path"
    ("0x" ++ signedHexadecimal (org.optLong frame "so_base" (-1)))
  lineNumber := org.optInt frame "lineNumber" (-2)

/-- One element of the stack array; what is no object becomes `<unknown>`. -/
def stackElementFromJson : Json → Option StackTraceElement
  | .null => none
  | .obj frame => some (NativeStackFrame.fromJson org frame)
  | _ => some ⟨"<unknown>", "<unknown>", "<unknown>", -2⟩

def stackTraceFromJson (allFrames : Option (List Json)) : List (Option StackTraceElement) :=
  match allFrames with
  | none => []
  | some frames => frames.map (stackElementFromJson org)

def NativeThreadInfo.fromJsonObject (jsonObject : JSONObject) : NativeThreadInfo where
  crashed := org.optBoolean jsonObject "crashed" false
  state := org.optString jsonObject "state" ""
  threadId := org.optLong jsonObject "threadNumber" 0
  threadName := org.optString jsonObject "threadId" ""
  threadPriority := org.optInt jsonObject "priority" (-1)
  stackTrace := stackTraceFromJson org (OrgJson.getJSONArray jsonObject "stack")

/-- The constructor from a text, which throws when that is no JSON object. -/
def NativeThreadInfo.fromJson (threadInfoAsJson : Text) : Option NativeThreadInfo :=
  match org.parse threadInfoAsJson with
  | some (.obj jsonObject) => some (NativeThreadInfo.fromJsonObject org jsonObject)
  | _ => none

/-- Every element but the nulls, by way of its text; one that is no object
ends the loop with an exception. -/
def NativeThreadInfo.allThreads : List Json → Option (List NativeThreadInfo)
  | [] => some []
  | .null :: rest => allThreads rest
  | element :: rest => do
    let threadInfo ← NativeThreadInfo.fromJson org (org.print element)
    let threads ← allThreads rest
    return threadInfo :: threads

/-- The message after the exception member was read as far as it goes. -/
def decodeException (backtrace : JSONObject) (exceptionMessage : Text) : Text :=
  match OrgJson.getJSONObject backtrace "exception" with
  | none => exceptionMessage
  | some exception =>
    let cause := org.optString exception "cause" ""
    match org.getString exception "name" with
    | none => exceptionMessage
    | some name =>
      let exceptionMessage := name ++ ": " ++ cause
      match OrgJson.getJSONObject exception "signalInfo" with
      | none => exceptionMessage
      | some signalInfo =>
        match org.getString signalInfo "signalName", org.getInt signalInfo "signalCode",
            org.getLong signalInfo "faultAddress" with
        | some signalName, some signalCode, some faultAddress =>
          signalName ++ " (code " ++ signedDecimal signalCode ++ ") " ++ cause ++ " at 0x" ++
            signedHexadecimal faultAddress
        | _, _, _ => exceptionMessage

/-- The threads, unless one of them cannot be read. -/
def decodeThreads (backtrace : JSONObject) : List NativeThreadInfo :=
  match OrgJson.getJSONArray backtrace "threads" with
  | none => []
  | some elements => (NativeThreadInfo.allThreads org elements).getD []

/-- The constructor from a report. A text that is no JSON object is an
exception; an object without a backtrace is one in the message only. -/
def transformNativeStackTrace (stackTraceAsString : Text) : Option NativeStackTrace :=
  match org.parse stackTraceAsString with
  | some (.obj jsonObj) =>
    match OrgJson.getJSONObject jsonObj "backtrace" with
    | none => some ⟨none, [], org.message jsonObj "backtrace"⟩
    | some backtrace =>
      let threads := decodeThreads org backtrace
      some ⟨threads.find? (·.crashed), threads, decodeException org backtrace "Native exception"⟩
  | _ => none

end

end AgentNDK
