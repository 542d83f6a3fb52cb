import AgentNDK.AnrReports

/-! The exception of an ANR report and the two stack traces that are meant to
be woven in it, the one of the native report and the one of the main thread. -/

namespace AgentNDK
open CText JsonText Throwing

variable (org : OrgJson)

/-- The frames of the crashed thread of a report, and none without a report. -/
def crashedFrames (anrAsJson : Option Text) : List StackTraceElement :=
  (((anrAsJson.bind (transformNativeStackTrace org)).bind (·.crashedThread)).elim []
    (·.stackTrace)).filterMap id

namespace Calls

/-- `exception.stackTrace = …` stores into the field of the superclass. -/
def setStackTrace (exception : NativeException) (stackTrace : List StackTraceElement) : NativeException :=
  { exception with stackTrace := stackTrace }

/-- `createANRReport`: the exception it hands to `reportWithRetry`. -/
def createANRReport (fresh : NativeThreadInfo) (currentThread mainThread : List StackTraceElement)
    (anrAsJson : Option Text) : Except Thrown NativeException := do
  let exception ← newNativeException org fresh currentThread anrAsJson
  return setStackTrace exception mainThread

/-- What the comments say of the exception: all frames of the main thread are
exposed, and the frames of the crashed native thread with them. -/
def Woven (fresh : NativeThreadInfo) (currentThread mainThread : List StackTraceElement)
    (anrAsJson : Option Text) : Prop :=
  ∃ exception, createANRReport org fresh currentThread mainThread anrAsJson = .ok exception ∧
    (∀ frame ∈ mainThread, frame ∈ getStackTrace exception) ∧
    ∀ frame ∈ crashedFrames org anrAsJson, frame ∈ getStackTrace exception

/-- The accessor is overridden and does not read what the other one stores. -/
theorem getStackTrace_setStackTrace (exception : NativeException) (stackTrace : List StackTraceElement) :
    getStackTrace (setStackTrace exception stackTrace) = getStackTrace exception :=
  rfl

theorem newNativeException_shows (fresh : NativeThreadInfo) (currentThread : List StackTraceElement)
    {anrAsJson : Option Text} (decodes : readable org anrAsJson = true) :
    ∃ exception, newNativeException org fresh currentThread anrAsJson = .ok exception ∧
      getStackTrace exception = crashedFrames org anrAsJson := by
  cases anrAsJson with
  | none => exact ⟨_, rfl, getStackTrace_eq _⟩
  | some text =>
    obtain ⟨jsonObj, parsed⟩ := (readable_iff org _).mp decodes text rfl
    obtain ⟨trace, decoded, made⟩ := newNativeStackTrace_ok org fresh parsed
    refine ⟨_, newNativeException_ok org currentThread made, ?_⟩
    have crashed : (some text).bind (AgentNDK.transformNativeStackTrace org) = some trace := decoded
    rw [getStackTrace_eq, crashedFrames, crashed]
    rfl

/-- Whatever stack trace is set, the one that is read back is the native one. -/
theorem createANRReport_shows (fresh : NativeThreadInfo) (currentThread mainThread : List StackTraceElement)
    {anrAsJson : Option Text} (decodes : readable org anrAsJson = true) :
    ∃ exception, createANRReport org fresh currentThread mainThread anrAsJson = .ok exception ∧
      getStackTrace exception = crashedFrames org anrAsJson := by
  obtain ⟨exception, made, shown⟩ := newNativeException_shows org fresh currentThread decodes
  refine ⟨setStackTrace exception mainThread, ?_, (getStackTrace_setStackTrace _ _).trans shown⟩
  rw [createANRReport, made]
  rfl

end Calls

end AgentNDK
