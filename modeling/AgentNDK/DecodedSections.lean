import AgentNDK.DecoderCalls

/-! The two sections of a report, its exception and its threads, are decoded
apart: what is wrong with the one is not seen in what the other yields. -/

namespace AgentNDK
open CText JsonText Throwing

namespace OrgJson

theorem getJSONObject_congr {o o' : JSONObject} {name : Text} (same : opt o name = opt o' name) :
    getJSONObject o name = getJSONObject o' name := by
  rw [getJSONObject, same, getJSONObject]

theorem getJSONArray_congr {o o' : JSONObject} {name : Text} (same : opt o name = opt o' name) :
    getJSONArray o name = getJSONArray o' name := by
  rw [getJSONArray, same, getJSONArray]

end OrgJson

variable (org : OrgJson)

theorem decodeThreads_congr {backtrace backtrace' : JSONObject}
    (same : OrgJson.opt backtrace "threads" = OrgJson.opt backtrace' "threads") :
    decodeThreads org backtrace = decodeThreads org backtrace' := by
  rw [decodeThreads, OrgJson.getJSONArray_congr same, decodeThreads]

theorem decodeException_congr {backtrace backtrace' : JSONObject}
    (same : OrgJson.opt backtrace "exception" = OrgJson.opt backtrace' "exception") (message : Text) :
    decodeException org backtrace message = decodeException org backtrace' message := by
  rw [decodeException, OrgJson.getJSONObject_congr same, decodeException]

/-- A report with a backtrace object, which is the one of these members. -/
def HasBacktrace (text : Text) (backtrace : JSONObject) : Prop :=
  ∃ jsonObj, org.parse text = some (.obj jsonObj) ∧
    OrgJson.getJSONObject jsonObj "backtrace" = some backtrace

namespace Calls

/-- Each field is decoded from one member of the backtrace. -/
theorem newNativeStackTrace_backtrace (fresh : NativeThreadInfo) {text : Text} {backtrace : JSONObject}
    (report : HasBacktrace org text backtrace) : newNativeStackTrace org fresh (some text) =
      .ok ⟨(decodeThreads org backtrace).find? (·.crashed), decodeThreads org backtrace,
        some (decodeException org backtrace "Native exception")⟩ := by
  obtain ⟨jsonObj, parsed, found⟩ := report
  have read := transformNativeStackTraceJson_run org fresh jsonObj
  rw [found] at read
  exact construct_of_ok ((run_bind_ok (newJSONObject_ok org parsed _) _).trans read)

/-- Two reports that agree on their threads are decoded to the same threads and
the same crashed thread, and two that agree on their exception to the same
message, whatever stands under the other name or is missing there. -/
theorem sections_apart (fresh : NativeThreadInfo) {text text' : Text} {backtrace backtrace' : JSONObject}
    (report : HasBacktrace org text backtrace) (report' : HasBacktrace org text' backtrace') :
    ∃ trace trace' : NativeStackTrace.Fields,
      newNativeStackTrace org fresh (some text) = .ok trace ∧
      newNativeStackTrace org fresh (some text') = .ok trace' ∧
      (OrgJson.opt backtrace "threads" = OrgJson.opt backtrace' "threads" →
        trace.threads = trace'.threads ∧ trace.crashedThread = trace'.crashedThread) ∧
      (OrgJson.opt backtrace "exception" = OrgJson.opt backtrace' "exception" →
        trace.exceptionMessage = trace'.exceptionMessage) ∧
      trace.crashedThread = trace.threads.find? (·.crashed) := by
  refine ⟨_, _, newNativeStackTrace_backtrace org fresh report,
    newNativeStackTrace_backtrace org fresh report', ?_, ?_, rfl⟩
  · intro same
    have threads := decodeThreads_congr org same
    exact ⟨threads, congrArg (List.find? (·.crashed)) threads⟩
  · intro same
    exact congrArg some (decodeException_congr org same _)

/-- A crashed thread, once without an exception and once with one that is a
number. -/
theorem sections_apart_number : ∃ trace trace' : NativeStackTrace.Fields,
    newNativeStackTrace OrgJson.verbatim freshThreadInfo
      (some "\x7b\"backtrace\":\x7b\"threads\":[\x7b\"crashed\":true\x7d]\x7d\x7d") = .ok trace ∧
    newNativeStackTrace OrgJson.verbatim freshThreadInfo
      (some "\x7b\"backtrace\":\x7b\"threads\":[\x7b\"crashed\":true\x7d],\"exception\":1\x7d\x7d") =
        .ok trace' ∧
    trace.threads = trace'.threads ∧ trace.crashedThread = trace'.crashedThread := by
  have report : HasBacktrace OrgJson.verbatim
      "\x7b\"backtrace\":\x7b\"threads\":[\x7b\"crashed\":true\x7d]\x7d\x7d"
      [("threads", .arr [.obj [("crashed", .bool true)]])] := ⟨_, by rfl, by rfl⟩
  have report' : HasBacktrace OrgJson.verbatim
      "\x7b\"backtrace\":\x7b\"threads\":[\x7b\"crashed\":true\x7d],\"exception\":1\x7d\x7d"
      [("threads", .arr [.obj [("crashed", .bool true)]]), ("exception", .num "1")] :=
    ⟨_, by rfl, by rfl⟩
  obtain ⟨trace, trace', made, made', threads, _, _⟩ :=
    sections_apart OrgJson.verbatim freshThreadInfo report report'
  exact ⟨trace, trace', made, made', threads rfl⟩

end Calls

end AgentNDK
