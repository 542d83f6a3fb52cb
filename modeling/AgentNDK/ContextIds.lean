import AgentNDK.CollectBacktrace

namespace AgentNDK
open CText JsonText
variable {tgt : Target}

section Report
variable (os : Os tgt) (backtrace : Backtrace tgt)

/-- What the context is emitted with before the two ids. -/
def linesBeforeIds : List Text :=
  [ quoted "name" (getProcessName os) ++ [','],
    quoted "description" backtrace.description.text ++ [','],
    bare "timestamp" (fmtLd 0 backtrace.timestamp) ++ [','],
    quoted "abi" backtrace.arch.text ++ [','],
    bare "pid" (fmtD backtrace.pid.toBitVec) ++ [','],
    bare "ppid" (fmtD backtrace.ppid.toBitVec) ++ [','],
    bare "uid" (fmtD backtrace.uid.toBitVec) ++ [','] ]

/-- The members of the report after its context. -/
def membersAfterContext : List Text :=
  untilNull [ emitRegisters backtrace.state.saUcontext [],
    some (emitSignalContext backtrace.state.siginfo []), some (emitThreadState os backtrace []), none ]

/-- The report up to the two ids, which it does not depend on. -/
def reportBeforeIds : Text :=
  requote ("\x7b'backtrace':\x7b" ++ emitLines [] (linesBeforeIds os backtrace))

/-- The report after them. -/
def reportAfterIds : Text :=
  requote (quoted "platform" "android" ++
    ((membersAfterContext os backtrace).map (',' :: ·)).flatten ++ "\x7d\x7d")

/-- The two members with their commas. -/
def idMembers (buildId sessionId : Text) : Text :=
  fieldsText [.string "buildid" buildId, .string "sessionid" sessionId]

/-- The report has exactly these values for the two ids. -/
def CarriesIds (report buildId sessionId : Text) : Prop :=
  report = reportBeforeIds os backtrace ++ idMembers buildId sessionId ++ reportAfterIds os backtrace

end Report

theorem intercalate_comma (first : Text) (rest : List Text) :
    List.intercalate [','] (first :: rest) = first ++ (rest.map (',' :: ·)).flatten := by
  induction rest generalizing first with
  | nil => simp [List.intercalate_singleton]
  | cons second rest ih =>
    rw [List.intercalate_cons_cons, ih]
    simp

/-- The apostrophes around a value become quotation marks, and so do those in it. -/
theorem requote_quoted_value {key : Text} (plain : Plain key) (value : Text) :
    requote (quoted key value) = (Field.string key (requote value)).render := by
  simp [quoted, Field.render, Field.string, requote_plain plain]

section Emitted
variable {os : Os tgt} {native_context : NativeContext tgt} {backtrace : Backtrace tgt}

/-- The ids are emitted as they stand in the context, but for their apostrophes. -/
theorem emitBacktrace_ids : CarriesIds os backtrace (emitBacktrace os native_context backtrace)
    (requote native_context.buildId.text) (requote native_context.sessionId.text) := by
  have buildShort := native_context.buildId.text_length_le
  have sessionShort := native_context.sessionId.text_length_le
  have fits : ∀ key value : Text, key.length + value.length ≤ 2040 →
      (quoted key value ++ [',']).take 2047 = quoted key value ++ [','] := by
    intro key value small
    refine List.take_of_length_le ?_
    rw [List.length_append, quoted_length, List.length_singleton]
    omega
  have context : emitContext os native_context backtrace [] =
      emitLines [] (linesBeforeIds os backtrace) ++
        (quoted "buildid" native_context.buildId.text ++ [',']) ++
        (quoted "sessionid" native_context.sessionId.text ++ [',']) ++ quoted "platform" "android" := by
    have split : emitContext os native_context backtrace [] =
        emitF (emitF (emitF (emitLines [] (linesBeforeIds os backtrace))
          (quoted "buildid" native_context.buildId.text ++ [',']))
          (quoted "sessionid" native_context.sessionId.text ++ [','])) (quoted "platform" "android") := rfl
    have platform : (quoted "platform" "android").take 2047 = quoted "platform" "android" := by decide
    rw [split, emitF, emitF, emitF, platform, fits _ _ (by simp; omega), fits _ _ (by simp; omega)]
  have named : emitF ['{'] ('\'' :: ("backtrace" : Text) ++ "':") = "\x7b'backtrace':" := by decide
  unfold CarriesIds emitBacktrace emitE emitGroup
  dsimp only
  rw [named, untilNull, intercalate_comma, context]
  unfold reportBeforeIds reportAfterIds idMembers membersAfterContext fieldsText
  simp only [requote_append, requote_cons, List.map_cons, List.map_nil, List.flatten_cons,
    List.flatten_nil, requote_quoted_value (show Plain "buildid" by decide),
    requote_quoted_value (show Plain "sessionid" by decide)]
  simp

theorem idMembers_eq (buildId sessionId : Text) : idMembers buildId sessionId =
    ("\"buildid\":\"" : Text) ++
      (buildId ++ (("\",\"sessionid\":\"" : Text) ++ (sessionId ++ ("\"," : Text)))) := by
  simp [idMembers, fieldsText, Field.render, Field.string]

/-- No other values that are at least as long are carried. -/
theorem carriesIds_iff {report value other value' other' : Text}
    (carries : CarriesIds os backtrace report value other) (short : value.length ≤ value'.length)
    (short' : other.length ≤ other'.length) :
    CarriesIds os backtrace report value' other' ↔ value = value' ∧ other = other' := by
  constructor
  · intro carries'
    have members := List.append_cancel_left (List.append_cancel_right (carries.symm.trans carries'))
    rw [idMembers_eq, idMembers_eq] at members
    have inner := List.append_cancel_left members
    have equal : value.length = value'.length := by
      have lengths := congrArg List.length inner
      simp only [List.length_append] at lengths
      omega
    obtain ⟨same, rest⟩ := List.append_inj inner equal
    exact ⟨same, List.append_cancel_right (List.append_cancel_left rest)⟩
  · rintro ⟨rfl, rfl⟩
    exact carries

end Emitted

/-- The id fits the buffer and its terminator, has no apostrophe, and as any
string from the JVM no NUL. -/
def KeptWhole (id : Text) : Prop :=
  id.length ≤ 39 ∧ '\'' ∉ id ∧ nul ∉ id

instance (id : Text) : Decidable (KeptWhole id) :=
  inferInstanceAs (Decidable (_ ∧ _ ∧ _))

/-- What a copy into a buffer of the context leaves there, whatever was in it. -/
theorem Closed.text_strncpy {b : CharBuffer 40} (closed : Closed b) (src : Text) :
    (b.strncpy src 39 (by decide)).text = (cstr src).take 39 := by
  have cells : (b.strncpy src 39 (by decide)).cells = (cstr src).take 39 ++
      (List.replicate (39 - (cstr src).length) nul ++ [nul]) := by
    dsimp only [CharBuffer.strncpy]
    rw [CText.strncpy, List.append_assoc]
    exact congrArg _ (congrArg _ closed)
  have free : nul ∉ (cstr src).take 39 := fun member =>
    nul_not_mem_cstr src (List.mem_of_mem_take member)
  rw [CharBuffer.text, cells, ← List.replicate_succ', List.replicate_succ]
  exact cstr_append_nul free _

theorem emitted_copy_iff (id : Text) : requote ((cstr id).take 39) = id ↔ KeptWhole id := by
  constructor
  · intro same
    have lengths := congrArg List.length same
    rw [requote_length, List.length_take] at lengths
    have whole : (cstr id).length ≤ id.length := strlen_le_length id
    have full : (cstr id).length = id.length := by omega
    have uncut : cstr id = id := (List.takeWhile_sublist _).eq_of_length full
    refine ⟨by omega, fun member => ?_, fun member => nul_not_mem_cstr id (uncut.symm ▸ member)⟩
    rw [← same] at member
    obtain ⟨c, _, quote⟩ := List.mem_map.mp member
    split at quote
    · cases quote
    · contradiction
  · rintro ⟨short, unquoted, free⟩
    rw [cstr_of_nulFree free, List.take_of_length_le short, requote_eq unquoted]

theorem emitBacktrace_copied {before : NativeContext tgt} (reached : before.Reached)
    (path sessionId buildId : Text) (anrMonitor : Bool) (os : Os tgt) (backtrace : Backtrace tgt) :
    CarriesIds os backtrace
      (emitBacktrace os (before.copied path sessionId buildId anrMonitor) backtrace)
      (requote ((cstr buildId).take 39)) (requote ((cstr sessionId).take 39)) := by
  rw [← reached.closed.buildId.text_strncpy, ← reached.closed.sessionId.text_strncpy]
  exact emitBacktrace_ids

theorem copied_carriesIds_iff {before : NativeContext tgt} (reached : before.Reached)
    (path sessionId buildId : Text) (anrMonitor : Bool) (os : Os tgt) (backtrace : Backtrace tgt) :
    CarriesIds os backtrace
        (emitBacktrace os (before.copied path sessionId buildId anrMonitor) backtrace) buildId sessionId ↔
      KeptWhole buildId ∧ KeptWhole sessionId := by
  have copy_length : ∀ id : Text, (requote ((cstr id).take 39)).length ≤ id.length := by
    intro id
    rw [requote_length]
    exact ((List.take_sublist _ _).trans (List.takeWhile_sublist _)).length_le
  have carries := emitBacktrace_copied reached path sessionId buildId anrMonitor os backtrace
  rw [carriesIds_iff carries (copy_length _) (copy_length _), emitted_copy_iff, emitted_copy_iff]

section Calls
variable {env : JNIEnv} {object : Jobject} {m : ManagedContext} {path sessionId buildId : Text}

theorem setNativeContext_strings (reads : env.Reads object m) (dir : m.reportsDir = some path)
    (session : m.sessionId = some sessionId) (build : m.buildId = some buildId)
    (before : NativeContext tgt) : setNativeContext (some env) (some object) before =
      .ok (before.copied path sessionId buildId m.anrMonitor) := by
  rw [setNativeContext_reads reads, dir, session, build]
  rfl

end Calls

/-- An id of the length the documentation gives. -/
def longId : Text :=
  "0123456789abcdef0123456789abcdef01234567"

/-- The context after a call with two such ids. -/
def longContext : NativeContext .x86Build :=
  (NativeContext.zeroed _).copied "/data/cache" longId longId true

theorem longContext_reached : longContext.Reached :=
  .set .zeroed (setNativeContext_strings (holding_reads ⟨some "/data/cache", some longId, some longId, true⟩)
    rfl rfl rfl (NativeContext.zeroed _))

end AgentNDK
