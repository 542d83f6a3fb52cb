import AgentNDK.Jni

namespace AgentNDK
open CText
variable {tgt : Target}

/-- `native_context_t`, as far as the reports and their storage use it. -/
structure NativeContext (tgt : Target) where
  reportPathAbsolute : CharBuffer tgt.pathMax
  sessionId : CharBuffer 40
  buildId : CharBuffer 40
  anrMonitorEnabled : Bool

/-- `static native_context_t instance = {}`. -/
def NativeContext.zeroed (tgt : Target) : NativeContext tgt where
  reportPathAbsolute := CharBuffer.zeroed tgt.pathMax
  sessionId := CharBuffer.zeroed 40
  buildId := CharBuffer.zeroed 40
  anrMonitorEnabled := false

/-- Conditions the native context from a passed JVM ManagedContext instance.
Each `strncpy` reads its source through the pointer it is given. -/
def setNativeContext (env : Option JNIEnv) (managedContext : Option Jobject)
    (native_context : NativeContext tgt) : Except Fault (NativeContext tgt) :=
  match managedContext with
  | none => .ok native_context
  | some _ => do
    let managedContextClass := envGetObjectClass env managedContext
    let fileClass := envFindClass env (some "java/io/File")
    let absolutePathMethodId :=
      envGetMethodid env fileClass (some "getAbsolutePath") (some "()Ljava/lang/String;")
    let reportsDir := envGetFieldid env managedContextClass (some "reportsDir") (some "Ljava/io/File;")
    let fileObject := envGetObjectField env managedContext reportsDir
    let pathObject := envCallObjectMethod env fileObject absolutePathMethodId
    let reportsPath ← deref (envGetStringUTFChars env pathObject)
    let native_context := { native_context with
      reportPathAbsolute :=
        native_context.reportPathAbsolute.strncpy reportsPath (tgt.pathMax - 1) (Nat.sub_le ..) }
    let fieldId := envGetFieldid env managedContextClass (some "sessionId") (some "Ljava/lang/String;")
    let fieldObject := envGetObjectField env managedContext fieldId
    let sessionId ← deref (envGetStringUTFChars env fieldObject)
    let native_context := { native_context with
      sessionId := native_context.sessionId.strncpy sessionId 39 (by decide) }
    let fieldId := envGetFieldid env managedContextClass (some "buildId") (some "Ljava/lang/String;")
    let fieldObject := envGetObjectField env managedContext fieldId
    let buildId ← deref (envGetStringUTFChars env fieldObject)
    let native_context := { native_context with
      buildId := native_context.buildId.strncpy buildId 39 (by decide) }
    let fieldId := envGetFieldid env managedContextClass (some "anrMonitor") (some "Z")
    return { native_context with
      anrMonitorEnabled := envGetBooleanField env managedContext fieldId }

/-- The contexts that calls of `set_native_context` leave behind. -/
inductive NativeContext.Reached : NativeContext tgt → Prop
  | zeroed : Reached (NativeContext.zeroed tgt)
  | set {env managedContext before after} : Reached before →
      setNativeContext env managedContext before = .ok after → Reached after

/-- The last cell of a buffer, which no copy reaches, still holds its NUL. -/
def Closed {size : Nat} (b : CharBuffer size) : Prop :=
  b.cells.drop (size - 1) = [nul]

theorem Closed.terminated {size : Nat} {b : CharBuffer size} (closed : Closed b) : b.Terminated :=
  List.mem_of_mem_drop (closed ▸ List.mem_singleton_self nul)

theorem zeroed_closed {size : Nat} (positive : 0 < size) : Closed (CharBuffer.zeroed size) := by
  unfold Closed CharBuffer.zeroed
  rw [List.drop_replicate, show size - (size - 1) = 1 by omega]
  rfl

theorem Closed.strncpy {size : Nat} {b : CharBuffer size} (closed : Closed b) (src : Text)
    (room : size - 1 ≤ size) : Closed (b.strncpy src (size - 1) room) :=
  (strncpy_drop src).trans closed

structure NativeContext.Closed (c : NativeContext tgt) : Prop where
  reportPathAbsolute : AgentNDK.Closed c.reportPathAbsolute
  sessionId : AgentNDK.Closed c.sessionId
  buildId : AgentNDK.Closed c.buildId

/-- The three strings are NUL-terminated. -/
def NativeContext.Terminated (c : NativeContext tgt) : Prop :=
  c.reportPathAbsolute.Terminated ∧ c.sessionId.Terminated ∧ c.buildId.Terminated

/-- The context with these strings copied into it. -/
def NativeContext.copied (c : NativeContext tgt) (reportsPath sessionId buildId : Text)
    (anrMonitor : Bool) : NativeContext tgt where
  reportPathAbsolute := c.reportPathAbsolute.strncpy reportsPath (tgt.pathMax - 1) (Nat.sub_le ..)
  sessionId := c.sessionId.strncpy sessionId 39 (by decide)
  buildId := c.buildId.strncpy buildId 39 (by decide)
  anrMonitorEnabled := anrMonitor

theorem copied_closed {c : NativeContext tgt} (closed : c.Closed) (reportsPath sessionId buildId : Text)
    (anrMonitor : Bool) : (c.copied reportsPath sessionId buildId anrMonitor).Closed where
  reportPathAbsolute := closed.reportPathAbsolute.strncpy reportsPath (Nat.sub_le ..)
  sessionId := closed.sessionId.strncpy sessionId (by decide)
  buildId := closed.buildId.strncpy buildId (by decide)

/-- A call that completes has copied three strings, or was given no context. -/
theorem setNativeContext_ok {env : Option JNIEnv} {managedContext : Option Jobject}
    {before after : NativeContext tgt} (completed : setNativeContext env managedContext before = .ok after) :
    after = before ∨ ∃ reportsPath sessionId buildId anrMonitor,
      after = before.copied reportsPath sessionId buildId anrMonitor := by
  unfold setNativeContext at completed
  split at completed
  · cases completed
    exact Or.inl rfl
  · obtain ⟨reportsPath, _, completed⟩ := deref_bind_eq_ok.mp completed
    obtain ⟨sessionId, _, completed⟩ := deref_bind_eq_ok.mp completed
    obtain ⟨buildId, _, completed⟩ := deref_bind_eq_ok.mp completed
    cases completed
    exact Or.inr ⟨reportsPath, sessionId, buildId, _, rfl⟩

theorem NativeContext.Reached.closed {c : NativeContext tgt} (reached : c.Reached) : c.Closed := by
  induction reached with
  | zeroed => exact ⟨zeroed_closed tgt.pathMaxPos, zeroed_closed (by decide), zeroed_closed (by decide)⟩
  | set _ completed closed =>
    rcases setNativeContext_ok completed with same | ⟨_, _, _, _, copied⟩
    · exact same ▸ closed
    · exact copied ▸ copied_closed closed _ _ _ _

theorem NativeContext.Reached.terminated {c : NativeContext tgt} (reached : c.Reached) : c.Terminated :=
  ⟨reached.closed.reportPathAbsolute.terminated, reached.closed.sessionId.terminated,
    reached.closed.buildId.terminated⟩

/-- On a managed context, the three strings are copied through the pointers
that stand for its fields. -/
theorem setNativeContext_reads {env : JNIEnv} {object : Jobject} {m : ManagedContext}
    (reads : env.Reads object m) (c : NativeContext tgt) :
    setNativeContext (some env) (some object) c = (do
      let reportsPath ← deref m.reportsDir
      let sessionId ← deref m.sessionId
      let buildId ← deref m.buildId
      return c.copied reportsPath sessionId buildId m.anrMonitor) := by
  obtain ⟨dirField, hasDir, isFile⟩ := reads.reportsDir
  obtain ⟨sessionField, hasSession, isSession⟩ := reads.sessionId
  obtain ⟨buildField, hasBuild, isBuild⟩ := reads.buildId
  obtain ⟨anrField, hasAnr, isAnr⟩ := reads.anrMonitor
  have object_field : ∀ field, envGetObjectField (some env) (some object) (some field) =
      env.getObjectField object field := fun _ => rfl
  have boolean_field : ∀ field, envGetBooleanField (some env) (some object) (some field) =
      env.getBooleanField object field := fun _ => rfl
  unfold setNativeContext
  simp only [envGetFieldid_of_hasField hasDir, envGetFieldid_of_hasField hasSession,
    envGetFieldid_of_hasField hasBuild, envGetFieldid_of_hasField hasAnr, object_field, boolean_field,
    path_of_isFile isFile, envGetStringUTFChars_of_isString isSession,
    envGetStringUTFChars_of_isString isBuild, isAnr]
  rfl

/-- The call completes with terminated strings exactly when none of the three
fields is null. -/
theorem setNativeContext_completes_iff {env : JNIEnv} {object : Jobject} {m : ManagedContext}
    (reads : env.Reads object m) {c : NativeContext tgt} (reached : c.Reached) :
    (∃ next, setNativeContext (some env) (some object) c = .ok next ∧ next.Terminated) ↔
      m.reportsDir ≠ none ∧ m.sessionId ≠ none ∧ m.buildId ≠ none := by
  constructor
  · rintro ⟨next, completed, _⟩
    rw [setNativeContext_reads reads] at completed
    obtain ⟨reportsPath, dir, completed⟩ := deref_bind_eq_ok.mp completed
    obtain ⟨sessionId, session, completed⟩ := deref_bind_eq_ok.mp completed
    obtain ⟨buildId, build, _⟩ := deref_bind_eq_ok.mp completed
    simp [dir, session, build]
  · rintro ⟨dir, session, build⟩
    obtain ⟨reportsPath, dir⟩ := Option.ne_none_iff_exists'.mp dir
    obtain ⟨sessionId, session⟩ := Option.ne_none_iff_exists'.mp session
    obtain ⟨buildId, build⟩ := Option.ne_none_iff_exists'.mp build
    have completed := setNativeContext_reads reads c
    rw [dir, session, build] at completed
    exact ⟨_, completed, (NativeContext.Reached.set reached completed).terminated⟩

/-- A JVM that holds one managed context: object 1, with its file and strings
behind it. -/
def JNIEnv.holding (m : ManagedContext) : JNIEnv where
  findClass name := if name = "java/io/File" then some 2 else none
  getObjectClass object := if object = 1 then some 1 else none
  getFieldID jclass name _ :=
    if jclass = 1 then
      [(("reportsDir" : Text), 1), ("sessionId", 2), ("buildId", 3), ("anrMonitor", 4)].lookup name
    else none
  getMethodID jclass name _ := if jclass = 2 ∧ name = "getAbsolutePath" then some 1 else none
  callObjectMethod object _ := if object = 2 then some 3 else none
  getObjectField _ field :=
    match field with
    | 1 => m.reportsDir.map fun _ => 2
    | 2 => m.sessionId.map fun _ => 4
    | 3 => m.buildId.map fun _ => 5
    | _ => none
  getBooleanField _ _ := m.anrMonitor
  getStringUTFChars string :=
    match string with
    | 3 => m.reportsDir
    | 4 => m.sessionId
    | 5 => m.buildId
    | _ => none

theorem holding_reads (m : ManagedContext) : (JNIEnv.holding m).Reads 1 m := by
  obtain ⟨reportsDir, sessionId, buildId, anrMonitor⟩ := m
  exact
    { reportsDir := by
        refine ⟨1, ⟨1, rfl, rfl⟩, ?_⟩
        cases reportsDir with
        | none => rfl
        | some path => exact ⟨2, 2, 1, rfl, rfl, rfl, 3, rfl, rfl⟩
      sessionId := by
        refine ⟨2, ⟨1, rfl, rfl⟩, ?_⟩
        cases sessionId with
        | none => rfl
        | some text => exact ⟨4, rfl, rfl⟩
      buildId := by
        refine ⟨3, ⟨1, rfl, rfl⟩, ?_⟩
        cases buildId with
        | none => rfl
        | some text => exact ⟨5, rfl, rfl⟩
      anrMonitor := ⟨4, ⟨1, rfl, rfl⟩, rfl⟩ }

theorem setNativeContext_completes_given :
    ∃ next : NativeContext .arm64Build,
      setNativeContext (some (.holding ⟨some "/data/cache", some "session", some "build", true⟩))
        (some 1) (NativeContext.zeroed _) = .ok next ∧ next.Terminated :=
  (setNativeContext_completes_iff (holding_reads _) .zeroed).mpr ⟨by simp, by simp, by simp⟩

/-- The session id a ManagedContext has by default is null. -/
theorem setNativeContext_default_faults :
    ¬ ∃ next : NativeContext .arm64Build,
      setNativeContext (some (.holding ⟨some "/data/cache", none, none, true⟩)) (some 1)
        (NativeContext.zeroed _) = .ok next ∧ next.Terminated := by
  rintro ⟨next, completed, _⟩
  rw [setNativeContext_reads (holding_reads _)] at completed
  obtain ⟨_, _, completed⟩ := deref_bind_eq_ok.mp completed
  obtain ⟨_, session, _⟩ := deref_bind_eq_ok.mp completed
  cases session

end AgentNDK
