import AgentNDK.Library.PendingCalls
import AgentNDK.DelegateCalls
import AgentNDK.NativeContext

namespace AgentNDK
open CText PendingCalls
variable {tgt : Target} {α : Type}

/-- The functions of a JNIEnv that the wrappers call. -/
inductive JniFunction
  | findClass (name : Text)
  | getObjectClass (object : Jobject)
  | getFieldID (jclass : Jclass) (name sig : Text)
  | getMethodID (jclass : Jclass) (name sig : Text)
  | callVoidMethod (object : Jobject) (method : JmethodID) (argument : Option Jobject)
  | callObjectMethod (object : Jobject) (method : JmethodID)
  | newObject (jclass : Jclass) (method : JmethodID)
  | newGlobalRef (object : Jobject)
  | deleteGlobalRef (object : Jobject)
  | newStringUTF (cstr : Text)
  | getObjectField (object : Jobject) (field : JfieldID)
  | getBooleanField (object : Jobject) (field : JfieldID)
  | getStringUTFChars (string : Jobject)

/-- What a function returns, by its type. -/
structure JniValue where
  pointer : Option Nat
  boolean : Bool
  chars : Option Text

/-- The virtual machine behind a JNIEnv. -/
abbrev JavaVM := Environment JniFunction JniValue

abbrev JniProgram := Program Fault JniFunction

namespace Jni

def envCheckAndClearEx (env : Option JavaVM) : JniProgram Bool :=
  match env with
  | none => return false
  | some _ => do
    if ← exceptionCheck then
      exceptionClear
      return true
    else return false

/-- What the wrappers have in common: without an environment or an argument that
they test they return what stands for null. -/
def wrapped (env : Option JavaVM) (function : Option JniFunction) (value : JniValue → α) (null : α) :
    JniProgram α :=
  match env, function with
  | some vm, some function => do
    let result ← call vm function
    let _ ← envCheckAndClearEx env
    return value result
  | _, _ => return null

section Wrappers
variable (env : Option JavaVM)

def envFindClass (className : Option Text) : JniProgram (Option Jclass) :=
  wrapped env (do return .findClass (← className)) JniValue.pointer none

def envGetObjectClass (object : Option Jobject) : JniProgram (Option Jclass) :=
  wrapped env (do return .getObjectClass (← object)) JniValue.pointer none

def envGetFieldid (jclass : Option Jclass) (fieldName fieldSig : Option Text) : JniProgram (Option JfieldID) :=
  wrapped env (do return .getFieldID (← jclass) (← fieldName) (← fieldSig)) JniValue.pointer none

def envGetMethodid (jclass : Option Jclass) (methodName methodSig : Option Text) :
    JniProgram (Option JmethodID) :=
  wrapped env (do return .getMethodID (← jclass) (← methodName) (← methodSig)) JniValue.pointer none

def envCallVoidMethod (object : Option Jobject) (method : Option JmethodID) (argument : Option Jobject) :
    JniProgram Unit :=
  wrapped env (do return .callVoidMethod (← object) (← method) argument) (fun _ => ()) ()

def envCallObjectMethod (object : Option Jobject) (method : Option JmethodID) : JniProgram (Option Jobject) :=
  wrapped env (do return .callObjectMethod (← object) (← method)) JniValue.pointer none

def envNewObject (jclass : Option Jclass) (method : Option JmethodID) : JniProgram (Option Jobject) :=
  wrapped env (do return .newObject (← jclass) (← method)) JniValue.pointer none

def envNewGlobalRef (object : Option Jobject) : JniProgram (Option Jobject) :=
  wrapped env (do return .newGlobalRef (← object)) JniValue.pointer none

def envDeleteGlobalRef (object : Option Jobject) : JniProgram Unit :=
  wrapped env (do return .deleteGlobalRef (← object)) (fun _ => ()) ()

def envNewStringUtf (cstr : Option Text) : JniProgram (Option Jobject) :=
  wrapped env (do return .newStringUTF (← cstr)) JniValue.pointer none

def envGetObjectField (object : Option Jobject) (field : Option JfieldID) : JniProgram (Option Jobject) :=
  wrapped env (do return .getObjectField (← object) (← field)) JniValue.pointer none

def envGetBooleanField (object : Option Jobject) (field : Option JfieldID) : JniProgram Bool :=
  wrapped env (do return .getBooleanField (← object) (← field)) JniValue.boolean false

def envGetStringUTFChars (string : Option Jobject) : JniProgram (Option Text) :=
  wrapped env (do return .getStringUTFChars (← string)) JniValue.chars none

/-- `bind_delegate`, call by call. -/
def bindDelegate (c : DelegateContext) : JniProgram (Bool × DelegateContext) := do
  let jniDelegateClass ← envFindClass env (some delegateClass)
  if jniDelegateClass = none then return (boolOfInt jniErr, c)
  else
    let delegateCtor ← envGetMethodid env jniDelegateClass (some "<init>") (some "()V")
    let delegateObj ← envNewObject env jniDelegateClass delegateCtor
    let globalRef ← envNewGlobalRef env delegateObj
    let c := { c with jniDelegateObject := globalRef, globalRefs := globalRef.toList ++ c.globalRefs }
    if c.jniDelegateObject = none then return (boolOfInt jniErr, c)
    else
      let onNativeCrash ← envGetMethodid env jniDelegateClass (some onNativeCrashMethod) (some delegateMethodSig)
      let c := { c with onNativeCrash := onNativeCrash }
      if c.onNativeCrash = none then return (false, c)
      else
        let onNativeException ← envGetMethodid env jniDelegateClass (some onNativeExceptionMethod)
          (some delegateMethodSig)
        let c := { c with onNativeException := onNativeException }
        if c.onNativeException = none then return (false, c)
        else
          let onApplicationNotResponding ← envGetMethodid env jniDelegateClass
            (some onApplicationNotRespondingMethod) (some delegateMethodSig)
          let c := { c with onApplicationNotResponding := onApplicationNotResponding }
          if c.onApplicationNotResponding = none then return (false, c)
          else return (true, { c with initialized := true })

/-- `release_delegate`, call by call. -/
def releaseDelegate (c : DelegateContext) : JniProgram DelegateContext :=
  match env with
  | none => return c
  | some _ => do
    envDeleteGlobalRef env c.jniDelegateObject
    return { c with
      toDelegateHandles := ⟨none, none, none, none⟩
      globalRefs := match c.jniDelegateObject with
        | none => c.globalRefs
        | some globalRef => c.globalRefs.erase globalRef }

/-- `sizeof(native_context.sessionId) - 1`. -/
theorem id_room : 39 ≤ 40 := Nat.le_succ 39

/-- `sizeof(native_context.reportPathAbsolute) - 1`. -/
theorem path_room (tgt : Target) : tgt.pathMax - 1 ≤ tgt.pathMax := Nat.sub_le ..

/-- `set_native_context`, call by call. -/
def setNativeContext (managedContext : Option Jobject) (native_context : NativeContext tgt) :
    JniProgram (NativeContext tgt) :=
  match managedContext with
  | none => return native_context
  | some _ => do
    let managedContextClass ← envGetObjectClass env managedContext
    let fileClass ← envFindClass env (some "java/io/File")
    let absolutePathMethodId ←
      envGetMethodid env fileClass (some "getAbsolutePath") (some "()Ljava/lang/String;")
    let reportsDir ← envGetFieldid env managedContextClass (some "reportsDir") (some "Ljava/io/File;")
    let fileObject ← envGetObjectField env managedContext reportsDir
    let pathObject ← envCallObjectMethod env fileObject absolutePathMethodId
    let reportsPath ← access (deref (← envGetStringUTFChars env pathObject))
    let native_context := { native_context with
      reportPathAbsolute :=
        native_context.reportPathAbsolute.strncpy reportsPath (tgt.pathMax - 1) (path_room tgt) }
    let fieldId ← envGetFieldid env managedContextClass (some "sessionId") (some "Ljava/lang/String;")
    let fieldObject ← envGetObjectField env managedContext fieldId
    let sessionId ← access (deref (← envGetStringUTFChars env fieldObject))
    let native_context := { native_context with
      sessionId := native_context.sessionId.strncpy sessionId 39 id_room }
    let fieldId ← envGetFieldid env managedContextClass (some "buildId") (some "Ljava/lang/String;")
    let fieldObject ← envGetObjectField env managedContext fieldId
    let buildId ← access (deref (← envGetStringUTFChars env fieldObject))
    let native_context := { native_context with
      buildId := native_context.buildId.strncpy buildId 39 id_room }
    let fieldId ← envGetFieldid env managedContextClass (some "anrMonitor") (some "Z")
    let anrMonitorEnabled ← envGetBooleanField env managedContext fieldId
    return { native_context with anrMonitorEnabled := anrMonitorEnabled }

/-- The string for the delegate, and the reference that its thread deletes. -/
def passBacktrace (backtrace : Option Text) : JniProgram (Option Jobject) := do
  let jBacktrace ← envNewStringUtf env backtrace
  envNewGlobalRef env jBacktrace

/-- What the delegate thread does with it. -/
def callDelegate (delegate : Option Jobject) (method : Option JmethodID) (backtrace : Option Jobject) :
    JniProgram Unit := do
  envCallVoidMethod env delegate method backtrace
  envDeleteGlobalRef env backtrace

end Wrappers

/-- A function clears what it throws, or is not called at all. -/
theorem clean_wrapped {env : Option JavaVM} {function : Option JniFunction} {value : JniValue → α} {null : α} :
    Clean (wrapped env function value null) := by
  cases env with
  | none => exact clean_pure null
  | some vm =>
    cases function with
    | none => exact clean_pure null
    | some function =>
      refine clean_call fun result s unmisused => ?_
      obtain ⟨history, pending, misused⟩ := s
      cases unmisused
      cases pending <;> exact ⟨rfl, rfl⟩

section Clean
variable (env : Option JavaVM)

theorem clean_bindDelegate (c : DelegateContext) : Clean (bindDelegate env c) := by
  refine clean_wrapped.bind fun jniDelegateClass => ?_
  split
  · exact clean_pure _
  · refine clean_wrapped.bind fun _ => clean_wrapped.bind fun _ => clean_wrapped.bind fun _ => ?_
    dsimp only
    split
    · exact clean_pure _
    · refine clean_wrapped.bind fun _ => ?_
      split
      · exact clean_pure _
      · refine clean_wrapped.bind fun _ => ?_
        split
        · exact clean_pure _
        · refine clean_wrapped.bind fun _ => ?_
          split <;> exact clean_pure _

theorem clean_releaseDelegate (c : DelegateContext) : Clean (releaseDelegate env c) := by
  cases env with
  | none => exact clean_pure c
  | some vm => exact clean_wrapped.bind fun _ => clean_pure _

theorem clean_setNativeContext (managedContext : Option Jobject) (native_context : NativeContext tgt) :
    Clean (setNativeContext env managedContext native_context) := by
  cases managedContext with
  | none => exact clean_pure _
  | some object =>
    have copies : ∀ {β : Type} {rest : Text → JniProgram β} (string : Option Jobject),
        (∀ text, Clean (rest text)) →
        Clean (envGetStringUTFChars env string >>= fun chars => access (deref chars) >>= rest) :=
      fun string rests => clean_wrapped.bind fun chars => (clean_access _).bind rests
    refine clean_wrapped.bind fun _ => clean_wrapped.bind fun _ => clean_wrapped.bind fun _ => ?_
    refine clean_wrapped.bind fun _ => clean_wrapped.bind fun _ => clean_wrapped.bind fun _ => ?_
    refine copies _ fun _ => clean_wrapped.bind fun _ => clean_wrapped.bind fun _ => ?_
    refine copies _ fun _ => clean_wrapped.bind fun _ => clean_wrapped.bind fun _ => ?_
    exact copies _ fun _ => clean_wrapped.bind fun _ => clean_wrapped.bind fun _ => clean_pure _

end Clean

/-- What the machine returns is what the functions of the environment do,
whatever was called before and whether it throws. -/
structure Answers (vm : JavaVM) (env : DelegateEnv) : Prop where
  findClass : ∀ h name, (vm h (.findClass name)).value.pointer = env.findClass name
  getObjectClass : ∀ h object, (vm h (.getObjectClass object)).value.pointer = env.getObjectClass object
  getFieldID : ∀ h jclass name sig,
    (vm h (.getFieldID jclass name sig)).value.pointer = env.getFieldID jclass name sig
  getMethodID : ∀ h jclass name sig,
    (vm h (.getMethodID jclass name sig)).value.pointer = env.getMethodID jclass name sig
  callObjectMethod : ∀ h object method,
    (vm h (.callObjectMethod object method)).value.pointer = env.callObjectMethod object method
  newObject : ∀ h jclass method, (vm h (.newObject jclass method)).value.pointer = env.newObject jclass method
  newGlobalRef : ∀ h object, (vm h (.newGlobalRef object)).value.pointer = env.newGlobalRef object
  getObjectField : ∀ h object field,
    (vm h (.getObjectField object field)).value.pointer = env.getObjectField object field
  getBooleanField : ∀ h object field,
    (vm h (.getBooleanField object field)).value.boolean = env.getBooleanField object field
  getStringUTFChars : ∀ h string, (vm h (.getStringUTFChars string)).value.chars = env.getStringUTFChars string

inductive Answered : Option JavaVM → Option DelegateEnv → Prop
  | null : Answered none none
  | some {vm : JavaVM} {env : DelegateEnv} (answers : Answers vm env) : Answered (some vm) (some env)

theorem gives_call {vm : JavaVM} {function : JniFunction} {value : JniValue → α} {null result : α}
    (same : ∀ h, value (vm h function).value = result) :
    Gives (wrapped (some vm) (some function) value null) (.ok result) := by
  have cleared : ∀ (a : α) (t : Session JniFunction),
      ((envCheckAndClearEx (some vm) >>= fun _ => (pure a : JniProgram α)) t).1 = .ok a := by
    rintro a ⟨history, pending, misused⟩
    cases pending <;> rfl
  intro s
  rw [← same s.history]
  exact cleared _ _

theorem gives_null {env : Option JavaVM} {function : Option JniFunction} {value : JniValue → α} {null : α}
    (missing : env = none ∨ function = none) : Gives (wrapped env function value null) (.ok null) := by
  rcases missing with rfl | rfl
  · exact gives_pure null
  · cases env <;> exact gives_pure null

section Gives
variable {vm : Option JavaVM} {env : Option DelegateEnv} (answered : Answered vm env)
include answered

theorem gives_envFindClass (className : Option Text) :
    Gives (envFindClass vm className) (.ok (AgentNDK.envFindClass (env.map DelegateEnv.toJNIEnv) className)) := by
  cases answered with
  | null => exact gives_null (Or.inl rfl)
  | some answers =>
    cases className with
    | none => exact gives_null (Or.inr rfl)
    | some className => exact gives_call fun h => answers.findClass h className

theorem gives_envGetObjectClass (object : Option Jobject) :
    Gives (envGetObjectClass vm object)
      (.ok (AgentNDK.envGetObjectClass (env.map DelegateEnv.toJNIEnv) object)) := by
  cases answered with
  | null => exact gives_null (Or.inl rfl)
  | some answers =>
    cases object with
    | none => exact gives_null (Or.inr rfl)
    | some object => exact gives_call fun h => answers.getObjectClass h object

theorem gives_envGetFieldid (jclass : Option Jclass) (fieldName fieldSig : Text) :
    Gives (envGetFieldid vm jclass (some fieldName) (some fieldSig))
      (.ok (AgentNDK.envGetFieldid (env.map DelegateEnv.toJNIEnv) jclass (some fieldName) (some fieldSig))) := by
  cases answered with
  | null => exact gives_null (Or.inl rfl)
  | some answers =>
    cases jclass with
    | none => exact gives_null (Or.inr rfl)
    | some jclass => exact gives_call fun h => answers.getFieldID h jclass fieldName fieldSig

theorem gives_envGetMethodid (jclass : Option Jclass) (methodName methodSig : Text) :
    Gives (envGetMethodid vm jclass (some methodName) (some methodSig))
      (.ok (AgentNDK.envGetMethodid (env.map DelegateEnv.toJNIEnv) jclass (some methodName)
        (some methodSig))) := by
  cases answered with
  | null => exact gives_null (Or.inl rfl)
  | some answers =>
    cases jclass with
    | none => exact gives_null (Or.inr rfl)
    | some jclass => exact gives_call fun h => answers.getMethodID h jclass methodName methodSig

theorem gives_envCallObjectMethod (object : Option Jobject) (method : Option JmethodID) :
    Gives (envCallObjectMethod vm object method)
      (.ok (AgentNDK.envCallObjectMethod (env.map DelegateEnv.toJNIEnv) object method)) := by
  cases answered with
  | null => exact gives_null (Or.inl rfl)
  | some answers =>
    cases object with
    | none => exact gives_null (Or.inr rfl)
    | some object =>
      cases method with
      | none => exact gives_null (Or.inr rfl)
      | some method => exact gives_call fun h => answers.callObjectMethod h object method

theorem gives_envNewObject (jclass : Option Jclass) (method : Option JmethodID) :
    Gives (envNewObject vm jclass method) (.ok (AgentNDK.envNewObject env jclass method)) := by
  cases answered with
  | null => exact gives_null (Or.inl rfl)
  | some answers =>
    cases jclass with
    | none => exact gives_null (Or.inr rfl)
    | some jclass =>
      cases method with
      | none => exact gives_null (Or.inr rfl)
      | some method => exact gives_call fun h => answers.newObject h jclass method

theorem gives_envNewGlobalRef (object : Option Jobject) :
    Gives (envNewGlobalRef vm object) (.ok (AgentNDK.envNewGlobalRef env object)) := by
  cases answered with
  | null => exact gives_null (Or.inl rfl)
  | some answers =>
    cases object with
    | none => exact gives_null (Or.inr rfl)
    | some object => exact gives_call fun h => answers.newGlobalRef h object

theorem gives_envGetObjectField (object : Option Jobject) (field : Option JfieldID) :
    Gives (envGetObjectField vm object field)
      (.ok (AgentNDK.envGetObjectField (env.map DelegateEnv.toJNIEnv) object field)) := by
  cases answered with
  | null => exact gives_null (Or.inl rfl)
  | some answers =>
    cases object with
    | none => exact gives_null (Or.inr rfl)
    | some object =>
      cases field with
      | none => exact gives_null (Or.inr rfl)
      | some field => exact gives_call fun h => answers.getObjectField h object field

theorem gives_envGetBooleanField (object : Option Jobject) (field : Option JfieldID) :
    Gives (envGetBooleanField vm object field)
      (.ok (AgentNDK.envGetBooleanField (env.map DelegateEnv.toJNIEnv) object field)) := by
  cases answered with
  | null => exact gives_null (Or.inl rfl)
  | some answers =>
    cases object with
    | none => exact gives_null (Or.inr rfl)
    | some object =>
      cases field with
      | none => exact gives_null (Or.inr rfl)
      | some field => exact gives_call fun h => answers.getBooleanField h object field

theorem gives_envGetStringUTFChars (string : Option Jobject) :
    Gives (envGetStringUTFChars vm string)
      (.ok (AgentNDK.envGetStringUTFChars (env.map DelegateEnv.toJNIEnv) string)) := by
  cases answered with
  | null => exact gives_null (Or.inl rfl)
  | some answers =>
    cases string with
    | none => exact gives_null (Or.inr rfl)
    | some string => exact gives_call fun h => answers.getStringUTFChars h string

theorem gives_bindDelegate (c : DelegateContext) :
    Gives (bindDelegate vm c) (.ok (AgentNDK.bindDelegate env c)) := by
  unfold bindDelegate AgentNDK.bindDelegate
  have finds := gives_envFindClass answered (some delegateClass)
  have methods := fun jclass name sig => gives_envGetMethodid answered jclass name sig
  refine finds.bind_ok ?_
  dsimp only
  split
  · exact gives_pure _
  · refine (methods _ _ _).bind_ok ((gives_envNewObject answered _ _).bind_ok
      ((gives_envNewGlobalRef answered _).bind_ok ?_))
    split
    · exact gives_pure _
    · refine (methods _ _ _).bind_ok ?_
      split
      · exact gives_pure _
      · refine (methods _ _ _).bind_ok ?_
        split
        · exact gives_pure _
        · refine (methods _ _ _).bind_ok ?_
          split <;> exact gives_pure _

theorem gives_releaseDelegate (c : DelegateContext) :
    Gives (releaseDelegate vm c) (.ok (AgentNDK.releaseDelegate env c)) := by
  cases answered with
  | null => exact gives_pure c
  | @some vm env answers =>
    have deletes : Gives (envDeleteGlobalRef (some vm) c.jniDelegateObject) (.ok ()) := by
      cases c.jniDelegateObject with
      | none => exact gives_null (Or.inr rfl)
      | some ref => exact gives_call fun _ => rfl
    exact deletes.bind_ok (gives_pure _)

theorem gives_setNativeContext (managedContext : Option Jobject) (native_context : NativeContext tgt) :
    Gives (setNativeContext vm managedContext native_context)
      (AgentNDK.setNativeContext (env.map DelegateEnv.toJNIEnv) managedContext native_context) := by
  cases managedContext with
  | none => exact gives_pure _
  | some object =>
    have fields := fun jclass name sig => gives_envGetFieldid answered jclass name sig
    have objects := gives_envGetObjectField answered
    have copies : ∀ {β : Type} {rest : Text → JniProgram β} {last : Text → Except Fault β} (string : Option Jobject),
        (∀ text, Gives (rest text) (last text)) →
        Gives (envGetStringUTFChars vm string >>= fun chars => access (deref chars) >>= rest)
          (deref (AgentNDK.envGetStringUTFChars (env.map DelegateEnv.toJNIEnv) string) >>= last) :=
      fun string rests => (gives_envGetStringUTFChars answered string).bind_ok ((gives_access _).bind rests)
    unfold setNativeContext AgentNDK.setNativeContext
    refine (gives_envGetObjectClass answered _).bind_ok ((gives_envFindClass answered _).bind_ok ?_)
    refine (gives_envGetMethodid answered _ _ _).bind_ok ((fields _ _ _).bind_ok ((objects _ _).bind_ok ?_))
    refine (gives_envCallObjectMethod answered _ _).bind_ok (copies _ fun reportsPath => ?_)
    refine (fields _ _ _).bind_ok ((objects _ _).bind_ok (copies _ fun sessionId => ?_))
    refine (fields _ _ _).bind_ok ((objects _ _).bind_ok (copies _ fun buildId => ?_))
    exact (fields _ _ _).bind_ok ((gives_envGetBooleanField answered _ _).bind_ok (gives_pure _))

end Gives

/-- What the delegate and the native context do with a virtual machine. -/
structure CallsRefine (tgt : Target) (vm : Option JavaVM) : Prop where
  /-- No function is called while an exception is pending, and none is left pending. -/
  bind : ∀ c, Clean (bindDelegate vm c)
  release : ∀ c, Clean (releaseDelegate vm c)
  context : ∀ managedContext (native_context : NativeContext tgt),
    Clean (setNativeContext vm managedContext native_context)
  pass : ∀ backtrace, Clean (passBacktrace vm backtrace)
  deliver : ∀ delegate method backtrace, Clean (callDelegate vm delegate method backtrace)
  /-- Where its answers are those of an environment, so are the results. -/
  refines : ∀ env, Answered vm env →
    (∀ c, Gives (bindDelegate vm c) (.ok (AgentNDK.bindDelegate env c))) ∧
    (∀ c, Gives (releaseDelegate vm c) (.ok (AgentNDK.releaseDelegate env c))) ∧
    ∀ managedContext (native_context : NativeContext tgt),
      Gives (setNativeContext vm managedContext native_context)
        (AgentNDK.setNativeContext (env.map DelegateEnv.toJNIEnv) managedContext native_context)

/-- Whatever the machine answers and throws, call by call. -/
theorem calls_refine (tgt : Target) (vm : Option JavaVM) : CallsRefine tgt vm where
  bind := clean_bindDelegate vm
  release := clean_releaseDelegate vm
  context := clean_setNativeContext vm
  pass := fun _ => clean_wrapped.bind fun _ => clean_wrapped
  deliver := fun _ _ _ => clean_wrapped.bind fun _ => clean_wrapped
  refines := fun _ answered => ⟨gives_bindDelegate answered, gives_releaseDelegate answered,
    gives_setNativeContext answered⟩

/-- The machine of an environment, which throws wherever it returns null. -/
def machine (env : DelegateEnv) : JavaVM := fun _ function =>
  let pointer := fun result : Option Nat => Answer.mk (JniValue.mk result false none) result.isNone
  match function with
  | .findClass name => pointer (env.findClass name)
  | .getObjectClass object => pointer (env.getObjectClass object)
  | .getFieldID jclass name sig => pointer (env.getFieldID jclass name sig)
  | .getMethodID jclass name sig => pointer (env.getMethodID jclass name sig)
  | .callObjectMethod object method => pointer (env.callObjectMethod object method)
  | .newObject jclass method => pointer (env.newObject jclass method)
  | .newGlobalRef object => pointer (env.newGlobalRef object)
  | .getObjectField object field => pointer (env.getObjectField object field)
  | .getBooleanField object field => ⟨⟨none, env.getBooleanField object field, none⟩, false⟩
  | .getStringUTFChars string =>
    ⟨⟨none, false, env.getStringUTFChars string⟩, (env.getStringUTFChars string).isNone⟩
  | .callVoidMethod _ _ _ | .deleteGlobalRef _ | .newStringUTF _ => ⟨⟨none, false, none⟩, true⟩

theorem machine_answers (env : DelegateEnv) : Answered (some (machine env)) (some env) :=
  .some ⟨fun _ _ => rfl, fun _ _ => rfl, fun _ _ _ _ => rfl, fun _ _ _ _ => rfl, fun _ _ _ => rfl,
    fun _ _ _ => rfl, fun _ _ => rfl, fun _ _ _ => rfl, fun _ _ _ => rfl, fun _ _ => rfl⟩

/-- Without the delegate class the bind still returns true, its exception cleared. -/
theorem calls_refine_classless :
    Gives (bindDelegate (some (machine .classless)) .zeroed) (.ok (true, .zeroed)) :=
  ((calls_refine .x86Build _).refines _ (machine_answers _)).1 .zeroed

end Jni

end AgentNDK
