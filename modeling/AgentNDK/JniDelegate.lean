import AgentNDK.Jni
import AgentNDK.Library.Runs

namespace AgentNDK
open CText Runs

/-- The functions of a JNIEnv that make the delegate. -/
structure DelegateEnv extends JNIEnv where
  newObject : Jclass → JmethodID → Option Jobject
  newGlobalRef : Jobject → Option Jobject

def envNewObject (env : Option DelegateEnv) (jclass : Option Jclass) (method : Option JmethodID) :
    Option Jobject := do
  (← env).newObject (← jclass) (← method)

def envNewGlobalRef (env : Option DelegateEnv) (object : Option Jobject) : Option Jobject := do
  (← env).newGlobalRef (← object)

/-- The handles of the native context, null or not. -/
structure DelegateHandles where
  jniDelegateObject : Option Jobject
  onNativeCrash : Option JmethodID
  onNativeException : Option JmethodID
  onApplicationNotResponding : Option JmethodID

/-- `native_context_t`, as far as the binding uses it, with the global
references that `bind_delegate` has created and nothing has deleted. -/
structure DelegateContext extends DelegateHandles where
  initialized : Bool
  jvm : Option Nat
  globalRefs : List Jobject

def DelegateContext.zeroed : DelegateContext :=
  ⟨⟨none, none, none, none⟩, false, none, []⟩

def delegateClass : Text := "com/newrelic/agent/android/ndk/JVMDelegate"

def onNativeCrashMethod : Text := "onNativeCrash"

def onNativeExceptionMethod : Text := "onNativeException"

def onApplicationNotRespondingMethod : Text := "onApplicationNotResponding"

def delegateMethodSig : Text := "(Ljava/lang/String;)V"

def jniErr : Int := -1

def jniVersion16 : Int := 0x00010006

/-- The conversion of a status code that is returned as a bool. -/
def boolOfInt (status : Int) : Bool :=
  status != 0

/-- The two exits with `JNI_ERR` return true. -/
def bindDelegate (env : Option DelegateEnv) (c : DelegateContext) : Bool × DelegateContext :=
  let jni := env.map DelegateEnv.toJNIEnv
  let jniDelegateClass := envFindClass jni (some delegateClass)
  if jniDelegateClass = none then (boolOfInt jniErr, c)
  else
    let delegateCtor := envGetMethodid jni jniDelegateClass (some "<init>") (some "()V")
    let delegateObj := envNewObject env jniDelegateClass delegateCtor
    let globalRef := envNewGlobalRef env delegateObj
    let c := { c with jniDelegateObject := globalRef, globalRefs := globalRef.toList ++ c.globalRefs }
    if c.jniDelegateObject = none then (boolOfInt jniErr, c)
    else
      let c := { c with
        onNativeCrash := envGetMethodid jni jniDelegateClass (some onNativeCrashMethod)
          (some delegateMethodSig) }
      if c.onNativeCrash = none then (false, c)
      else
        let c := { c with
          onNativeException := envGetMethodid jni jniDelegateClass (some onNativeExceptionMethod)
            (some delegateMethodSig) }
        if c.onNativeException = none then (false, c)
        else
          let c := { c with
            onApplicationNotResponding := envGetMethodid jni jniDelegateClass
              (some onApplicationNotRespondingMethod) (some delegateMethodSig) }
          if c.onApplicationNotResponding = none then (false, c)
          else (true, { c with initialized := true })

/-- `env_delete_global_ref` of the delegate, and the handles are nulled. -/
def releaseDelegate (env : Option DelegateEnv) (c : DelegateContext) : DelegateContext :=
  match env with
  | none => c
  | some _ =>
    { c with
      toDelegateHandles := ⟨none, none, none, none⟩
      globalRefs := match c.jniDelegateObject with
        | none => c.globalRefs
        | some globalRef => c.globalRefs.erase globalRef }

/-- The answer is that of the mutex. -/
def releaseNativeContext (lock : Bool) (env : Option DelegateEnv) (c : DelegateContext) : DelegateContext :=
  if lock ∧ c.initialized then { releaseDelegate env c with initialized := false } else c

/-- `GetEnv` gives an environment or fails. -/
def jniOnLoad (vm : Nat) (getEnv : Option DelegateEnv) (c : DelegateContext) : Int × DelegateContext :=
  let c := { c with initialized := false, jvm := some vm }
  match getEnv with
  | none => (jniErr, c)
  | some env =>
    let (bound, c) := bindDelegate (some env) c
    (jniVersion16, { c with initialized := bound })

/-- Only where `GetEnv` fails is anything released, and then there is no
environment to release it with. -/
def jniOnUnload (lock : Bool) (getEnv : Option DelegateEnv) (c : DelegateContext) : DelegateContext :=
  match getEnv with
  | none => releaseNativeContext lock none c
  | some _ => c

/-- What `nativeStart` does about the delegate. -/
def nativeStartBind (env : Option DelegateEnv) (c : DelegateContext) : DelegateContext :=
  let (bound, c) := bindDelegate env c
  { c with initialized := bound }

inductive LibraryCall
  | onLoad (vm : Nat) (getEnv : Option DelegateEnv)
  | nativeStart (env : Option DelegateEnv)
  | onUnload (lock : Bool) (getEnv : Option DelegateEnv)

/-- The environment with which a call binds the delegate, where it does. -/
def LibraryCall.binds : LibraryCall → Option (Option DelegateEnv)
  | .onLoad _ none => none
  | .onLoad _ (some env) => some (some env)
  | .nativeStart env => some env
  | .onUnload _ _ => none

def LibraryCall.perform (c : DelegateContext) : LibraryCall → DelegateContext
  | .onLoad vm getEnv => (jniOnLoad vm getEnv c).2
  | .nativeStart env => nativeStartBind env c
  | .onUnload lock getEnv => jniOnUnload lock getEnv c

/-- The native context with the environment of the last bind, and whether
`JNI_OnUnload` was the last call. -/
structure LoadedLibrary where
  context : DelegateContext
  lastBind : Option (Option DelegateEnv)
  unloaded : Bool

def LoadedLibrary.start : LoadedLibrary :=
  ⟨.zeroed, none, false⟩

def LibraryCall.isUnload : LibraryCall → Bool
  | .onUnload _ _ => true
  | _ => false

def LoadedLibrary.step (s : LoadedLibrary) (call : LibraryCall) : Option LoadedLibrary :=
  some ⟨call.perform s.context, call.binds <|> s.lastBind, call.isUnload⟩

/-- The reference that binding with an environment would make. -/
def delegateRef (env : Option DelegateEnv) : Option Jobject :=
  let jni := env.map DelegateEnv.toJNIEnv
  let jniDelegateClass := envFindClass jni (some delegateClass)
  envNewGlobalRef env (envNewObject env jniDelegateClass
    (envGetMethodid jni jniDelegateClass (some "<init>") (some "()V")))

/-- The method id that binding with an environment would find. -/
def delegateMethod (env : Option DelegateEnv) (name : Text) : Option JmethodID :=
  let jni := env.map DelegateEnv.toJNIEnv
  envGetMethodid jni (envFindClass jni (some delegateClass)) (some name) (some delegateMethodSig)

/-- The four handles that binding with an environment would set. -/
def delegateHandles (env : Option DelegateEnv) : DelegateHandles :=
  ⟨delegateRef env, delegateMethod env onNativeCrashMethod, delegateMethod env onNativeExceptionMethod,
    delegateMethod env onApplicationNotRespondingMethod⟩

structure DelegateHandles.NonNull (h : DelegateHandles) : Prop where
  jniDelegateObject : h.jniDelegateObject ≠ none
  onNativeCrash : h.onNativeCrash ≠ none
  onNativeException : h.onNativeException ≠ none
  onApplicationNotResponding : h.onApplicationNotResponding ≠ none

/-- All handles are there, and are those that a bind with the environment set. -/
def BoundWith (env : Option DelegateEnv) (c : DelegateContext) : Prop :=
  c.toDelegateHandles.NonNull ∧ c.toDelegateHandles = delegateHandles env

section Bind
variable {env : Option DelegateEnv} {c : DelegateContext}

theorem envNewObject_none (env : Option DelegateEnv) (method : Option JmethodID) :
    envNewObject env none method = none := by
  cases env <;> rfl

theorem envNewGlobalRef_none (env : Option DelegateEnv) : envNewGlobalRef env none = none := by
  cases env <;> rfl

theorem delegateRef_noClass
    (missing : envFindClass (env.map DelegateEnv.toJNIEnv) (some delegateClass) = none) :
    delegateRef env = none := by
  simp only [delegateRef, missing, envNewObject_none, envNewGlobalRef_none]

/-- A bind that gets no reference returns true and creates none. -/
theorem bindDelegate_noRef (missing : delegateRef env = none) :
    (bindDelegate env c).1 = true ∧ (bindDelegate env c).2.globalRefs = c.globalRefs := by
  unfold bindDelegate
  dsimp only
  by_cases found : envFindClass (env.map DelegateEnv.toJNIEnv) (some delegateClass) = none
  · rw [if_pos found]
    exact ⟨rfl, rfl⟩
  · unfold delegateRef at missing
    dsimp only at missing
    rw [if_neg found, missing, if_pos rfl]
    exact ⟨rfl, rfl⟩

theorem bindDelegate_made {ref : Jobject} (made : delegateRef env = some ref) : bindDelegate env c =
    let kept := { c with jniDelegateObject := some ref, globalRefs := ref :: c.globalRefs }
    if delegateMethod env onNativeCrashMethod = none then (false, { kept with onNativeCrash := none })
    else if delegateMethod env onNativeExceptionMethod = none then
      (false, { kept with
        onNativeCrash := delegateMethod env onNativeCrashMethod
        onNativeException := none })
    else if delegateMethod env onApplicationNotRespondingMethod = none then
      (false, { kept with
        onNativeCrash := delegateMethod env onNativeCrashMethod
        onNativeException := delegateMethod env onNativeExceptionMethod
        onApplicationNotResponding := none })
    else (true, { kept with toDelegateHandles := delegateHandles env, initialized := true }) := by
  have found : envFindClass (env.map DelegateEnv.toJNIEnv) (some delegateClass) ≠ none :=
    fun missing => Option.some_ne_none _ (made.symm.trans (delegateRef_noClass missing))
  unfold bindDelegate delegateHandles
  rw [made]
  unfold delegateRef at made
  dsimp only at made ⊢
  rw [if_neg found, made, if_neg (Option.some_ne_none _)]
  unfold delegateMethod
  dsimp only
  split
  · rename_i crash
    rw [crash]
    rfl
  split
  · rename_i exception
    rw [exception]
    rfl
  split
  · rename_i anr
    rw [anr]
    rfl
  · rfl

/-- It keeps the reference, whatever it returns. -/
theorem bindDelegate_globalRefs {ref : Jobject} (made : delegateRef env = some ref) :
    (bindDelegate env c).2.globalRefs = ref :: c.globalRefs := by
  rw [bindDelegate_made made]
  dsimp only
  split
  · rfl
  split
  · rfl
  split <;> rfl

theorem bindDelegate_bound {ref : Jobject} (made : delegateRef env = some ref)
    (returned : (bindDelegate env c).1 = true) : BoundWith env (bindDelegate env c).2 := by
  rw [bindDelegate_made made] at returned ⊢
  dsimp only at returned ⊢
  split at returned
  · cases returned
  rename_i crash
  split at returned
  · cases returned
  rename_i exception
  split at returned
  · cases returned
  rename_i anr
  rw [if_neg crash, if_neg exception, if_neg anr]
  exact ⟨⟨by rw [delegateHandles, made]; exact Option.some_ne_none _, crash, exception, anr⟩, rfl⟩

theorem not_boundWith (missing : delegateRef env = none) : ¬ BoundWith env c := by
  rintro ⟨all, same⟩
  rw [same] at all
  exact all.jniDelegateObject missing

end Bind

end AgentNDK
