import AgentNDK.Abi

namespace AgentNDK
open CText

/-! Pointers of the JNI that are not null. -/

abbrev Jobject := Nat
abbrev Jclass := Nat
abbrev JfieldID := Nat
abbrev JmethodID := Nat

/-- The functions of a JNIEnv. One that throws returns null, and the wrappers
clear its exception, so what they return is all there is to it. -/
structure JNIEnv where
  findClass : Text → Option Jclass
  getObjectClass : Jobject → Option Jclass
  getFieldID : Jclass → Text → Text → Option JfieldID
  getMethodID : Jclass → Text → Text → Option JmethodID
  callObjectMethod : Jobject → JmethodID → Option Jobject
  getObjectField : Jobject → JfieldID → Option Jobject
  getBooleanField : Jobject → JfieldID → Bool
  getStringUTFChars : Jobject → Option Text

section Wrappers
variable (env : Option JNIEnv)

def envFindClass (className : Option Text) : Option Jclass := do
  (← env).findClass (← className)

def envGetObjectClass (object : Option Jobject) : Option Jclass := do
  (← env).getObjectClass (← object)

def envGetFieldid (jclass : Option Jclass) (fieldName fieldSig : Option Text) : Option JfieldID := do
  (← env).getFieldID (← jclass) (← fieldName) (← fieldSig)

def envGetMethodid (jclass : Option Jclass) (methodName methodSig : Option Text) :
    Option JmethodID := do
  (← env).getMethodID (← jclass) (← methodName) (← methodSig)

def envCallObjectMethod (object : Option Jobject) (method : Option JmethodID) : Option Jobject := do
  (← env).callObjectMethod (← object) (← method)

def envGetObjectField (object : Option Jobject) (field : Option JfieldID) : Option Jobject := do
  (← env).getObjectField (← object) (← field)

/-- Without an object the field reads as false. -/
def envGetBooleanField (object : Option Jobject) (field : Option JfieldID) : Bool :=
  (do return (← env).getBooleanField (← object) (← field)).getD false

def envGetStringUTFChars (string : Option Jobject) : Option Text := do
  (← env).getStringUTFChars (← string)

end Wrappers

/-- The fields of a ManagedContext that are read; of the directory, its path. -/
structure ManagedContext where
  reportsDir : Option Text
  sessionId : Option Text
  buildId : Option Text
  anrMonitor : Bool

namespace JNIEnv

/-- The reference is null, or a string with this text. -/
def IsString (env : JNIEnv) (ref : Option Jobject) : Option Text → Prop
  | none => ref = none
  | some text => ∃ string, ref = some string ∧ env.getStringUTFChars string = some text

/-- The reference is null, or a file with this absolute path. -/
def IsFile (env : JNIEnv) (ref : Option Jobject) : Option Text → Prop
  | none => ref = none
  | some path => ∃ file fileClass method, ref = some file ∧
    env.findClass "java/io/File" = some fileClass ∧
    env.getMethodID fileClass "getAbsolutePath" "()Ljava/lang/String;" = some method ∧
    env.IsString (env.callObjectMethod file method) (some path)

/-- The class of the object has a field of the name and type. -/
def HasField (env : JNIEnv) (object : Jobject) (name sig : Text) (field : JfieldID) : Prop :=
  ∃ jclass, env.getObjectClass object = some jclass ∧ env.getFieldID jclass name sig = some field

/-- The object is this managed context, as JNI documents the access to it:
a null field reads as null. -/
structure Reads (env : JNIEnv) (object : Jobject) (m : ManagedContext) : Prop where
  reportsDir : ∃ field, env.HasField object "reportsDir" "Ljava/io/File;" field ∧
    env.IsFile (env.getObjectField object field) m.reportsDir
  sessionId : ∃ field, env.HasField object "sessionId" "Ljava/lang/String;" field ∧
    env.IsString (env.getObjectField object field) m.sessionId
  buildId : ∃ field, env.HasField object "buildId" "Ljava/lang/String;" field ∧
    env.IsString (env.getObjectField object field) m.buildId
  anrMonitor : ∃ field, env.HasField object "anrMonitor" "Z" field ∧
    env.getBooleanField object field = m.anrMonitor

end JNIEnv

section Values
variable {env : JNIEnv} {object : Jobject} {name sig : Text} {field : JfieldID}

theorem envGetFieldid_of_hasField (has : env.HasField object name sig field) :
    envGetFieldid (some env) (envGetObjectClass (some env) (some object)) (some name) (some sig) =
      some field := by
  obtain ⟨jclass, found, id⟩ := has
  simp only [envGetObjectClass, envGetFieldid, Option.bind_eq_bind, Option.bind_some, found, id]

theorem envGetStringUTFChars_of_isString {ref : Option Jobject} {value : Option Text}
    (isString : env.IsString ref value) : envGetStringUTFChars (some env) ref = value := by
  cases value with
  | none =>
    rw [show ref = none from isString]
    rfl
  | some text =>
    obtain ⟨string, rfl, chars⟩ := isString
    exact chars

/-- The path is read by way of the class, the method and the string. -/
theorem path_of_isFile {ref : Option Jobject} {value : Option Text} (isFile : env.IsFile ref value) :
    envGetStringUTFChars (some env) (envCallObjectMethod (some env) ref
      (envGetMethodid (some env) (envFindClass (some env) (some "java/io/File"))
        (some "getAbsolutePath") (some "()Ljava/lang/String;"))) = value := by
  cases value with
  | none =>
    rw [show ref = none from isFile]
    rfl
  | some path =>
    obtain ⟨file, fileClass, method, rfl, found, id, string⟩ := isFile
    have method : envGetMethodid (some env) (envFindClass (some env) (some "java/io/File"))
        (some "getAbsolutePath") (some "()Ljava/lang/String;") = some method := by
      simp only [envFindClass, envGetMethodid, Option.bind_eq_bind, Option.bind_some, found, id]
    rw [method]
    exact envGetStringUTFChars_of_isString string

end Values

end AgentNDK
