import AgentNDK.DelegateCalls
import AgentNDK.PendingReports
import AgentNDK.Library.Slots
import AgentNDK.Library.Threads

namespace AgentNDK
open CText Runs Threads
variable {τ : Type}

/-- The method id that the report of a kind is passed to. -/
def DelegateHandles.method (handles : DelegateHandles) : ListenerMethod → Option JmethodID
  | .onNativeCrash => handles.onNativeCrash
  | .onNativeException => handles.onNativeException
  | .onApplicationNotResponding => handles.onApplicationNotResponding

/-- `delegate_thread_args_t`; the environment in it is never read. -/
structure DelegateThreadArgs where
  delegate : Option Jobject
  method : Option JmethodID
  /-- a global reference to the report -/
  backtrace : Option Nat
  deriving DecidableEq

/-- What `threaded_delegate_call` is called with. -/
structure DelegateRequest where
  method : Option JmethodID
  backtrace : Text

/-- A call of a delegate method, with the block that its arguments came from. -/
structure Delivery where
  block : Nat
  delegate : Jobject
  method : JmethodID
  backtrace : Option Text

/-- What `GetEnv` and `AttachCurrentThread` answer a thread that is not attached. -/
inductive EnvAnswer
  | given
  | refused
  | unsupported
  deriving DecidableEq

/-- Where a thread is in `threaded_delegate_call` or `delegate_worker_thread`. -/
inductive DelegatePlace
  | idle
  | calling (request : DelegateRequest)
  /-- it has an environment -/
  | entered (request : DelegateRequest) (jniAttached : Bool)
  | allocated (request : DelegateRequest) (jniAttached : Bool) (block : Nat)
  /-- before `pthread_create` -/
  | filled (jniAttached : Bool) (block : Nat) (jBacktraceRef : Option Nat)
  /-- `pthread_create` has failed -/
  | refused (jniAttached : Bool) (block : Nat) (jBacktraceRef : Option Nat)
  | discarding (jniAttached : Bool) (block : Nat)
  | joining (jniAttached : Bool)
  /-- a delegate thread, before it has an environment -/
  | begun (block : Nat)
  | working (block : Nat) (jniAttached : Bool)
  /-- the delegate method has returned -/
  | called (block : Nat) (jniAttached : Bool)
  | cleared (block : Nat) (jniAttached : Bool)
  /-- before it detaches, where it has attached itself -/
  | leaving (jniAttached : Bool)
  /-- it has used what was released -/
  | faulted

structure DelegateShared (τ : Type) where
  context : DelegateContext
  attached : τ → Bool
  /-- the blocks for arguments -/
  blocks : Slots DelegateThreadArgs
  /-- the global references to reports, with the text -/
  refs : Slots Text
  /-- the blocks of the threads that are created and have not begun -/
  ready : List Nat
  /-- what each block was allocated for -/
  requests : List DelegateRequest
  delivered : List Delivery

inductive DelegateMove
  /-- `JNI_OnLoad`, `nativeStart` or `JNI_OnUnload` -/
  | library (call : LibraryCall)
  /-- `on_native_crash`, `on_native_exception` or `on_application_not_responding` -/
  | report (kind : ListenerMethod) (backtrace : Text)
  | getEnv (answer : EnvAnswer)
  /-- the `new`, which throws if it fails -/
  | allocate (succeeds : Bool)
  /-- a reference to the report is made, or null, and the block filled in -/
  | fill (made : Bool)
  | create (succeeds : Bool)
  /-- a created thread starts to run -/
  | begin
  | advance

namespace DelegateShared

def start (java : τ → Bool) : DelegateShared τ :=
  ⟨.zeroed, java, [], [], [], [], []⟩

/-- `env_delete_global_ref`, which skips null; `none` where the reference is
not there any more. -/
def deleteRef (s : DelegateShared τ) : Option Nat → Option (DelegateShared τ)
  | none => some s
  | some ref => (s.refs.get ref).map fun _ => { s with refs := s.refs.release ref }

/-- The text behind the reference, if it is not null. -/
def readRef (s : DelegateShared τ) : Option Nat → Option (Option Text)
  | none => some none
  | some ref => (s.refs.get ref).map some

/-- `env_call_void_method`, which does nothing without an object or a method. -/
def callVoidMethod (s : DelegateShared τ) (block : Nat) (args : DelegateThreadArgs) :
    Option (DelegateShared τ) :=
  match args.delegate, args.method with
  | some delegate, some method =>
    if delegate ∈ s.context.globalRefs then
      (s.readRef args.backtrace).map fun backtrace =>
        { s with delivered := ⟨block, delegate, method, backtrace⟩ :: s.delivered }
    else none
  | _, _ => some s

section Attach
variable [DecidableEq τ]

def attach (s : DelegateShared τ) (t : τ) : DelegateShared τ :=
  { s with attached := Function.update s.attached t true }

def detach (s : DelegateShared τ) (t : τ) : DelegateShared τ :=
  { s with attached := Function.update s.attached t false }

/-- Whether the thread gets an environment, and whether it had to be attached. -/
def getEnv (s : DelegateShared τ) (t : τ) (answer : EnvAnswer) : Option (Bool × DelegateShared τ) :=
  if answer = .unsupported then none
  else if s.attached t then some (false, s)
  else if answer = .given then some (true, s.attach t)
  else none

end Attach

end DelegateShared

/-- The place after a use of something released. -/
def orFault (s : DelegateShared τ) : Option (DelegatePlace × DelegateShared τ) →
    Option (DelegatePlace × DelegateShared τ)
  | some next => some next
  | none => some (.faulted, s)

/-- The next step of a thread. A join of a detached thread does not wait. -/
def delegateAct [DecidableEq τ] (t : τ) (place : DelegatePlace) (s : DelegateShared τ) (move : DelegateMove) :
    Option (DelegatePlace × DelegateShared τ) :=
  match place, move with
  | .idle, .library call => some (.idle, { s with context := call.perform s.context })
  | .idle, .report kind backtrace =>
    if s.context.jvm.isNone then some (.idle, s)
    else some (.calling ⟨s.context.method kind, backtrace⟩, s)
  | .calling request, .getEnv answer =>
    if s.context.jvm.isNone then some (.idle, s)
    else match s.getEnv t answer with
      | some (jniAttached, s) => some (.entered request jniAttached, s)
      | none => some (.idle, s)
  | .entered request jniAttached, .allocate succeeds =>
    if succeeds then
      some (.allocated request jniAttached s.blocks.length,
        { s with blocks := s.blocks.alloc ⟨none, none, none⟩, requests := s.requests ++ [request] })
    else some (.idle, s)
  | .allocated request jniAttached block, .fill made =>
    orFault s ((s.blocks.get block).map fun _ =>
      let ref := if made then some s.refs.length else none
      (.filled jniAttached block ref,
        { s with
          refs := if made then s.refs.alloc (cstr request.backtrace) else s.refs
          blocks := s.blocks.put block ⟨s.context.jniDelegateObject, request.method, ref⟩ }))
  | .filled jniAttached block jBacktraceRef, .create succeeds =>
    if succeeds then some (.joining jniAttached, { s with ready := s.ready ++ [block] })
    else some (.refused jniAttached block jBacktraceRef, s)
  | .refused jniAttached block jBacktraceRef, .advance =>
    orFault s ((s.deleteRef jBacktraceRef).map fun s => (.discarding jniAttached block, s))
  | .discarding _ block, .advance =>
    orFault s ((s.blocks.get block).map fun _ => (.idle, { s with blocks := s.blocks.release block }))
  | .joining jniAttached, .advance => some (.leaving jniAttached, s)
  | .idle, .begin =>
    match s.ready with
    | block :: rest => if s.attached t then none else some (.begun block, { s with ready := rest })
    | [] => none
  | .begun block, .getEnv answer =>
    match s.getEnv t answer with
    | some (jniAttached, s) => some (.working block jniAttached, s)
    | none => some (.idle, s)
  | .working block jniAttached, .advance =>
    orFault s ((s.blocks.get block).bind fun args =>
      (s.callVoidMethod block args).map fun s => (.called block jniAttached, s))
  | .called block jniAttached, .advance =>
    orFault s ((s.blocks.get block).bind fun args =>
      (s.deleteRef args.backtrace).map fun s => (.cleared block jniAttached, s))
  | .cleared block jniAttached, .advance =>
    orFault s ((s.blocks.get block).map fun _ =>
      (.leaving jniAttached, { s with blocks := s.blocks.release block }))
  | .leaving jniAttached, .advance => some (.idle, if jniAttached then s.detach t else s)
  | _, _ => none

abbrev DelegateThreads (τ : Type) := Pool τ DelegatePlace (DelegateShared τ)

/-- The threads of the given set are attached by the VM itself. -/
def DelegateThreads.start (java : τ → Bool) : DelegateThreads τ :=
  ⟨fun _ => .idle, .start java⟩

def DelegateThreads.step [DecidableEq τ] (s : DelegateThreads τ) (turn : τ × DelegateMove) : Option (DelegateThreads τ) :=
  Pool.step delegateAct s turn

/-- The block that a thread at the place has to delete or to hand over. -/
def DelegatePlace.owns : DelegatePlace → Option Nat
  | .allocated _ _ block | .filled _ block _ | .refused _ block _ | .discarding _ block
  | .begun block | .working block _ | .called block _ | .cleared block _ => some block
  | .idle | .calling _ | .entered _ _ | .joining _ | .leaving _ | .faulted => none

/-- It has attached itself, and is to detach itself. -/
def DelegatePlace.jniAttached : DelegatePlace → Bool
  | .entered _ jniAttached | .allocated _ jniAttached _ | .filled jniAttached _ _
  | .refused jniAttached _ _ | .discarding jniAttached _ | .joining jniAttached
  | .working _ jniAttached | .called _ jniAttached | .cleared _ jniAttached | .leaving jniAttached =>
    jniAttached
  | .idle | .calling _ | .begun _ | .faulted => false

/-- The delegate that is bound is a live reference. -/
def DelegateContext.RefHeld (c : DelegateContext) : Prop :=
  ∀ delegate, c.jniDelegateObject = some delegate → delegate ∈ c.globalRefs

theorem refHeld_bind {c : DelegateContext} (held : c.RefHeld) (env : Option DelegateEnv) :
    (bindDelegate env c).2.RefHeld := by
  unfold bindDelegate
  dsimp only
  split
  · exact held
  split
  · rename_i missing
    intro delegate bound
    exact nomatch missing.symm.trans bound
  have mine : ∀ globalRef : Option Jobject, ∀ delegate, globalRef = some delegate →
      delegate ∈ globalRef.toList ++ c.globalRefs := by
    rintro _ delegate rfl
    exact List.mem_cons_self
  split
  · exact mine _
  split
  · exact mine _
  split <;> exact mine _

theorem refHeld_perform {c : DelegateContext} (held : c.RefHeld) (call : LibraryCall) :
    (call.perform c).RefHeld := by
  cases call with
  | onLoad vm getEnv =>
    cases getEnv with
    | none => exact held
    | some env => exact refHeld_bind (c := { c with initialized := false, jvm := some vm }) held (some env)
  | nativeStart env => exact refHeld_bind held env
  | onUnload lock getEnv =>
    cases getEnv with
    | some env => exact held
    | none =>
      simp only [LibraryCall.perform, jniOnUnload, releaseNativeContext, releaseDelegate]
      split <;> exact held

namespace DelegateShared

/-- The block is filled in for what it was allocated for, and the references in
it are live. -/
def Loaded (s : DelegateShared τ) (block : Nat) : Prop :=
  ∃ args request, s.blocks.get block = some args ∧ s.requests[block]? = some request ∧
    args.method = request.method ∧ (∀ delegate, args.delegate = some delegate →
      delegate ∈ s.context.globalRefs) ∧
    ∀ ref, args.backtrace = some ref → s.refs.get ref = some (cstr request.backtrace)

/-- The reference in the block is released. -/
def Cleared (s : DelegateShared τ) (block : Nat) : Prop :=
  ∃ args, s.blocks.get block = some args ∧ ∀ ref, args.backtrace = some ref → s.refs.get ref = none

def Undelivered (s : DelegateShared τ) (block : Nat) : Prop :=
  ∀ delivery ∈ s.delivered, delivery.block ≠ block

/-- A delivery passes the report that its block was allocated for, to the method
it was for, and the delegate is a live reference. -/
def Faithful (s : DelegateShared τ) (delivery : Delivery) : Prop :=
  ∃ request, s.requests[delivery.block]? = some request ∧ request.method = some delivery.method ∧
    (∀ text, delivery.backtrace = some text → text = cstr request.backtrace) ∧
    delivery.delegate ∈ s.context.globalRefs

structure Sound (s : DelegateShared τ) : Prop where
  aligned : s.requests.length = s.blocks.length
  ready : ∀ block ∈ s.ready, s.Loaded block ∧ s.Undelivered block
  distinct : ∀ i j a b ref, s.blocks.get i = some a → s.blocks.get j = some b →
    a.backtrace = some ref → b.backtrace = some ref → i = j
  fresh : ∀ i a ref, s.blocks.get i = some a → a.backtrace = some ref → ref < s.refs.length
  held : ∀ ref text, s.refs.get ref = some text → ∃ i a, s.blocks.get i = some a ∧ a.backtrace = some ref
  bound : s.context.RefHeld
  readyOnce : s.ready.Nodup
  once : (s.delivered.map (·.block)).Nodup
  faithful : ∀ delivery ∈ s.delivered, s.Faithful delivery

/-- What a step of a thread that owns this block leaves as it is. -/
structure Spares (t : τ) (own : Option Nat) (s s' : DelegateShared τ) : Prop where
  blocks : ∀ block, own ≠ some block → block < s.blocks.length →
    s'.blocks.get block = s.blocks.get block
  requests : s.requests <+: s'.requests
  refs : ∀ ref, ref < s.refs.length → (∀ block args, own = some block → s.blocks.get block = some args →
    args.backtrace ≠ some ref) → s'.refs.get ref = s.refs.get ref
  globalRefs : ∀ delegate ∈ s.context.globalRefs, delegate ∈ s'.context.globalRefs
  delivered : ∀ delivery ∈ s'.delivered, delivery ∈ s.delivered ∨ own = some delivery.block
  ready : ∀ block ∈ s'.ready, block ∈ s.ready ∨ own = some block
  attached : ∀ u, u ≠ t → s'.attached u = s.attached u

section Spared
variable {t : τ} {own : Option Nat} {s s' : DelegateShared τ} {block : Nat}

theorem Spares.request (spares : Spares t own s s') {request : DelegateRequest}
    (found : s.requests[block]? = some request) : s'.requests[block]? = some request := by
  obtain ⟨more, whole⟩ := spares.requests
  rw [← whole]
  exact (List.getElem?_append_left (List.getElem?_eq_some_iff.mp found).1).trans found

theorem Spares.args (spares : Spares t own s s') (other : own ≠ some block) {args : DelegateThreadArgs}
    (found : s.blocks.get block = some args) : s'.blocks.get block = some args :=
  (spares.blocks block other (Slots.lt_of_get found)).trans found

/-- The reference of another block is left alone. -/
theorem Spares.ref (sound : s.Sound) (spares : Spares t own s s') (other : own ≠ some block)
    {args : DelegateThreadArgs} (found : s.blocks.get block = some args) {ref : Nat}
    (refers : args.backtrace = some ref) : s'.refs.get ref = s.refs.get ref := by
  refine spares.refs ref (sound.fresh block args ref found refers) fun b a owned atOwned same => other ?_
  rw [owned, sound.distinct b block a args ref atOwned found same refers]

theorem Loaded.spared (sound : s.Sound) (spares : Spares t own s s') (other : own ≠ some block)
    (loaded : s.Loaded block) : s'.Loaded block := by
  obtain ⟨args, request, found, known, method, delegate, backtrace⟩ := loaded
  refine ⟨args, request, spares.args other found, spares.request known, method,
    fun g bound => spares.globalRefs g (delegate g bound), fun ref refers => ?_⟩
  rw [Spares.ref sound spares other found refers]
  exact backtrace ref refers

theorem Cleared.spared (sound : s.Sound) (spares : Spares t own s s') (other : own ≠ some block)
    (cleared : s.Cleared block) : s'.Cleared block := by
  obtain ⟨args, found, released⟩ := cleared
  refine ⟨args, spares.args other found, fun ref refers => ?_⟩
  rw [Spares.ref sound spares other found refers]
  exact released ref refers

theorem Undelivered.spared (spares : Spares t own s s') (other : own ≠ some block)
    (undelivered : s.Undelivered block) : s'.Undelivered block := by
  intro delivery member same
  rcases spares.delivered delivery member with before | owned
  · exact undelivered delivery before same
  · exact other (same ▸ owned)

theorem Faithful.spared (spares : Spares t own s s') {delivery : Delivery}
    (faithful : s.Faithful delivery) : s'.Faithful delivery := by
  obtain ⟨request, known, method, backtrace, delegate⟩ := faithful
  exact ⟨request, spares.request known, method, backtrace, spares.globalRefs _ delegate⟩

end Spared

end DelegateShared

/-- What a thread relies on where it is. -/
def DelegatePlace.Knows (s : DelegateShared τ) : DelegatePlace → Prop
  | .idle | .calling _ | .entered _ _ | .joining _ | .leaving _ => True
  | .allocated request _ block =>
    s.blocks.get block = some ⟨none, none, none⟩ ∧ s.requests[block]? = some request ∧ s.Undelivered block
  | .filled _ block ref | .refused _ block ref =>
    s.Loaded block ∧ s.Undelivered block ∧ ∀ args, s.blocks.get block = some args → args.backtrace = ref
  | .begun block | .working block _ => s.Loaded block ∧ s.Undelivered block
  | .called block _ => s.Loaded block
  | .discarding _ block | .cleared block _ => s.Cleared block
  | .faulted => False

/-- A block is owned by one thread, or is ready for a thread that has not begun. -/
structure DelegatePlace.Relies (t : τ) (place : DelegatePlace) (s : DelegateShared τ) : Prop where
  knows : place.Knows s
  apart : ∀ block, place.owns = some block → block ∉ s.ready
  attached : place.jniAttached = true → s.attached t = true
  detached : ∀ block, place = .begun block → s.attached t = false

def delegateOutline : Outline τ DelegatePlace (DelegateShared τ) where
  always := DelegateShared.Sound
  relies := fun t place s => place.Relies t s
  apart := fun place other => ∀ block, place.owns = some block → other.owns ≠ some block

theorem DelegatePlace.Knows.spared {t : τ} {own : Option Nat} {s s' : DelegateShared τ} {place : DelegatePlace}
    (sound : s.Sound) (spares : DelegateShared.Spares t own s s')
    (apart : ∀ block, place.owns = some block → own ≠ some block) (knows : place.Knows s) :
    place.Knows s' := by
  cases place with
  | idle | calling _ | entered _ _ | joining _ | leaving _ => trivial
  | allocated request jniAttached block =>
    have other := apart block rfl
    exact ⟨spares.args other knows.1, spares.request knows.2.1, knows.2.2.spared spares other⟩
  | filled jniAttached block ref | refused jniAttached block ref =>
    have other := apart block rfl
    obtain ⟨loaded, undelivered, refers⟩ := knows
    refine ⟨loaded.spared sound spares other, undelivered.spared spares other, fun args found => ?_⟩
    obtain ⟨args', _, before, _⟩ := loaded
    have same := (spares.args other before).symm.trans found
    exact refers args (before.trans same)
  | begun block | working block jniAttached =>
    have other := apart block rfl
    exact ⟨knows.1.spared sound spares other, knows.2.spared spares other⟩
  | called block jniAttached => exact DelegateShared.Loaded.spared sound spares (apart block rfl) knows
  | discarding jniAttached block | cleared block jniAttached =>
    exact DelegateShared.Cleared.spared sound spares (apart block rfl) knows
  | faulted => exact knows

end AgentNDK
