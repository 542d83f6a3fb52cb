import AgentNDK.JniDelegate
import AgentNDK.NativeContext

namespace AgentNDK
open CText Runs

section Calls
variable {c : DelegateContext} {call : LibraryCall}

theorem perform_binds {env : Option DelegateEnv} (binds : call.binds = some env)
    (c : DelegateContext) : ∃ before, before.globalRefs = c.globalRefs ∧ call.perform c =
      { (bindDelegate env before).2 with initialized := (bindDelegate env before).1 } := by
  cases call with
  | onLoad vm getEnv =>
    cases getEnv with
    | none => cases binds
    | some given =>
      cases Option.some.inj binds
      exact ⟨{ c with initialized := false, jvm := some vm }, rfl, rfl⟩
  | nativeStart given =>
    cases Option.some.inj binds
    exact ⟨c, rfl, rfl⟩
  | onUnload lock getEnv => cases binds

/-- Any other call deletes no reference, and leaves the context initialized
only where it leaves it alone. -/
theorem perform_unbound (unbound : call.binds = none) (c : DelegateContext) :
    (call.perform c).globalRefs = c.globalRefs ∧
      ((call.perform c).initialized = true → call.perform c = c) := by
  cases call with
  | onLoad vm getEnv =>
    cases getEnv with
    | none => exact ⟨rfl, Bool.noConfusion⟩
    | some given => cases unbound
  | nativeStart given => cases unbound
  | onUnload lock getEnv =>
    cases getEnv with
    | some given => exact ⟨rfl, fun _ => rfl⟩
    | none =>
      simp only [LibraryCall.perform, jniOnUnload, releaseNativeContext, releaseDelegate]
      split
      · exact ⟨rfl, Bool.noConfusion⟩
      · exact ⟨rfl, fun _ => rfl⟩

end Calls

theorem step_total (s : LoadedLibrary) (call : LibraryCall) : ∃ t, s.step call = some t :=
  ⟨_, rfl⟩

/-- A context that counts as initialized has all its handles from the last bind. -/
def DelegateReady (s : LoadedLibrary) : Prop :=
  s.context.initialized = true → ∃ env, s.lastBind = some env ∧ BoundWith env s.context

/-- If the call binds then it gets a global reference. -/
def LibraryCall.ObtainsRef (call : LibraryCall) : Prop :=
  ∀ env, call.binds = some env → delegateRef env ≠ none

section Ready
variable {s t : LoadedLibrary} {call : LibraryCall}

theorem delegateReady_step (ready : DelegateReady s) (obtains : call.ObtainsRef)
    (taken : s.step call = some t) : DelegateReady t := by
  cases taken
  intro initialized
  cases binds : call.binds with
  | none =>
    have same := (perform_unbound binds s.context).2 initialized
    dsimp only at initialized ⊢
    rw [same] at initialized ⊢
    exact ready initialized
  | some env =>
    refine ⟨env, rfl, ?_⟩
    obtain ⟨before, _, performed⟩ := perform_binds binds s.context
    obtain ⟨ref, made⟩ := Option.ne_none_iff_exists'.mp (obtains env binds)
    dsimp only at initialized ⊢
    rw [performed] at initialized ⊢
    exact bindDelegate_bound made initialized

theorem not_delegateReady_step (fails : ¬ call.ObtainsRef) (taken : s.step call = some t) :
    ¬ DelegateReady t := by
  simp only [LibraryCall.ObtainsRef, not_forall, not_not] at fails
  obtain ⟨env, binds, missing⟩ := fails
  cases taken
  intro ready
  obtain ⟨before, _, performed⟩ := perform_binds binds s.context
  unfold DelegateReady at ready
  dsimp only at ready
  rw [performed, binds] at ready
  obtain ⟨last, same, bound⟩ := ready (bindDelegate_noRef missing).1
  cases Option.some.inj same
  exact not_boundWith missing bound

end Ready

/-- The context counts as initialized only with its handles bound in exactly
the sequences in which every bind gets its global reference, and a bind returns
true only with them bound exactly if it does. -/
theorem delegate_ready_iff (calls : List LibraryCall) (env : Option DelegateEnv) (c : DelegateContext) :
    (Throughout LoadedLibrary.step DelegateReady .start calls ↔ ∀ call ∈ calls, call.ObtainsRef) ∧
      (((bindDelegate env c).1 = true → BoundWith env (bindDelegate env c).2) ↔
        delegateRef env ≠ none) := by
  constructor
  · have initial : DelegateReady .start := Bool.noConfusion
    rw [← meets_iff_forall step_total]
    exact throughout_iff (fun _ ready => ready) (fun _ _ _ => delegateReady_step)
      (fun _ _ _ _ => not_delegateReady_step) initial calls
  · constructor
    · intro bound missing
      exact not_boundWith missing (bound (bindDelegate_noRef missing).1)
    · intro obtains
      obtain ⟨ref, made⟩ := Option.ne_none_iff_exists'.mp obtains
      exact bindDelegate_bound made

/-- A JVM that does not find the delegate class. -/
def DelegateEnv.classless : DelegateEnv where
  toJNIEnv := { JNIEnv.holding ⟨none, none, none, false⟩ with findClass := fun _ => none }
  newObject := fun _ _ => none
  newGlobalRef := fun _ => none

/-- The status JNI_ERR is taken for true, and the context for initialized. -/
theorem delegate_initialized_unbound : ∃ s,
    run LoadedLibrary.step .start [.onLoad 1 (some .classless)] = some s ∧
      s.context.initialized = true ∧ s.context.jniDelegateObject = none ∧
      (bindDelegate (some .classless) .zeroed).1 = true ∧ ¬ DelegateReady s := by
  refine ⟨_, rfl, rfl, rfl, rfl, fun ready => ?_⟩
  obtain ⟨env, _, bound⟩ := ready rfl
  exact bound.1.jniDelegateObject rfl

/-- At most one global reference is live, and none after `JNI_OnUnload`. -/
def SingleRef (s : LoadedLibrary) : Prop :=
  s.context.globalRefs.length ≤ 1 ∧ (s.unloaded = true → s.context.globalRefs = [])

/-- The call creates a global reference. -/
def LibraryCall.obtains (call : LibraryCall) : Bool :=
  match call.binds with
  | none => false
  | some env => (delegateRef env).isSome

/-- The call neither creates a global reference nor is it `JNI_OnUnload`. -/
def LibraryCall.Spares (call : LibraryCall) : Prop :=
  call.obtains = false ∧ call.isUnload = false

section Refs
variable {s t : LoadedLibrary} {call : LibraryCall}

theorem perform_globalRefs (call : LibraryCall) (c : DelegateContext) :
    ∃ added, (call.perform c).globalRefs = added ++ c.globalRefs ∧
      added.length = call.obtains.toNat := by
  unfold LibraryCall.obtains
  cases binds : call.binds with
  | none => exact ⟨[], (perform_unbound binds c).1, rfl⟩
  | some env =>
    obtain ⟨before, same, performed⟩ := perform_binds binds c
    rw [performed, ← same]
    dsimp only
    cases made : delegateRef env with
    | none => exact ⟨[], (bindDelegate_noRef made).2, rfl⟩
    | some ref => exact ⟨[ref], bindDelegate_globalRefs made, rfl⟩

/-- While a reference is live, the call is no `JNI_OnUnload` and creates no other. -/
def SparesRef (s : LoadedLibrary) (call : LibraryCall) : Prop :=
  s.context.globalRefs ≠ [] → call.Spares

theorem obtains_of_isUnload (unloads : call.isUnload = true) : call.obtains = false := by
  cases call with
  | onUnload lock getEnv => rfl
  | onLoad vm getEnv => cases unloads
  | nativeStart env => cases unloads

theorem singleRef_step (single : SingleRef s) (spares : SparesRef s call)
    (taken : s.step call = some t) : SingleRef t := by
  obtain ⟨added, refs, count⟩ := perform_globalRefs call s.context
  cases taken
  by_cases empty : s.context.globalRefs = []
  · rw [empty, List.append_nil] at refs
    unfold SingleRef
    dsimp only
    rw [refs, count]
    refine ⟨Bool.toNat_le _, fun unloads => List.length_eq_zero_iff.mp ?_⟩
    rw [count, obtains_of_isUnload unloads]
    rfl
  · obtain ⟨none, remains⟩ := spares empty
    rw [none] at count
    rw [List.length_eq_zero_iff.mp count, List.nil_append] at refs
    refine ⟨?_, fun unloads => absurd (remains.symm.trans unloads) Bool.false_ne_true⟩
    dsimp only
    rw [refs]
    exact single.1

theorem not_singleRef_step (touches : ¬ SparesRef s call) (taken : s.step call = some t) :
    ¬ SingleRef t := by
  obtain ⟨added, refs, count⟩ := perform_globalRefs call s.context
  simp only [SparesRef, Classical.not_imp] at touches
  obtain ⟨some, touches⟩ := touches
  have positive := List.length_pos_iff.mpr some
  cases taken
  rintro ⟨most, unloaded⟩
  dsimp only at most unloaded
  rw [refs, List.length_append, count] at most
  refine touches ⟨?_, ?_⟩
  · cases obtains : call.obtains with
    | false => rfl
    | true =>
      rw [obtains, Bool.toNat_true] at most
      omega
  · cases unloads : call.isUnload with
    | false => rfl
    | true =>
      have none := unloaded unloads
      rw [refs] at none
      exact absurd (List.append_eq_nil_iff.mp none).2 some

theorem meets_sparesRef_iff (s : LoadedLibrary) (calls : List LibraryCall) :
    Meets SparesRef LoadedLibrary.step s calls ↔
      (s.context.globalRefs ≠ [] → ∀ call ∈ calls, call.Spares) ∧
        calls.Pairwise fun earlier later => earlier.obtains = true → later.Spares := by
  induction calls generalizing s with
  | nil => simp [Meets]
  | cons call calls ih =>
    obtain ⟨next, taken⟩ := step_total s call
    have once : (∀ t, s.step call = some t → SparesRef s call ∧ Meets SparesRef LoadedLibrary.step t calls) ↔
        SparesRef s call ∧ Meets SparesRef LoadedLibrary.step next calls :=
      ⟨fun each => each next taken, fun both t same => Option.some.inj (taken.symm.trans same) ▸ both⟩
    have live : next.context.globalRefs ≠ [] ↔ call.obtains = true ∨ s.context.globalRefs ≠ [] := by
      obtain ⟨added, refs, count⟩ := perform_globalRefs call s.context
      cases taken
      dsimp only
      rw [refs, Ne, List.append_eq_nil_iff, not_and_or, ← List.length_eq_zero_iff, count]
      cases call.obtains <;> simp
    rw [Meets, once, ih next, live, List.pairwise_cons, List.forall_mem_cons, SparesRef]
    constructor
    · rintro ⟨spares, rest, pairs⟩
      exact ⟨fun some => ⟨spares some, rest (Or.inr some)⟩,
        fun later member obtains => rest (Or.inl obtains) later member, pairs⟩
    · rintro ⟨both, first, pairs⟩
      refine ⟨fun some => (both some).1, ?_, pairs⟩
      rintro (obtains | some) later member
      · exact first later member obtains
      · exact (both some).2 later member

end Refs

/-- At most one reference is live, and none after `JNI_OnUnload`, in exactly
the sequences in which neither another bind that gets a reference nor
`JNI_OnUnload` follows one that does. -/
theorem single_ref_iff (calls : List LibraryCall) :
    Throughout LoadedLibrary.step SingleRef .start calls ↔
      calls.Pairwise fun earlier later => earlier.obtains = true → later.Spares := by
  have initial : SingleRef .start := ⟨Nat.zero_le 1, fun _ => rfl⟩
  rw [throughout_iff (fun _ single => single) (fun _ _ _ => singleRef_step)
    (fun _ _ _ _ => not_singleRef_step) initial calls, meets_sparesRef_iff]
  exact and_iff_right fun some => absurd rfl some

/-- A JVM that gives out a delegate, and a new global reference to it. -/
def DelegateEnv.delegating (globalRef : Jobject) : DelegateEnv where
  toJNIEnv := { JNIEnv.holding ⟨none, none, none, false⟩ with
    findClass := fun _ => some 1, getMethodID := fun _ _ _ => some 1 }
  newObject := fun _ _ => some 2
  newGlobalRef := fun _ => some globalRef

/-- Every start leaves one more reference behind, and unloading leaves them all. -/
theorem refs_left_behind : ∃ started unloaded,
    run LoadedLibrary.step .start [.onLoad 1 (some (.delegating 10)), .nativeStart (some (.delegating 11))] =
      some started ∧ started.context.globalRefs = [11, 10] ∧
      started.step (.onUnload true (some (.delegating 12))) = some unloaded ∧
      unloaded.context.globalRefs = [11, 10] ∧ ¬ SingleRef started ∧ ¬ SingleRef unloaded := by
  refine ⟨_, _, rfl, rfl, rfl, rfl, fun single => ?_, fun single => ?_⟩
  · exact absurd single.1 (by decide)
  · exact absurd single.1 (by decide)

end AgentNDK
