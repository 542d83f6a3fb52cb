import AgentNDK.Interceptor

namespace AgentNDK
open Runs

/-- What `invoke_previous_sigaction` makes of each saved action of the signal;
one that finds the mutex held waits, which is `none`. -/
def invokePreviousSigaction (lock unlock : Bool) (signo : ObservedSignal) (h : SignalHandler) :
    Option (List (Option Application) × SignalHandler) :=
  if lock then
    if h.mutexHeld then none
    else
      some ((observedSignals.filter (· = signo)).map fun signal => invokeSigaction (h.saPrevious signal),
        { h with mutexHeld := !unlock })
  else some ([], h)

/-- None of the functions that take the mutex waits for it. -/
structure SignalHandler.Usable (h : SignalHandler) : Prop where
  signalHandlerInitialize : ∀ answers, signalHandlerInitialize answers h ≠ none
  signalHandlerShutdown : ∀ lock unlock, signalHandlerShutdown lock unlock h ≠ none
  invokePreviousSigaction : ∀ lock unlock signo, invokePreviousSigaction lock unlock signo h ≠ none

/-- A call returns with the mutex released, and if it returns false then
`_stack` holds no block that it allocated. -/
def ReturnsUsable (answers : InitializeAnswers) (h : SignalHandler) : Prop :=
  ∃ r, signalHandlerInitialize answers h = some r ∧ r.handler.mutexHeld = false ∧ r.handler.Usable ∧
    (r.result = false → ∀ block, r.handler.ssSp = some block → block < h.allocated)

section Calls
variable {h : SignalHandler} {answers : InitializeAnswers}

theorem usable_of_free (free : h.mutexHeld = false) : h.Usable where
  signalHandlerInitialize := by
    intro answers
    unfold signalHandlerInitialize
    rw [free]
    split
    · simp only [Bool.false_eq_true, if_false]
      split <;> exact Option.some_ne_none _
    · exact Option.some_ne_none _
  signalHandlerShutdown := by
    intro lock unlock
    unfold signalHandlerShutdown
    rw [free]
    split <;> exact Option.some_ne_none _
  invokePreviousSigaction := by
    intro lock unlock signo
    unfold invokePreviousSigaction
    rw [free]
    split <;> exact Option.some_ne_none _

theorem signalHandlerInitialize_stack (free : h.mutexHeld = false) (lock : answers.lock = true)
    (malloc : answers.malloc = true) (sigaltstack : answers.sigaltstack = true) :
    signalHandlerInitialize answers h = some ⟨true, answers.blockSignal && answers.createThread,
      { h with
        mutexHeld := !answers.unlock, ssSp := some h.allocated, altStack := some h.allocated
        live := h.allocated :: h.live, allocated := h.allocated + 1 }⟩ := by
  simp [signalHandlerInitialize, setSigstack, free, lock, malloc, sigaltstack]

/-- The block it gets is not accepted: it stays in `_stack`, and the mutex held. -/
theorem signalHandlerInitialize_refused (free : h.mutexHeld = false) (lock : answers.lock = true)
    (malloc : answers.malloc = true) (sigaltstack : answers.sigaltstack = false) :
    signalHandlerInitialize answers h = some ⟨false, false,
      { h with
        mutexHeld := true, ssSp := some h.allocated
        live := h.allocated :: h.live, allocated := h.allocated + 1 }⟩ := by
  simp [signalHandlerInitialize, setSigstack, free, lock, malloc, sigaltstack]

theorem signalHandlerInitialize_noBlock (free : h.mutexHeld = false) (lock : answers.lock = true)
    (malloc : answers.malloc = false) : signalHandlerInitialize answers h =
      some ⟨false, false, { h with mutexHeld := true, ssSp := none }⟩ := by
  simp [signalHandlerInitialize, setSigstack, free, lock, malloc]

theorem signalHandlerInitialize_unlocked (lock : answers.lock = false) :
    signalHandlerInitialize answers h = some ⟨true, false, h⟩ := by
  simp [signalHandlerInitialize, lock]

theorem signalHandlerInitialize_waits (held : h.mutexHeld = true) (lock : answers.lock = true) :
    signalHandlerInitialize answers h = none := by
  simp [signalHandlerInitialize, held, lock]

/-- Everything a call that returns can have done. -/
theorem signalHandlerInitialize_taken {r : Initialized}
    (returned : signalHandlerInitialize answers h = some r) :
    answers.lock = false ∧ r = ⟨true, false, h⟩ ∨
    (answers.lock = true ∧ h.mutexHeld = false) ∧
      (answers.malloc = false ∧ r = ⟨false, false, { h with mutexHeld := true, ssSp := none }⟩ ∨
      (answers.malloc = true ∧ answers.sigaltstack = false) ∧ r = ⟨false, false,
        { h with
          mutexHeld := true, ssSp := some h.allocated
          live := h.allocated :: h.live, allocated := h.allocated + 1 }⟩ ∨
      (answers.malloc = true ∧ answers.sigaltstack = true) ∧
        r = ⟨true, answers.blockSignal && answers.createThread,
          { h with
            mutexHeld := !answers.unlock, ssSp := some h.allocated, altStack := some h.allocated
            live := h.allocated :: h.live, allocated := h.allocated + 1 }⟩) := by
  cases lock : answers.lock with
  | false =>
    rw [signalHandlerInitialize_unlocked lock] at returned
    exact Or.inl ⟨rfl, (Option.some.inj returned).symm⟩
  | true =>
    cases held : h.mutexHeld with
    | true =>
      rw [signalHandlerInitialize_waits held lock] at returned
      cases returned
    | false =>
      refine Or.inr ⟨⟨rfl, rfl⟩, ?_⟩
      cases malloc : answers.malloc with
      | false =>
        rw [signalHandlerInitialize_noBlock held lock malloc] at returned
        exact Or.inl ⟨rfl, (Option.some.inj returned).symm⟩
      | true =>
        cases sigaltstack : answers.sigaltstack with
        | false =>
          rw [signalHandlerInitialize_refused held lock malloc sigaltstack] at returned
          exact Or.inr (Or.inl ⟨⟨rfl, rfl⟩, (Option.some.inj returned).symm⟩)
        | true =>
          rw [signalHandlerInitialize_stack held lock malloc sigaltstack] at returned
          exact Or.inr (Or.inr ⟨⟨rfl, rfl⟩, (Option.some.inj returned).symm⟩)

end Calls

/-- A call returns the module usable exactly when it finds it so and, if it
gets the mutex, also gets an alternate stack and can unlock. -/
theorem returnsUsable_iff (answers : InitializeAnswers) (h : SignalHandler) :
    ReturnsUsable answers h ↔ h.mutexHeld = false ∧ (answers.lock = true →
      answers.malloc = true ∧ answers.sigaltstack = true ∧ answers.unlock = true) := by
  constructor
  · rintro ⟨r, returned, released, _, _⟩
    rcases signalHandlerInitialize_taken returned with ⟨lock, rfl⟩ | ⟨⟨_, free⟩, outcome⟩
    · exact ⟨released, fun locks => absurd (lock.symm.trans locks) Bool.false_ne_true⟩
    · refine ⟨free, fun _ => ?_⟩
      rcases outcome with ⟨_, rfl⟩ | ⟨_, rfl⟩ | ⟨⟨malloc, sigaltstack⟩, rfl⟩
      · cases released
      · cases released
      · exact ⟨malloc, sigaltstack, by simpa using released⟩
  · rintro ⟨free, succeeds⟩
    cases lock : answers.lock with
    | false =>
      exact ⟨_, signalHandlerInitialize_unlocked lock, free, usable_of_free free, Bool.noConfusion⟩
    | true =>
      obtain ⟨malloc, sigaltstack, unlock⟩ := succeeds lock
      refine ⟨_, signalHandlerInitialize_stack free lock malloc sigaltstack, ?_, ?_, Bool.noConfusion⟩
      · rw [unlock]
        rfl
      · exact usable_of_free (by rw [unlock]; rfl)

/-- The alternate stack is refused once: the mutex stays held, so the next call
waits for ever, and the block stays in `_stack`. -/
theorem returnsUsable_refused : ∃ r,
    signalHandlerInitialize { InitializeAnswers.success with sigaltstack := false }
      (.start fun _ => ⟨.sigDfl, 0, 0⟩) = some r ∧
      r.result = false ∧ r.handler.mutexHeld = true ∧ r.handler.ssSp = some 0 ∧
      signalHandlerInitialize .success r.handler = none ∧
      ¬ ReturnsUsable { InitializeAnswers.success with sigaltstack := false }
        (.start fun _ => ⟨.sigDfl, 0, 0⟩) := by
  refine ⟨_, rfl, rfl, rfl, rfl, rfl, ?_⟩
  rintro ⟨r, returned, released, _⟩
  cases returned
  cases released

/-- The calls on one thread. The installer threads leave the stack alone. -/
inductive StackCall
  | init (answers : InitializeAnswers)
  | shutdown (lock unlock : Bool)

def StackCall.step (h : SignalHandler) : StackCall → Option SignalHandler
  | .init answers => (signalHandlerInitialize answers h).map Initialized.handler
  | .shutdown lock unlock => signalHandlerShutdown lock unlock h

/-- The block registered as the alternate stack is allocated, and it is the
only one there is. -/
def StackLive (h : SignalHandler) : Prop :=
  (∀ block, h.altStack = some block → block ∈ h.live) ∧ h.live.length ≤ 1

/-- While `_stack` holds a block, no call gets the mutex, except for an
initialize that is then refused another block. -/
def SparesStack (h : SignalHandler) : StackCall → Prop
  | .init answers => answers.lock = true → answers.malloc = true → h.ssSp = none
  | .shutdown lock _ => lock = true → h.ssSp = none

/-- Either there is no block, or there is one, which `_stack` and the alternate
stack agree on unless a call has failed and left the mutex held. -/
def OneStack (h : SignalHandler) : Prop :=
  (h.ssSp = none ∧ h.altStack = none ∧ h.live = []) ∨
    ∃ block, h.live = [block] ∧ (h.altStack = none ∨ h.altStack = some block) ∧
      (h.mutexHeld = true ∨ h.ssSp = some block ∧ h.altStack = some block)

section Stack
variable {h t : SignalHandler}

theorem OneStack.stackLive (one : OneStack h) : StackLive h := by
  rcases one with ⟨_, none, nothing⟩ | ⟨block, single, registered, _⟩
  · rw [StackLive, none, nothing]
    exact ⟨fun _ same => absurd same.symm (Option.some_ne_none _), Nat.zero_le _⟩
  · rw [StackLive, single]
    refine ⟨fun other same => ?_, Nat.le_refl 1⟩
    rcases registered with none | some
    · cases none.symm.trans same
    · cases some.symm.trans same
      exact List.mem_singleton_self block

/-- With the mutex free, what `_stack` holds is registered. -/
theorem OneStack.registered (one : OneStack h) (free : h.mutexHeld = false) {block : Nat}
    (held : h.ssSp = some block) : h.live = [block] ∧ h.altStack = some block := by
  rcases one with ⟨none, _⟩ | ⟨other, single, _, locked | ⟨same, registered⟩⟩
  · cases none.symm.trans held
  · cases locked.symm.trans free
  · cases same.symm.trans held
    exact ⟨single, registered⟩

theorem OneStack.nothing (one : OneStack h) (free : h.mutexHeld = false) (empty : h.ssSp = none) :
    h.altStack = none ∧ h.live = [] := by
  rcases one with ⟨_, none, nothing⟩ | ⟨block, _, _, locked | ⟨some, _⟩⟩
  · exact ⟨none, nothing⟩
  · cases locked.symm.trans free
  · cases some.symm.trans empty

theorem signalHandlerShutdown_taken {unlock : Bool} (taken : signalHandlerShutdown true unlock h = some t) :
    h.mutexHeld = false ∧ t.altStack = h.altStack ∧
      (h.ssSp = none → t.ssSp = none ∧ t.live = h.live) ∧
      ∀ block, h.ssSp = some block → t.live = h.live.erase block := by
  simp only [signalHandlerShutdown, if_true] at taken
  cases held : h.mutexHeld with
  | true =>
    rw [held, if_pos rfl] at taken
    cases taken
  | false =>
    rw [held, if_neg Bool.false_ne_true] at taken
    unfold dealloc at taken
    split at taken <;> cases taken
    · rename_i empty
      exact ⟨rfl, rfl, fun _ => ⟨empty, rfl⟩, fun block some => absurd (empty.symm.trans some).symm
        (Option.some_ne_none _)⟩
    · rename_i block found
      refine ⟨rfl, rfl, fun empty => absurd (found.symm.trans empty) (Option.some_ne_none _), ?_⟩
      intro other same
      cases found.symm.trans same
      rfl

theorem oneStack_init {answers : InitializeAnswers} (one : OneStack h)
    (spares : SparesStack h (.init answers)) (taken : StackCall.step h (.init answers) = some t) :
    OneStack t := by
  obtain ⟨r, returned, rfl⟩ := Option.map_eq_some_iff.mp taken
  rcases signalHandlerInitialize_taken returned with ⟨_, rfl⟩ | ⟨⟨lock, free⟩, outcome⟩
  · exact one
  rcases outcome with ⟨_, rfl⟩ | got
  · rcases one with ⟨_, none, nothing⟩ | ⟨block, single, registered, _⟩
    · exact Or.inl ⟨rfl, none, nothing⟩
    · exact Or.inr ⟨block, single, registered, Or.inl rfl⟩
  · have malloc : answers.malloc = true := by
      rcases got with ⟨⟨malloc, _⟩, _⟩ | ⟨⟨malloc, _⟩, _⟩ <;> exact malloc
    obtain ⟨none, nothing⟩ := one.nothing free (spares lock malloc)
    rcases got with ⟨_, rfl⟩ | ⟨_, rfl⟩
    · exact Or.inr ⟨h.allocated, congrArg _ nothing, Or.inl none, Or.inl rfl⟩
    · exact Or.inr ⟨h.allocated, congrArg _ nothing, Or.inr rfl, Or.inr ⟨rfl, rfl⟩⟩

theorem oneStack_shutdown {lock unlock : Bool} (one : OneStack h)
    (spares : SparesStack h (.shutdown lock unlock))
    (taken : StackCall.step h (.shutdown lock unlock) = some t) : OneStack t := by
  cases lock with
  | false =>
    cases taken
    exact one
  | true =>
    obtain ⟨free, kept, same, _⟩ := signalHandlerShutdown_taken taken
    obtain ⟨empty, live⟩ := same (spares rfl)
    obtain ⟨none, nothing⟩ := one.nothing free (spares rfl)
    exact Or.inl ⟨empty, kept.trans none, live.trans nothing⟩

theorem oneStack_step {call : StackCall} (one : OneStack h) (spares : SparesStack h call)
    (taken : StackCall.step h call = some t) : OneStack t := by
  cases call with
  | init answers => exact oneStack_init one spares taken
  | shutdown lock unlock => exact oneStack_shutdown one spares taken

/-- A second block, or the only one freed while it is registered. -/
theorem not_stackLive_step {call : StackCall} (one : OneStack h) (touches : ¬ SparesStack h call)
    (taken : StackCall.step h call = some t) : ¬ StackLive t := by
  cases call with
  | init answers =>
    simp only [SparesStack, Classical.not_imp] at touches
    obtain ⟨lock, malloc, some⟩ := touches
    obtain ⟨block, found⟩ := Option.ne_none_iff_exists'.mp some
    obtain ⟨r, returned, rfl⟩ := Option.map_eq_some_iff.mp taken
    have two : r.handler.live = [h.allocated, block] := by
      rcases signalHandlerInitialize_taken returned with ⟨none, _⟩ | ⟨⟨_, free⟩, outcome⟩
      · cases none.symm.trans lock
      · have single := (one.registered free found).1
        rcases outcome with ⟨none, _⟩ | ⟨_, rfl⟩ | ⟨_, rfl⟩
        · cases none.symm.trans malloc
        · exact congrArg _ single
        · exact congrArg _ single
    rintro ⟨_, most⟩
    rw [two] at most
    exact Nat.not_succ_le_self 1 most
  | shutdown lock unlock =>
    simp only [SparesStack, Classical.not_imp] at touches
    obtain ⟨rfl, some⟩ := touches
    obtain ⟨block, found⟩ := Option.ne_none_iff_exists'.mp some
    obtain ⟨free, kept, _, freed⟩ := signalHandlerShutdown_taken taken
    obtain ⟨single, registered⟩ := one.registered free found
    rintro ⟨live, _⟩
    have member := live block (kept.trans registered)
    rw [freed block found, single, List.erase_cons_head] at member
    exact List.not_mem_nil member

end Stack

/-- The registered block stays allocated, and the only one, in exactly the
sequences in which no call gets at `_stack` while it holds a block. -/
theorem stackLive_iff (disposition : ObservedSignal → Sigaction) (calls : List StackCall) :
    Throughout StackCall.step StackLive (.start disposition) calls ↔
      Meets SparesStack StackCall.step (.start disposition) calls :=
  throughout_iff (fun _ => OneStack.stackLive) (fun _ _ _ => oneStack_step)
    (fun _ _ _ => not_stackLive_step) (Or.inl ⟨rfl, rfl, rfl⟩) calls

/-- A start and a stop: the stack that is registered has been freed. A second
start instead: two blocks are live. -/
theorem stack_freed : ∃ stopped twice,
    run StackCall.step (.start fun _ => ⟨.sigDfl, 0, 0⟩) [.init .success, .shutdown true true] =
      some stopped ∧ stopped.altStack = some 0 ∧ stopped.live = [] ∧
      run StackCall.step (.start fun _ => ⟨.sigDfl, 0, 0⟩) [.init .success, .init .success] = some twice ∧
      twice.live = [1, 0] ∧ ¬ StackLive stopped ∧ ¬ StackLive twice := by
  refine ⟨_, _, rfl, rfl, rfl, rfl, rfl, fun live => ?_, fun live => ?_⟩
  · exact List.not_mem_nil (live.1 0 rfl)
  · exact absurd live.2 (by decide)

end AgentNDK
