import AgentNDK.Interceptor

/-! The mutex of the signal handler: the calls take it, and `interceptor` takes it on
whatever thread it interrupts. -/

namespace AgentNDK
open Runs

/-- Where a thread is in `signal_handler_initialize` or `signal_handler_shutdown`. -/
inductive HandlerPlace
  | outside
  /-- before `pthread_mutex_lock` -/
  | initializing
  | shuttingDown
  /-- before `set_sigstack`, with the mutex -/
  | settingStack
  /-- before `pthread_create` -/
  | creating
  /-- before the test of `uninstall_handler` -/
  | uninstalling
  | restoring (rest : List ObservedSignal)
  | unlocking
  deriving DecidableEq

def HandlerPlace.holds : HandlerPlace → Bool
  | .settingStack | .creating | .uninstalling | .restoring _ | .unlocking => true
  | .outside | .initializing | .shuttingDown => false

/-- Past its test of `intercepting`, before `invoke_previous_sigaction` has the mutex. -/
def Pc.awaits : Pc → Bool
  | .collecting | .uninstalling | .restoring _ | .locking => true
  | _ => false

def Pc.holds : Pc → Bool
  | .chaining _ | .invoking _ => true
  | _ => false

structure HandlerThreads where
  interception : Interception
  places : Nat → HandlerPlace
  /-- the installer threads that are still to run -/
  installers : Nat

inductive HandlerAction
  | handlerInitialize (thread : Nat)
  | handlerShutdown (thread : Nat)
  /-- the next statement of the call; what it asks of the system succeeds or not -/
  | call (thread : Nat) (succeeds : Bool)
  /-- an observed signal reaches a thread, wherever it is -/
  | deliver (thread : Nat) (signal : ObservedSignal)
  /-- the innermost activation of a thread goes on -/
  | advance (thread : Nat)
  /-- an installer thread runs to its end -/
  | install (answers : InstallAnswers)

namespace HandlerThreads

def start (observers : Observers) : HandlerThreads :=
  ⟨.start observers, fun _ => .outside, 0⟩

def goto (s : HandlerThreads) (thread : Nat) (place : HandlerPlace) : HandlerThreads :=
  { s with places := Function.update s.places thread place }

def setMutex (s : HandlerThreads) (mutex : Option Nat) : HandlerThreads :=
  { s with interception := { s.interception with mutex := mutex } }

def observe (s : HandlerThreads) (observers : Observers) : HandlerThreads :=
  { s with interception := { s.interception with observers := observers } }

/-- The next statement of a call; `none` while it waits for the mutex. Without an
alternate stack it returns with the mutex held. -/
def call (s : HandlerThreads) (thread : Nat) (succeeds : Bool) : Option HandlerThreads :=
  match s.places thread with
  | .outside => none
  | .initializing =>
    if s.interception.mutex = none then some ((s.goto thread .settingStack).setMutex (some thread)) else none
  | .shuttingDown =>
    if s.interception.mutex = none then some ((s.goto thread .uninstalling).setMutex (some thread)) else none
  | .settingStack => some (s.goto thread (if succeeds then .creating else .outside))
  | .creating =>
    some { s.goto thread .unlocking with installers := if succeeds then s.installers + 1 else s.installers }
  | .uninstalling =>
    some (s.goto thread
      (if 0 < s.interception.observers.initialized then .restoring observedSignals else .unlocking))
  | .restoring (signal :: rest) =>
    some ((s.goto thread (.restoring rest)).observe (restoreHandler s.interception.observers signal))
  | .restoring [] =>
    let observers := s.interception.observers
    some ((s.goto thread .unlocking).observe { observers with initialized := observers.initialized - 1 })
  | .unlocking =>
    some ((s.goto thread .outside).setMutex (if succeeds then none else s.interception.mutex))

/-- A thread in the interceptor does nothing else. -/
def step (s : HandlerThreads) : HandlerAction → Option HandlerThreads
  | .handlerInitialize thread =>
    if s.places thread = .outside ∧ s.interception.threads thread = [] then some (s.goto thread .initializing)
    else none
  | .handlerShutdown thread =>
    if s.places thread = .outside ∧ s.interception.threads thread = [] then some (s.goto thread .shuttingDown)
    else none
  | .call thread succeeds => if s.interception.threads thread = [] then s.call thread succeeds else none
  | .deliver thread signal =>
    (s.interception.step (.deliver thread signal)).map fun i => { s with interception := i }
  | .advance thread => (s.interception.step (.advance thread)).map fun i => { s with interception := i }
  | .install answers =>
    if s.installers = 0 then none
    else
      some { s.observe (installSignalObservers answers s.interception.observers) with
        installers := s.installers - 1 }

/-- The calls and activations of a thread that hold the mutex. -/
def holders (s : HandlerThreads) (thread : Nat) : Nat :=
  (s.interception.threads thread).countP (·.pc.holds) + (s.places thread).holds.toNat

/-- Only the thread that has the mutex holds it, and once. -/
def Owned (s : HandlerThreads) : Prop :=
  ∀ thread, s.holders thread ≤ if s.interception.mutex = some thread then 1 else 0

/-- Some activation has yet to get the mutex, with none inside it that holds it. -/
def Awaiting : List Activation → Prop
  | [] => False
  | a :: outer => a.pc.awaits = true ∨ a.pc.holds = false ∧ Awaiting outer

/-- The thread that has the mutex will wait for it, or does. -/
def SelfWaits (s : HandlerThreads) (thread : Nat) : Prop :=
  s.interception.mutex = some thread ∧ Awaiting (s.interception.threads thread)

/-- No activation passes its test of `intercepting` on the thread that has the mutex. -/
def Apart (s : HandlerThreads) : HandlerAction → Prop
  | .advance thread => (s.interception.threads thread).head?.map Activation.pc = some .entry →
    s.interception.observers.intercepting = 0 → s.interception.mutex ≠ some thread
  | _ => True

/-- What the next step of an activation makes of those of its thread and of the mutex. -/
inductive Moves (i : Interception) (thread : Nat) (a : Activation) (outer : List Activation) :
    List Activation → Option Nat → Prop
  | passes {b : Activation} (entry : a.pc = .entry) (first : i.observers.intercepting = 0)
    (awaits : b.pc.awaits = true) : Moves i thread a outer (b :: outer) i.mutex
  | returns (away : a.pc.awaits = false) (released : a.pc.holds = false)
    (later : a.pc = .entry → i.observers.intercepting ≠ 0) : Moves i thread a outer outer i.mutex
  | waits {b : Activation} (before : a.pc.awaits = true) (awaits : b.pc.awaits = true) :
    Moves i thread a outer (b :: outer) i.mutex
  | locks {b : Activation} (before : a.pc.awaits = true) (free : i.mutex = none) (holds : b.pc.holds = true) :
    Moves i thread a outer (b :: outer) (some thread)
  | chains {b : Activation} (before : a.pc.holds = true) (holds : b.pc.holds = true) :
    Moves i thread a outer (b :: outer) i.mutex
  | calls {b c : Activation} (before : a.pc.holds = true) (holds : b.pc.holds = true) (entry : c.pc = .entry) :
    Moves i thread a outer (c :: b :: outer) i.mutex
  | unlocks {b : Activation} (before : a.pc.holds = true) (leaving : b.pc = .leaving) :
    Moves i thread a outer (b :: outer) none

theorem advance_moves {i next : Interception} {thread : Nat} {a : Activation} {outer : List Activation}
    (taken : i.advance thread a outer = some next) : ∃ stack,
      next.threads = Function.update i.threads thread stack ∧ Moves i thread a outer stack next.mutex := by
  unfold Interception.advance at taken
  cases pc : a.pc with
  | entry =>
    simp only [pc] at taken
    split at taken <;> cases taken
    · exact ⟨_, rfl, .passes pc ‹_› rfl⟩
    · exact ⟨_, rfl, .returns (by rw [pc]; rfl) (by rw [pc]; rfl) fun _ => ‹_›⟩
  | collecting =>
    simp only [pc] at taken
    cases taken
    exact ⟨_, rfl, .waits (by rw [pc]; rfl) rfl⟩
  | uninstalling =>
    simp only [pc] at taken
    cases taken
    exact ⟨_, rfl, .waits (by rw [pc]; rfl) (by dsimp only; split <;> rfl)⟩
  | restoring rest =>
    cases rest with
    | nil | cons =>
      simp only [pc] at taken
      cases taken
      exact ⟨_, rfl, .waits (by rw [pc]; rfl) rfl⟩
  | locking =>
    simp only [pc] at taken
    split at taken <;> cases taken
    exact ⟨_, rfl, .locks (by rw [pc]; rfl) ‹_› rfl⟩
  | chaining rest =>
    cases rest with
    | nil =>
      simp only [pc] at taken
      cases taken
      exact ⟨_, rfl, .unlocks (by rw [pc]; rfl) rfl⟩
    | cons signal rest =>
      simp only [pc] at taken
      split at taken
      · obtain ⟨application, _, rfl⟩ := Option.map_eq_some_iff.mp taken
        refine ⟨_, rfl, ?_⟩
        split
        · exact .calls (by rw [pc]; rfl) rfl rfl
        · exact .chains (by rw [pc]; rfl) rfl
      · cases taken
        exact ⟨_, rfl, .chains (by rw [pc]; rfl) rfl⟩
  | invoking rest =>
    simp only [pc] at taken
    cases taken
    exact ⟨_, rfl, .chains (by rw [pc]; rfl) rfl⟩
  | leaving =>
    simp only [pc] at taken
    cases taken
    exact ⟨_, rfl, .returns (by rw [pc]; rfl) (by rw [pc]; rfl) (by rw [pc]; exact Pc.noConfusion)⟩

theorem awaits_of_holds {pc : Pc} (holds : pc.holds = true) : pc.awaits = false := by
  cases pc <;> first | rfl | cases holds

section Moved
variable {s t : HandlerThreads} {i : Interception} {thread : Nat} {a : Activation}
  {outer stack : List Activation} {mutex : Option Nat}

theorem not_awaiting_of_holds (holds : a.pc.holds = true) : ¬ Awaiting (a :: outer) := by
  rintro (awaits | ⟨released, _⟩)
  · exact absurd awaits (Bool.eq_false_iff.mp (awaits_of_holds holds))
  · exact absurd holds (Bool.eq_false_iff.mp released)

/-- An activation that neither holds the mutex nor has yet to get it does not count. -/
theorem awaiting_cons (away : a.pc.awaits = false) (released : a.pc.holds = false) :
    Awaiting (a :: outer) ↔ Awaiting outer := by
  rw [Awaiting, away, released]
  simp

theorem selfWaits_moves (moves : Moves i thread a outer stack mutex) :
    mutex = some thread ∧ Awaiting stack ↔ i.mutex = some thread ∧
      (Awaiting (a :: outer) ∨ a.pc = .entry ∧ i.observers.intercepting = 0) := by
  cases moves with
  | passes entry first awaits =>
    exact and_congr_right fun _ => iff_of_true (Or.inl awaits) (Or.inr ⟨entry, first⟩)
  | returns away released later =>
    refine and_congr_right fun _ => ?_
    rw [awaiting_cons away released]
    exact (or_iff_left fun both => later both.1 both.2).symm
  | waits before awaits => exact and_congr_right fun _ => iff_of_true (Or.inl awaits) (Or.inl (Or.inl before))
  | locks _ free holds =>
    rw [free]
    exact iff_of_false (fun both => not_awaiting_of_holds holds both.2) fun both => nomatch both.1
  | chains before holds =>
    refine and_congr_right fun _ => iff_of_false (not_awaiting_of_holds holds) ?_
    rintro (awaiting | ⟨entry, _⟩)
    · exact not_awaiting_of_holds before awaiting
    · rw [entry] at before
      cases before
  | @calls b c before holds entry =>
    refine and_congr_right fun _ => iff_of_false ?_ ?_
    · rw [awaiting_cons (by rw [entry]; rfl) (by rw [entry]; rfl)]
      exact not_awaiting_of_holds holds
    · rintro (awaiting | ⟨entry, _⟩)
      · exact not_awaiting_of_holds before awaiting
      · rw [entry] at before
        cases before
  | unlocks before _ =>
    refine iff_of_false (fun both => nomatch both.1) ?_
    rintro ⟨_, awaiting | ⟨entry, _⟩⟩
    · exact not_awaiting_of_holds before awaiting
    · rw [entry] at before
      cases before

theorem count_holds (holds : a.pc.holds = true) :
    (a :: outer).countP (·.pc.holds) = outer.countP (·.pc.holds) + 1 :=
  List.countP_cons_of_pos holds

theorem count_released (released : a.pc.holds = false) :
    (a :: outer).countP (·.pc.holds) = outer.countP (·.pc.holds) :=
  List.countP_cons_of_neg (Bool.eq_false_iff.mp released)

theorem released_of_awaits {pc : Pc} (awaits : pc.awaits = true) : pc.holds = false := by
  cases pc <;> first | rfl | cases awaits

/-- A thread that holds the mutex once, if it has it, does so after the step. -/
theorem holds_moves (moves : Moves i thread a outer stack mutex) {calls : Nat}
    (owned : (a :: outer).countP (·.pc.holds) + calls ≤ if i.mutex = some thread then 1 else 0) :
    (stack.countP (·.pc.holds) + calls ≤ if mutex = some thread then 1 else 0) ∧
      ∀ other, other ≠ thread → (mutex = some other ↔ i.mutex = some other) := by
  cases moves with
  | passes entry first awaits =>
    rw [count_released (by rw [entry]; rfl)] at owned
    rw [count_released (released_of_awaits awaits)]
    exact ⟨owned, fun _ _ => Iff.rfl⟩
  | returns _ released _ =>
    rw [count_released released] at owned
    exact ⟨owned, fun _ _ => Iff.rfl⟩
  | waits before awaits =>
    rw [count_released (released_of_awaits before)] at owned
    rw [count_released (released_of_awaits awaits)]
    exact ⟨owned, fun _ _ => Iff.rfl⟩
  | locks before free holds =>
    rw [count_released (released_of_awaits before), free, if_neg (Option.some_ne_none thread).symm] at owned
    rw [count_holds holds, if_pos rfl]
    refine ⟨by omega, fun other apart => ?_⟩
    rw [free]
    exact iff_of_false (fun same => apart (Option.some.inj same).symm) (Option.some_ne_none other).symm
  | chains before holds =>
    rw [count_holds before] at owned
    rw [count_holds holds]
    exact ⟨owned, fun _ _ => Iff.rfl⟩
  | calls before holds entry =>
    rw [count_holds before] at owned
    rw [count_released (by rw [entry]; rfl), count_holds holds]
    exact ⟨owned, fun _ _ => Iff.rfl⟩
  | unlocks before leaving =>
    rw [count_holds before] at owned
    rw [count_released (by rw [leaving]; rfl), if_neg (Option.some_ne_none thread).symm]
    split at owned
    · rename_i mine
      refine ⟨by omega, fun other apart => ?_⟩
      rw [mine]
      exact iff_of_false (Option.some_ne_none other).symm fun same => apart (Option.some.inj same).symm
    · omega

end Moved

/-- An activation passes its test of `intercepting` on the thread that has the mutex. -/
def Passes (s : HandlerThreads) (action : HandlerAction) (thread : Nat) : Prop :=
  action = .advance thread ∧ (s.interception.threads thread).head?.map Activation.pc = some .entry ∧
    s.interception.observers.intercepting = 0 ∧ s.interception.mutex = some thread

theorem not_passes {s : HandlerThreads} {action : HandlerAction} (other : ∀ thread, action ≠ .advance thread)
    (thread : Nat) : ¬ s.Passes action thread :=
  fun passes => other thread passes.1

section Calls
variable {s t : HandlerThreads} {thread : Nat} {place : HandlerPlace}

theorem holders_goto_self : (s.goto thread place).holders thread =
    (s.interception.threads thread).countP (·.pc.holds) + place.holds.toNat := by
  rw [holders, goto]
  dsimp only
  rw [Function.update_self]

theorem holders_goto_other {other : Nat} (apart : other ≠ thread) :
    (s.goto thread place).holders other = s.holders other := by
  rw [holders, goto]
  dsimp only
  rw [Function.update_of_ne apart]
  rfl

theorem owned_goto (owned : s.Owned) (fewer : place.holds = true → (s.places thread).holds = true) :
    (s.goto thread place).Owned := by
  intro other
  by_cases same : other = thread
  · rw [same, holders_goto_self]
    refine Nat.le_trans (Nat.add_le_add_left ?_ _) (owned thread)
    cases holds : place.holds with
    | false => exact Nat.zero_le _
    | true => exact Nat.le_of_eq (congrArg Bool.toNat (fewer holds)).symm
  · rw [holders_goto_other same]
    exact owned other

/-- A thread outside of the handlers gets the mutex. -/
theorem owned_lock (owned : s.Owned) (free : s.interception.mutex = none)
    (outside : s.interception.threads thread = []) :
    ((s.goto thread place).setMutex (some thread)).Owned := by
  intro other
  change (s.goto thread place).holders other ≤ if some thread = some other then 1 else 0
  by_cases same : other = thread
  · rw [same, holders_goto_self, outside, if_pos rfl, List.countP_nil, Nat.zero_add]
    exact Bool.toNat_le _
  · have before := owned other
    rw [free, if_neg (Option.some_ne_none other).symm] at before
    rw [holders_goto_other same]
    exact Nat.le_trans before (Nat.zero_le _)

theorem mutex_of_place (owned : s.Owned) (holds : (s.places thread).holds = true) :
    s.interception.mutex = some thread := by
  by_contra other
  have bound := owned thread
  rw [if_neg other, holders, holds] at bound
  exact absurd bound (by simp)

theorem owned_unlock (owned : s.Owned) (holds : (s.places thread).holds = true)
    (outside : s.interception.threads thread = []) : ((s.goto thread .outside).setMutex none).Owned := by
  intro other
  change (s.goto thread .outside).holders other ≤ if none = some other then 1 else 0
  by_cases same : other = thread
  · rw [same, holders_goto_self, outside]
    exact Nat.zero_le _
  · have before := owned other
    rw [mutex_of_place owned holds, if_neg fun one => same (Option.some.inj one).symm] at before
    rw [holders_goto_other same]
    exact Nat.le_trans before (Nat.zero_le _)

/-- No thread that is outside of the handlers waits for itself. -/
theorem not_selfWaits (outside : s.interception.threads thread = []) (mutex : s.interception.mutex = some thread)
    (other : Nat) : ¬ s.SelfWaits other := by
  rintro ⟨same, awaiting⟩
  cases mutex.symm.trans same
  rw [outside] at awaiting
  exact awaiting

theorem call_kept {succeeds : Bool} (owned : s.Owned) (outside : s.interception.threads thread = [])
    (taken : s.call thread succeeds = some t) : t.Owned ∧ ∀ other, t.SelfWaits other ↔ s.SelfWaits other := by
  have locks : ∀ {place}, s.interception.mutex = none →
      ((s.goto thread place).setMutex (some thread)).Owned ∧
        ∀ other, ((s.goto thread place).setMutex (some thread)).SelfWaits other ↔ s.SelfWaits other := by
    intro place free
    refine ⟨owned_lock owned free outside, fun other => iff_of_false ?_ ?_⟩
    · exact not_selfWaits (s := (s.goto thread place).setMutex (some thread)) outside rfl other
    · rintro ⟨mutex, _⟩
      exact nomatch free.symm.trans mutex
  unfold call at taken
  cases place : s.places thread with
  | outside => simp only [place, reduceCtorEq] at taken
  | initializing | shuttingDown =>
    simp only [place] at taken
    split at taken <;> cases taken
    exact locks ‹_›
  | settingStack =>
    simp only [place] at taken
    cases taken
    exact ⟨owned_goto owned fun _ => by rw [place]; rfl, fun _ => Iff.rfl⟩
  | creating | uninstalling =>
    simp only [place] at taken
    cases taken
    exact ⟨owned_goto owned fun _ => by rw [place]; rfl, fun _ => Iff.rfl⟩
  | restoring rest =>
    cases rest with
    | nil | cons =>
      simp only [place] at taken
      cases taken
      exact ⟨owned_goto owned fun _ => by rw [place]; rfl, fun _ => Iff.rfl⟩
  | unlocking =>
    have holds : (s.places thread).holds = true := by rw [place]; rfl
    simp only [place] at taken
    cases succeeds with
    | false =>
      cases taken
      exact ⟨owned_goto owned Bool.noConfusion, fun _ => Iff.rfl⟩
    | true =>
      cases taken
      refine ⟨owned_unlock owned holds outside, fun other => iff_of_false (fun both => nomatch both.1) ?_⟩
      exact not_selfWaits outside (mutex_of_place owned holds) other

end Calls

section Steps
variable {s t : HandlerThreads} {action : HandlerAction}

/-- A step of an activation. -/
theorem advance_kept {thread : Nat} (owned : s.Owned) (taken : s.step (.advance thread) = some t) :
    t.Owned ∧ ∀ other, t.SelfWaits other ↔ s.SelfWaits other ∨ s.Passes (.advance thread) other := by
  obtain ⟨i, advanced, rfl⟩ := Option.map_eq_some_iff.mp taken
  simp only [Interception.step] at advanced
  split at advanced
  · cases advanced
  rename_i a outer active
  obtain ⟨stack, threads, moves⟩ := advance_moves advanced
  have mine := owned thread
  rw [holders, active] at mine
  obtain ⟨once, others⟩ := holds_moves moves mine
  constructor
  · intro other
    by_cases same : other = thread
    · rw [same, holders]
      dsimp only
      rw [threads, Function.update_self]
      exact once
    · have before := owned other
      rw [holders] at before ⊢
      dsimp only
      rw [threads, Function.update_of_ne same]
      by_cases has : s.interception.mutex = some other
      · rw [if_pos has] at before
        rwa [if_pos ((others other same).mpr has)]
      · rw [if_neg has] at before
        rwa [if_neg fun now => has ((others other same).mp now)]
  · intro other
    by_cases same : other = thread
    · subst same
      have waits := selfWaits_moves moves
      rw [SelfWaits, threads, Function.update_self, waits, SelfWaits, Passes, active, and_or_left]
      simp [and_comm, and_assoc]
    · have passes : ¬ s.Passes (.advance thread) other := fun both => same (HandlerAction.advance.inj both.1).symm
      rw [or_iff_left passes, SelfWaits, SelfWaits, threads, Function.update_of_ne same, others other same]

/-- A signal only adds an activation that is before its test. -/
theorem deliver_kept {thread : Nat} {signal : ObservedSignal} (owned : s.Owned)
    (taken : s.step (.deliver thread signal) = some t) :
    t.Owned ∧ ∀ other, t.SelfWaits other ↔ s.SelfWaits other ∨ s.Passes (.deliver thread signal) other := by
  obtain ⟨i, delivered, rfl⟩ := Option.map_eq_some_iff.mp taken
  simp only [Interception.step] at delivered
  split at delivered <;> cases delivered
  generalize entering : (⟨signal, .entry, []⟩ : Activation) = a
  have entry : a.pc = .entry := by rw [← entering]
  have added : ∀ other, (s.interception.setThread thread (a :: s.interception.threads thread)).threads other =
      s.interception.threads other ∨
      (s.interception.setThread thread (a :: s.interception.threads thread)).threads other =
        a :: s.interception.threads other := by
    intro other
    by_cases same : other = thread
    · rw [same]
      exact Or.inr (setThread_self ..)
    · exact Or.inl (setThread_other _ same _)
  constructor
  · intro other
    have before := owned other
    rw [holders] at before ⊢
    dsimp only
    rcases added other with same | same
    · rw [same]
      exact before
    · rw [same, count_released (by rw [entry]; rfl)]
      exact before
  · intro other
    rw [or_iff_left (not_passes (fun _ => HandlerAction.noConfusion) other)]
    refine and_congr_right fun _ => ?_
    dsimp only
    rcases added other with same | same
    · rw [same]
    · rw [same, awaiting_cons (by rw [entry]; rfl) (by rw [entry]; rfl)]

theorem step_kept (owned : s.Owned) (taken : s.step action = some t) :
    t.Owned ∧ ∀ other, t.SelfWaits other ↔ s.SelfWaits other ∨ s.Passes action other := by
  cases action with
  | advance thread => exact advance_kept owned taken
  | handlerInitialize thread | handlerShutdown thread =>
    simp only [step] at taken
    split at taken <;> cases taken
    exact ⟨owned_goto owned Bool.noConfusion, fun _ => (or_iff_left (not_passes (fun _ => HandlerAction.noConfusion) _)).symm⟩
  | call thread succeeds =>
    simp only [step] at taken
    split at taken
    · obtain ⟨kept, same⟩ := call_kept owned ‹_› taken
      exact ⟨kept, fun other => (same other).trans (or_iff_left (not_passes (fun _ => HandlerAction.noConfusion) _)).symm⟩
    · cases taken
  | deliver thread signal => exact deliver_kept owned taken
  | install answers =>
    simp only [step] at taken
    split at taken <;> cases taken
    exact ⟨owned, fun _ => (or_iff_left (not_passes (fun _ => HandlerAction.noConfusion) _)).symm⟩

theorem not_apart_iff : ¬ Apart s action ↔ ∃ thread, s.Passes action thread := by
  cases action with
  | advance thread =>
    simp only [Apart, Passes, HandlerAction.advance.injEq]
    constructor
    · intro broken
      obtain ⟨entry, broken⟩ := Classical.not_imp.mp broken
      obtain ⟨first, mutex⟩ := Classical.not_imp.mp broken
      exact ⟨thread, rfl, entry, first, not_not.mp mutex⟩
    · rintro ⟨_, rfl, entry, first, mutex⟩ apart
      exact apart entry first mutex
  | _ =>
    refine iff_of_false (fun broken => broken trivial) fun ⟨thread, passes⟩ => ?_
    exact not_passes (fun _ => HandlerAction.noConfusion) thread passes

/-- A thread in a call, or in an activation that is not on its way to the mutex, can go on. -/
theorem goes_on {thread : Nat} (mutex : s.interception.mutex = some thread) (free : ¬ s.SelfWaits thread)
    (holds : 0 < s.holders thread)
    (invokes : ∀ signal, invokeSigaction (s.interception.observers.saPrevious signal) ≠ none) :
    ∃ t, s.step (.call thread true) = some t ∨ s.step (.advance thread) = some t := by
  have awaiting : ¬ Awaiting (s.interception.threads thread) := fun awaiting => free ⟨mutex, awaiting⟩
  cases active : s.interception.threads thread with
  | nil =>
    rw [holders, active, List.countP_nil, Nat.zero_add] at holds
    have called : ∃ t, s.call thread true = some t := by
      unfold call
      cases place : s.places thread with
      | outside | initializing | shuttingDown =>
        rw [place] at holds
        exact absurd holds (Nat.lt_irrefl 0)
      | restoring rest => cases rest <;> exact ⟨_, rfl⟩
      | _ => exact ⟨_, rfl⟩
    obtain ⟨t, called⟩ := called
    exact ⟨t, Or.inl (by rw [step, if_pos active, called])⟩
  | cons a outer =>
    rw [active] at awaiting
    have advanced : ∃ i, s.interception.advance thread a outer = some i := by
      unfold Interception.advance
      cases pc : a.pc with
      | entry =>
        dsimp only
        split <;> exact ⟨_, rfl⟩
      | collecting | uninstalling | restoring | locking =>
        exact absurd (Or.inl (by rw [pc]; rfl)) awaiting
      | chaining rest =>
        cases rest with
        | nil => exact ⟨_, rfl⟩
        | cons signal rest =>
          dsimp only
          split
          · obtain ⟨application, invoked⟩ := Option.ne_none_iff_exists'.mp (invokes a.signo)
            exact ⟨_, by rw [Interception.invoke, invoked]; rfl⟩
          · exact ⟨_, rfl⟩
      | invoking | leaving => exact ⟨_, rfl⟩
    obtain ⟨i, advanced⟩ := advanced
    have stepped : s.interception.step (.advance thread) = some i := by
      rw [Interception.step, active]
      exact advanced
    exact ⟨{ s with interception := i }, Or.inr (by rw [step, stepped]; rfl)⟩

end Steps

theorem start_owned (observers : Observers) : (start observers).Owned := fun _ => Nat.zero_le _

/-- How the mutex fares. -/
structure MutexFares (observers : Observers) (actions : List HandlerAction) (s : HandlerThreads) : Prop where
  /-- Some thread that has it waits for it, or will, exactly when an activation has passed
  its test of `intercepting` on the thread that had it, -/
  selfWaits : (¬ ∃ thread, s.SelfWaits thread) ↔ Meets Apart step (start observers) actions
  /-- and then it is never released. -/
  forever : ∀ thread, s.SelfWaits thread → ∀ later t, run step s later = some t → t.SelfWaits thread
  /-- Otherwise the call or the activation that holds it can go on. -/
  goesOn : ∀ thread, s.interception.mutex = some thread → ¬ s.SelfWaits thread → 0 < s.holders thread →
    (∀ signal, invokeSigaction (s.interception.observers.saPrevious signal) ≠ none) →
    ∃ t, s.step (.call thread true) = some t ∨ s.step (.advance thread) = some t

end HandlerThreads

end AgentNDK
