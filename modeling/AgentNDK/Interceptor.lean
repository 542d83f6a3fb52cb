import AgentNDK.SignalHandler

namespace AgentNDK
open Runs

/-- What chaining does of a saved action. -/
inductive Application
  | called (handler : Handler) (withInfo : Bool)
  | raised
  | ignored
  deriving DecidableEq

/-- With the flag set the handler is called whatever it is; there is nothing at
the addresses that stand for the default and for ignoring. -/
def invokeSigaction (action : Sigaction) : Option Application :=
  if action.saFlags &&& saSiginfo ≠ 0 then
    match action.saHandler with
    | .sigDfl | .sigIgn => none
    | handler => some (.called handler true)
  else
    match action.saHandler with
    | .sigDfl => some .raised
    | .sigIgn => some .ignored
    | handler => some (.called handler false)

/-- A handler is called, the default is raised again, and only what ignores the
signal is ignored. -/
def Applies (action : Sigaction) : Application → Prop
  | .called handler _ => handler = action.saHandler ∧ handler ≠ .sigDfl ∧ handler ≠ .sigIgn
  | .raised => action.saHandler = .sigDfl
  | .ignored => action.saHandler = .sigIgn

theorem invokeSigaction_applies {action : Sigaction} {application : Application}
    (invoked : invokeSigaction action = some application) : Applies action application := by
  unfold invokeSigaction at invoked
  split at invoked <;> split at invoked <;> cases invoked
  · rename_i notDefault notIgnored
    exact ⟨rfl, fun same => notDefault same, fun same => notIgnored same⟩
  · assumption
  · assumption
  · rename_i notDefault notIgnored
    exact ⟨rfl, fun same => notDefault same, fun same => notIgnored same⟩

/-- Where an activation of `interceptor` is. -/
inductive Pc
  /-- before its test of `intercepting` -/
  | entry
  | collecting
  /-- before the test of `uninstall_handler` -/
  | uninstalling
  | restoring (rest : List ObservedSignal)
  /-- before `invoke_previous_sigaction` has the mutex -/
  | locking
  /-- in its search for the signal -/
  | chaining (rest : List ObservedSignal)
  /-- in the previous action -/
  | invoking (rest : List ObservedSignal)
  | leaving
  deriving DecidableEq

structure Activation where
  signo : ObservedSignal
  pc : Pc
  /-- the saved actions it has applied, and how -/
  applied : List (Sigaction × Application)
  deriving DecidableEq

structure Interception where
  observers : Observers
  /-- the activations of each thread, the innermost first -/
  threads : Nat → List Activation
  /-- the thread that holds the module mutex -/
  mutex : Option Nat
  returned : List Activation

def Interception.start (observers : Observers) : Interception :=
  ⟨observers, fun _ => [], none, []⟩

inductive InterceptAction
  /-- a signal whose disposition is the interceptor reaches a thread, wherever it is -/
  | deliver (thread : Nat) (signal : ObservedSignal)
  /-- the innermost activation of a thread goes on -/
  | advance (thread : Nat)
  /-- its `pthread_mutex_lock` fails -/
  | lockFails (thread : Nat)
  /-- another thread stops the observers -/
  | uninstall

def Interception.setThread (s : Interception) (thread : Nat) (activations : List Activation) :
    Interception :=
  { s with threads := Function.update s.threads thread activations }

theorem setThread_self (s : Interception) (thread : Nat) (activations : List Activation) :
    (s.setThread thread activations).threads thread = activations :=
  Function.update_self ..

theorem setThread_other (s : Interception) {thread other : Nat} (ne : other ≠ thread)
    (activations : List Activation) :
    (s.setThread thread activations).threads other = s.threads other :=
  Function.update_of_ne ne ..

def Interception.leave (s : Interception) (thread : Nat) (a : Activation) (outer : List Activation) :
    Interception :=
  { s.setThread thread outer with returned := a :: s.returned }

/-- The activation applies the saved action of its signal. One that is the
interceptor again is called there and then. -/
def Interception.invoke (s : Interception) (thread : Nat) (a : Activation) (rest : List ObservedSignal)
    (outer : List Activation) : Option Interception :=
  let action := s.observers.saPrevious a.signo
  (invokeSigaction action).map fun application =>
    let chained := { a with pc := .invoking rest, applied := a.applied ++ [(action, application)] }
    let called := if action.saHandler = .interceptor then [⟨a.signo, .entry, []⟩] else []
    s.setThread thread (called ++ chained :: outer)

/-- One step of the innermost activation of a thread. -/
def Interception.advance (s : Interception) (thread : Nat) (a : Activation) (outer : List Activation) :
    Option Interception :=
  let goto := fun pc => s.setThread thread ({ a with pc := pc } :: outer)
  match a.pc with
  | .entry =>
    let counted := { s.observers with intercepting := s.observers.intercepting + 1 }
    if s.observers.intercepting = 0 then some { goto .collecting with observers := counted }
    else some { s.leave thread a outer with observers := counted }
  | .collecting => some (goto .uninstalling)
  | .uninstalling =>
    some (goto (if 0 < s.observers.initialized then .restoring observedSignals else .locking))
  | .restoring (signal :: rest) =>
    some { goto (.restoring rest) with observers := restoreHandler s.observers signal }
  | .restoring [] =>
    some { goto .locking with
      observers := { s.observers with initialized := s.observers.initialized - 1 } }
  | .locking =>
    if s.mutex = none then some { goto (.chaining observedSignals) with mutex := some thread } else none
  | .chaining (signal :: rest) =>
    if signal = a.signo then s.invoke thread a rest outer else some (goto (.chaining rest))
  | .chaining [] => some { goto .leaving with mutex := none }
  | .invoking rest => some (goto (.chaining rest))
  | .leaving =>
    some { s.leave thread a outer with
      observers := { s.observers with intercepting := s.observers.intercepting - 1 } }

def Interception.step (s : Interception) : InterceptAction → Option Interception
  | .deliver thread signal =>
    if (s.observers.disposition signal).saHandler = .interceptor then
      some (s.setThread thread (⟨signal, .entry, []⟩ :: s.threads thread))
    else none
  | .advance thread =>
    match s.threads thread with
    | [] => none
    | a :: outer => s.advance thread a outer
  | .lockFails thread =>
    match s.threads thread with
    | ⟨signo, .locking, applied⟩ :: outer =>
      some (s.setThread thread (⟨signo, .leaving, applied⟩ :: outer))
    | _ => none
  | .uninstall =>
    if s.mutex = none then some { s with observers := uninstallHandler s.observers } else none

/-- The activation has applied the saved action of its signal once, the way it
asks for. -/
def Activation.Honoured (saPrevious : ObservedSignal → Sigaction) (a : Activation) : Prop :=
  ∃ application, a.applied = [(saPrevious a.signo, application)] ∧
    Applies (saPrevious a.signo) application

/-- An activation tests `intercepting` only while it is zero, and the mutex
does not fail. -/
def Unrivalled (s : Interception) : InterceptAction → Prop
  | .advance thread =>
    ((s.threads thread).head?.map Activation.pc) = some .entry → s.observers.intercepting = 0
  | .lockFails _ => False
  | _ => True

instance : (s : Interception) → (action : InterceptAction) → Decidable (Unrivalled s action)
  | _, .advance _ => inferInstanceAs (Decidable (_ → _))
  | _, .lockFails _ => instDecidableFalse
  | _, .deliver _ _ | _, .uninstall => instDecidableTrue

/-- How far an activation has come with the saved action of its signal. -/
def Activation.OnCourse (saPrevious : ObservedSignal → Sigaction) (a : Activation) : Prop :=
  match a.pc with
  | .entry | .collecting | .uninstalling | .restoring _ | .locking => a.applied = []
  | .chaining rest | .invoking rest =>
    rest.Nodup ∧ if a.signo ∈ rest then a.applied = [] else a.Honoured saPrevious
  | .leaving => a.Honoured saPrevious

structure Interception.Inv (saPrevious : ObservedSignal → Sigaction) (s : Interception) : Prop where
  saved : s.observers.saPrevious = saPrevious
  active : ∀ thread, ∀ a ∈ s.threads thread, a.OnCourse saPrevious
  returned : ∀ a ∈ s.returned, a.Honoured saPrevious

section Steps
variable {saPrevious : ObservedSignal → Sigaction} {s t : Interception}

/-- The activations of one thread change. -/
theorem Interception.Inv.setThread (inv : s.Inv saPrevious) {thread : Nat}
    {activations : List Activation} (onCourse : ∀ a ∈ activations, a.OnCourse saPrevious) :
    (s.setThread thread activations).Inv saPrevious where
  saved := inv.saved
  active := by
    intro other a member
    by_cases same : other = thread
    · rw [same, setThread_self] at member
      exact onCourse a member
    · rw [setThread_other s same] at member
      exact inv.active other a member
  returned := inv.returned

theorem uninstallHandler_saPrevious (o : Observers) : (uninstallHandler o).saPrevious = o.saPrevious := by
  unfold uninstallHandler
  split
  · rw [foldl_restoreHandler]
  · rfl

theorem inv_invoke {thread : Nat} {a : Activation} {rest : List ObservedSignal}
    {outer : List Activation} (inv : s.Inv saPrevious) (pc : a.pc = .chaining (a.signo :: rest))
    (onCourse : a.OnCourse saPrevious) (others : ∀ b ∈ outer, b.OnCourse saPrevious)
    (taken : s.invoke thread a rest outer = some t) : t.Inv saPrevious := by
  obtain ⟨application, invoked, rfl⟩ := Option.map_eq_some_iff.mp taken
  simp only [Activation.OnCourse, pc, List.mem_cons_self, if_true] at onCourse
  obtain ⟨distinct, unapplied⟩ := onCourse
  obtain ⟨new, later⟩ := List.nodup_cons.mp distinct
  rw [inv.saved] at invoked ⊢
  refine inv.setThread (List.forall_mem_append.mpr ⟨?_, List.forall_mem_cons.mpr ⟨?_, others⟩⟩)
  · split
    · exact List.forall_mem_singleton.mpr rfl
    · simp
  · refine ⟨later, ?_⟩
    dsimp only
    rw [if_neg new, unapplied]
    exact ⟨application, rfl, invokeSigaction_applies invoked⟩

theorem inv_leave {thread : Nat} {a : Activation} {outer : List Activation} (inv : s.Inv saPrevious)
    (honoured : a.Honoured saPrevious) (others : ∀ b ∈ outer, b.OnCourse saPrevious) :
    (s.leave thread a outer).Inv saPrevious :=
  { inv.setThread others with returned := List.forall_mem_cons.mpr ⟨honoured, inv.returned⟩ }

/-- A step of an activation, by where it is. The one that would return with
nothing applied is the failed test. -/
theorem inv_advance {thread : Nat} {a : Activation} {outer : List Activation}
    (inv : s.Inv saPrevious) (active : s.threads thread = a :: outer)
    (unrivalled : a.pc = .entry → s.observers.intercepting = 0)
    (taken : s.advance thread a outer = some t) : t.Inv saPrevious := by
  have members := inv.active thread
  rw [active, List.forall_mem_cons] at members
  obtain ⟨onCourse, others⟩ := members
  have goto : ∀ pc, ({ a with pc := pc } : Activation).OnCourse saPrevious →
      (s.setThread thread ({ a with pc := pc } :: outer)).Inv saPrevious := fun pc next =>
    inv.setThread (List.forall_mem_cons.mpr ⟨next, others⟩)
  unfold Interception.advance at taken
  simp only [Activation.OnCourse] at onCourse goto
  cases pc : a.pc with
  | entry =>
    simp only [pc, if_pos (unrivalled pc)] at taken onCourse
    cases taken
    exact { goto .collecting onCourse with saved := inv.saved }
  | collecting =>
    simp only [pc] at taken onCourse
    cases taken
    exact goto .uninstalling onCourse
  | uninstalling =>
    simp only [pc] at taken onCourse
    cases taken
    split
    · exact goto (.restoring observedSignals) onCourse
    · exact goto .locking onCourse
  | restoring rest =>
    cases rest with
    | nil =>
      simp only [pc] at taken onCourse
      cases taken
      exact { goto .locking onCourse with saved := inv.saved }
    | cons signal rest =>
      simp only [pc] at taken onCourse
      cases taken
      exact { goto (.restoring rest) onCourse with saved := inv.saved }
  | locking =>
    simp only [pc] at taken onCourse
    split at taken
    · cases taken
      have next := goto (.chaining observedSignals)
        ⟨by decide, by rw [if_pos (mem_observedSignals _)]; exact onCourse⟩
      exact { next with saved := inv.saved }
    · cases taken
  | chaining rest =>
    cases rest with
    | nil =>
      simp only [pc, List.not_mem_nil, if_false] at taken onCourse
      cases taken
      exact { goto .leaving onCourse.2 with saved := inv.saved }
    | cons signal rest =>
      simp only [pc] at taken onCourse
      split at taken
      · rename_i same
        subst same
        refine inv_invoke inv pc ?_ others taken
        simp only [Activation.OnCourse, pc]
        exact onCourse
      · rename_i other
        cases taken
        obtain ⟨distinct, progress⟩ := onCourse
        have elsewhere : a.signo ∈ signal :: rest ↔ a.signo ∈ rest := by
          rw [List.mem_cons, or_iff_right fun same => other same.symm]
        simp only [elsewhere] at progress
        exact goto (.chaining rest) ⟨(List.nodup_cons.mp distinct).2, progress⟩
  | invoking rest =>
    simp only [pc] at taken onCourse
    cases taken
    exact goto (.chaining rest) onCourse
  | leaving =>
    simp only [pc] at taken onCourse
    cases taken
    exact { inv_leave inv onCourse others with saved := inv.saved }

theorem inv_intercept {action : InterceptAction} (inv : s.Inv saPrevious)
    (unrivalled : Unrivalled s action) (taken : s.step action = some t) : t.Inv saPrevious := by
  cases action with
  | deliver thread signal =>
    simp only [Interception.step] at taken
    split at taken
    · cases taken
      exact inv.setThread (List.forall_mem_cons.mpr ⟨rfl, inv.active thread⟩)
    · cases taken
  | advance thread =>
    simp only [Interception.step] at taken
    split at taken
    · cases taken
    · rename_i a outer active
      refine inv_advance inv active (fun entry => unrivalled ?_) taken
      rw [active, List.head?_cons, Option.map_some, entry]
  | lockFails thread => exact unrivalled.elim
  | uninstall =>
    simp only [Interception.step] at taken
    split at taken
    · cases taken
      exact { inv with saved := (uninstallHandler_saPrevious _).trans inv.saved }
    · cases taken

end Steps

/-- Where no activation finds another one under way, every activation that has
returned has applied the saved action of its signal exactly once. -/
theorem activations_honoured {observers : Observers} {s : Interception}
    {actions : List InterceptAction}
    (reach : run (restrict Unrivalled Interception.step) (.start observers) actions = some s) :
    ∀ a ∈ s.returned, a.Honoured observers.saPrevious := by
  have initial : (Interception.start observers).Inv observers.saPrevious :=
    ⟨rfl, fun _ _ => by simp [Interception.start], by simp [Interception.start]⟩
  have inv : s.Inv observers.saPrevious :=
    run_restrict_invariant (fun _ _ _ => inv_intercept) initial reach
  exact inv.returned

/-- An activation that finds another one under way returns at once, and
nothing was done about its signal. -/
theorem rivalled_swallowed {s : Interception} {thread : Nat} {a : Activation} {outer : List Activation}
    (active : s.threads thread = a :: outer) (entry : a.pc = .entry) (unapplied : a.applied = [])
    (rival : s.observers.intercepting ≠ 0) (saPrevious : ObservedSignal → Sigaction) :
    ∃ t, s.step (.advance thread) = some t ∧ a ∈ t.returned ∧ ¬ a.Honoured saPrevious := by
  simp only [Interception.step, active, Interception.advance, entry, if_neg rival]
  refine ⟨_, rfl, List.mem_cons_self, ?_⟩
  rintro ⟨application, applied, _⟩
  rw [unapplied] at applied
  cases applied

/-- Installed over a handler for each of the signals. -/
def installedObservers : Observers :=
  installSignalObservers .success (.start fun _ => ⟨.function 0x1000, saSiginfo, 0⟩)

theorem activations_honoured_once : ∃ s, run (restrict Unrivalled Interception.step)
    (.start installedObservers) (.deliver 0 .sigsegv :: List.replicate 20 (.advance 0)) = some s ∧
      s.returned.length = 1 ∧ ∀ a ∈ s.returned, a.Honoured installedObservers.saPrevious := by
  have reach : ∃ s, run (restrict Unrivalled Interception.step) (.start installedObservers)
      (.deliver 0 .sigsegv :: List.replicate 20 (.advance 0)) = some s ∧ s.returned.length = 1 :=
    ⟨_, rfl, rfl⟩
  obtain ⟨s, reach, one⟩ := reach
  exact ⟨s, reach, one, activations_honoured reach⟩

/-- A fault while an abort is being reported is swallowed. -/
theorem activation_swallowed : ∃ s, run Interception.step (.start installedObservers)
    [.deliver 0 .sigabrt, .advance 0, .deliver 0 .sigsegv, .advance 0] = some s ∧
      ∃ a ∈ s.returned, a.signo = .sigsegv ∧ ¬ a.Honoured installedObservers.saPrevious := by
  refine ⟨_, rfl, ⟨.sigsegv, .entry, []⟩, List.mem_cons_self, rfl, ?_⟩
  rintro ⟨application, applied, _⟩
  cases applied

end AgentNDK
