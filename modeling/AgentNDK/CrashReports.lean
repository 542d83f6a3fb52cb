import AgentNDK.InstallerThreads
import AgentNDK.Interceptor
import AgentNDK.SignalStack

namespace AgentNDK
open Runs

/-- The module and the thread that crashes, whose activations of `interceptor`
are nested, the innermost first. -/
structure CrashingProcess where
  handler : SignalHandler
  activations : List Activation
  /-- the reports stored since the observers were last installed -/
  reports : Nat

def CrashingProcess.start (disposition : ObservedSignal → Sigaction) : CrashingProcess :=
  ⟨.start disposition, [], 0⟩

inductive CrashAction
  /-- `signal_handler_initialize` on another thread, and its installer to the end -/
  | start (answers : InitializeAnswers) (install : InstallAnswers)
  /-- `signal_handler_shutdown` on another thread -/
  | stop (lock unlock : Bool)
  /-- a signal whose disposition is the interceptor, wherever the thread is -/
  | deliver (signal : ObservedSignal)
  /-- the innermost activation goes on -/
  | advance
  /-- its `pthread_mutex_lock` fails -/
  | lockFails

/-- Whether a start gets as far as the installation. -/
def Installs (answers : InitializeAnswers) (install : InstallAnswers) (h : SignalHandler) : Bool :=
  (signalHandlerInitialize answers h).any Initialized.installer && h.initialized == 0 &&
    install.setname

/-- What the interceptor acts on, with the crashing thread as the only one. -/
def CrashingProcess.interception (s : CrashingProcess) : Interception :=
  ⟨s.handler.toObservers, fun _ => s.activations, if s.handler.mutexHeld then some 0 else none, []⟩

/-- A step of the crashing thread. -/
def CrashingProcess.intercept (s : CrashingProcess) (action : InterceptAction) :
    Option CrashingProcess :=
  (s.interception.step action).map fun t =>
    { handler := { s.handler with toObservers := t.observers, mutexHeld := t.mutex.isSome }
      activations := t.threads 0
      reports := s.reports }

def CrashingProcess.step (s : CrashingProcess) : CrashAction → Option CrashingProcess
  | .start answers install =>
    (signalHandlerInitialize answers s.handler).map fun r =>
      { s with
        handler :=
          if r.installer then
            { r.handler with
              toObservers := installSignalObservers install r.handler.toObservers }
          else r.handler
        reports := if Installs answers install s.handler then 0 else s.reports }
  | .stop lock unlock =>
    (signalHandlerShutdown lock unlock s.handler).map fun h => { s with handler := h }
  | .deliver signal => s.intercept (.deliver 0 signal)
  | .advance =>
    -- the step that leaves the collecting code has stored its report
    let stored := if s.activations.head?.map Activation.pc = some .collecting then 1 else 0
    (s.intercept (.advance 0)).map fun t => { t with reports := s.reports + stored }
  | .lockFails => s.intercept (.lockFails 0)

def Pc.Chains : Pc → Prop
  | .chaining _ | .invoking _ => True
  | _ => False

/-- At most one report has been stored, and no activation is in
`invoke_previous_sigaction` while a signal is still the interceptor's. -/
def OneReport (s : CrashingProcess) : Prop :=
  s.reports ≤ 1 ∧ ∀ a ∈ s.activations, a.pc.Chains → s.handler.Free fun _ => True

/-- The thread is in at most one activation, which is still before its test of
`intercepting`. -/
def Untested (activations : List Activation) : Prop :=
  activations.length ≤ 1 ∧ ∀ a ∈ activations, a.pc = .entry

instance (activations : List Activation) : Decidable (Untested activations) :=
  inferInstanceAs (Decidable (_ ∧ _))

/-- No signal reaches an activation that will pass the test of `intercepting`,
and none is past it when the observers are installed. -/
def Gapless (s : CrashingProcess) : CrashAction → Prop
  | .start answers install => Installs answers install s.handler = true → Untested s.activations
  | .deliver _ =>
    s.activations.head?.map Activation.pc = some .entry → s.handler.intercepting ≠ 0
  | _ => True

instance : (s : CrashingProcess) → (action : CrashAction) → Decidable (Gapless s action)
  | _, .start _ _ => inferInstanceAs (Decidable (_ → _))
  | _, .deliver _ => inferInstanceAs (Decidable (_ → _))
  | _, .stop _ _ | _, .advance | _, .lockFails => instDecidableTrue

/-- How far the activation that collects has come with the report and with the
dispositions. -/
def Working (o : Observers) : Pc → Nat → Prop
  | .entry, _ => False
  | .collecting, reports => reports = 0
  | .uninstalling, reports => reports = 1
  | .restoring rest, reports => reports = 1 ∧ o.Free (· ∉ rest)
  | .locking, reports | .chaining _, reports | .invoking _, reports | .leaving, reports =>
    reports = 1 ∧ o.Free fun _ => True

/-- The activations of a thread: only the outermost can collect, and those
inside it will fail their test. -/
inductive Nesting (o : Observers) : List Activation → Nat → Prop
  | quiet {reports : Nat} (once : reports ≤ 1) (removed : reports = 1 → o.Free fun _ => True) :
    Nesting o [] reports
  | entering {a : Activation} (entry : a.pc = .entry) : Nesting o [a] 0
  | working {a : Activation} {reports : Nat} (counted : 0 < o.intercepting)
    (works : Working o a.pc reports) : Nesting o [a] reports
  | nested {a b : Activation} {outer : List Activation} {reports : Nat} (entry : a.pc = .entry)
    (counted : 0 < o.intercepting) (inside : Nesting o (b :: outer) reports) :
    Nesting o (a :: b :: outer) reports

/-- What holds of the observers and of the crashing thread without gaps. -/
structure Guarded (o : Observers) (activations : List Activation) (reports : Nat) : Prop where
  saved : ∀ signal, (o.saPrevious signal).saHandler ≠ .interceptor
  /-- without a start to its account nothing is installed -/
  zero : o.initialized ≤ 0 → o.Free fun _ => True
  callers : 0 ≤ o.intercepting
  nesting : Nesting o activations reports

def CrashingProcess.Inv (s : CrashingProcess) : Prop :=
  Guarded s.handler.toObservers s.activations s.reports

section Nestings
variable {o p : Observers} {activations : List Activation} {reports : Nat}

theorem Observers.Free.mono {signals fewer : ObservedSignal → Prop} (free : o.Free signals)
    (sub : ∀ signal, fewer signal → signals signal) : o.Free fewer :=
  fun signal member => free signal (sub signal member)

theorem Working.mono {pc : Pc} (works : Working o pc reports)
    (freed : ∀ signals, o.Free signals → p.Free signals) : Working p pc reports := by
  cases pc with
  | entry | collecting | uninstalling => exact works
  | restoring | locking | chaining | invoking | leaving => exact works.imp_right (freed _)

/-- Other threads only count more callers and free dispositions. -/
theorem Nesting.mono (nesting : Nesting o activations reports)
    (counted : o.intercepting ≤ p.intercepting)
    (freed : ∀ signals, o.Free signals → p.Free signals) : Nesting p activations reports := by
  induction nesting with
  | quiet once removed => exact .quiet once fun one => freed _ (removed one)
  | entering entry => exact .entering entry
  | working positive works => exact .working (Int.lt_of_lt_of_le positive counted) (works.mono freed)
  | nested entry positive _ ih => exact .nested entry (Int.lt_of_lt_of_le positive counted) ih

theorem Working.oneReport {pc : Pc} (works : Working o pc reports) :
    reports ≤ 1 ∧ (pc.Chains → o.Free fun _ => True) := by
  cases pc with
  | entry => exact works.elim
  | collecting => exact ⟨works ▸ Nat.zero_le 1, False.elim⟩
  | uninstalling => exact ⟨Nat.le_of_eq works, False.elim⟩
  | restoring | locking | leaving => exact ⟨Nat.le_of_eq works.1, False.elim⟩
  | chaining | invoking => exact ⟨Nat.le_of_eq works.1, fun _ => works.2⟩

theorem Nesting.oneReport (nesting : Nesting o activations reports) :
    reports ≤ 1 ∧ ∀ a ∈ activations, a.pc.Chains → o.Free fun _ => True := by
  have silent : ∀ {a : Activation}, a.pc = .entry → ¬ a.pc.Chains := fun entry chains => by
    rw [entry] at chains
    exact chains
  induction nesting with
  | quiet once _ => exact ⟨once, fun _ member => absurd member List.not_mem_nil⟩
  | entering entry =>
    exact ⟨Nat.zero_le 1, List.forall_mem_singleton.mpr fun chains => absurd chains (silent entry)⟩
  | working _ works =>
    exact ⟨works.oneReport.1, List.forall_mem_singleton.mpr works.oneReport.2⟩
  | nested entry _ _ ih =>
    exact ⟨ih.1, List.forall_mem_cons.mpr ⟨fun chains => absurd chains (silent entry), ih.2⟩⟩

theorem Nesting.counted {a : Activation} {outer : List Activation}
    (nesting : Nesting o (a :: outer) reports) (callers : 0 ≤ o.intercepting)
    (tested : a.pc = .entry → o.intercepting ≠ 0) : 0 < o.intercepting := by
  cases nesting with
  | entering entry => have := tested entry; omega
  | working counted _ => exact counted
  | nested _ counted _ => exact counted

theorem Nesting.outermost {a : Activation} {outer : List Activation}
    (nesting : Nesting o (a :: outer) reports) (tested : a.pc ≠ .entry) :
    outer = [] ∧ 0 < o.intercepting ∧ Working o a.pc reports := by
  cases nesting with
  | entering entry => exact absurd entry tested
  | working counted works => exact ⟨rfl, counted, works⟩
  | nested entry _ _ => exact absurd entry tested

end Nestings

theorem foldl_install_saved (succeeds : ObservedSignal → Bool) (signals : List ObservedSignal)
    (distinct : signals.Nodup) {o : Observers}
    (saved : ∀ s, (o.saPrevious s).saHandler ≠ .interceptor) (free : o.Free (· ∈ signals)) :
    ∀ s, ((signals.foldl (fun o signal => if succeeds signal then installHandler o signal else o)
      o).saPrevious s).saHandler ≠ .interceptor := by
  induction signals generalizing o with
  | nil => exact saved
  | cons signal rest ih =>
    obtain ⟨new, later⟩ := List.nodup_cons.mp distinct
    rw [List.foldl_cons]
    split
    · obtain ⟨kept, others⟩ := installHandler_free saved free new
      exact ih later kept others
    · exact ih later saved (free.mono fun _ => List.mem_cons_of_mem signal)

theorem foldl_install_initialized (succeeds : ObservedSignal → Bool) (signals : List ObservedSignal)
    (o : Observers) :
    (signals.foldl (fun o signal => if succeeds signal then installHandler o signal else o)
      o).initialized = o.initialized := by
  induction signals generalizing o with
  | nil => rfl
  | cons signal rest ih =>
    rw [List.foldl_cons, ih]
    split <;> rfl

/-- The installer that finds the counter at zero and can name itself. -/
theorem installSignalObservers_first {o : Observers} {answers : InstallAnswers}
    (first : o.initialized = 0) (setname : answers.setname = true)
    (saved : ∀ s, (o.saPrevious s).saHandler ≠ .interceptor) (free : o.Free fun _ => True) :
    (∀ s, ((installSignalObservers answers o).saPrevious s).saHandler ≠ .interceptor) ∧
      (installSignalObservers answers o).initialized = 1 ∧
      (installSignalObservers answers o).intercepting = 0 := by
  rw [installSignalObservers, if_pos first, if_pos setname]
  refine ⟨?_, ?_, rfl⟩
  · exact foldl_install_saved answers.sigaction observedSignals (by decide) saved
      fun signal _ => free signal trivial
  · dsimp only
    rw [foldl_install_initialized, first]
    rfl

theorem installSignalObservers_counts {o : Observers} {answers : InstallAnswers}
    (counts : ¬ (o.initialized = 0 ∧ answers.setname = true)) :
    installSignalObservers answers o = { o with initialized := o.initialized + 1 } := by
  by_cases first : o.initialized = 0
  · rw [installSignalObservers, if_pos first, if_neg fun setname => counts ⟨first, setname⟩]
  · exact installSignalObservers_positive first answers

theorem signalHandlerInitialize_observers {answers : InitializeAnswers} {h : SignalHandler}
    {r : Initialized} (returned : signalHandlerInitialize answers h = some r) :
    r.handler.toObservers = h.toObservers := by
  rcases signalHandlerInitialize_taken returned with ⟨_, rfl⟩ | ⟨_, ⟨_, rfl⟩ | ⟨_, rfl⟩ | ⟨_, rfl⟩⟩
  · rfl
  · rfl
  · rfl
  · rfl

theorem signalHandlerShutdown_observers {lock unlock : Bool} {h t : SignalHandler}
    (taken : signalHandlerShutdown lock unlock h = some t) :
    t.toObservers = h.toObservers ∨ t.toObservers = uninstallHandler h.toObservers := by
  unfold signalHandlerShutdown at taken
  split at taken
  · split at taken
    · cases taken
    · cases taken
      right
      unfold dealloc
      split <;> rfl
  · cases taken
    exact Or.inl rfl

section Steps
variable {s t : CrashingProcess} {o : Observers} {activations outer : List Activation} {a : Activation}
  {reports : Nat}

theorem Untested.nesting (untested : Untested activations) : Nesting o activations 0 := by
  obtain ⟨most, entries⟩ := untested
  rcases activations with - | ⟨a, - | ⟨b, outer⟩⟩
  · exact .quiet (Nat.zero_le 1) fun one => absurd one Nat.zero_ne_one
  · exact .entering (entries a List.mem_cons_self)
  · simp only [List.length_cons] at most
    omega

theorem guarded_installed {answers : InstallAnswers} (inv : Guarded o activations reports)
    (untested : Untested activations) (first : o.initialized = 0) (setname : answers.setname = true) :
    Guarded (installSignalObservers answers o) activations 0 := by
  obtain ⟨saved, counter, callers⟩ :=
    installSignalObservers_first first setname inv.saved (inv.zero (Int.le_of_eq first))
  exact
    { saved := saved
      zero := fun zero => by omega
      callers := Int.le_of_eq callers.symm
      nesting := untested.nesting }

theorem guarded_counted {answers : InstallAnswers} (inv : Guarded o activations reports)
    (counts : ¬ (o.initialized = 0 ∧ answers.setname = true)) :
    Guarded (installSignalObservers answers o) activations reports := by
  rw [installSignalObservers_counts counts]
  exact
    { inv with
      zero := fun zero => inv.zero (by dsimp only at zero; omega)
      nesting := inv.nesting.mono (Int.le_refl _) fun _ free => free }

theorem crash_start {answers : InitializeAnswers} {install : InstallAnswers} (inv : s.Inv)
    (gapless : Gapless s (.start answers install)) (taken : s.step (.start answers install) = some t) :
    t.Inv := by
  obtain ⟨r, returned, rfl⟩ := Option.map_eq_some_iff.mp taken
  have same := signalHandlerInitialize_observers returned
  have installs : Installs answers install s.handler =
      (r.installer && s.handler.initialized == 0 && install.setname) := by
    rw [Installs, returned, Option.any_some]
  simp only [Gapless, installs] at gapless
  simp only [CrashingProcess.Inv, installs]
  cases installer : r.installer with
  | false =>
    simp only [Bool.false_and, Bool.false_eq_true, if_false, same]
    exact inv
  | true =>
    simp only [installer, Bool.true_and, Bool.and_eq_true, beq_iff_eq] at gapless
    simp only [Bool.true_and, Bool.and_eq_true, beq_iff_eq, if_true, same]
    by_cases first : s.handler.initialized = 0 ∧ install.setname = true
    · rw [if_pos first]
      exact guarded_installed inv (gapless first) first.1 first.2
    · rw [if_neg first]
      exact guarded_counted inv first

theorem guarded_uninstalled (inv : Guarded o activations reports) :
    Guarded (uninstallHandler o) activations reports := by
  by_cases positive : 0 < o.initialized
  · rw [uninstallHandler_positive positive]
    exact
      { saved := inv.saved
        zero := fun _ signal _ => inv.saved signal
        callers := inv.callers
        nesting := inv.nesting.mono (Int.le_refl _) fun _ _ signal _ => inv.saved signal }
  · rw [uninstallHandler_zero (Int.not_lt.mp positive)]
    exact inv

theorem crash_stop {lock unlock : Bool} (inv : s.Inv) (taken : s.step (.stop lock unlock) = some t) :
    t.Inv := by
  obtain ⟨h, stopped, rfl⟩ := Option.map_eq_some_iff.mp taken
  rcases signalHandlerShutdown_observers stopped with same | same
  · rw [CrashingProcess.Inv, same]
    exact inv
  · rw [CrashingProcess.Inv, same]
    exact guarded_uninstalled inv

/-- A signal that is the interceptor's finds nothing reported. -/
theorem guarded_delivered {signal : ObservedSignal} (inv : Guarded o activations reports)
    (tested : activations.head?.map Activation.pc = some .entry → o.intercepting ≠ 0)
    (installed : (o.disposition signal).saHandler = .interceptor) :
    Guarded o (⟨signal, .entry, []⟩ :: activations) reports := by
  refine { inv with nesting := ?_ }
  cases activations with
  | nil =>
    cases inv.nesting with
    | quiet once removed =>
      have none : reports = 0 := by
        by_contra some
        exact removed (by omega) signal trivial installed
      rw [none]
      exact .entering rfl
  | cons a outer =>
    refine .nested rfl (inv.nesting.counted inv.callers fun entry => tested ?_) inv.nesting
    rw [List.head?_cons, Option.map_some, entry]

theorem crash_deliver {signal : ObservedSignal} (inv : s.Inv) (gapless : Gapless s (.deliver signal))
    (taken : s.step (.deliver signal) = some t) : t.Inv := by
  obtain ⟨u, delivered, rfl⟩ := Option.map_eq_some_iff.mp taken
  simp only [Interception.step] at delivered
  split at delivered
  · rename_i installed
    cases delivered
    simp only [CrashingProcess.Inv, setThread_self]
    exact guarded_delivered inv gapless installed
  · cases delivered

/-- The first activation to test the counter collects; any other one returns. -/
theorem guarded_tested (inv : Guarded o (a :: outer) reports) (entry : a.pc = .entry) :
    (o.intercepting = 0 → Guarded { o with intercepting := o.intercepting + 1 }
        ({ a with pc := .collecting } :: outer) reports) ∧
      (o.intercepting ≠ 0 → Guarded { o with intercepting := o.intercepting + 1 } outer reports) := by
  have callers : 0 ≤ o.intercepting + 1 := Int.le_add_one inv.callers
  have counted : 0 < o.intercepting + 1 := Int.lt_add_one_of_le inv.callers
  cases inv.nesting with
  | entering _ =>
    refine ⟨fun _ => ?_, fun _ => ?_⟩
    · exact { inv with callers := callers, nesting := .working counted rfl }
    · refine { inv with callers := callers, nesting := .quiet (Nat.zero_le 1) fun one => ?_ }
      exact absurd one Nat.zero_ne_one
  | working _ works =>
    rw [entry] at works
    exact works.elim
  | nested _ positive inside =>
    refine ⟨fun zero => absurd zero (by omega), fun _ => { inv with callers := callers, nesting := ?_ }⟩
    exact inside.mono (Int.le_of_lt (Int.lt_succ _)) fun _ free => free

theorem guarded_advance {s t : Interception} {thread : Nat}
    (inv : Guarded s.observers (a :: outer) reports) (taken : s.advance thread a outer = some t) :
    Guarded t.observers (t.threads thread)
      (reports + if a.pc = .collecting then 1 else 0) := by
  by_cases entry : a.pc = .entry
  · obtain ⟨first, other⟩ := guarded_tested inv entry
    simp only [Interception.advance, entry] at taken
    split at taken <;> cases taken
    · rename_i zero
      simpa [entry, setThread_self] using first zero
    · rename_i counted
      simpa [entry, Interception.leave, setThread_self] using other counted
  obtain ⟨rfl, counted, works⟩ := inv.nesting.outermost entry
  have goto : ∀ {pc : Pc} {later : Nat}, Working s.observers pc later →
      Guarded s.observers [{ a with pc := pc }] later := fun works =>
    { inv with nesting := .working counted works }
  unfold Interception.advance at taken
  cases pc : a.pc with
  | entry => exact absurd pc entry
  | collecting =>
    simp only [pc] at taken works
    obtain rfl : reports = 0 := works
    cases taken
    simp only [setThread_self]
    exact goto rfl
  | uninstalling =>
    simp only [pc] at taken works
    obtain rfl : reports = 1 := works
    cases taken
    simp only [setThread_self]
    refine goto ?_
    split
    · exact ⟨rfl, fun signal other => absurd (mem_observedSignals signal) other⟩
    · rename_i none
      exact ⟨rfl, inv.zero (Int.not_lt.mp none)⟩
  | restoring rest =>
    cases rest with
    | nil =>
      simp only [pc] at taken works
      obtain ⟨rfl, free⟩ := works
      cases taken
      simp only [setThread_self]
      have all : s.observers.Free fun _ => True := fun signal _ => free signal List.not_mem_nil
      exact { inv with zero := fun _ => all, nesting := .working counted ⟨rfl, all⟩ }
    | cons signal rest =>
      simp only [pc] at taken works
      obtain ⟨rfl, free⟩ := works
      cases taken
      simp only [setThread_self]
      refine { inv with zero := fun none => ?_, nesting := .working counted ⟨rfl, ?_⟩ }
      · exact restoreHandler_free inv.saved ((inv.zero none).mono fun _ _ => trivial)
      · exact restoreHandler_free inv.saved (free.mono fun other left => by simp [left.1, left.2])
  | locking =>
    simp only [pc] at taken works
    split at taken <;> cases taken
    simp only [setThread_self]
    exact goto works
  | chaining rest =>
    cases rest with
    | nil =>
      simp only [pc] at taken works
      cases taken
      simp only [setThread_self]
      exact goto works
    | cons signal rest =>
      simp only [pc] at taken works
      split at taken
      · obtain ⟨application, _, rfl⟩ := Option.map_eq_some_iff.mp taken
        simp only [setThread_self, if_neg (inv.saved a.signo)]
        exact { inv with nesting := .working counted works }
      · cases taken
        simp only [setThread_self]
        exact goto works
  | invoking rest =>
    simp only [pc] at taken works
    cases taken
    simp only [setThread_self]
    exact goto works
  | leaving =>
    simp only [pc] at taken works
    obtain ⟨rfl, free⟩ := works
    cases taken
    simp only [Interception.leave, setThread_self]
    exact
      { inv with
        callers := Int.le_sub_one_of_lt counted
        nesting := .quiet (Nat.le_refl 1) fun _ => free }

theorem crash_advance (inv : s.Inv) (taken : s.step .advance = some t) : t.Inv := by
  obtain ⟨u, intercepted, rfl⟩ := Option.map_eq_some_iff.mp taken
  obtain ⟨v, advanced, rfl⟩ := Option.map_eq_some_iff.mp intercepted
  rw [CrashingProcess.Inv] at inv
  cases active : s.activations with
  | nil =>
    simp only [Interception.step, CrashingProcess.interception, active] at advanced
    cases advanced
  | cons a outer =>
    simp only [Interception.step, CrashingProcess.interception, active] at advanced
    rw [active] at inv
    simpa [CrashingProcess.Inv, active] using guarded_advance inv advanced

theorem crash_lockFails (inv : s.Inv) (taken : s.step .lockFails = some t) : t.Inv := by
  obtain ⟨v, failed, rfl⟩ := Option.map_eq_some_iff.mp taken
  simp only [Interception.step, CrashingProcess.interception] at failed
  rw [CrashingProcess.Inv] at inv
  split at failed
  · rename_i signo applied outer active
    cases failed
    rw [active] at inv
    obtain ⟨rfl, counted, works⟩ := inv.nesting.outermost Pc.noConfusion
    simp only [CrashingProcess.Inv, setThread_self]
    exact { inv with nesting := .working counted works }
  · cases failed

theorem crash_step {action : CrashAction} (inv : s.Inv) (gapless : Gapless s action)
    (taken : s.step action = some t) : t.Inv := by
  cases action with
  | start answers install => exact crash_start inv gapless taken
  | stop lock unlock => exact crash_stop inv taken
  | deliver signal => exact crash_deliver inv gapless taken
  | advance => exact crash_advance inv taken
  | lockFails => exact crash_lockFails inv taken

end Steps

/-- In every run without gaps at most one report is stored between two
installations, and no chaining comes before the observers are removed. -/
theorem one_report {disposition : ObservedSignal → Sigaction}
    (fresh : ∀ signal, (disposition signal).saHandler ≠ .interceptor) {s : CrashingProcess}
    {actions : List CrashAction}
    (reach : run (restrict Gapless CrashingProcess.step) (.start disposition) actions = some s) :
    OneReport s := by
  have initial : (CrashingProcess.start disposition).Inv :=
    { saved := fun _ => Handler.noConfusion
      zero := fun _ signal _ => fresh signal
      callers := Int.le_refl 0
      nesting := .quiet (Nat.zero_le 1) fun one => absurd one Nat.zero_ne_one }
  have inv : s.Inv := run_restrict_invariant (fun _ _ _ => crash_step) initial reach
  exact inv.nesting.oneReport

/-- Two starts, two more signals while the abort is being reported, and a stop
before its report is stored. -/
theorem one_report_nested : ∃ s, run (restrict Gapless CrashingProcess.step)
    (.start fun _ => ⟨.function 0x1000, saSiginfo, 0⟩)
    ([.start .success .success, .start .success .success, .deliver .sigabrt, .advance,
        .deliver .sigsegv, .deliver .sigill, .advance, .advance, .stop true true] ++
      List.replicate 13 .advance) = some s ∧
      (s.reports = 1 ∧ s.activations.map Activation.pc = [.invoking [.sigfpe, .sigbus, .sigsegv]]) ∧
      OneReport s := by
  have reach : ∃ s, run (restrict Gapless CrashingProcess.step)
      (.start fun _ => ⟨.function 0x1000, saSiginfo, 0⟩)
      ([.start .success .success, .start .success .success, .deliver .sigabrt, .advance,
          .deliver .sigsegv, .deliver .sigill, .advance, .advance, .stop true true] ++
        List.replicate 13 .advance) = some s ∧
        s.reports = 1 ∧ s.activations.map Activation.pc = [.invoking [.sigfpe, .sigbus, .sigsegv]] :=
    ⟨_, rfl, rfl, rfl⟩
  obtain ⟨s, reach, state⟩ := reach
  exact ⟨s, reach, state, one_report (fun _ => Handler.noConfusion) reach⟩

/-- Two signals that reach the thread at once are both reported: the second is
handled before the first gets to its test, and gives the counter back. And what
is installed while a report is collected stays in force when it chains. -/
theorem crash_reported_twice : ∃ twice rearmed,
    run CrashingProcess.step (.start fun _ => ⟨.function 0x1000, saSiginfo, 0⟩)
      ([.start .success .success, .deliver .sigabrt, .deliver .sigill] ++ List.replicate 22 .advance) =
        some twice ∧ twice.reports = 2 ∧ ¬ OneReport twice ∧
      run CrashingProcess.step (.start fun _ => ⟨.function 0x1000, saSiginfo, 0⟩)
        ([.start .success .success, .deliver .sigabrt] ++ List.replicate 10 .advance ++
          [.start .success .success, .advance]) = some rearmed ∧ ¬ OneReport rearmed := by
  refine ⟨_, _, rfl, rfl, fun one => ?_, rfl, fun one => ?_⟩
  · exact absurd one.1 (by decide)
  · exact one.2 _ List.mem_cons_self trivial .sigill trivial rfl

end AgentNDK
