import AgentNDK.SignalHandler

namespace AgentNDK

/-- The two entry points of the module. -/
inductive HandlerCall
  | init
  | shutdown
  deriving DecidableEq

/-- A call whose system calls all succeed, taken together with the installer
thread it creates. -/
def HandlerCall.perform : HandlerCall → SignalHandler → Option SignalHandler
  | .init, h => (signalHandlerInitialize .success h).map fun r =>
    if r.installer then
      { r.handler with toObservers := installSignalObservers .success r.handler.toObservers }
    else r.handler
  | .shutdown, h => signalHandlerShutdown true true h

/-- After each initialize the interceptor is installed for every signal, and
after each shutdown the dispositions are those from before the initialize that
installed it, or from the beginning. -/
def Kept (before : ObservedSignal → Sigaction) (h : SignalHandler) : List HandlerCall → Prop
  | [] => True
  | .init :: calls => ∃ next, HandlerCall.init.perform h = some next ∧
    (∀ signal, next.disposition signal = interceptorAction) ∧
      Kept (if h.initialized = 0 then h.disposition else before) next calls
  | .shutdown :: calls => ∃ next, HandlerCall.shutdown.perform h = some next ∧
    (∀ signal, next.disposition signal = before signal) ∧ Kept before next calls

/-- An initialize comes directly after a shutdown only where that has brought
the count of initializes not shut down to zero. -/
def RestartsFromZero (count : Nat) : List HandlerCall → Prop
  | [] => True
  | .init :: calls => RestartsFromZero (count + 1) calls
  | .shutdown :: calls =>
    (calls.head? = some .init → count ≤ 1) ∧ RestartsFromZero (count - 1) calls

/-- The interceptor is installed, and the counter is positive. -/
structure Running (before : ObservedSignal → Sigaction) (count : Nat) (h : SignalHandler) : Prop where
  free : h.mutexHeld = false
  counted : h.initialized = count
  positive : 0 < count
  installed : h.disposition = fun _ => interceptorAction
  saved : h.saPrevious = before

/-- What was there before is installed, whatever the counter says. -/
structure Stopped (before : ObservedSignal → Sigaction) (count : Nat) (h : SignalHandler) : Prop where
  free : h.mutexHeld = false
  counted : h.initialized = count
  restored : h.disposition = before
  saved : 0 < count → h.saPrevious = before

theorem perform_initialize {h : SignalHandler} (free : h.mutexHeld = false) :
    ∃ next, HandlerCall.init.perform h = some next ∧ next.mutexHeld = false ∧
      next.toObservers = installSignalObservers .success h.toObservers := by
  unfold HandlerCall.perform signalHandlerInitialize
  dsimp only
  rw [free]
  exact ⟨_, rfl, rfl, rfl⟩

theorem perform_shutdown {h : SignalHandler} (free : h.mutexHeld = false) :
    ∃ next, HandlerCall.shutdown.perform h = some next ∧ next.mutexHeld = false ∧
      next.toObservers = uninstallHandler h.toObservers := by
  have deallocated : ∀ g, (dealloc g).toObservers = g.toObservers := by
    intro g
    unfold dealloc
    split <;> rfl
  unfold HandlerCall.perform signalHandlerShutdown
  dsimp only
  rw [free]
  exact ⟨_, rfl, rfl, deallocated _⟩

section Steps
variable {before : ObservedSignal → Sigaction} {count : Nat} {h : SignalHandler}

theorem Running.init (running : Running before count h) :
    ∃ next, HandlerCall.init.perform h = some next ∧ Running before (count + 1) next := by
  obtain ⟨next, performed, free, observers⟩ := perform_initialize running.free
  have positive := running.positive
  have counted := running.counted
  rw [installSignalObservers_positive (by omega)] at observers
  refine ⟨next, performed, free, ?_, Nat.succ_pos count, ?_, ?_⟩ <;> rw [observers]
  · exact congrArg (· + 1) counted
  · exact running.installed
  · exact running.saved

theorem Running.shutdown (running : Running before count h) :
    ∃ next, HandlerCall.shutdown.perform h = some next ∧ Stopped before (count - 1) next := by
  obtain ⟨next, performed, free, observers⟩ := perform_shutdown running.free
  have positive := running.positive
  have counted := running.counted
  rw [uninstallHandler_positive (by omega)] at observers
  refine ⟨next, performed, free, ?_, ?_, fun _ => ?_⟩ <;> rw [observers]
  · dsimp only
    omega
  · exact running.saved
  · exact running.saved

theorem Stopped.init (stopped : Stopped before 0 h) :
    ∃ next, HandlerCall.init.perform h = some next ∧ Running before 1 next := by
  obtain ⟨next, performed, free, observers⟩ := perform_initialize stopped.free
  rw [installSignalObservers_zero stopped.counted] at observers
  refine ⟨next, performed, free, ?_, Nat.one_pos, ?_, ?_⟩ <;> rw [observers]
  · rfl
  · exact stopped.restored

/-- The counter is positive, so nothing is installed. -/
theorem Stopped.init_again (stopped : Stopped before (count + 1) h) :
    ∃ next, HandlerCall.init.perform h = some next ∧ next.disposition = before := by
  obtain ⟨next, performed, _, observers⟩ := perform_initialize stopped.free
  have counted := stopped.counted
  rw [installSignalObservers_positive (by omega)] at observers
  exact ⟨next, performed, by rw [observers]; exact stopped.restored⟩

theorem Stopped.shutdown (stopped : Stopped before count h) :
    ∃ next, HandlerCall.shutdown.perform h = some next ∧ Stopped before (count - 1) next := by
  obtain ⟨next, performed, free, observers⟩ := perform_shutdown stopped.free
  have counted := stopped.counted
  by_cases positive : 0 < count
  · rw [uninstallHandler_positive (by omega)] at observers
    refine ⟨next, performed, free, ?_, ?_, fun _ => ?_⟩ <;> rw [observers]
    · dsimp only
      omega
    · exact stopped.saved positive
    · exact stopped.saved positive
  · rw [uninstallHandler_zero (by omega)] at observers
    refine ⟨next, performed, free, ?_, ?_, fun later => ?_⟩
    · rw [observers]
      omega
    · rw [observers]
      exact stopped.restored
    · omega

/-- A call has one outcome. -/
theorem exists_performed_iff {call : HandlerCall} {next : SignalHandler} {P : SignalHandler → Prop}
    (performed : call.perform h = some next) : (∃ n, call.perform h = some n ∧ P n) ↔ P next :=
  ⟨fun ⟨_, same, holds⟩ => Option.some.inj (performed.symm.trans same) ▸ holds,
    fun holds => ⟨next, performed, holds⟩⟩

end Steps

section Calls
variable {before : ObservedSignal → Sigaction} (fresh : ∃ signal, before signal ≠ interceptorAction)
include fresh

/-- From a running and from a stopped state, by induction on the calls. -/
theorem kept_iff_of_phase (calls : List HandlerCall) (count : Nat) (h : SignalHandler) :
    (Running before count h → (Kept before h calls ↔ RestartsFromZero count calls)) ∧
    (Stopped before count h → (Kept before h calls ↔
      (calls.head? = some .init → count = 0) ∧ RestartsFromZero count calls)) := by
  induction calls generalizing count h with
  | nil => simp [Kept, RestartsFromZero]
  | cons call calls ih =>
    cases call with
    | init =>
      constructor
      · intro running
        obtain ⟨next, performed, later⟩ := running.init
        have nonzero : h.initialized ≠ 0 := by
          have positive := running.positive
          have counted := running.counted
          omega
        rw [Kept, exists_performed_iff performed, if_neg nonzero, RestartsFromZero,
          (ih (count + 1) next).1 later]
        exact and_iff_right fun signal => congrFun later.installed signal
      · intro stopped
        cases count with
        | zero =>
          obtain ⟨next, performed, later⟩ := stopped.init
          have zero : h.initialized = 0 := stopped.counted
          rw [Kept, exists_performed_iff performed, if_pos zero, stopped.restored,
            RestartsFromZero, (ih 1 next).1 later]
          exact and_congr_left fun _ => iff_of_true (congrFun later.installed) fun _ => rfl
        | succ count =>
          obtain ⟨next, performed, unchanged⟩ := stopped.init_again
          obtain ⟨signal, other⟩ := fresh
          rw [Kept, exists_performed_iff performed, unchanged]
          exact iff_of_false (fun kept => other (kept.1 signal)) fun zero =>
            Nat.succ_ne_zero count (zero.1 rfl)
    | shutdown =>
      have next_iff : ∀ {next}, HandlerCall.shutdown.perform h = some next →
          Stopped before (count - 1) next →
          (Kept before h (.shutdown :: calls) ↔ RestartsFromZero count (.shutdown :: calls)) := by
        intro next performed later
        have zero : count - 1 = 0 ↔ count ≤ 1 := by omega
        rw [Kept, exists_performed_iff performed, later.restored, RestartsFromZero,
          (ih (count - 1) next).2 later, zero]
        exact and_iff_right fun _ => rfl
      constructor
      · intro running
        obtain ⟨next, performed, later⟩ := running.shutdown
        exact next_iff performed later
      · intro stopped
        obtain ⟨next, performed, later⟩ := stopped.shutdown
        rw [next_iff performed later]
        exact (and_iff_right (by simp)).symm

end Calls

/-- The calls keep their promise exactly when no initialize follows a shutdown
that left the counter positive. -/
theorem handlerCalls_kept_iff {disposition : ObservedSignal → Sigaction}
    (fresh : ∃ signal, disposition signal ≠ interceptorAction) (calls : List HandlerCall) :
    Kept disposition (.start disposition) calls ↔ RestartsFromZero 0 calls := by
  have stopped : Stopped disposition 0 (.start disposition) := ⟨rfl, rfl, rfl, by simp⟩
  rw [(kept_iff_of_phase fresh calls 0 _).2 stopped]
  exact and_iff_right fun _ => rfl

/-- Two starts that both stop again, and a third. -/
theorem handlerCalls_kept_twice : Kept (fun _ => ⟨.sigDfl, 0, 0⟩) (.start fun _ => ⟨.sigDfl, 0, 0⟩)
    [.init, .init, .shutdown, .shutdown, .init] :=
  (handlerCalls_kept_iff ⟨.sigsegv, by decide⟩ _).mpr ⟨by simp, by decide, trivial⟩

/-- After two starts and one stop, a third start installs nothing. -/
theorem handlerCalls_lost : ¬ Kept (fun _ => ⟨.sigDfl, 0, 0⟩) (.start fun _ => ⟨.sigDfl, 0, 0⟩)
    [.init, .init, .shutdown, .init] := by
  rintro ⟨first, performed, _, second, again, _, third, stopped, _, last, started, installed, _⟩
  cases performed
  cases again
  cases stopped
  cases started
  exact absurd (installed .sigsegv) (by decide)

end AgentNDK
