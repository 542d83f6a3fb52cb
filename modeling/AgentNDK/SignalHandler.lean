import Mathlib.Logic.Function.Basic
import Mathlib.Data.List.Nodup
import AgentNDK.Library.Runs

namespace AgentNDK

inductive ObservedSignal
  | sigill | sigtrap | sigabrt | sigfpe | sigbus | sigsegv
  deriving DecidableEq

/-- The observed signals, in the order of their table. -/
def observedSignals : List ObservedSignal :=
  [.sigill, .sigtrap, .sigabrt, .sigfpe, .sigbus, .sigsegv]

theorem mem_observedSignals (signal : ObservedSignal) : signal ∈ observedSignals := by
  cases signal <;> decide

/-- What `sa_handler` and `sa_sigaction` point at. -/
inductive Handler
  | sigDfl
  | sigIgn
  | interceptor
  | function (address : Nat)
  deriving DecidableEq

/-- `struct sigaction`. -/
structure Sigaction where
  saHandler : Handler
  saFlags : UInt32
  saMask : BitVec 64
  deriving DecidableEq

def saSiginfo : UInt32 := 0x4

def saOnstack : UInt32 := 0x08000000

/-- What `install_handler` installs, its mask empty. -/
def interceptorAction : Sigaction :=
  ⟨.interceptor, saSiginfo ||| saOnstack, 0⟩

/-- The dispositions of the observed signals, what was saved of them, and the
two counters, which stay far from the bounds of `sig_atomic_t`. -/
structure Observers where
  disposition : ObservedSignal → Sigaction
  saPrevious : ObservedSignal → Sigaction
  initialized : Int
  intercepting : Int

/-- The module before its first use. -/
def Observers.start (disposition : ObservedSignal → Sigaction) : Observers where
  disposition := disposition
  saPrevious := fun _ => ⟨.sigDfl, 0, 0⟩
  initialized := 0
  intercepting := 0

/-- `sigutils::install_handler` of the interceptor. -/
def installHandler (o : Observers) (signal : ObservedSignal) : Observers :=
  { o with
    disposition := Function.update o.disposition signal interceptorAction
    saPrevious := Function.update o.saPrevious signal (o.disposition signal) }

/-- One round of the loop of `uninstall_handler`. -/
def restoreHandler (o : Observers) (signal : ObservedSignal) : Observers :=
  { o with disposition := Function.update o.disposition signal (o.saPrevious signal) }

section Dispositions
variable (o : Observers) (signal : ObservedSignal)

theorem installHandler_other {other : ObservedSignal} (ne : other ≠ signal) :
    (installHandler o signal).disposition other = o.disposition other :=
  Function.update_of_ne ne ..

theorem installHandler_saves : (installHandler o signal).saPrevious signal = o.disposition signal :=
  Function.update_self ..

theorem installHandler_keeps {other : ObservedSignal} (ne : other ≠ signal) :
    (installHandler o signal).saPrevious other = o.saPrevious other :=
  Function.update_of_ne ne ..

theorem restoreHandler_self : (restoreHandler o signal).disposition signal = o.saPrevious signal :=
  Function.update_self ..

theorem restoreHandler_other {other : ObservedSignal} (ne : other ≠ signal) :
    (restoreHandler o signal).disposition other = o.disposition other :=
  Function.update_of_ne ne ..

end Dispositions

/-- What the system answers an installer thread. -/
structure InstallAnswers where
  setname : Bool
  sigaction : ObservedSignal → Bool

def InstallAnswers.success : InstallAnswers :=
  ⟨true, fun _ => true⟩

/-- The installer thread. Only the first increment installs. -/
def installSignalObservers (answers : InstallAnswers) (o : Observers) : Observers :=
  let counted := { o with initialized := o.initialized + 1 }
  if o.initialized = 0 then
    if answers.setname then
      { observedSignals.foldl
          (fun o signal => if answers.sigaction signal then installHandler o signal else o) counted with
        intercepting := 0 }
    else counted
  else counted

/-- Remove all installed signal interceptors. -/
def uninstallHandler (o : Observers) : Observers :=
  if 0 < o.initialized then
    { observedSignals.foldl restoreHandler o with initialized := o.initialized - 1 }
  else o

theorem foldl_installHandler (signals : List ObservedSignal) (distinct : signals.Nodup) (o : Observers) :
    signals.foldl installHandler o =
      { o with
        disposition := fun s => if s ∈ signals then interceptorAction else o.disposition s
        saPrevious := fun s => if s ∈ signals then o.disposition s else o.saPrevious s } := by
  induction signals generalizing o with
  | nil => rfl
  | cons signal rest ih =>
    obtain ⟨new, later⟩ := List.nodup_cons.mp distinct
    rw [List.foldl_cons, ih later, installHandler]
    congr 1 <;> funext s <;> by_cases same : s = signal
    · simp [same, new]
    · simp [same]
    · simp [same, new]
    · simp [same]

theorem foldl_restoreHandler (signals : List ObservedSignal) (o : Observers) :
    signals.foldl restoreHandler o =
      { o with disposition := fun s => if s ∈ signals then o.saPrevious s else o.disposition s } := by
  induction signals generalizing o with
  | nil => rfl
  | cons signal rest ih =>
    rw [List.foldl_cons, ih, restoreHandler]
    congr 1
    funext s
    by_cases same : s = signal
    · simp [same]
    · simp [same]

/-- The first installer to run saves what it replaces. -/
theorem installSignalObservers_zero {o : Observers} (first : o.initialized = 0) :
    installSignalObservers .success o =
      ⟨fun _ => interceptorAction, o.disposition, 1, 0⟩ := by
  have whole := foldl_installHandler observedSignals (by decide)
    { o with initialized := o.initialized + 1 }
  simp only [mem_observedSignals, if_true] at whole
  have installed := congrArg (fun o : Observers => { o with intercepting := 0 }) whole
  rw [installSignalObservers, if_pos first]
  refine installed.trans ?_
  rw [first]
  rfl

/-- A later one only counts. -/
theorem installSignalObservers_positive {o : Observers} (later : o.initialized ≠ 0)
    (answers : InstallAnswers) :
    installSignalObservers answers o = { o with initialized := o.initialized + 1 } := by
  rw [installSignalObservers, if_neg later]

theorem uninstallHandler_positive {o : Observers} (positive : 0 < o.initialized) :
    uninstallHandler o =
      { o with disposition := o.saPrevious, initialized := o.initialized - 1 } := by
  rw [uninstallHandler, if_pos positive, foldl_restoreHandler]
  simp only [mem_observedSignals, if_true]

theorem uninstallHandler_zero {o : Observers} (zero : o.initialized ≤ 0) : uninstallHandler o = o := by
  rw [uninstallHandler, if_neg (by omega)]

/-- The module with its mutex and the alternate stack it allocates. -/
structure SignalHandler extends Observers where
  mutexHeld : Bool
  /-- `_stack.ss_sp` -/
  ssSp : Option Nat
  /-- the block registered with `sigaltstack` -/
  altStack : Option Nat
  /-- the blocks `malloc` returned that are not freed, and how many it returned -/
  live : List Nat
  allocated : Nat

def SignalHandler.start (disposition : ObservedSignal → Sigaction) : SignalHandler :=
  { Observers.start disposition with
    mutexHeld := false, ssSp := none, altStack := none, live := [], allocated := 0 }

/-- What the system answers `signal_handler_initialize`. -/
structure InitializeAnswers where
  lock : Bool
  malloc : Bool
  sigaltstack : Bool
  blockSignal : Bool
  createThread : Bool
  unlock : Bool

def InitializeAnswers.success : InitializeAnswers :=
  ⟨true, true, true, true, true, true⟩

def setSigstack (answers : InitializeAnswers) (h : SignalHandler) : Bool × SignalHandler :=
  if answers.malloc then
    let block := h.allocated
    let h := { h with ssSp := some block, live := block :: h.live, allocated := block + 1 }
    if answers.sigaltstack then (true, { h with altStack := some block }) else (false, h)
  else (false, { h with ssSp := none })

/-- What a call of `signal_handler_initialize` leaves. -/
structure Initialized where
  result : Bool
  /-- whether an installer thread was created -/
  installer : Bool
  handler : SignalHandler

/-- A call that finds the mutex held waits, which is `none`. Without an
alternate stack it returns with the mutex held. -/
def signalHandlerInitialize (answers : InitializeAnswers) (h : SignalHandler) : Option Initialized :=
  if answers.lock then
    if h.mutexHeld then none
    else match setSigstack answers { h with mutexHeld := true } with
      | (false, h) => some ⟨false, false, h⟩
      | (true, h) =>
        some ⟨true, answers.blockSignal && answers.createThread, { h with mutexHeld := !answers.unlock }⟩
  else some ⟨true, false, h⟩

/-- Release all alloc'd heap. -/
def dealloc (h : SignalHandler) : SignalHandler :=
  match h.ssSp with
  | none => h
  | some block => { h with ssSp := none, live := h.live.erase block }

/-- The answers are those of the mutex. -/
def signalHandlerShutdown (lock unlock : Bool) (h : SignalHandler) : Option SignalHandler :=
  if lock then
    if h.mutexHeld then none
    else
      let h := dealloc { h with toObservers := uninstallHandler h.toObservers }
      some { h with mutexHeld := !unlock }
  else some h

end AgentNDK
