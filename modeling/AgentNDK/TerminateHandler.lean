import Mathlib.Data.Nat.Notation

namespace AgentNDK

/-- A handler of the C++ runtime, for termination or for unexpected exceptions. -/
inductive RuntimeHandler
  /-- the one of this module, `terminateHandler` or `unexpectedHandler` -/
  | own
  /-- the one that setting a null pointer installs -/
  | standard
  | function (address : Nat)
  deriving DecidableEq

/-- The handler in force, and the one that was saved when the module's own was
set, or null. -/
structure HandlerPair where
  inForce : RuntimeHandler
  saved : Option RuntimeHandler
  deriving DecidableEq

/-- The module sets its handler and saves what that replaces. -/
def HandlerPair.install (p : HandlerPair) : HandlerPair :=
  ⟨.own, some p.inForce⟩

def HandlerPair.restore (p : HandlerPair) : HandlerPair :=
  { p with inForce := p.saved.getD .standard }

structure TerminateHandler where
  /-- `std::get_terminate()` and `currentHandler` -/
  terminate : HandlerPair
  /-- `std::get_unexpected()` and `currentUnexpectedHandler` -/
  unexpected : HandlerPair
  mutexHeld : Bool

/-- The library is loaded; `currentHandler` is set there and then. -/
def TerminateHandler.start (terminate unexpected : RuntimeHandler) : TerminateHandler :=
  ⟨⟨terminate, some terminate⟩, ⟨unexpected, none⟩, false⟩

/-- The answers are those of the mutex; a call that finds it held waits, which
is `none`. -/
def terminateHandlerInitialize (lock unlock : Bool) (m : TerminateHandler) :
    Option (Bool × TerminateHandler) :=
  if lock then
    if m.mutexHeld then none
    else some (unlock, ⟨m.terminate.install, m.unexpected.install, !unlock⟩)
  else some (false, m)

/-- Only `currentHandler` is nulled. -/
def terminateHandlerShutdown (lock unlock : Bool) (m : TerminateHandler) : Option TerminateHandler :=
  if lock then
    if m.mutexHeld then none
    else some ⟨{ m.terminate.restore with saved := none }, m.unexpected.restore, !unlock⟩
  else some m

inductive TerminateCall
  | init
  | shutdown
  deriving DecidableEq

/-- A call with a mutex that works. -/
def TerminateCall.perform : TerminateCall → TerminateHandler → Option TerminateHandler
  | .init, m => (terminateHandlerInitialize true true m).map Prod.snd
  | .shutdown, m => terminateHandlerShutdown true true m

/-- The two handlers in force. -/
def TerminateHandler.inForce (m : TerminateHandler) : RuntimeHandler × RuntimeHandler :=
  (m.terminate.inForce, m.unexpected.inForce)

/-- Neither saved handler is the module's own. -/
def TerminateHandler.SavesOthers (m : TerminateHandler) : Prop :=
  m.terminate.saved ≠ some .own ∧ m.unexpected.saved ≠ some .own

/-- After each call the saved handlers are those of others, and after each
shutdown that follows an initialize the handlers in force are those from before
the first initialize since the last shutdown, if there was one. -/
def Restored (before : Option (RuntimeHandler × RuntimeHandler)) (m : TerminateHandler) :
    List TerminateCall → Prop
  | [] => True
  | .init :: calls => ∃ next, TerminateCall.init.perform m = some next ∧ next.SavesOthers ∧
    Restored (some (before.getD m.inForce)) next calls
  | .shutdown :: calls => ∃ next, TerminateCall.shutdown.perform m = some next ∧ next.SavesOthers ∧
    (∀ handlers, before = some handlers → next.inForce = handlers) ∧ Restored none next calls

/-- No initialize comes directly after another one. -/
def Alternating : List TerminateCall → Prop
  | [] => True
  | .init :: calls => calls.head? ≠ some .init ∧ Alternating calls
  | .shutdown :: calls => Alternating calls

instance : (calls : List TerminateCall) → Decidable (Alternating calls)
  | [] => instDecidableTrue
  | .init :: calls =>
    have := instDecidableAlternating calls
    inferInstanceAs (Decidable (_ ∧ _))
  | .shutdown :: calls => instDecidableAlternating calls

/-- Nothing of the module is in force. -/
structure AtRest (m : TerminateHandler) : Prop where
  free : m.mutexHeld = false
  terminate : m.terminate.inForce ≠ .own
  unexpected : m.unexpected.inForce ≠ .own
  saved : m.SavesOthers

/-- Both handlers of the module are in force, over these. -/
structure InForce (before : RuntimeHandler × RuntimeHandler) (m : TerminateHandler) : Prop where
  free : m.mutexHeld = false
  own : m.inForce = (.own, .own)
  terminate : m.terminate.saved = some before.1 ∧ before.1 ≠ .own
  unexpected : m.unexpected.saved = some before.2 ∧ before.2 ≠ .own

theorem start_atRest {terminate unexpected : RuntimeHandler} (terminateOther : terminate ≠ .own)
    (unexpectedOther : unexpected ≠ .own) : AtRest (.start terminate unexpected) where
  free := rfl
  terminate := terminateOther
  unexpected := unexpectedOther
  saved := ⟨fun same => terminateOther (Option.some.inj same), fun same => Option.some_ne_none _ same.symm⟩

section Calls
variable {m : TerminateHandler} {before : RuntimeHandler × RuntimeHandler}

theorem perform_terminate_init (free : m.mutexHeld = false) : TerminateCall.init.perform m =
    some ⟨m.terminate.install, m.unexpected.install, false⟩ := by
  simp [TerminateCall.perform, terminateHandlerInitialize, free]

theorem perform_terminate_shutdown (free : m.mutexHeld = false) : TerminateCall.shutdown.perform m =
    some ⟨{ m.terminate.restore with saved := none }, m.unexpected.restore, false⟩ := by
  simp [TerminateCall.perform, terminateHandlerShutdown, free]

/-- Restoring never puts the module's own handler in force, unless it was saved. -/
theorem restore_inForce {p : HandlerPair} (other : p.saved ≠ some .own) : p.restore.inForce ≠ .own := by
  unfold HandlerPair.restore
  cases saved : p.saved with
  | none => exact RuntimeHandler.noConfusion
  | some handler => exact fun same => other (saved.trans (congrArg some same))

theorem AtRest.init (rest : AtRest m) : ∃ next, TerminateCall.init.perform m = some next ∧
    InForce m.inForce next := by
  refine ⟨_, perform_terminate_init rest.free, ?_⟩
  exact ⟨rfl, rfl, ⟨rfl, rest.terminate⟩, ⟨rfl, rest.unexpected⟩⟩

theorem AtRest.shutdown (rest : AtRest m) : ∃ next, TerminateCall.shutdown.perform m = some next ∧
    AtRest next := by
  refine ⟨_, perform_terminate_shutdown rest.free, ?_⟩
  exact
    { free := rfl
      terminate := restore_inForce rest.saved.1
      unexpected := restore_inForce rest.saved.2
      saved := ⟨fun same => Option.some_ne_none _ same.symm, rest.saved.2⟩ }

/-- The module's own handlers take the place of what was saved. -/
theorem InForce.init (inForce : InForce before m) : ∃ next, TerminateCall.init.perform m = some next ∧
    ¬ next.SavesOthers := by
  refine ⟨_, perform_terminate_init inForce.free, fun others => others.1 ?_⟩
  exact congrArg some (congrArg Prod.fst inForce.own)

theorem InForce.savesOthers (inForce : InForce before m) : m.SavesOthers := by
  obtain ⟨terminate, terminateOther⟩ := inForce.terminate
  obtain ⟨unexpected, unexpectedOther⟩ := inForce.unexpected
  constructor
  · rw [terminate]
    exact fun same => terminateOther (Option.some.inj same)
  · rw [unexpected]
    exact fun same => unexpectedOther (Option.some.inj same)

theorem InForce.shutdown (inForce : InForce before m) :
    ∃ next, TerminateCall.shutdown.perform m = some next ∧ next.inForce = before ∧ AtRest next := by
  have saved := inForce.savesOthers
  have restored : (m.terminate.restore.inForce, m.unexpected.restore.inForce) = before := by
    simp [HandlerPair.restore, inForce.terminate.1, inForce.unexpected.1]
  refine ⟨_, perform_terminate_shutdown inForce.free, restored, ?_⟩
  exact
    { free := rfl
      terminate := restore_inForce saved.1
      unexpected := restore_inForce saved.2
      saved := ⟨fun same => Option.some_ne_none _ same.symm, saved.2⟩ }

theorem exists_terminate_iff {call : TerminateCall} {next : TerminateHandler}
    {P : TerminateHandler → Prop} (performed : call.perform m = some next) :
    (∃ n, call.perform m = some n ∧ P n) ↔ P next :=
  ⟨fun ⟨_, same, holds⟩ => Option.some.inj (performed.symm.trans same) ▸ holds,
    fun holds => ⟨next, performed, holds⟩⟩

theorem restored_iff_of_phase (calls : List TerminateCall) (m : TerminateHandler) :
    (AtRest m → (Restored none m calls ↔ Alternating calls)) ∧
    ∀ before, InForce before m → (Restored (some before) m calls ↔
      calls.head? ≠ some .init ∧ Alternating calls) := by
  induction calls generalizing m with
  | nil => simp [Restored, Alternating]
  | cons call calls ih =>
    cases call with
    | init =>
      constructor
      · intro rest
        obtain ⟨next, performed, later⟩ := rest.init
        rw [Restored, exists_terminate_iff performed, Option.getD_none, (ih next).2 _ later, Alternating]
        exact and_iff_right later.savesOthers
      · intro before inForce
        obtain ⟨next, performed, overwritten⟩ := inForce.init
        rw [Restored, exists_terminate_iff performed]
        exact iff_of_false (fun both => overwritten both.1) fun both => both.1 rfl
    | shutdown =>
      constructor
      · intro rest
        obtain ⟨next, performed, later⟩ := rest.shutdown
        rw [Restored, exists_terminate_iff performed, (ih next).1 later, Alternating]
        simp [later.saved]
      · intro before inForce
        obtain ⟨next, performed, same, later⟩ := inForce.shutdown
        rw [Restored, exists_terminate_iff performed, (ih next).1 later, Alternating]
        simp [later.saved, same]

end Calls

/-- The calls keep both promises exactly when no initialize comes directly
after another one; a shutdown without an initialize does no harm. -/
theorem handlers_restored_iff {terminate unexpected : RuntimeHandler} (terminateOther : terminate ≠ .own)
    (unexpectedOther : unexpected ≠ .own) (calls : List TerminateCall) :
    Restored none (.start terminate unexpected) calls ↔ Alternating calls :=
  (restored_iff_of_phase calls _).1 (start_atRest terminateOther unexpectedOther)

theorem handlers_restored_once : Restored none (.start (.function 0x1000) .standard)
    [.shutdown, .init, .shutdown, .shutdown, .init] :=
  (handlers_restored_iff RuntimeHandler.noConfusion RuntimeHandler.noConfusion _).mpr (by decide)

/-- Two starts: `terminateHandler` saves itself, and a stop puts it in force again. -/
theorem handler_saves_itself : ∃ twice stopped,
    TerminateCall.init.perform (.start (.function 0x1000) .standard) >>= TerminateCall.init.perform =
      some twice ∧ twice.terminate.saved = some .own ∧ twice.unexpected.saved = some .own ∧
      TerminateCall.shutdown.perform twice = some stopped ∧ stopped.inForce = (.own, .own) ∧
      ¬ Restored none (.start (.function 0x1000) .standard) [.init, .init, .shutdown] := by
  refine ⟨_, _, rfl, rfl, rfl, rfl, rfl, ?_⟩
  rintro ⟨first, performed, _, second, again, others, _⟩
  cases performed
  cases again
  exact others.1 rfl

end AgentNDK
