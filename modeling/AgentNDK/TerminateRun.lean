import Mathlib.Logic.Function.Iterate
import AgentNDK.TerminateHandler

namespace AgentNDK

/-- What `__cxa_current_exception_type` and the catch clauses tell of the
active exception. -/
inductive ActiveException
  | none
  /-- derived from `std::exception` -/
  | standard
  | other
  deriving DecidableEq

/-- How a call of the previous handler ends. -/
inductive PreviousEnd
  | returns
  | throws
  | aborts
  deriving DecidableEq

/-- Where the innermost activation of `terminateHandler` is. -/
inductive TerminatePlace
  /-- `tinfo->name()` -/
  | naming
  /-- the report in the try block -/
  | reporting
  /-- `std::rethrow_exception`, or the end of the try block -/
  | rethrowing
  /-- the report in the clause for `std::exception` -/
  | reportingStandard
  /-- `throw e` -/
  | throwing
  /-- the report in the clause for everything else -/
  | reportingOther
  /-- `if (currentHandler != nullptr)` -/
  | resetting
  /-- in the previous handler -/
  | chaining
  | aborting
  | aborted
  /-- a null pointer was read through -/
  | faulted
  deriving DecidableEq

/-- What the calls of the handler answer, by the number of calls of
`collect_backtrace` before; that is taken to return. -/
structure TerminateAnswers where
  /-- what `collect_backtrace` returns -/
  collects : Nat → Bool
  /-- whether the report collected there is stored -/
  stores : Nat → Bool
  previous : PreviousEnd

def TerminateAnswers.written (answers : TerminateAnswers) (call : Nat) : Bool :=
  answers.collects call && answers.stores call

structure Terminating where
  place : TerminatePlace
  active : ActiveException
  /-- the handler in force, and `currentHandler` -/
  handlers : HandlerPair
  /-- the activations so far, the calls of `collect_backtrace`, the reports
  stored and the calls of the previous handler -/
  entered : Nat
  collected : Nat
  reports : Nat
  called : Nat
  deriving DecidableEq

/-- `std::terminate` is called, the handler of the module being in force. -/
def Terminating.start (active : ActiveException) (previous : RuntimeHandler) : Terminating :=
  ⟨.naming, active, ⟨.own, some previous⟩, 1, 0, 0, 0⟩

namespace Terminating

/-- Collect a report and, if that succeeds, store it. -/
def report (answers : TerminateAnswers) (s : Terminating) : Terminating :=
  { s with
    collected := s.collected + 1
    reports := s.reports + if answers.written s.collected then 1 else 0 }

/-- A new activation of `terminateHandler`. -/
def enter (s : Terminating) : Terminating :=
  { s with place := .naming, entered := s.entered + 1 }

/-- The next step of the process; the three last places have none. -/
def next (answers : TerminateAnswers) (s : Terminating) : Terminating :=
  match s.place with
  | .naming => { s with place := if s.active = .none then .faulted else .reporting }
  | .reporting => { s.report answers with place := .rethrowing }
  | .rethrowing =>
    { s with
      place := match s.active with
        | .none => .resetting
        | .standard => .reportingStandard
        | .other => .reportingOther }
  | .reportingStandard => { s.report answers with place := .throwing }
  | .throwing =>
    -- out of a noexcept function, so `std::terminate` is called with the copy active
    let thrown := { s with active := .standard }
    if s.handlers.inForce = .own then thrown.enter else { thrown with place := .aborted }
  | .reportingOther => { s.report answers with place := .resetting }
  | .resetting =>
    match s.handlers.saved with
    | none => { s with place := .aborting }
    | some handler =>
      let reset := { s with handlers := { s.handlers with inForce := handler } }
      if handler = .own then reset.enter
      else { reset with place := .chaining, called := s.called + 1 }
  | .chaining =>
    match answers.previous with
    | .returns => { s with place := .aborting, handlers := { s.handlers with saved := none } }
    | .throws => { s with place := .aborting }
    | .aborts => { s with place := .aborted }
  | .aborting => { s with place := .aborted }
  | .aborted | .faulted => s

/-- The state after so many steps. -/
def after (answers : TerminateAnswers) (s : Terminating) (n : Nat) : Terminating :=
  (next answers)^[n] s

end Terminating

open Terminating

/-- At most one report is stored, `terminateHandler` is not entered again, and
the process aborts, having called the previous handler once. -/
structure Orderly (answers : TerminateAnswers) (s : Terminating) : Prop where
  reports : ∀ n, (s.after answers n).reports ≤ 1
  entered : ∀ n, (s.after answers n).entered = 1
  chained : ∃ n, (s.after answers n).place = .aborted
  once : ∀ n, (s.after answers n).place = .aborted → (s.after answers n).called = 1

section Runs
variable {answers : TerminateAnswers}

theorem after_invariant {I : Terminating → Prop} (pres : ∀ s, I s → I (s.next answers))
    {s : Terminating} (init : I s) (n : Nat) : I (s.after answers n) :=
  Function.Iterate.rec I init pres n

/-- The counts by place, for an exception that is not a `std::exception` and a
handler of someone else. -/
structure Tally (answers : TerminateAnswers) (s : Terminating) : Prop where
  active : s.active = .other
  entered : s.entered = 1
  saved : ∀ handler, s.handlers.saved = some handler → handler ≠ .own
  counts : match s.place with
    | .naming | .reporting => s.collected = 0 ∧ s.reports = 0 ∧ s.called = 0 ∧ s.handlers.saved ≠ none
    | .rethrowing | .reportingOther =>
      s.collected = 1 ∧ s.reports = (answers.written 0).toNat ∧ s.called = 0 ∧ s.handlers.saved ≠ none
    | .resetting =>
      s.reports = (answers.written 0).toNat + (answers.written 1).toNat ∧ s.called = 0 ∧
        s.handlers.saved ≠ none
    | .chaining | .aborting | .aborted =>
      s.reports = (answers.written 0).toNat + (answers.written 1).toNat ∧ s.called = 1
    | .reportingStandard | .throwing | .faulted => False

theorem tally_start {previous : RuntimeHandler} (foreign : previous ≠ .own) :
    Tally answers (.start .other previous) where
  active := rfl
  entered := rfl
  saved := fun _ same => Option.some.inj same ▸ foreign
  counts := ⟨rfl, rfl, rfl, Option.some_ne_none _⟩

theorem tally_next {s : Terminating} (counted : Tally answers s) :
    Tally answers (s.next answers) := by
  obtain ⟨active, entered, saved, counts⟩ := counted
  cases place : s.place with
  | naming =>
    simp only [place] at counts
    simp only [next, place]
    exact ⟨active, entered, saved, by simpa [active] using counts⟩
  | reporting =>
    simp only [place] at counts
    obtain ⟨collected, reports, called, handler⟩ := counts
    simp only [next, place, report, collected, reports]
    exact ⟨active, entered, saved, rfl, by cases answers.written 0 <;> rfl, called, handler⟩
  | rethrowing =>
    simp only [place] at counts
    simp only [next, place]
    exact ⟨active, entered, saved, by simpa [active] using counts⟩
  | reportingOther =>
    simp only [place] at counts
    obtain ⟨collected, reports, called, handler⟩ := counts
    simp only [next, place, report, collected, reports]
    exact ⟨active, entered, saved, by cases answers.written 1 <;> rfl, called, handler⟩
  | resetting =>
    simp only [place] at counts
    obtain ⟨reports, called, handler⟩ := counts
    obtain ⟨handler, same⟩ := Option.ne_none_iff_exists'.mp handler
    simp only [next, place, same, if_neg (saved handler same)]
    exact ⟨active, entered, fun _ held => saved _ (same.trans held), reports,
      congrArg (· + 1) called⟩
  | chaining =>
    simp only [place] at counts
    simp only [next, place]
    cases answers.previous with
    | returns => exact ⟨active, entered, fun _ none => absurd none.symm (Option.some_ne_none _), counts⟩
    | throws => exact ⟨active, entered, saved, counts⟩
    | aborts => exact ⟨active, entered, saved, counts⟩
  | aborting =>
    simp only [place] at counts
    simp only [next, place]
    exact ⟨active, entered, saved, counts⟩
  | aborted =>
    simp only [place] at counts
    simp only [next, place]
    exact ⟨active, entered, saved, by rw [place]; exact counts⟩
  | reportingStandard | throwing | faulted =>
    simp only [place] at counts

theorem Tally.reports_le {s : Terminating} (counted : Tally answers s) :
    s.reports ≤ (answers.written 0).toNat + (answers.written 1).toNat := by
  have counts := counted.counts
  cases place : s.place with
  | reportingStandard | throwing | faulted => simp only [place] at counts
  | _ =>
    simp only [place] at counts
    omega

theorem Tally.called_once {s : Terminating} (counted : Tally answers s)
    (aborted : s.place = .aborted) : s.called = 1 := by
  have counts := counted.counts
  rw [aborted] at counts
  exact counts.2

theorem aborted_other {previous : RuntimeHandler} (foreign : previous ≠ .own) :
    ((start .other previous).after answers 7).place = .aborted := by
  cases ends : answers.previous <;> simp [after, next, start, report, foreign, ends]

/-- Without an active exception the type of it is read through a null pointer. -/
theorem never_aborted (previous : RuntimeHandler) (n : Nat) :
    ((start .none previous).after answers n).place ≠ .aborted := by
  have stuck : ∀ s : Terminating, s.active = .none ∧ (s.place = .naming ∨ s.place = .faulted) →
      (s.next answers).active = .none ∧
        ((s.next answers).place = .naming ∨ (s.next answers).place = .faulted) := by
    rintro s ⟨active, place | place⟩ <;> simp [next, place, active]
  rcases (after_invariant stuck (s := start .none previous) ⟨rfl, Or.inl rfl⟩ n).2 with place | place
  · rw [place]
    exact TerminatePlace.noConfusion
  · rw [place]
    exact TerminatePlace.noConfusion

/-- Five steps lead from an activation for a `std::exception` to the next one. -/
theorem reentered (answers : TerminateAnswers) {s : Terminating} (naming : s.place = .naming)
    (standard : s.active = .standard) (own : s.handlers.inForce = .own) :
    (s.after answers 5).place = .naming ∧ (s.after answers 5).active = .standard ∧
      (s.after answers 5).handlers.inForce = .own ∧ (s.after answers 5).entered = s.entered + 1 := by
  simp [after, next, report, enter, naming, standard, own]

theorem entered_without_end (answers : TerminateAnswers) (previous : RuntimeHandler) (k : Nat) :
    ((start .standard previous).after answers (5 * k)).place = .naming ∧
      ((start .standard previous).after answers (5 * k)).active = .standard ∧
      ((start .standard previous).after answers (5 * k)).handlers.inForce = .own ∧
      ((start .standard previous).after answers (5 * k)).entered = k + 1 := by
  induction k with
  | zero => exact ⟨rfl, rfl, rfl, rfl⟩
  | succ k ih =>
    obtain ⟨naming, standard, own, entered⟩ := ih
    obtain ⟨again, still, kept, more⟩ := reentered answers naming standard own
    rw [Nat.mul_succ, Nat.add_comm, after, Function.iterate_add_apply]
    exact ⟨again, still, kept, more.trans (congrArg (· + 1) entered)⟩

end Runs

/-- An activation is orderly exactly when the exception is active and not
derived from `std::exception`, the previous handler is that of someone else, and
one of the two reports is not stored. -/
theorem activation_orderly_iff (answers : TerminateAnswers) (active : ActiveException)
    (previous : RuntimeHandler) : Orderly answers (.start active previous) ↔
      active = .other ∧ previous ≠ .own ∧ ¬ (answers.written 0 = true ∧ answers.written 1 = true) := by
  constructor
  · intro orderly
    cases active with
    | none =>
      obtain ⟨n, aborted⟩ := orderly.chained
      exact absurd aborted (never_aborted previous n)
    | standard =>
      have twice := (entered_without_end answers previous 1).2.2.2
      cases (orderly.entered 5).symm.trans twice
    | other =>
      have once := orderly.entered 5
      have single := orderly.reports 4
      refine ⟨rfl, ?_, ?_⟩
      · rintro rfl
        simp [after, next, start, report, enter] at once
      · rintro ⟨first, second⟩
        simp [after, next, start, report, first, second] at single
  · rintro ⟨rfl, foreign, notBoth⟩
    have counted : ∀ n, Tally answers ((start .other previous).after answers n) :=
      after_invariant (I := Tally answers) (fun _ => tally_next) (tally_start foreign)
    refine
      { reports := fun n => Nat.le_trans (counted n).reports_le ?_
        entered := fun n => (counted n).entered
        chained := ⟨7, aborted_other foreign⟩
        once := fun n => (counted n).called_once }
    cases first : answers.written 0 with
    | false => cases answers.written 1 <;> decide
    | true =>
      cases second : answers.written 1 with
      | false => decide
      | true => exact absurd ⟨first, second⟩ notBoth

/-- Every report is collected and stored. -/
def TerminateAnswers.success : TerminateAnswers :=
  ⟨fun _ => true, fun _ => true, .returns⟩

/-- A `std::exception` that is not caught is reported twice, and then the
handler is entered once more. -/
theorem activation_reentered :
    (((start .standard (.function 0x1000)).after .success 5).place = .naming ∧
      ((start .standard (.function 0x1000)).after .success 5).entered = 2 ∧
      ((start .standard (.function 0x1000)).after .success 5).reports = 2) ∧
    ¬ Orderly .success (.start .standard (.function 0x1000)) := by
  refine ⟨⟨rfl, rfl, rfl⟩, fun orderly => ?_⟩
  cases orderly.entered 5

end AgentNDK
