import AgentNDK.SignOfLife

namespace AgentNDK
open Runs AnrMonitorRunner

/-- The operations that may take long, other than `runner.wait`: the query of
the activity manager, `createANRReport` and `Thread.sleep`. -/
def Monitoring.lengthy : Monitoring → Bool
  | .querying | .reporting | .sleeping => true
  | _ => false

/-- In none of them does the monitor's thread hold the lock of the runner, and
a looper that is about to enter the runner does not wait for it. -/
def Unhindered (s : AnrMonitorRunner) : Prop :=
  s.place.lengthy = true →
    s.lock ≠ some .monitor ∧ (s.looper = .dispatching → s.step .looper ≠ none)

/-- Whenever `blocked` is asked, the runner has signaled. -/
def AlwaysSignaled (s : AnrMonitorRunner) (action : LoopAction) : Prop :=
  action = .monitor .advance → s.place = .sampling → s.signaled = true

section Steps
variable {s t : AnrMonitorRunner}

/-- The reports and the sleep are outside of the synchronized block. -/
theorem AnrMonitorRunner.Inv.unhindered (inv : s.Inv) (other : s.place ≠ .querying) : Unhindered s := by
  intro lengthy
  have outside : s.place.holds = false := by
    cases place : s.place with
    | querying => exact absurd place other
    | reporting | sleeping => rfl
    | _ =>
      rw [place] at lengthy
      cases lengthy
  have unlocked : s.lock ≠ some .monitor := fun held => by
    cases (inv.monitor.mp held).symm.trans outside
  refine ⟨unlocked, fun dispatching => ?_⟩
  have free : s.lock = none := by
    cases lock : s.lock with
    | none => rfl
    | some holder =>
      cases holder with
      | monitor => exact absurd lock unlocked
      | looper =>
        have inside := inv.looper.mp lock
        rw [dispatching] at inside
        cases inside
  simp [step, looperStep, dispatching, free]

theorem hindered_of_querying (inv : s.Inv) (querying : s.place = .querying) : ¬ Unhindered s := by
  intro unhindered
  refine (unhindered (by rw [querying]; rfl)).1 (inv.monitor.mpr ?_)
  rw [querying]
  rfl

theorem querying_iff {action : LoopAction} (inv : s.Inv) (before : s.place ≠ .querying)
    (taken : s.step action = some t) : t.place = .querying ↔ ¬ AlwaysSignaled s action := by
  constructor
  · intro querying signaled
    cases action with
    | monitor action =>
      have sampling : s.place = .sampling := by
        have before := mem_previous (monitor_frame inv taken).place
        rw [querying] at before
        exact List.mem_singleton.mp before
      obtain rfl := advances (by rw [sampling]; rfl) taken
      simp only [step, monitorStep, advance, sampling] at taken
      cases taken
      rw [if_pos (signaled rfl sampling)] at querying
      cases querying
    | looper => exact before ((looper_frame taken).place ▸ querying)
    | interrupt =>
      simp only [step] at taken
      split at taken <;> cases taken
      exact before querying
  · intro silent
    simp only [AlwaysSignaled, Classical.not_imp] at silent
    obtain ⟨rfl, sampling, unsignaled⟩ := silent
    simp only [step, monitorStep, advance, sampling] at taken
    cases taken
    exact if_neg unsignaled

end Steps

/-- The lock is never held during an operation that may take long in exactly
the runs in which every wait ends with the runner having signaled; otherwise
the activity manager is asked within the synchronized block. -/
theorem unhindered_iff (actions : List LoopAction) :
    Throughout step Unhindered new actions ↔ Meets AlwaysSignaled step new actions := by
  refine throughout_iff (I := fun s => s.Inv ∧ s.place ≠ .querying)
    (fun s both => both.1.unhindered both.2) ?_ ?_ ⟨inv_new, Monitoring.noConfusion⟩ actions
  · intro s action t both signaled taken
    exact ⟨inv_step both.1 taken, fun querying => (querying_iff both.1 both.2 taken).mp querying signaled⟩
  · intro s action t both silent taken
    exact hindered_of_querying (inv_step both.1 taken) ((querying_iff both.1 both.2 taken).mpr silent)

/-- A wait that times out, and the looper comes to the runner it was waiting for. -/
theorem looper_kept_waiting : ∃ s, run step new (.monitor .begin :: (untilWait ++
    [.monitor (.wake .timeout), .monitor .advance, .looper])) = some s ∧
      s.place = .querying ∧ s.looper = .dispatching ∧ s.step .looper = none ∧ ¬ Unhindered s :=
  ⟨_, rfl, rfl, rfl, rfl, fun unhindered => (unhindered rfl).1 rfl⟩

end AgentNDK
