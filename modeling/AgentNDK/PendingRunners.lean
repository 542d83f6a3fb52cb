import AgentNDK.SignOfLife

/-! The copies of the WaitableRunner in the queue of the main handler. -/

namespace AgentNDK
open Runs AnrMonitorRunner

/-- No copy was posted since the last `handler.removeCallbacks(runner)`. -/
def Monitoring.cleared : Monitoring → Bool
  | .notBegun | .posting | .quitting | .ended => true
  | _ => false

theorem next_cleared {place next : Monitoring} (follows : next ∈ place.next)
    (cleared : next.cleared = true) :
    place = .removing ∨ place = .cleaning ∨ place = .quitting ∨ place = .ended := by
  have before := mem_previous follows
  cases next with
  | notBegun => cases before
  | posting => exact Or.inl (List.mem_singleton.mp before)
  | quitting => exact Or.inr (Or.inl (List.mem_singleton.mp before))
  | ended => exact Or.inr (Or.inr (List.mem_pair.mp before))
  | _ => cases cleared

namespace AnrMonitorRunner

/-- One copy may be pending, and none once the callbacks have been removed. -/
structure PendingInv (s : AnrMonitorRunner) : Prop where
  inv : s.Inv
  atMost : s.pending ≤ 1
  removed : s.place.cleared = true → s.pending = 0

theorem pendingInv_new : new.PendingInv :=
  ⟨inv_new, Nat.zero_le 1, fun _ => rfl⟩

section Steps
variable {s t : AnrMonitorRunner}

theorem pending_removing {action : MonitorAction} (removing : s.place = .removing ∨ s.place = .cleaning)
    (taken : s.monitorStep action = some t) : t.pending = 0 := by
  obtain rfl : action = .advance := by
    rcases removing with place | place <;> exact advances (by rw [place]; rfl) taken
  rcases removing with place | place <;> simp only [monitorStep, advance, place] at taken <;>
    cases taken <;> rfl

/-- Only an accepted post adds a copy, and there is none before it. -/
theorem pending_posting {action : MonitorAction} (posting : s.place = .posting)
    (taken : s.monitorStep action = some t) : t.pending ≤ s.pending + 1 := by
  cases action with
  | post accepted =>
    simp only [monitorStep, post, if_pos posting] at taken
    split at taken <;> cases taken
    · exact Nat.le_refl _
    · exact Nat.le_succ _
  | _ =>
    simp [monitorStep, advance, AnrMonitorRunner.begin, wake, query, AnrMonitorRunner.measure, report,
      posting] at taken

theorem pendingInv_monitor {action : MonitorAction} (inv : s.PendingInv)
    (taken : s.monitorStep action = some t) : t.PendingInv := by
  have frame := monitor_frame inv.inv taken
  have bound := inv.atMost
  refine ⟨inv_monitor inv.inv taken, ?_, fun cleared => ?_⟩
  · by_cases posting : s.place = .posting
    · have none := inv.removed (by rw [posting]; rfl)
      have added := pending_posting posting taken
      omega
    · by_cases removing : s.place = .removing ∨ s.place = .cleaning
      · rw [pending_removing removing taken]
        exact Nat.zero_le 1
      · rw [not_or] at removing
        rw [frame.pending removing.1 posting removing.2]
        exact bound
  · rcases next_cleared frame.place cleared with place | place | place | place
    · exact pending_removing (Or.inl place) taken
    · exact pending_removing (Or.inr place) taken
    all_goals
      have none := inv.removed (by rw [place]; rfl)
      rw [frame.pending (by rw [place]; exact Monitoring.noConfusion)
        (by rw [place]; exact Monitoring.noConfusion) (by rw [place]; exact Monitoring.noConfusion)]
      exact none

theorem pending_looper (taken : s.looperStep = some t) : t.pending ≤ s.pending := by
  cases at_looper : s.looper with
  | elsewhere =>
    simp only [looperStep, at_looper] at taken
    split at taken <;> cases taken
    exact Nat.sub_le _ _
  | dispatching =>
    simp only [looperStep, at_looper] at taken
    split at taken <;> cases taken
    exact Nat.le_refl _
  | signaling | notifying | exiting =>
    simp only [looperStep, at_looper] at taken
    cases taken
    exact Nat.le_refl _

theorem pendingInv_step {action : LoopAction} (inv : s.PendingInv) (taken : s.step action = some t) :
    t.PendingInv := by
  have base := inv_step inv.inv taken
  have bound := inv.atMost
  cases action with
  | monitor action => exact pendingInv_monitor inv taken
  | looper =>
    have fewer := pending_looper taken
    refine ⟨base, by omega, fun cleared => ?_⟩
    rw [(looper_frame taken).place] at cleared
    have none := inv.removed cleared
    omega
  | interrupt =>
    simp only [step] at taken
    split at taken <;> cases taken
    exact ⟨base, bound, inv.removed⟩

end Steps

/-- However the main looper and interrupts come in between, and however the
loop is left, no backlog of the runner builds up and none of it remains. -/
theorem pending_at_most_one {s : AnrMonitorRunner} {actions : List LoopAction}
    (reach : run step new actions = some s) :
    s.pending ≤ 1 ∧ (s.place = .ended → s.pending = 0) := by
  have inv := run_invariant (fun _ _ _ => pendingInv_step) pendingInv_new reach
  exact ⟨inv.atMost, fun ended => inv.removed (by rw [ended]; rfl)⟩

/-- The thread is interrupted in its wait, with a copy pending. -/
theorem pending_interrupted : ∃ s, run step new (.monitor .begin :: (untilWait ++
    [.interrupt, .monitor (.wake .interrupted), .monitor .advance, .monitor .advance,
      .monitor .advance, .monitor .advance])) = some s ∧ s.place = .ended ∧ s.pending = 0 := by
  have reach : ∃ s, run step new (.monitor .begin :: (untilWait ++
      [.interrupt, .monitor (.wake .interrupted), .monitor .advance, .monitor .advance,
        .monitor .advance, .monitor .advance])) = some s ∧ s.place = .ended := ⟨_, rfl, rfl⟩
  obtain ⟨s, reach, ended⟩ := reach
  exact ⟨s, reach, ended, (pending_at_most_one reach).2 ended⟩

end AnrMonitorRunner

end AgentNDK
