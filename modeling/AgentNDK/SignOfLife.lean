import AgentNDK.AnrMonitorRunner

namespace AgentNDK
open Runs AnrMonitorRunner

/-- Between the reset of an iteration and the post of the next one. -/
def Monitoring.unposted : Monitoring → Bool
  | .exiting _ | .deciding | .reporting | .recounting | .sleeping => true
  | .looping | .entering | .removing | .posting => true
  | _ => false

/-- From the post of an iteration to the end of its wait. -/
def Monitoring.awaits : Monitoring → Bool
  | .calling | .waiting | .sampling | .resetting .throwing => true
  | _ => false

/-- `runner.wait` has just ended, by an InterruptedException or not. -/
def Monitoring.woken : Monitoring → Bool
  | .sampling | .resetting .throwing => true
  | _ => false

theorem awaits_of_woken {place : Monitoring} (woken : place.woken = true) : place.awaits = true := by
  unfold Monitoring.woken at woken
  split at woken
  · rfl
  · rfl
  · cases woken

theorem next_awaits {place next : Monitoring} (follows : next ∈ place.next)
    (awaits : next.awaits = true) :
    place = .posting ∧ next = .calling ∨ place = .calling ∨ place = .waiting := by
  have before := mem_previous follows
  cases next with
  | calling => exact Or.inl ⟨List.mem_singleton.mp before, rfl⟩
  | waiting => exact Or.inr (Or.inl (List.mem_singleton.mp before))
  | sampling => exact Or.inr (Or.inr (List.mem_singleton.mp before))
  | resetting leaving =>
    cases leaving with
    | throwing => exact Or.inr (List.mem_pair.mp before)
    | normally | returning => cases awaits
  | _ => cases awaits

theorem next_unposted {place next : Monitoring} (follows : next ∈ place.next)
    (unposted : next.unposted = true) :
    (∃ leaving, place = .resetting leaving) ∨
      (place.unposted = true ∨ place = .notBegun) ∧ ∀ leaving, place ≠ .resetting leaving := by
  have before := mem_previous follows
  cases next with
  | exiting leaving => exact Or.inl ⟨leaving, List.mem_singleton.mp before⟩
  | looping =>
    simp only [Monitoring.previous, List.mem_cons, List.not_mem_nil, or_false] at before
    rcases before with rfl | rfl | rfl | rfl <;> simp [Monitoring.unposted]
  | entering | removing | posting | deciding | reporting | recounting | sleeping =>
    rw [List.mem_singleton.mp before]
    exact Or.inr ⟨Or.inl rfl, fun _ => Monitoring.noConfusion⟩
  | _ => cases unposted

/-- The looper enters no runner between the reset of an iteration and the post
of the next one. -/
def RunsAfterPost (s : AnrMonitorRunner) (action : LoopAction) : Prop :=
  action = .looper → s.looper = .dispatching → s.place.unposted = false

instance : ∀ s action, Decidable (RunsAfterPost s action) :=
  fun _ _ => inferInstanceAs (Decidable (_ → _ → _))

/-- A runner that has run since the post has left its sign. -/
def Signs (s : AnrMonitorRunner) : Prop :=
  s.place.awaits = true → s.ranSincePost = true → s.signaled = true

/-- The flag is clear when the runner is posted, and nobody is about to set it. -/
structure Fresh (s : AnrMonitorRunner) : Prop where
  unposted : s.place.unposted = true → s.signaled = false ∧ s.looper.holds = false
  flag : s.place.awaits = true → s.signaled = true → s.ranSincePost = true

theorem fresh_new : Fresh new where
  unposted := nofun
  flag := nofun

section Steps
variable {s t : AnrMonitorRunner}

theorem awaits_before (frame : s.MonitorFrame t) (awaits : t.place.awaits = true) :
    t.signaled = s.signaled ∧ (s.place = .posting ∧ t.ranSincePost = false ∨
      s.place.awaits = true ∧ t.ranSincePost = s.ranSincePost) := by
  rcases next_awaits frame.place awaits with ⟨place, calling⟩ | place | place
  · exact ⟨frame.signaled (by simp [place]), Or.inl ⟨place, frame.posted place calling⟩⟩
  · exact ⟨frame.signaled (by simp [place]),
      Or.inr ⟨by rw [place]; rfl, frame.ranSincePost (by simp [place])⟩⟩
  · exact ⟨frame.signaled (by simp [place]),
      Or.inr ⟨by rw [place]; rfl, frame.ranSincePost (by simp [place])⟩⟩

/-- In every run, since only the reset clears the flag. -/
theorem signs_step {action : LoopAction} (inv : s.Inv) (signs : Signs s)
    (taken : s.step action = some t) : Signs t := by
  intro awaits ran
  cases action with
  | monitor action =>
    obtain ⟨flag, ⟨_, unheard⟩ | ⟨before, history⟩⟩ :=
      awaits_before (monitor_frame inv taken) awaits
    · cases unheard.symm.trans ran
    · exact flag.trans (signs before (history.symm.trans ran))
  | looper =>
    have frame := looper_frame taken
    rcases frame.flag with ⟨flag, history⟩ | ⟨_, signaled, _⟩
    · exact flag.trans (signs (frame.place ▸ awaits) (history.symm.trans ran))
    · exact signaled
  | interrupt =>
    simp only [step] at taken
    split at taken <;> cases taken
    exact signs awaits ran

theorem fresh_monitor {action : MonitorAction} (inv : s.Inv) (fresh : Fresh s)
    (taken : s.monitorStep action = some t) : Fresh t := by
  have frame := monitor_frame inv taken
  constructor
  · intro unposted
    rw [frame.looper]
    rcases next_unposted frame.place unposted with ⟨leaving, resetting⟩ | ⟨before | first, other⟩
    · exact ⟨frame.reset leaving resetting, inv.outside (by rw [resetting]; rfl)⟩
    · rw [frame.signaled other]
      exact fresh.unposted before
    · obtain ⟨elsewhere, _, unset⟩ := inv.idle first
      exact ⟨(frame.signaled other).trans unset, by rw [elsewhere]; rfl⟩
  · intro awaits signaled
    obtain ⟨flag, ⟨posting, _⟩ | ⟨before, history⟩⟩ := awaits_before frame awaits
    · have unset := (fresh.unposted (by rw [posting]; rfl)).1
      cases (flag.symm.trans signaled).symm.trans unset
    · exact history.trans (fresh.flag before (flag.symm.trans signaled))

theorem fresh_looper (fresh : Fresh s) (met : RunsAfterPost s .looper)
    (taken : s.looperStep = some t) : Fresh t := by
  have frame := looper_frame taken
  constructor
  · intro unposted
    rw [frame.place] at unposted
    obtain ⟨unset, out⟩ := fresh.unposted unposted
    -- it is not in a runner, and enters none
    cases at_looper : s.looper with
    | elsewhere =>
      simp only [looperStep, at_looper] at taken
      split at taken <;> cases taken
      exact ⟨unset, rfl⟩
    | dispatching => cases (met rfl at_looper).symm.trans unposted
    | signaling | notifying | exiting =>
      rw [at_looper] at out
      cases out
  · intro awaits signaled
    rcases frame.flag with ⟨flag, history⟩ | ⟨_, _, ran⟩
    · exact history.trans (fresh.flag (frame.place ▸ awaits) (flag.symm.trans signaled))
    · exact ran

theorem fresh_step {action : LoopAction} (inv : s.Inv) (fresh : Fresh s)
    (met : RunsAfterPost s action) (taken : s.step action = some t) : Fresh t := by
  cases action with
  | monitor action => exact fresh_monitor inv fresh taken
  | looper => exact fresh_looper fresh met taken
  | interrupt =>
    simp only [step] at taken
    split at taken <;> cases taken
    exact ⟨fresh.unposted, fresh.flag⟩

end Steps

/-- A runner that has run since the post of an iteration is never overlooked. -/
theorem signaled_of_ran {s : AnrMonitorRunner} {actions : List LoopAction}
    (reach : run step new actions = some s) (awaits : s.place.awaits = true)
    (ran : s.ranSincePost = true) : s.signaled = true := by
  have both := run_invariant (I := fun s => s.Inv ∧ Signs s)
    (fun s action t both taken => ⟨inv_step both.1 taken, signs_step both.1 both.2 taken⟩)
    ⟨inv_new, nofun⟩ reach
  exact both.2 awaits ran

/-- At the end of every wait the flag tells whether the main looper has run a
runner since the post, in a run in which the looper enters none between the
reset of an iteration and the next post. -/
theorem signaled_iff_ran {s : AnrMonitorRunner} {actions : List LoopAction}
    (reach : run (restrict RunsAfterPost step) new actions = some s)
    (woken : s.place.woken = true) : s.signaled = true ↔ s.ranSincePost = true := by
  have both := run_restrict_invariant (I := fun s => s.Inv ∧ Fresh s)
    (fun s action t both met taken => ⟨inv_step both.1 taken, fresh_step both.1 both.2 met taken⟩)
    ⟨inv_new, fresh_new⟩ reach
  exact ⟨both.2.flag (awaits_of_woken woken),
    signaled_of_ran (run_of_restrict reach) (awaits_of_woken woken)⟩

/-- An iteration up to the wait of its runner. -/
def untilWait : List LoopAction :=
  [.monitor .advance, .monitor .advance, .monitor .advance, .monitor (.post true), .monitor .advance]

/-- The looper dequeues a runner and runs it. -/
def looperRuns : List LoopAction :=
  [.looper, .looper, .looper, .looper, .looper]

theorem signaled_in_time : ∃ s, run (restrict RunsAfterPost step) new
    (.monitor .begin :: (untilWait ++ looperRuns ++ [.monitor (.wake .notified)])) = some s ∧
      s.place = .sampling ∧ (s.signaled = true ↔ s.ranSincePost = true) := by
  have reach : ∃ s, run (restrict RunsAfterPost step) new
      (.monitor .begin :: (untilWait ++ looperRuns ++ [.monitor (.wake .notified)])) = some s ∧
        s.place = .sampling := ⟨_, rfl, rfl⟩
  obtain ⟨s, reach, woken⟩ := reach
  exact ⟨s, reach, woken, signaled_iff_ran reach (by rw [woken]; rfl)⟩

/-- The runner of an iteration runs after its reset, and signals for the next one. -/
theorem late_runner_counts : ∃ s, run step new (.monitor .begin ::
    (untilWait ++
      [.monitor (.wake .timeout), .monitor .advance, .monitor (.query none), .monitor (.measure 6000),
        .monitor .advance, .monitor .advance, .monitor .advance] ++
      looperRuns ++ untilWait ++ [.monitor (.wake .timeout)])) = some s ∧ s.place = .sampling ∧
      ¬ (s.signaled = true ↔ s.ranSincePost = true) := by
  refine ⟨_, rfl, rfl, fun same => ?_⟩
  cases same.mp rfl

end AgentNDK
