import AgentNDK.AnrHandler

namespace AgentNDK
open Runs

/-- A watchdog that has been created and has not left its loop. -/
def AnrHandler.Alive (s : AnrHandler) (index : Nat) : Prop :=
  ∃ place, s.watchdogs[index]? = some place ∧ place ≠ .ended

section Alive
variable {abi : Abi} {s t : AnrHandler} {index other : Nat}

/-- A watchdog ends only where it finds `enabled` cleared. -/
theorem watchdogStep_ended {succeeds : Bool} {place : Watchdog}
    (moved : s.watchdogStep succeeds place = some (.ended, t)) :
    place = .looping ∧ s.enabled = false := by
  cases place with
  | looping =>
    have ended := (Prod.mk.inj (Option.some.inj moved)).1
    split at ended
    · cases ended
    · rename_i cleared
      exact ⟨rfl, Bool.eq_false_iff.mpr cleared⟩
  | waiting =>
    simp only [AnrHandler.watchdogStep] at moved
    split at moved
    · split at moved <;> cases moved
    · cases moved
  | ended => cases moved
  | clearing | relaying => cases moved
  | choosing | polling | testing | targeting =>
    have ended := (Prod.mk.inj (Option.some.inj moved)).1
    split at ended <;> cases ended

/-- A watchdog stays alive as long as it finds `enabled` set. -/
theorem AnrHandler.Alive.watchdog {succeeds : Bool} (alive : s.Alive other)
    (set : index = other → s.watchdogs[index]? = some .looping → s.enabled = true)
    (taken : s.step abi (.watchdog index succeeds) = some t) : t.Alive other := by
  obtain ⟨place, next, u, found, moved, rfl⟩ := AnrHandler.watchdog_taken taken
  by_cases same : index = other
  · refine ⟨next, ?_, fun ended => ?_⟩
    · rw [← same]
      exact List.getElem?_set_self (List.getElem?_eq_some_iff.mp found).1
    · subst ended
      obtain ⟨rfl, cleared⟩ := watchdogStep_ended moved
      exact absurd (cleared.symm.trans (set same found)) Bool.noConfusion
  · obtain ⟨at_other, there, running⟩ := alive
    exact ⟨at_other, (List.getElem?_set_ne same).trans there, running⟩

theorem AnrHandler.Alive.append (alive : s.Alive index) (same : t.watchdogs = s.watchdogs ++ [.looping]) :
    t.Alive index := by
  obtain ⟨place, found, running⟩ := alive
  refine ⟨place, ?_, running⟩
  rw [same, List.getElem?_append_left (List.getElem?_eq_some_iff.mp found).1]
  exact found

theorem AnrHandler.Alive.of_watchdogs (alive : s.Alive index) (same : t.watchdogs = s.watchdogs) :
    t.Alive index := by
  obtain ⟨place, found, running⟩ := alive
  exact ⟨place, same ▸ found, running⟩

/-- A step of a watchdog brings no watchdog to life. -/
theorem AnrHandler.Alive.before_watchdog {succeeds : Bool} (alive : t.Alive other)
    (taken : s.step abi (.watchdog index succeeds) = some t) : s.Alive other := by
  obtain ⟨place, next, u, found, moved, rfl⟩ := AnrHandler.watchdog_taken taken
  obtain ⟨at_other, there, running⟩ := alive
  by_cases same : index = other
  · refine ⟨place, same ▸ found, ?_⟩
    rintro rfl
    cases moved
  · exact ⟨at_other, (List.getElem?_set_ne same).symm.trans there, running⟩

/-- The only watchdog alive, if any, is the one that would be joined. -/
def AnrHandler.Single (s : AnrHandler) : Prop :=
  ∀ index, s.Alive index → s.watchdogThread = some index

theorem AnrHandler.Single.call {succeeds : Bool} (single : s.Single)
    (alone : s.caller = .creating → succeeds = true → ∀ place ∈ s.watchdogs, place = .ended)
    (taken : s.step abi (.call succeeds) = some t) : t.Single := by
  have moved := AnrHandler.call_taken taken
  have frame := AnrHandler.callStep_frame moved
  by_cases creating : s.caller = .creating
  · simp only [creating, AnrHandler.callStep] at moved
    split at moved <;> cases moved
    · rename_i created
      rintro index ⟨place, found, running⟩
      have bound := (List.getElem?_eq_some_iff.mp found).1
      by_cases old : index < s.watchdogs.length
      · rw [List.getElem?_append_left old] at found
        exact absurd (alone creating created place (List.mem_of_getElem? found)) running
      · simp only [List.length_append, List.length_singleton] at bound
        exact congrArg some (by omega)
    · exact single
  by_cases joining : s.caller = .joining
  · simp only [joining, AnrHandler.callStep] at moved
    split at moved
    · cases moved
      exact single
    · rename_i joined thread
      split at moved <;> cases moved
      rename_i ended
      rintro index ⟨place, found, running⟩
      cases Option.some.inj (thread.symm.trans (single index ⟨place, found, running⟩))
      exact absurd (Option.some.inj (found.symm.trans ended)) running
  · rintro index alive
    rw [frame.watchdogThread creating joining]
    exact single index (alive.of_watchdogs (frame.watchdogs creating).symm)

theorem AnrHandler.Single.watchdog {succeeds : Bool} (single : s.Single)
    (taken : s.step abi (.watchdog index succeeds) = some t) : t.Single := by
  intro other alive
  have thread : t.watchdogThread = s.watchdogThread := by
    obtain ⟨_, _, _, _, moved, rfl⟩ := AnrHandler.watchdog_taken taken
    obtain ⟨_, _, _, rfl⟩ := AnrHandler.watchdogStep_writes moved
    rfl
  exact thread.trans (single other (alive.before_watchdog taken))

end Alive

/-! The watchdog of a session stays in its loop. -/

/-- The watchdogs of the calls of `anr_handler_initialize` that have returned
true since the last shutdown are in their loop. -/
def AnrHandler.Watched (s : AnrHandler) : Prop :=
  ∀ index ∈ s.standing, s.Alive index

/-- A watchdog that tests `enabled` before the call that created it returns
finds it set. -/
def FindsEnabled (s : AnrHandler) : AnrAction → Prop
  | .watchdog index _ => s.caller.starting = true → s.watchdogThread = some index →
      s.watchdogs[index]? = some .looping → s.enabled = true
  | _ => True

instance : (s : AnrHandler) → (action : AnrAction) → Decidable (FindsEnabled s action)
  | _, .watchdog _ _ => inferInstanceAs (Decidable (_ → _ → _ → _))
  | _, .handlerInitialize _ | _, .handlerShutdown | _, .call _ | _, .deliver _ | _, .intercept _ _ =>
    instDecidableTrue

/-- What holds as long as new watchdogs find `enabled` set. -/
structure AnrHandler.Watching (s : AnrHandler) : Prop where
  starting : s.caller.starting = true → ∃ index, s.watchdogThread = some index ∧ s.Alive index
  standing : s.Watched
  enabled : s.standing ≠ [] → s.enabled = true
  returning : s.caller = .returning → s.enabled = true

theorem start_watching (getpid : Int32) (sigquit : QuitAction) :
    (AnrHandler.start getpid sigquit).Watching where
  starting := Bool.noConfusion
  standing := fun _ member => absurd member List.not_mem_nil
  enabled := fun none => absurd rfl none
  returning := Calling.noConfusion

section Watching
variable {abi : Abi} {s t : AnrHandler}

theorem watching_call {succeeds : Bool} (watching : s.Watching)
    (taken : s.step abi (.call succeeds) = some t) : t.Watching := by
  have moved := AnrHandler.call_taken taken
  have frame := AnrHandler.callStep_frame moved
  have order := AnrHandler.callStep_order moved
  by_cases creating : s.caller = .creating
  · simp only [creating, AnrHandler.callStep] at moved
    split at moved <;> cases moved
    · exact { watching with
        starting := fun _ => ⟨s.watchdogs.length, rfl, .looping, by simp, Watchdog.noConfusion⟩
        standing := fun index member => (watching.standing index member).append rfl
        returning := Calling.noConfusion }
    · exact { watching with
        starting := Bool.noConfusion
        returning := Calling.noConfusion }
  by_cases returning : s.caller = .returning
  · obtain ⟨index, thread, alive⟩ := watching.starting (by rw [returning]; rfl)
    have set := watching.returning returning
    rw [returning, AnrHandler.callStep, if_pos set] at moved
    cases moved
    refine { watching with
      starting := Bool.noConfusion
      standing := fun other member => ?_
      enabled := fun _ => set
      returning := Calling.noConfusion }
    rcases List.mem_append.mp member with old | new
    · exact watching.standing other old
    · rw [thread] at new
      cases List.mem_singleton.mp new
      exact alive
  have watchdogs := frame.watchdogs creating
  have standing := frame.standing returning
  have enabled : s.enabled = true → t.enabled = true := by
    intro set
    by_cases enabling : s.caller = .enabling
    · rw [enabling] at moved
      cases moved
      rfl
    · exact (frame.enabled enabling).trans set
  refine
    { starting := fun starting => ?_
      standing := fun index member =>
        (watching.standing index (standing ▸ member)).of_watchdogs watchdogs
      enabled := fun some => enabled (watching.enabled (standing ▸ some))
      returning := fun next => ?_ }
  · have before := (order.starting starting).resolve_right creating
    obtain ⟨index, thread, alive⟩ := watching.starting before
    have other : s.caller ≠ .joining := fun joining => by
      rw [joining] at before
      cases before
    exact ⟨index, (frame.watchdogThread creating other).trans thread, alive.of_watchdogs watchdogs⟩
  · rw [order.returning next] at moved
    cases moved
    rfl

theorem watching_watchdog {index : Nat} {succeeds : Bool} (watching : s.Watching)
    (finds : FindsEnabled s (.watchdog index succeeds))
    (taken : s.step abi (.watchdog index succeeds) = some t) : t.Watching := by
  have standing : t.standing = s.standing ∧ t.enabled = s.enabled ∧ t.caller = s.caller ∧
      t.watchdogThread = s.watchdogThread := by
    obtain ⟨_, _, _, _, moved, rfl⟩ := AnrHandler.watchdog_taken taken
    obtain ⟨_, _, _, rfl⟩ := AnrHandler.watchdogStep_writes moved
    exact ⟨rfl, rfl, rfl, rfl⟩
  obtain ⟨standing, enabled, caller, thread⟩ := standing
  refine
    { starting := fun starting => ?_
      standing := fun other member => ?_
      enabled := fun some => enabled.trans (watching.enabled (standing ▸ some))
      returning := fun returning => enabled.trans (watching.returning (caller.symm.trans returning)) }
  · rw [caller] at starting
    obtain ⟨current, created, alive⟩ := watching.starting starting
    refine ⟨current, thread.trans created, alive.watchdog (fun same head => ?_) taken⟩
    exact finds starting (same ▸ created) head
  · rw [standing] at member
    refine (watching.standing other member).watchdog (fun _ _ => ?_) taken
    exact watching.enabled (List.ne_nil_of_mem member)

theorem watching_step {action : AnrAction} (watching : s.Watching) (finds : FindsEnabled s action)
    (taken : s.step abi action = some t) : t.Watching := by
  cases action with
  | call succeeds => exact watching_call watching taken
  | watchdog index succeeds => exact watching_watchdog watching finds taken
  | handlerInitialize dir =>
    obtain ⟨_, _, _, rfl⟩ := AnrHandler.handlerInitialize_taken taken
    exact { watching with starting := Bool.noConfusion, returning := Calling.noConfusion }
  | handlerShutdown =>
    obtain ⟨_, rfl⟩ := AnrHandler.handlerShutdown_taken taken
    exact
      { starting := Bool.noConfusion
        standing := fun _ member => absurd member List.not_mem_nil
        enabled := fun none => absurd rfl none
        returning := Calling.noConfusion }
  | deliver recipient =>
    obtain ⟨_, rfl⟩ := AnrHandler.deliver_taken taken
    exact { watching with }
  | intercept index succeeds =>
    obtain ⟨_, _, _, _, moved, rfl⟩ := AnrHandler.intercept_taken taken
    obtain ⟨_, _, _, rfl⟩ := AnrHandler.interceptStep_writes moved
    exact { watching with }

end Watching

/-- As long as every new watchdog finds `enabled` set, the watchdog of a
session stays in its loop. -/
theorem watchdog_watched {abi : Abi} {getpid : Int32} {sigquit : QuitAction} {s : AnrHandler}
    {actions : List AnrAction}
    (reach : run (restrict FindsEnabled (AnrHandler.step abi)) (.start getpid sigquit) actions = some s) :
    s.Watched := by
  have watching : s.Watching :=
    run_restrict_invariant (fun _ _ _ => watching_step) (start_watching getpid sigquit) reach
  exact watching.standing

theorem watchdog_watched_second : ∃ s, run (restrict FindsEnabled (AnrHandler.step .aarch64))
    (.start 1000 (.other ⟨.sigDfl, 0, 0⟩))
    (initializeActions ++ waitActions 0 ++ shutdownActions 0 ++ initializeActions) = some s ∧
    s.standing = [1] ∧ s.Watched := by
  have reach : ∃ s, run (restrict FindsEnabled (AnrHandler.step .aarch64))
      (.start 1000 (.other ⟨.sigDfl, 0, 0⟩))
      (initializeActions ++ waitActions 0 ++ shutdownActions 0 ++ initializeActions) = some s ∧
      s.standing = [1] := ⟨_, rfl, rfl⟩
  obtain ⟨s, reach, standing⟩ := reach
  exact ⟨s, reach, standing, watchdog_watched reach⟩

/-- In a second session the new watchdog runs before `enabled` is set again. -/
def hastyWatchdog : List AnrAction :=
  initializeActions ++ waitActions 0 ++ shutdownActions 0 ++
    [.handlerInitialize .usual, .call true, .watchdog 1 true] ++ List.replicate 6 (.call true)

/-- It ends, and `anr_handler_initialize` returns true. -/
theorem hasty_watchdog_unwatched : ∃ s,
    run (AnrHandler.step .aarch64) (.start 1000 (.other ⟨.sigDfl, 0, 0⟩)) hastyWatchdog = some s ∧
      s.standing = [1] ∧ s.watchdogs[1]? = some .ended ∧ ¬ s.Watched := by
  refine ⟨_, rfl, rfl, rfl, fun watched => ?_⟩
  obtain ⟨place, found, running⟩ := watched 1 (List.mem_singleton_self 1)
  exact running (Option.some.inj found).symm

end AgentNDK
