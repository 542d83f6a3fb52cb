import AgentNDK.AnrWatchdog

namespace AgentNDK
open Runs

/-- A shutdown joins a watchdog that waits for the semaphore at zero, and no
activation of the interceptor is left that could post it. -/
def AnrHandler.Stuck (s : AnrHandler) : Prop :=
  s.caller = .joining ∧ s.watchdogSemaphore = 0 ∧
    (∃ index, s.watchdogThread = some index ∧ s.watchdogs[index]? = some .waiting) ∧
    ∀ activation ∈ s.activations, activation.place = .failing ∨ activation.place = .returned

/-- A watchdog is created only when no other is alive, `watchdog_must_poll` is
set only when none waits for the semaphore at zero, and the post of a shutdown
succeeds. -/
def Wakes (s : AnrHandler) : AnrAction → Prop
  | .call succeeds =>
    (s.caller = .creating → succeeds = true → ∀ place ∈ s.watchdogs, place = .ended) ∧
      (s.caller = .assigning true → .waiting ∈ s.watchdogs → 0 < s.watchdogSemaphore) ∧
      (s.caller = .waking → succeeds = true)
  | .intercept index _ =>
    (s.activations[index]?).map AnrActivation.place = some .failing →
      .waiting ∈ s.watchdogs → 0 < s.watchdogSemaphore
  | _ => True

instance : (s : AnrHandler) → (action : AnrAction) → Decidable (Wakes s action)
  | _, .call _ => inferInstanceAs (Decidable (_ ∧ _ ∧ _))
  | _, .intercept _ _ => inferInstanceAs (Decidable (_ → _ → _))
  | _, .handlerInitialize _ | _, .handlerShutdown | _, .deliver _ | _, .watchdog _ _ => instDecidableTrue

/-- On its way to the semaphore or there. -/
def Watchdog.bound : Watchdog → Bool
  | .clearing | .choosing | .waiting => true
  | _ => false

/-- What holds as long as the steps keep a shutdown able to wake its watchdog. -/
structure AnrHandler.Wakeable (s : AnrHandler) : Prop where
  single : s.Single
  /-- in polling mode no watchdog waits at zero, but between `sem_init` and the
  assignment of its success -/
  mustPoll : s.watchdogMustPoll = true → s.caller ≠ .assigning false →
    .waiting ∈ s.watchdogs → 0 < s.watchdogSemaphore
  disabled : s.caller.stopping = true → s.enabled = false
  /-- the post of a shutdown is there until the watchdog takes it -/
  posted : s.caller = .joining → s.watchdogMustPoll = false →
    (∃ place ∈ s.watchdogs, place.bound = true) → 0 < s.watchdogSemaphore

theorem AnrHandler.Wakeable.not_stuck {s : AnrHandler} (wakeable : s.Wakeable) : ¬ s.Stuck := by
  rintro ⟨joining, zero, ⟨index, _, waiting⟩, _⟩
  have member : Watchdog.waiting ∈ s.watchdogs := List.mem_of_getElem? waiting
  by_cases polls : s.watchdogMustPoll = true
  · have positive := wakeable.mustPoll polls (by rw [joining]; exact Calling.noConfusion) member
    omega
  · have positive := wakeable.posted joining (Bool.eq_false_iff.mpr polls) ⟨_, member, rfl⟩
    omega

theorem start_wakeable (getpid : Int32) (sigquit : QuitAction) :
    (AnrHandler.start getpid sigquit).Wakeable where
  single := fun _ ⟨_, found, _⟩ => nomatch found
  mustPoll := Bool.noConfusion
  disabled := Bool.noConfusion
  posted := Calling.noConfusion

section Steps
variable {abi : Abi} {s t : AnrHandler}

/-- A watchdog goes into `sem_wait` only in semaphore mode. -/
theorem watchdogStep_waiting {succeeds : Bool} {place : Watchdog}
    (moved : s.watchdogStep succeeds place = some (.waiting, t)) : s.watchdogMustPoll = false := by
  cases place with
  | choosing =>
    have next := (Prod.mk.inj (Option.some.inj moved)).1
    split at next
    · cases next
    · rename_i semaphore
      exact Bool.eq_false_iff.mpr semaphore
  | waiting =>
    simp only [AnrHandler.watchdogStep] at moved
    split at moved
    · split at moved <;> cases moved
    · cases moved
  | looping | polling | testing | targeting =>
    have next := (Prod.mk.inj (Option.some.inj moved)).1
    split at next <;> cases next
  | clearing | relaying | ended => cases moved

/-- Only a watchdog that finds `enabled` set starts on its way to the
semaphore, and on its way it does not take a post. -/
theorem watchdogStep_bound {succeeds : Bool} {place next : Watchdog}
    (moved : s.watchdogStep succeeds place = some (next, t)) (bound : next.bound = true) :
    (place.bound = true ∨ s.enabled = true) ∧ t.watchdogSemaphore = s.watchdogSemaphore := by
  cases place with
  | looping =>
    cases moved
    split at bound
    · rename_i set
      exact ⟨Or.inr set, rfl⟩
    · cases bound
  | clearing | choosing =>
    cases moved
    exact ⟨Or.inl rfl, rfl⟩
  | waiting =>
    simp only [AnrHandler.watchdogStep] at moved
    split at moved
    · split at moved <;> cases moved
      cases bound
    · cases moved
      cases bound
  | polling | testing | targeting =>
    cases moved
    split at bound <;> cases bound
  | relaying =>
    cases moved
    cases bound
  | ended => cases moved

/-- The semaphore is positive for whoever waits in polling mode, after a call too. -/
theorem mustPoll_call {succeeds : Bool} (wakeable : s.Wakeable) (wakes : Wakes s (.call succeeds))
    (moved : s.callStep succeeds s.caller = some t) (polls : t.watchdogMustPoll = true)
    (between : t.caller ≠ .assigning false) (waiting : .waiting ∈ s.watchdogs) :
    0 < t.watchdogSemaphore := by
  obtain ⟨_, still, posts⟩ := wakes
  have frame := AnrHandler.callStep_frame moved
  cases place : s.caller with
  | assigning failed =>
    rw [place] at moved
    cases moved
    dsimp only at polls
    exact still (by rw [place, polls]) waiting
  | initing =>
    simp only [place, AnrHandler.callStep] at moved
    split at moved <;> cases moved
    · exact absurd rfl between
    · exact wakeable.mustPoll polls (by rw [place]; exact Calling.noConfusion) waiting
  | waking =>
    rw [place, posts place] at moved
    cases moved
    exact Nat.succ_pos _
  | _ =>
    rw [frame.watchdogSemaphore (by rw [place]; exact Calling.noConfusion)
      (by rw [place]; exact Calling.noConfusion)]
    rw [frame.watchdogMustPoll (by rw [place]; exact fun _ => Calling.noConfusion)] at polls
    exact wakeable.mustPoll polls (by rw [place]; exact Calling.noConfusion) waiting

theorem wakeable_call {succeeds : Bool} (wakeable : s.Wakeable) (wakes : Wakes s (.call succeeds))
    (taken : s.step abi (.call succeeds) = some t) : t.Wakeable := by
  have moved := AnrHandler.call_taken taken
  have frame := AnrHandler.callStep_frame moved
  refine
    { single := wakeable.single.call wakes.1 taken
      mustPoll := fun polls between waiting => ?_
      disabled := AnrHandler.callStep_disabled moved wakeable.disabled
      posted := fun joining semaphore _ => ?_ }
  · have old := (AnrHandler.mem_callStep_watchdogs moved waiting).resolve_right Watchdog.noConfusion
    exact mustPoll_call wakeable wakes moved polls between old
  · rcases (AnrHandler.callStep_order moved).joining joining with waking | ⟨choosing, polls⟩
    · rw [waking, wakes.2.2 waking] at moved
      cases moved
      exact Nat.succ_pos _
    · have same := frame.watchdogMustPoll (by rw [choosing]; exact fun _ => Calling.noConfusion)
      exact absurd (polls.symm.trans (same.symm.trans semaphore)) Bool.noConfusion

theorem wakeable_watchdog {index : Nat} {succeeds : Bool} (wakeable : s.Wakeable)
    (taken : s.step abi (.watchdog index succeeds) = some t) : t.Wakeable := by
  have single := wakeable.single.watchdog taken
  obtain ⟨place, next, u, found, moved, rfl⟩ := AnrHandler.watchdog_taken taken
  have running : place ≠ .ended := by
    rintro rfl
    cases moved
  have current := wakeable.single index ⟨place, found, running⟩
  have member : place ∈ s.watchdogs := List.mem_of_getElem? found
  -- every other watchdog has ended
  have alone : ∀ {other at_other}, s.watchdogs[other]? = some at_other → other ≠ index →
      at_other = .ended := by
    intro other at_other there distinct
    by_contra alive
    have same := wakeable.single other ⟨at_other, there, alive⟩
    exact distinct (Option.some.inj (same.symm.trans current))
  have only : ∀ at_other ∈ s.watchdogs.set index next, at_other = next ∨ at_other = .ended := by
    intro at_other listed
    obtain ⟨other, there⟩ := List.mem_iff_getElem?.mp listed
    by_cases same : index = other
    · rw [← same, List.getElem?_set_self (List.getElem?_eq_some_iff.mp found).1] at there
      exact Or.inl (Option.some.inj there).symm
    · rw [List.getElem?_set_ne same] at there
      exact Or.inr (alone there fun eq => same eq.symm)
  have woken := watchdogStep_bound moved
  have semaphore : next = .waiting → s.watchdogMustPoll = false := by
    rintro rfl
    exact watchdogStep_waiting moved
  obtain ⟨_, count, _, rfl⟩ := AnrHandler.watchdogStep_writes moved
  refine { wakeable with single := single, mustPoll := fun polls _ listed => ?_, posted := ?_ }
  · rcases only _ listed with same | ended
    · exact absurd (polls.symm.trans (semaphore same.symm)) Bool.noConfusion
    · cases ended
  · rintro joining mode ⟨at_other, listed, bound⟩
    rcases only at_other listed with rfl | rfl
    · obtain ⟨before, kept⟩ := woken bound
      have disabled := wakeable.disabled (by rw [joining]; rfl)
      rcases before with before | set
      · exact kept ▸ wakeable.posted joining mode ⟨place, member, before⟩
      · exact absurd (set.symm.trans disabled) Bool.noConfusion
    · cases bound

theorem wakeable_intercept {index : Nat} {succeeds : Bool} (wakeable : s.Wakeable)
    (wakes : Wakes s (.intercept index succeeds))
    (taken : s.step abi (.intercept index succeeds) = some t) : t.Wakeable := by
  obtain ⟨activation, next, u, found, moved, rfl⟩ := AnrHandler.intercept_taken taken
  cases place : activation.place with
  | locating =>
    simp only [place, AnrHandler.interceptStep] at moved
    split at moved <;> cases moved <;> exact { wakeable with }
  | waking =>
    simp only [place, AnrHandler.interceptStep] at moved
    split at moved <;> cases moved
    · exact { wakeable with
        mustPoll := fun _ _ _ => Nat.succ_pos _
        posted := fun _ _ _ => Nat.succ_pos _ }
    · exact { wakeable with }
  | failing =>
    have still := wakes (by rw [found, Option.map_some, place])
    rw [place] at moved
    cases moved
    exact { wakeable with mustPoll := fun _ _ => still, posted := fun _ => Bool.noConfusion }
  | returned =>
    rw [place] at moved
    cases moved
  | _ =>
    rw [place] at moved
    cases moved
    exact { wakeable with }

theorem wakeable_step {action : AnrAction} (wakeable : s.Wakeable) (wakes : Wakes s action)
    (taken : s.step abi action = some t) : t.Wakeable := by
  cases action with
  | call succeeds => exact wakeable_call wakeable wakes taken
  | watchdog index succeeds => exact wakeable_watchdog wakeable taken
  | intercept index succeeds => exact wakeable_intercept wakeable wakes taken
  | handlerInitialize dir =>
    obtain ⟨idle, _, _, rfl⟩ := AnrHandler.handlerInitialize_taken taken
    exact { wakeable with
      mustPoll := fun polls _ => wakeable.mustPoll polls (by rw [idle]; exact Calling.noConfusion)
      disabled := Bool.noConfusion
      posted := Calling.noConfusion }
  | handlerShutdown =>
    obtain ⟨idle, rfl⟩ := AnrHandler.handlerShutdown_taken taken
    exact { wakeable with
      mustPoll := fun polls _ => wakeable.mustPoll polls (by rw [idle]; exact Calling.noConfusion)
      disabled := fun _ => rfl
      posted := Calling.noConfusion }
  | deliver recipient =>
    obtain ⟨_, rfl⟩ := AnrHandler.deliver_taken taken
    exact { wakeable with }

end Steps

/-- As long as the steps keep a shutdown able to wake its watchdog, none is stuck. -/
theorem shutdown_not_stuck {abi : Abi} {getpid : Int32} {sigquit : QuitAction} {s : AnrHandler}
    {actions : List AnrAction}
    (reach : run (restrict Wakes (AnrHandler.step abi)) (.start getpid sigquit) actions = some s) :
    ¬ s.Stuck := by
  have wakeable : s.Wakeable :=
    run_restrict_invariant (fun _ _ _ => wakeable_step) (start_wakeable getpid sigquit) reach
  exact wakeable.not_stuck

/-- A session with an ANR and its shutdown, up to the `pthread_join`. -/
def joinedSession : List AnrAction :=
  initializeActions ++ waitActions 0 ++ interceptActions .caller 0 ++ relayActions 0 ++
    [.handlerShutdown, .call true, .call true]

theorem shutdown_not_stuck_joining : ∃ s, run (restrict Wakes (AnrHandler.step .aarch64))
    (.start 1000 (.other ⟨.sigDfl, 0, 0⟩)) joinedSession = some s ∧
    s.caller = .joining ∧ s.watchdogs = [.waiting] ∧ ¬ s.Stuck := by
  have reach : ∃ s, run (restrict Wakes (AnrHandler.step .aarch64))
      (.start 1000 (.other ⟨.sigDfl, 0, 0⟩)) joinedSession = some s ∧
      s.caller = .joining ∧ s.watchdogs = [.waiting] := ⟨_, rfl, rfl, rfl⟩
  obtain ⟨s, reach, joining, waiting⟩ := reach
  exact ⟨s, reach, joining, waiting, shutdown_not_stuck reach⟩

/-- The post of an interception fails while the watchdog is in `sem_wait`, and
the shutdown, in polling mode now, does not post. -/
def failedPost : List AnrAction :=
  initializeActions ++ waitActions 0 ++ [.deliver .caller] ++
    List.replicate 8 (.intercept 0 true) ++ List.replicate 2 (.intercept 0 false) ++
    [.handlerShutdown, .call true]

/-- Neither the shutdown nor the watchdog can go on, and no interception posts. -/
theorem shutdown_stuck : ∃ s,
    run (AnrHandler.step .aarch64) (.start 1000 (.other ⟨.sigDfl, 0, 0⟩)) failedPost = some s ∧
      s.Stuck ∧ s.watchdogMustPoll = true ∧ s.step .aarch64 (.call true) = none ∧
      s.step .aarch64 (.watchdog 0 true) = none := by
  refine ⟨_, rfl, ⟨rfl, rfl, ⟨0, rfl, rfl⟩, ?_⟩, rfl, rfl, rfl⟩
  intro activation member
  cases List.mem_singleton.mp member
  exact Or.inr rfl

end AgentNDK
