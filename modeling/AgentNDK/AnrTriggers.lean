import AgentNDK.AnrHandler

namespace AgentNDK
open Runs

/-- A session with its watchdog at the head of its loop and nothing under way. -/
structure AnrHandler.Established (s : AnrHandler) (watchdog : Nat) : Prop where
  enabled : s.enabled = true
  pid : 0 ≤ s.pid
  anrMonitorTid : 0 ≤ s.anrMonitorTid
  looping : s.watchdogs[watchdog]? = some .looping
  others : ∀ index, index ≠ watchdog → ∀ place, s.watchdogs[index]? = some place → place = .ended
  returned : ∀ activation ∈ s.activations, activation.place = .returned
  semaphore : s.watchdogSemaphore = 0

/-- The watchdog waits, in `sem_wait` or in the loop over the flag, and no
trigger is left for it. -/
def AnrHandler.Quiet (s : AnrHandler) (watchdog : Nat) : Prop :=
  (s.watchdogs[watchdog]? = some .waiting ∨
      s.watchdogs[watchdog]? = some .polling ∧ s.watchdogTriggered = false) ∧
    s.watchdogSemaphore = 0 ∧ ∀ activation ∈ s.activations, activation.place = .returned

/-- Since `s`, no more relays than interceptions, and as many when the watchdog is quiet. -/
def AnrHandler.Tallied (s t : AnrHandler) (watchdog : Nat) : Prop :=
  t.relays.length + s.activations.length ≤ t.activations.length + s.relays.length ∧
    (t.Quiet watchdog → t.relays.length + s.activations.length = t.activations.length + s.relays.length)

/-- Interceptions and the watchdog, with nothing called meanwhile. -/
def Unattended : AnrAction → Prop
  | .deliver _ | .intercept _ _ | .watchdog _ _ => True
  | .handlerInitialize _ | .handlerShutdown | .call _ => False

instance : (action : AnrAction) → Decidable (Unattended action)
  | .deliver _ | .intercept _ _ | .watchdog _ _ => instDecidableTrue
  | .handlerInitialize _ | .handlerShutdown | .call _ => instDecidableFalse

/-- In semaphore mode every `sem_post` succeeds and the flag lets no watchdog
out of its loop, where only a failed `sem_wait` gets it. In polling mode the
flag is raised only while it is clear and the watchdog on its way to look at it. -/
def OneChannel (s : AnrHandler) : AnrAction → Prop
  | .intercept index succeeds =>
    ((s.activations[index]?).map AnrActivation.place = some .waking → succeeds = true) ∧
      ((s.activations[index]?).map AnrActivation.place = some .triggering → s.watchdogMustPoll = true →
        s.watchdogTriggered = false ∧ (.choosing ∈ s.watchdogs ∨ .polling ∈ s.watchdogs))
  | .watchdog index _ =>
    ¬ (s.watchdogs[index]? = some .polling ∧ s.watchdogTriggered = true ∧ s.watchdogMustPoll = false)
  | _ => True

instance : (s : AnrHandler) → (action : AnrAction) → Decidable (OneChannel s action)
  | _, .intercept _ _ => inferInstanceAs (Decidable (_ ∧ _))
  | _, .watchdog _ _ => inferInstanceAs (Decidable (¬ _))
  | _, .handlerInitialize _ | _, .handlerShutdown | _, .call _ | _, .deliver _ => instDecidableTrue

/-- A watchdog that has taken a trigger and not relayed it. -/
def Watchdog.inFlight : Watchdog → Nat
  | .testing | .targeting | .relaying => 1
  | _ => 0

/-- An activation that has not posted the semaphore. -/
def Intercepting.unposted : Intercepting → Bool
  | .failing | .returned => false
  | _ => true

/-- An activation that has not raised the flag. -/
def Intercepting.untriggered : Intercepting → Bool
  | .choosing | .waking | .failing | .returned => false
  | _ => true

/-- An activation has still to raise its trigger, in the mode of the watchdog. -/
def AnrHandler.pending (s : AnrHandler) (activation : AnrActivation) : Bool :=
  if s.watchdogMustPoll then activation.place.untriggered else activation.place.unposted

/-- The triggers raised that a watchdog at this place has still to take. The
flag is one while the watchdog is on its way to look at it. -/
def AnrHandler.raised (s : AnrHandler) (place : Watchdog) : Nat :=
  if s.watchdogMustPoll then
    if s.watchdogTriggered = true ∧ (place = .choosing ∨ place = .polling) then 1 else 0
  else s.watchdogSemaphore

/-- Every interception since `s` is pending, raised, in flight or relayed. -/
structure AnrHandler.Accounted (s : AnrHandler) (watchdog : Nat) (t : AnrHandler) : Prop where
  enabled : t.enabled = true
  pid : 0 ≤ t.pid
  anrMonitorTid : 0 ≤ t.anrMonitorTid
  others : ∀ index, index ≠ watchdog → ∀ place, t.watchdogs[index]? = some place → place = .ended
  posts : ∀ activation ∈ t.activations, activation.place ≠ .failing
  waiting : t.watchdogs[watchdog]? = some .waiting → t.watchdogMustPoll = false
  total : ∃ place, t.watchdogs[watchdog]? = some place ∧
    t.relays.length + place.inFlight + t.raised place + t.activations.countP t.pending +
      s.activations.length = t.activations.length + s.relays.length

section Steps
variable {abi : Abi} {s t u : AnrHandler} {watchdog : Nat}

theorem countP_pending_returned
    (returned : ∀ activation ∈ t.activations, activation.place = .returned) :
    t.activations.countP t.pending = 0 := by
  rw [List.countP_eq_zero]
  intro activation member
  unfold AnrHandler.pending
  rw [returned activation member]
  split <;> exact Bool.noConfusion

theorem AnrHandler.Accounted.tallied (accounted : s.Accounted watchdog t) : s.Tallied t watchdog := by
  obtain ⟨place, found, total⟩ := accounted.total
  refine ⟨by omega, fun quiet => ?_⟩
  obtain ⟨waits, semaphore, returned⟩ := quiet
  have settled := countP_pending_returned returned
  have nothing : place.inFlight = 0 ∧ t.raised place = 0 := by
    unfold AnrHandler.raised
    rcases waits with waiting | ⟨polling, clear⟩
    · cases Option.some.inj (found.symm.trans waiting)
      exact ⟨rfl, by simp [semaphore]⟩
    · cases Option.some.inj (found.symm.trans polling)
      exact ⟨rfl, by simp [clear, semaphore]⟩
  omega

theorem AnrHandler.Established.accounted (established : s.Established watchdog) :
    s.Accounted watchdog s where
  enabled := established.enabled
  pid := established.pid
  anrMonitorTid := established.anrMonitorTid
  others := established.others
  posts := fun activation member => by
    rw [established.returned activation member]
    exact Intercepting.noConfusion
  waiting := fun waiting => nomatch established.looping.symm.trans waiting
  total := by
    have settled := countP_pending_returned established.returned
    have raised : s.raised .looping = 0 := by simp [AnrHandler.raised, established.semaphore]
    have flying : Watchdog.looping.inFlight = 0 := rfl
    exact ⟨.looping, established.looping, by omega⟩

theorem countP_set_of_getElem? {α : Type} {p : α → Bool} {l : List α} {i : Nat} {a : α} (b : α)
    (found : l[i]? = some a) :
    (l.set i b).countP p + (p a).toNat = l.countP p + (p b).toNat := by
  obtain ⟨bound, same⟩ := List.getElem?_eq_some_iff.mp found
  have counted : (p a).toNat ≤ l.countP p := by
    cases holds : p a with
    | false => exact Nat.zero_le _
    | true => exact List.countP_pos_iff.mpr ⟨a, List.mem_of_getElem? found, holds⟩
  have unit : ∀ b : Bool, (if b = true then 1 else 0) = b.toNat := by decide
  rw [List.countP_set bound, same, unit, unit]
  omega

/-- An activation raises its trigger once. -/
theorem interceptStep_raised {activation : AnrActivation} {succeeds : Bool} {next : Intercepting}
    {place : Watchdog} (posts : activation.place ≠ .failing)
    (succeeded : activation.place = .waking → succeeds = true)
    (clear : activation.place = .triggering → s.watchdogMustPoll = true →
      s.watchdogTriggered = false ∧ (place = .choosing ∨ place = .polling))
    (moved : s.interceptStep succeeds activation.place = some (next, u)) :
    u.raised place + (u.pending { activation with place := next }).toNat =
        s.raised place + (s.pending activation).toNat ∧
      u.watchdogMustPoll = s.watchdogMustPoll ∧ next ≠ .failing := by
  cases at_place : activation.place with
  | triggering =>
    have seen := clear at_place
    rw [at_place] at moved
    cases moved
    refine ⟨?_, rfl, Intercepting.noConfusion⟩
    unfold AnrHandler.raised AnrHandler.pending
    rw [at_place]
    by_cases polls : s.watchdogMustPoll = true
    · obtain ⟨cleared, looks⟩ := seen polls
      simp [polls, cleared, looks, Intercepting.untriggered]
    · simp [polls, Intercepting.unposted]
  | choosing =>
    rw [at_place] at moved
    cases moved
    unfold AnrHandler.raised AnrHandler.pending
    rw [at_place]
    by_cases polls : s.watchdogMustPoll = true
    · simp [polls, Intercepting.untriggered]
    · simp [polls, Intercepting.unposted]
  | waking =>
    rw [at_place, succeeded at_place] at moved
    cases moved
    refine ⟨?_, rfl, Intercepting.noConfusion⟩
    unfold AnrHandler.raised AnrHandler.pending
    rw [at_place]
    by_cases polls : s.watchdogMustPoll = true
    · simp [polls, Intercepting.untriggered]
    · simp [polls, Intercepting.unposted]
  | failing => exact absurd at_place posts
  | returned =>
    rw [at_place] at moved
    cases moved
  | locating =>
    simp only [at_place, AnrHandler.interceptStep] at moved
    split at moved <;> cases moved <;>
      simp [AnrHandler.pending, at_place, Intercepting.untriggered, Intercepting.unposted]
  | entered | writing buffer argument =>
    rw [at_place] at moved
    cases moved
    split <;> simp [AnrHandler.pending, at_place, Intercepting.untriggered, Intercepting.unposted]
  | missing | collecting buffer | posting buffer | storing buffer argument =>
    rw [at_place] at moved
    cases moved
    simp [AnrHandler.pending, at_place, Intercepting.untriggered, Intercepting.unposted]

/-- A watchdog takes a trigger once, and relays what it has taken. -/
theorem watchdogStep_raised {succeeds : Bool} {place next : Watchdog} (enabled : s.enabled = true)
    (pid : 0 ≤ s.pid) (anrMonitorTid : 0 ≤ s.anrMonitorTid)
    (waits : place = .waiting → s.watchdogMustPoll = false)
    (channel : ¬ (place = .polling ∧ s.watchdogTriggered = true ∧ s.watchdogMustPoll = false))
    (moved : s.watchdogStep succeeds place = some (next, u)) :
    u.relays.length + next.inFlight + u.raised next = s.relays.length + place.inFlight + s.raised place ∧
      u.watchdogMustPoll = s.watchdogMustPoll ∧ (next = .waiting → u.watchdogMustPoll = false) := by
  cases place with
  | looping =>
    rw [AnrHandler.watchdogStep, enabled] at moved
    cases moved
    simp [AnrHandler.raised, Watchdog.inFlight]
  | clearing =>
    cases moved
    simp [AnrHandler.raised, Watchdog.inFlight]
  | choosing =>
    cases moved
    by_cases polls : s.watchdogMustPoll = true
    · simp [AnrHandler.raised, Watchdog.inFlight, polls]
    · simp [AnrHandler.raised, Watchdog.inFlight, polls]
  | waiting =>
    have semaphore := waits rfl
    simp only [AnrHandler.watchdogStep] at moved
    split at moved
    · split at moved <;> cases moved
      rename_i positive
      simp only [AnrHandler.raised, Watchdog.inFlight, semaphore]
      refine ⟨?_, trivial, Watchdog.noConfusion⟩
      simp only [Bool.false_eq_true, if_false]
      omega
    · cases moved
      simp [AnrHandler.raised, Watchdog.inFlight, semaphore]
  | polling =>
    cases moved
    cases polls : s.watchdogMustPoll <;> cases flag : s.watchdogTriggered <;>
      simp_all [AnrHandler.raised, Watchdog.inFlight]
  | testing =>
    rw [AnrHandler.watchdogStep, enabled] at moved
    cases moved
    simp [AnrHandler.raised, Watchdog.inFlight]
  | targeting =>
    rw [AnrHandler.watchdogStep, if_pos ⟨pid, anrMonitorTid⟩] at moved
    cases moved
    simp [AnrHandler.raised, Watchdog.inFlight]
  | relaying =>
    cases moved
    simp [AnrHandler.raised, Watchdog.inFlight]
  | ended => cases moved

theorem countP_pending_entered (recipient : Recipient) :
    (t.activations ++ [AnrActivation.mk recipient .entered]).countP t.pending =
      t.activations.countP t.pending + 1 := by
  have entered : t.pending (.mk recipient .entered) = true := by
    simp [AnrHandler.pending, Intercepting.untriggered, Intercepting.unposted]
  rw [List.countP_append, List.countP_singleton, if_pos entered]

theorem pending_congr (mode : u.watchdogMustPoll = t.watchdogMustPoll) : u.pending = t.pending := by
  funext activation
  rw [AnrHandler.pending, AnrHandler.pending, mode]

theorem accounted_deliver {recipient : Recipient} (accounted : s.Accounted watchdog t)
    (taken : t.step abi (.deliver recipient) = some u) : s.Accounted watchdog u := by
  obtain ⟨_, rfl⟩ := AnrHandler.deliver_taken taken
  obtain ⟨place, found, total⟩ := accounted.total
  refine { accounted with posts := fun activation member => ?_, total := ⟨place, found, ?_⟩ }
  · rcases List.mem_append.mp member with old | new
    · exact accounted.posts activation old
    · cases List.mem_singleton.mp new
      exact Intercepting.noConfusion
  · have counted := countP_pending_entered (t := t) recipient
    have more : (t.activations ++ [AnrActivation.mk recipient .entered]).length =
        t.activations.length + 1 := List.length_append
    change t.relays.length + place.inFlight + t.raised place +
      (t.activations ++ [AnrActivation.mk recipient .entered]).countP t.pending + s.activations.length =
      (t.activations ++ [AnrActivation.mk recipient .entered]).length + s.relays.length
    omega

theorem accounted_intercept {index : Nat} {succeeds : Bool} (accounted : s.Accounted watchdog t)
    (channel : OneChannel t (.intercept index succeeds))
    (taken : t.step abi (.intercept index succeeds) = some u) : s.Accounted watchdog u := by
  obtain ⟨activation, next, v, found, moved, rfl⟩ := AnrHandler.intercept_taken taken
  obtain ⟨place, at_watchdog, total⟩ := accounted.total
  obtain ⟨succeeded, clear⟩ := channel
  rw [found] at succeeded clear
  have member : activation ∈ t.activations := List.mem_of_getElem? found
  -- the watchdog that looks at the flag is the one of the session
  have looks : activation.place = .triggering → t.watchdogMustPoll = true →
      t.watchdogTriggered = false ∧ (place = .choosing ∨ place = .polling) := by
    intro triggering polls
    have only : ∀ other ∈ t.watchdogs, other ≠ .ended → place = other := by
      intro other listed running
      obtain ⟨position, there⟩ := List.mem_iff_getElem?.mp listed
      by_cases same : position = watchdog
      · exact Option.some.inj (at_watchdog.symm.trans (same ▸ there))
      · exact absurd (accounted.others position same other there) running
    obtain ⟨cleared, choosing | polling⟩ := clear (congrArg some triggering) polls
    · exact ⟨cleared, Or.inl (only _ choosing Watchdog.noConfusion)⟩
    · exact ⟨cleared, Or.inr (only _ polling Watchdog.noConfusion)⟩
  obtain ⟨raised, mode, posts⟩ := interceptStep_raised (accounted.posts activation member)
    (fun waking => succeeded (congrArg some waking)) looks moved
  have pending := pending_congr mode
  have counted : (t.activations.set index { activation with place := next }).countP v.pending +
      (t.pending activation).toNat =
      t.activations.countP t.pending + (v.pending { activation with place := next }).toNat :=
    pending ▸ countP_set_of_getElem? _ found
  have length : (t.activations.set index { activation with place := next }).length =
      t.activations.length := List.length_set
  have kept : t.relays.length + place.inFlight + v.raised place +
      (t.activations.set index { activation with place := next }).countP v.pending +
      s.activations.length =
      (t.activations.set index { activation with place := next }).length + s.relays.length := by
    omega
  obtain ⟨_, _, _, rfl⟩ := AnrHandler.interceptStep_writes moved
  refine { accounted with
    posts := fun other listed => ?_
    waiting := fun waiting => mode.trans (accounted.waiting waiting)
    total := ⟨place, at_watchdog, kept⟩ }
  rcases List.mem_or_eq_of_mem_set listed with old | new
  · exact accounted.posts other old
  · exact new ▸ posts

theorem accounted_watchdog {index : Nat} {succeeds : Bool} (accounted : s.Accounted watchdog t)
    (channel : OneChannel t (.watchdog index succeeds))
    (taken : t.step abi (.watchdog index succeeds) = some u) : s.Accounted watchdog u := by
  obtain ⟨place, next, v, found, moved, rfl⟩ := AnrHandler.watchdog_taken taken
  have same : index = watchdog := by
    by_contra distinct
    cases accounted.others index distinct place found
    cases moved
  subst same
  obtain ⟨at_watchdog, there, total⟩ := accounted.total
  cases Option.some.inj (found.symm.trans there)
  obtain ⟨raised, mode, waits⟩ := watchdogStep_raised accounted.enabled accounted.pid
    accounted.anrMonitorTid (fun waiting => accounted.waiting (waiting ▸ found))
    (fun polls => channel ⟨polls.1 ▸ found, polls.2⟩) moved
  have activations : v.activations = t.activations := by
    obtain ⟨_, _, _, rfl⟩ := AnrHandler.watchdogStep_writes moved
    rfl
  have kept : v.relays.length + next.inFlight + v.raised next + v.activations.countP v.pending +
      s.activations.length = v.activations.length + s.relays.length := by
    rw [activations, pending_congr mode]
    omega
  obtain ⟨_, _, _, rfl⟩ := AnrHandler.watchdogStep_writes moved
  have bound := (List.getElem?_eq_some_iff.mp found).1
  refine { accounted with
    others := fun other distinct at_other there => ?_
    waiting := fun waiting => ?_
    total := ⟨next, List.getElem?_set_self bound, kept⟩ }
  · rw [List.getElem?_set_ne fun same => distinct same.symm] at there
    exact accounted.others other distinct at_other there
  · rw [List.getElem?_set_self bound] at waiting
    exact waits (Option.some.inj waiting)

theorem accounted_step {action : AnrAction} (accounted : s.Accounted watchdog t)
    (unattended : Unattended action) (channel : OneChannel t action)
    (taken : t.step abi action = some u) : s.Accounted watchdog u := by
  cases action with
  | deliver recipient => exact accounted_deliver accounted taken
  | intercept index succeeds => exact accounted_intercept accounted channel taken
  | watchdog index succeeds => exact accounted_watchdog accounted channel taken
  | handlerInitialize _ | handlerShutdown | call _ => exact unattended.elim

end Steps

/-- From an established session on, as long as each trigger reaches the
watchdog through one channel, the relays match the interceptions. -/
theorem relays_tallied {abi : Abi} {s t : AnrHandler} {watchdog : Nat} {actions : List AnrAction}
    (established : s.Established watchdog)
    (reach : run (restrict (fun s action => Unattended action ∧ OneChannel s action)
      (AnrHandler.step abi)) s actions = some t) : s.Tallied t watchdog := by
  have accounted : s.Accounted watchdog t :=
    run_restrict_invariant
      (fun _ _ _ accounted guarded taken => accounted_step accounted guarded.1 guarded.2 taken)
      established.accounted reach
  exact accounted.tallied

/-- The first session of a process, in polling mode when `sem_init` fails. -/
def firstSession (semaphore : Bool) : AnrHandler :=
  let loaded : AnrHandler := .start 1000 (.other ⟨.sigDfl, 0, 0⟩)
  (run (AnrHandler.step .aarch64) loaded ([.handlerInitialize .usual, .call true, .call semaphore] ++
    List.replicate 5 (.call true))).getD loaded

theorem firstSession_established (semaphore : Bool) : (firstSession semaphore).Established 0 := by
  have single : ∀ (index : Nat) (place : Watchdog),
      [Watchdog.looping][index]? = some place → index = 0 := by
    intro index place found
    have bound : index < 1 := (List.getElem?_eq_some_iff.mp found).1
    omega
  cases semaphore <;> exact
    { enabled := rfl
      pid := by decide
      anrMonitorTid := by decide
      looping := rfl
      others := fun index distinct place found => absurd (single index place found) distinct
      returned := fun _ member => absurd member List.not_mem_nil
      semaphore := rfl }

/-- In either mode one ANR is relayed once. -/
theorem relays_tallied_first : ∃ s t,
    run (restrict (fun s action => Unattended action ∧ OneChannel s action) (AnrHandler.step .aarch64))
      (firstSession true) (waitActions 0 ++ interceptActions .caller 0 ++ relayActions 0) = some s ∧
    run (restrict (fun s action => Unattended action ∧ OneChannel s action) (AnrHandler.step .aarch64))
      (firstSession false) (waitActions 0 ++ (interceptActions .caller 0).dropLast ++ relayActions 0) =
        some t ∧
    s.relays.length = 1 ∧ t.relays.length = 1 ∧
    (firstSession true).Tallied s 0 ∧ (firstSession false).Tallied t 0 := by
  have reach : ∃ s t,
      run (restrict (fun s action => Unattended action ∧ OneChannel s action)
        (AnrHandler.step .aarch64)) (firstSession true)
        (waitActions 0 ++ interceptActions .caller 0 ++ relayActions 0) = some s ∧
      run (restrict (fun s action => Unattended action ∧ OneChannel s action)
        (AnrHandler.step .aarch64)) (firstSession false)
        (waitActions 0 ++ (interceptActions .caller 0).dropLast ++ relayActions 0) = some t ∧
      s.relays.length = 1 ∧ t.relays.length = 1 := ⟨_, _, rfl, rfl, rfl, rfl⟩
  obtain ⟨s, t, waited, polled, one, another⟩ := reach
  exact ⟨s, t, waited, polled, one, another, relays_tallied (firstSession_established true) waited,
    relays_tallied (firstSession_established false) polled⟩

/-- After an ANR, the next SIGQUIT interrupts the watchdog itself in `sem_wait`. -/
def interruptedWait : List AnrAction :=
  waitActions 0 ++ interceptActions .caller 0 ++ relayActions 0 ++
    interceptActions (.watchdog 0) 1 ++ [.watchdog 0 false] ++ List.replicate 5 (.watchdog 0 true) ++
    relayActions 0

/-- The flag lets it go and the post stays, so that it relays twice. -/
theorem interrupted_wait_relays : ∃ s,
    run (AnrHandler.step .aarch64) (firstSession true) interruptedWait = some s ∧
      s.activations.length = 2 ∧ s.relays.length = 3 ∧ ¬ (firstSession true).Tallied s 0 := by
  refine ⟨_, rfl, rfl, rfl, fun tallied => ?_⟩
  exact absurd tallied.1 (by decide)

/-- In polling mode, an interception while the watchdog is at its relay. -/
def lateTrigger : List AnrAction :=
  waitActions 0 ++ (interceptActions .caller 0).dropLast ++ List.replicate 3 (.watchdog 0 true) ++
    (interceptActions .caller 1).dropLast ++ List.replicate 4 (.watchdog 0 true)

/-- The head of the loop clears the flag it raised. -/
theorem late_trigger_lost : ∃ s,
    run (AnrHandler.step .aarch64) (firstSession false) lateTrigger = some s ∧ s.Quiet 0 ∧
      s.activations.length = 2 ∧ s.relays.length = 1 := by
  refine ⟨_, rfl, ⟨Or.inr ⟨rfl, rfl⟩, rfl, ?_⟩, rfl, rfl⟩
  decide +kernel

end AgentNDK
