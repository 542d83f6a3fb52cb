import AgentNDK.AnrDetection
import AgentNDK.SignalHandler

namespace AgentNDK
open Runs

/-- The next statement of a thread that runs `anr_monitor_thread`. -/
inductive Watchdog
  /-- `while (enabled)` -/
  | looping
  /-- `watchdog_triggered = false` -/
  | clearing
  /-- the test of `watchdog_must_poll` -/
  | choosing
  /-- in `sem_wait` -/
  | waiting
  /-- `while (enabled && !watchdog_triggered)` -/
  | polling
  /-- `if (enabled)` -/
  | testing
  /-- the test of `pid` and `anr_monitor_tid` -/
  | targeting
  /-- the `tgkill` -/
  | relaying
  | ended
  deriving DecidableEq

/-- The next statement of an activation of `anr_interceptor`. From the test of
`reportBuffer` on it goes with the buffer that was found there. -/
inductive Intercepting
  /-- `if (enabled)` -/
  | entered
  /-- `if (reportBuffer != nullptr)` -/
  | locating
  /-- no buffer was found, which is logged -/
  | missing
  /-- the call of `collect_backtrace` -/
  | collecting (buffer : Nat)
  /-- in `collect_backtrace`, with its argument -/
  | writing (buffer : Nat) (argument : Option Nat)
  /-- the call of `from_anr` -/
  | posting (buffer : Nat)
  /-- in `from_anr`, with its argument -/
  | storing (buffer : Nat) (argument : Option Nat)
  /-- `watchdog_triggered = true` -/
  | triggering
  /-- the test of `watchdog_must_poll` -/
  | choosing
  /-- `sem_post` -/
  | waking
  /-- `watchdog_must_poll = true` -/
  | failing
  | returned
  deriving DecidableEq

/-- The next statement of the thread that calls `anr_handler_initialize` and
`anr_handler_shutdown`. -/
inductive Calling
  | idle
  /-- `pthread_create`, after the detection -/
  | creating
  /-- `sem_init` -/
  | initing
  /-- the assignment to `watchdog_must_poll` of whether `sem_init` failed -/
  | assigning (failed : Bool)
  /-- `install_handler` -/
  | installing
  /-- `new char[BACKTRACE_SZ_MAX]` -/
  | allocating
  /-- `enabled = true` -/
  | enabling
  /-- `return enabled` -/
  | returning
  /-- the test of `watchdog_must_poll`, after `enabled = false` -/
  | choosing
  /-- `sem_post` -/
  | waking
  /-- `pthread_join` -/
  | joining
  /-- `watchdog_triggered = false` -/
  | clearing
  /-- `pid = 0` -/
  | resetting
  /-- `anr_monitor_tid = -1` -/
  | forgetting
  /-- `delete[] reportBuffer` -/
  | deleting
  /-- `reportBuffer = nullptr` -/
  | nulling
  deriving DecidableEq

/-- `anr_handler_initialize` has created its watchdog and not returned. -/
def Calling.starting : Calling → Bool
  | .initing | .assigning _ | .installing | .allocating | .enabling | .returning => true
  | _ => false

/-- In `anr_handler_shutdown`. -/
def Calling.stopping : Calling → Bool
  | .choosing | .waking | .joining | .clearing | .resetting | .forgetting | .deleting | .nulling => true
  | _ => false

/-- The `pthread_join` of a shutdown is done. -/
def Calling.joined : Calling → Bool
  | .clearing | .resetting | .forgetting | .deleting | .nulling => true
  | _ => false

/-- The thread a SIGQUIT is delivered to. -/
inductive Recipient
  | caller
  | watchdog (index : Nat)
  | other (tid : Nat)
  deriving DecidableEq

/-- An activation of `anr_interceptor`, which its thread runs to the end
before it goes on; SIGQUIT is blocked there meanwhile. -/
structure AnrActivation where
  recipient : Recipient
  place : Intercepting
  deriving DecidableEq

/-- The disposition of SIGQUIT. -/
inductive QuitAction
  | anrInterceptor
  | other (action : Sigaction)
  deriving DecidableEq

/-- A `tgkill` of a watchdog: its arguments, and what the detections of the
session had read by then. -/
structure Relay where
  pid : Int32
  tid : Int32
  detections : List TaskDir

/-- The file statics of the module, what the system keeps for it, its threads,
and what has happened. -/
structure AnrHandler where
  pid : Int32
  anrMonitorTid : Int32
  enabled : Bool
  watchdogTriggered : Bool
  /-- `watchdog_thread`, by its position in `watchdogs` -/
  watchdogThread : Option Nat
  /-- the value of `watchdog_semaphore` -/
  watchdogSemaphore : Nat
  watchdogMustPoll : Bool
  reportBuffer : Option Nat
  sigquit : QuitAction
  /-- the blocks `new` returned that are not deleted, and how many it returned -/
  live : List Nat
  allocated : Nat
  caller : Calling
  /-- the watchdog threads in the order of their creation -/
  watchdogs : List Watchdog
  /-- the activations of the interceptor in the order of their deliveries -/
  activations : List AnrActivation
  relays : List Relay
  /-- what the detections since the last shutdown have read -/
  detections : List TaskDir
  /-- whether a shutdown has set `pid` -/
  reset : Bool
  /-- the watchdogs whose `anr_handler_initialize` has returned true, with no
  shutdown since -/
  standing : List Nat

/-- The module as it is loaded into process `getpid`. -/
def AnrHandler.start (getpid : Int32) (sigquit : QuitAction) : AnrHandler where
  pid := getpid
  anrMonitorTid := -1
  enabled := true
  watchdogTriggered := false
  watchdogThread := none
  watchdogSemaphore := 0
  watchdogMustPoll := false
  reportBuffer := none
  sigquit := sigquit
  live := []
  allocated := 0
  caller := .idle
  watchdogs := []
  activations := []
  relays := []
  detections := []
  reset := false
  standing := []

inductive AnrAction
  /-- `anr_handler_initialize` is called, and its detection reads the directory -/
  | handlerInitialize (dir : TaskDir)
  /-- `anr_handler_shutdown` is called, and sets `enabled` -/
  | handlerShutdown
  /-- the next statement of the call in progress; what it asks of the system succeeds or not -/
  | call (succeeds : Bool)
  /-- SIGQUIT is delivered -/
  | deliver (recipient : Recipient)
  /-- the next statement of an activation; `collect_backtrace` or `sem_post` succeeds or not -/
  | intercept (index : Nat) (succeeds : Bool)
  /-- the next statement of a watchdog; `sem_wait` succeeds or not -/
  | watchdog (index : Nat) (succeeds : Bool)

namespace AnrHandler

/-- A thread is in the interceptor. -/
def intercepting (s : AnrHandler) (recipient : Recipient) : Bool :=
  s.activations.any fun i => i.recipient = recipient ∧ i.place ≠ .returned

/-- Whether a thread can take a signal: a watchdog must have begun and not ended. -/
def takesSignal (s : AnrHandler) : Recipient → Bool
  | .caller | .other _ => true
  | .watchdog index => (s.watchdogs[index]?).any (· ≠ .ended)

/-- One statement of `anr_monitor_thread`. In `sem_wait` a thread stays until
the semaphore is positive or the call fails; the loop over the flag sleeps. -/
def watchdogStep (s : AnrHandler) (succeeds : Bool) : Watchdog → Option (Watchdog × AnrHandler)
  | .looping => some (if s.enabled then .clearing else .ended, s)
  | .clearing => some (.choosing, { s with watchdogTriggered := false })
  | .choosing => some (if s.watchdogMustPoll then .polling else .waiting, s)
  | .waiting =>
    if succeeds then
      if s.watchdogSemaphore = 0 then none
      else some (.testing, { s with watchdogSemaphore := s.watchdogSemaphore - 1 })
    else some (.polling, s)
  | .polling => some (if s.enabled && !s.watchdogTriggered then .polling else .testing, s)
  | .testing => some (if s.enabled then .targeting else .looping, s)
  | .targeting => some (if 0 ≤ s.pid ∧ 0 ≤ s.anrMonitorTid then .relaying else .looping, s)
  | .relaying =>
    some (.looping, { s with relays := s.relays ++ [⟨s.pid, s.anrMonitorTid, s.detections⟩] })
  | .ended => none

/-- One statement of `anr_interceptor`. -/
def interceptStep (s : AnrHandler) (succeeds : Bool) : Intercepting → Option (Intercepting × AnrHandler)
  | .entered => some (if s.enabled then .locating else .triggering, s)
  | .locating =>
    match s.reportBuffer with
    | some buffer => some (.collecting buffer, s)
    | none => some (.missing, s)
  | .missing => some (.triggering, s)
  | .collecting buffer => some (.writing buffer s.reportBuffer, s)
  | .writing buffer _ => some (if succeeds then .posting buffer else .triggering, s)
  | .posting buffer => some (.storing buffer s.reportBuffer, s)
  | .storing _ _ => some (.triggering, s)
  | .triggering => some (.choosing, { s with watchdogTriggered := true })
  | .choosing => some (if s.watchdogMustPoll then .returned else .waking, s)
  | .waking =>
    if succeeds then some (.returned, { s with watchdogSemaphore := s.watchdogSemaphore + 1 })
    else some (.failing, s)
  | .failing => some (.returned, { s with watchdogMustPoll := true })
  | .returned => none

/-- One statement of `anr_handler_initialize` or `anr_handler_shutdown`. The
`sem_close` of a shutdown has no effect on a semaphore that is not named. -/
def callStep (s : AnrHandler) (succeeds : Bool) : Calling → Option AnrHandler
  | .idle => none
  | .creating =>
    if succeeds then
      some { s with
        watchdogThread := some s.watchdogs.length
        watchdogs := s.watchdogs ++ [.looping]
        caller := .initing }
    else some { s with caller := .idle }
  | .initing =>
    if succeeds then some { s with watchdogSemaphore := 0, caller := .assigning false }
    else some { s with caller := .assigning true }
  | .assigning failed => some { s with watchdogMustPoll := failed, caller := .installing }
  | .installing =>
    if succeeds then some { s with sigquit := .anrInterceptor, caller := .allocating }
    else some { s with caller := .allocating }
  | .allocating =>
    some { s with
      reportBuffer := some s.allocated
      live := s.allocated :: s.live
      allocated := s.allocated + 1
      caller := .enabling }
  | .enabling => some { s with enabled := true, caller := .returning }
  | .returning =>
    if s.enabled then
      some { s with standing := s.standing ++ s.watchdogThread.toList, caller := .idle }
    else some { s with caller := .idle }
  | .choosing => some { s with caller := if s.watchdogMustPoll then .joining else .waking }
  | .waking =>
    if succeeds then
      some { s with watchdogSemaphore := s.watchdogSemaphore + 1, caller := .joining }
    else some { s with caller := .joining }
  | .joining =>
    match s.watchdogThread with
    | none => some { s with caller := .clearing }
    | some index =>
      if s.watchdogs[index]? = some .ended then
        some { s with watchdogThread := none, caller := .clearing }
      else none
  | .clearing => some { s with watchdogTriggered := false, caller := .resetting }
  | .resetting => some { s with pid := 0, reset := true, caller := .forgetting }
  | .forgetting => some { s with anrMonitorTid := -1, detections := [], caller := .deleting }
  | .deleting =>
    match s.reportBuffer with
    | none => some { s with caller := .idle }
    | some buffer => some { s with live := s.live.erase buffer, caller := .nulling }
  | .nulling => some { s with reportBuffer := none, caller := .idle }

/-- One step of any thread, or a delivery. A thread in the interceptor does
nothing else. -/
def step (abi : Abi) (s : AnrHandler) : AnrAction → Option AnrHandler
  | .handlerInitialize dir =>
    if s.caller = .idle ∧ s.intercepting .caller = false then
      match detectAndroidAnrHandler abi dir s.anrMonitorTid with
      | .ok tid =>
        some { s with anrMonitorTid := tid, detections := s.detections ++ [dir], caller := .creating }
      | .error _ => none
    else none
  | .handlerShutdown =>
    if s.caller = .idle ∧ s.intercepting .caller = false then
      some { s with enabled := false, standing := [], caller := .choosing }
    else none
  | .call succeeds => if s.intercepting .caller then none else s.callStep succeeds s.caller
  | .deliver recipient =>
    if s.sigquit = .anrInterceptor ∧ s.takesSignal recipient ∧ s.intercepting recipient = false then
      some { s with activations := s.activations ++ [⟨recipient, .entered⟩] }
    else none
  | .intercept index succeeds => do
    let i ← s.activations[index]?
    let (place, t) ← s.interceptStep succeeds i.place
    return { t with activations := s.activations.set index { i with place := place } }
  | .watchdog index succeeds =>
    if s.intercepting (.watchdog index) then none
    else do
      let place ← s.watchdogs[index]?
      let (place, t) ← s.watchdogStep succeeds place
      return { t with watchdogs := s.watchdogs.set index place }

section Steps
variable {abi : Abi} {s t : AnrHandler}

theorem handlerInitialize_taken {dir : TaskDir} (taken : s.step abi (.handlerInitialize dir) = some t) :
    s.caller = .idle ∧ ∃ tid, detectAndroidAnrHandler abi dir s.anrMonitorTid = .ok tid ∧
      t = { s with anrMonitorTid := tid, detections := s.detections ++ [dir], caller := .creating } := by
  simp only [step] at taken
  split at taken
  · rename_i idle
    split at taken
    · rename_i tid found
      exact ⟨idle.1, tid, found, (Option.some.inj taken).symm⟩
    · cases taken
  · cases taken

theorem handlerShutdown_taken (taken : s.step abi .handlerShutdown = some t) :
    s.caller = .idle ∧ t = { s with enabled := false, standing := [], caller := .choosing } := by
  simp only [step] at taken
  split at taken
  · rename_i idle
    exact ⟨idle.1, (Option.some.inj taken).symm⟩
  · cases taken

theorem call_taken {succeeds : Bool} (taken : s.step abi (.call succeeds) = some t) :
    s.callStep succeeds s.caller = some t := by
  simp only [step] at taken
  split at taken
  · cases taken
  · exact taken

theorem deliver_taken {recipient : Recipient} (taken : s.step abi (.deliver recipient) = some t) :
    s.sigquit = .anrInterceptor ∧
      t = { s with activations := s.activations ++ [⟨recipient, .entered⟩] } := by
  simp only [step] at taken
  split at taken
  · rename_i installed
    exact ⟨installed.1, (Option.some.inj taken).symm⟩
  · cases taken

theorem intercept_taken {index : Nat} {succeeds : Bool}
    (taken : s.step abi (.intercept index succeeds) = some t) : ∃ activation next u,
      s.activations[index]? = some activation ∧
      s.interceptStep succeeds activation.place = some (next, u) ∧
      t = { u with activations := s.activations.set index { activation with place := next } } := by
  obtain ⟨activation, found, taken⟩ := Option.bind_eq_some_iff.mp taken
  obtain ⟨⟨next, u⟩, moved, taken⟩ := Option.bind_eq_some_iff.mp taken
  exact ⟨activation, next, u, found, moved, (Option.some.inj taken).symm⟩

theorem watchdog_taken {index : Nat} {succeeds : Bool}
    (taken : s.step abi (.watchdog index succeeds) = some t) : ∃ place next u,
      s.watchdogs[index]? = some place ∧ s.watchdogStep succeeds place = some (next, u) ∧
      t = { u with watchdogs := s.watchdogs.set index next } := by
  simp only [step] at taken
  split at taken
  · cases taken
  · obtain ⟨place, found, taken⟩ := Option.bind_eq_some_iff.mp taken
    obtain ⟨⟨next, u⟩, moved, taken⟩ := Option.bind_eq_some_iff.mp taken
    exact ⟨place, next, u, found, moved, (Option.some.inj taken).symm⟩

/-- All that an activation writes. -/
theorem interceptStep_writes {succeeds : Bool} {place next : Intercepting}
    (moved : s.interceptStep succeeds place = some (next, t)) : ∃ triggered semaphore mustPoll,
      t = { s with
        watchdogTriggered := triggered
        watchdogSemaphore := semaphore
        watchdogMustPoll := mustPoll } := by
  have same : ∃ triggered semaphore mustPoll, s = { s with
      watchdogTriggered := triggered
      watchdogSemaphore := semaphore
      watchdogMustPoll := mustPoll } :=
    ⟨s.watchdogTriggered, s.watchdogSemaphore, s.watchdogMustPoll, rfl⟩
  cases place with
  | locating =>
    simp only [interceptStep] at moved
    split at moved <;> cases moved <;> exact same
  | triggering =>
    cases moved
    exact ⟨true, _, _, rfl⟩
  | waking =>
    simp only [interceptStep] at moved
    split at moved <;> cases moved
    · exact ⟨_, s.watchdogSemaphore + 1, _, rfl⟩
    · exact same
  | failing =>
    cases moved
    exact ⟨_, _, true, rfl⟩
  | returned => cases moved
  | _ =>
    cases moved
    exact same

/-- All that a watchdog writes; what it relays comes last. -/
theorem watchdogStep_writes {succeeds : Bool} {place next : Watchdog}
    (moved : s.watchdogStep succeeds place = some (next, t)) : ∃ triggered semaphore relayed,
      t = { s with
        watchdogTriggered := triggered
        watchdogSemaphore := semaphore
        relays := s.relays ++ relayed } := by
  have same : ∃ triggered semaphore relayed, s = { s with
      watchdogTriggered := triggered
      watchdogSemaphore := semaphore
      relays := s.relays ++ relayed } :=
    ⟨s.watchdogTriggered, s.watchdogSemaphore, [], by rw [List.append_nil]⟩
  cases place with
  | clearing =>
    cases moved
    exact ⟨false, s.watchdogSemaphore, [], by rw [List.append_nil]⟩
  | waiting =>
    simp only [watchdogStep] at moved
    split at moved
    · split at moved <;> cases moved
      exact ⟨s.watchdogTriggered, s.watchdogSemaphore - 1, [], by rw [List.append_nil]⟩
    · cases moved
      exact same
  | relaying =>
    cases moved
    exact ⟨_, _, _, rfl⟩
  | ended => cases moved
  | _ =>
    cases moved
    exact same

/-- What a statement of the two functions leaves alone, each variable with the
statements that write it. -/
structure CallFrame (s t : AnrHandler) : Prop where
  pid : s.caller ≠ .resetting → t.pid = s.pid ∧ t.reset = s.reset
  anrMonitorTid : s.caller ≠ .forgetting →
    t.anrMonitorTid = s.anrMonitorTid ∧ t.detections = s.detections
  enabled : s.caller ≠ .enabling → t.enabled = s.enabled
  watchdogThread : s.caller ≠ .creating → s.caller ≠ .joining → t.watchdogThread = s.watchdogThread
  watchdogSemaphore : s.caller ≠ .initing → s.caller ≠ .waking →
    t.watchdogSemaphore = s.watchdogSemaphore
  watchdogMustPoll : (∀ failed, s.caller ≠ .assigning failed) → t.watchdogMustPoll = s.watchdogMustPoll
  sigquit : s.caller ≠ .installing → t.sigquit = s.sigquit
  reportBuffer : s.caller ≠ .allocating → s.caller ≠ .nulling → t.reportBuffer = s.reportBuffer
  live : s.caller ≠ .allocating → s.caller ≠ .deleting → t.live = s.live
  allocated : s.caller ≠ .allocating → t.allocated = s.allocated
  watchdogs : s.caller ≠ .creating → t.watchdogs = s.watchdogs
  standing : s.caller ≠ .returning → t.standing = s.standing
  activations : t.activations = s.activations
  relays : t.relays = s.relays

theorem callStep_frame {succeeds : Bool} (moved : s.callStep succeeds s.caller = some t) :
    s.CallFrame t := by
  cases place : s.caller with
  | idle =>
    rw [place] at moved
    cases moved
  | joining =>
    simp only [place, callStep] at moved
    split at moved
    · cases moved
      constructor <;> simp [place]
    · split at moved <;> cases moved
      constructor <;> simp [place]
  | creating | initing | installing | returning | waking | deleting =>
    simp only [place, callStep] at moved
    split at moved <;> cases moved <;> constructor <;> simp [place]
  | assigning failed =>
    rw [place] at moved
    cases moved
    constructor <;> simp [place]
  | allocating | enabling | choosing | clearing | resetting | forgetting | nulling =>
    rw [place] at moved
    cases moved
    constructor <;> simp [place]

/-- A watchdog that a call creates is at the head of its loop. -/
theorem mem_callStep_watchdogs {succeeds : Bool} {watchdog : Watchdog}
    (moved : s.callStep succeeds s.caller = some t) (member : watchdog ∈ t.watchdogs) :
    watchdog ∈ s.watchdogs ∨ watchdog = .looping := by
  by_cases creating : s.caller = .creating
  · simp only [creating, callStep] at moved
    split at moved <;> cases moved
    · exact (List.mem_append.mp member).imp_right List.mem_singleton.mp
    · exact Or.inl member
  · exact Or.inl ((callStep_frame moved).watchdogs creating ▸ member)

/-- From where a call gets to the places that invariants name. -/
structure CallOrder (s t : AnrHandler) : Prop where
  assigning : ∀ failed, t.caller = .assigning failed → s.caller = .initing
  enabling : t.caller = .enabling → s.caller = .allocating
  returning : t.caller = .returning → s.caller = .enabling
  joining : t.caller = .joining →
    s.caller = .waking ∨ s.caller = .choosing ∧ s.watchdogMustPoll = true
  forgetting : t.caller = .forgetting → s.caller = .resetting
  nulling : t.caller = .nulling → s.caller = .deleting
  starting : t.caller.starting = true → s.caller.starting = true ∨ s.caller = .creating
  stopping : t.caller.stopping = true → s.caller.stopping = true
  joined : t.caller.joined = true →
    s.caller.joined = true ∨ s.caller = .joining ∧ t.watchdogThread = none
  stopped : s.caller.stopping = true →
    t.caller.stopping = true ∨ t.caller = .idle ∧ s.caller.joined = true

theorem callStep_order {succeeds : Bool} (moved : s.callStep succeeds s.caller = some t) :
    s.CallOrder t := by
  cases place : s.caller with
  | idle =>
    rw [place] at moved
    cases moved
  | joining =>
    simp only [place, callStep] at moved
    split at moved
    · rename_i none
      cases moved
      constructor <;> simp [place, none, Calling.starting, Calling.stopping]
    · split at moved <;> cases moved
      constructor <;> simp [place, Calling.starting, Calling.stopping, Calling.joined]
  | creating | initing | installing | returning | waking | deleting =>
    simp only [place, callStep] at moved
    split at moved <;> cases moved <;> constructor <;>
      simp [place, Calling.starting, Calling.stopping, Calling.joined]
  | choosing =>
    rw [place] at moved
    cases moved
    by_cases polls : s.watchdogMustPoll = true <;> constructor <;>
      simp [place, polls, Calling.starting, Calling.stopping, Calling.joined]
  | assigning failed | allocating | enabling | clearing | resetting | forgetting | nulling =>
    rw [place] at moved
    cases moved
    constructor <;> simp [place, Calling.starting, Calling.stopping, Calling.joined]

/-- `enabled` stays cleared from the start of a shutdown to its end. -/
theorem callStep_disabled {succeeds : Bool} (moved : s.callStep succeeds s.caller = some t)
    (disabled : s.caller.stopping = true → s.enabled = false) (stops : t.caller.stopping = true) :
    t.enabled = false := by
  have stopping := (callStep_order moved).stopping stops
  have other : s.caller ≠ .enabling := fun enabling => by
    rw [enabling] at stopping
    cases stopping
  exact ((callStep_frame moved).enabled other).trans (disabled stopping)

/-- What only the statements of the two functions write, but for the relays,
which a watchdog adds to. -/
structure Kept (s t : AnrHandler) : Prop where
  pid : t.pid = s.pid
  reset : t.reset = s.reset
  sigquit : t.sigquit = s.sigquit
  relays : ∀ r ∈ s.relays, r ∈ t.relays

theorem step_kept {action : AnrAction} (taken : s.step abi action = some t)
    (other : ∀ succeeds, action ≠ .call succeeds) : s.Kept t := by
  cases action with
  | call succeeds => exact absurd rfl (other succeeds)
  | handlerInitialize dir =>
    obtain ⟨_, _, _, rfl⟩ := handlerInitialize_taken taken
    exact ⟨rfl, rfl, rfl, fun _ => id⟩
  | handlerShutdown =>
    obtain ⟨_, rfl⟩ := handlerShutdown_taken taken
    exact ⟨rfl, rfl, rfl, fun _ => id⟩
  | deliver recipient =>
    obtain ⟨_, rfl⟩ := deliver_taken taken
    exact ⟨rfl, rfl, rfl, fun _ => id⟩
  | intercept index succeeds =>
    obtain ⟨_, _, _, _, moved, rfl⟩ := intercept_taken taken
    obtain ⟨_, _, _, rfl⟩ := interceptStep_writes moved
    exact ⟨rfl, rfl, rfl, fun _ => id⟩
  | watchdog index succeeds =>
    obtain ⟨_, _, _, _, moved, rfl⟩ := watchdog_taken taken
    obtain ⟨_, _, _, rfl⟩ := watchdogStep_writes moved
    exact ⟨rfl, rfl, rfl, fun _ => List.mem_append_left _⟩

end Steps

end AnrHandler

/-! One session step by step, every call in it succeeding. -/

/-- `anr_handler_initialize` runs to its end. -/
def initializeActions : List AnrAction :=
  .handlerInitialize .usual :: List.replicate 7 (.call true)

/-- A new watchdog gets to wait for the semaphore. -/
def waitActions (watchdog : Nat) : List AnrAction :=
  List.replicate 3 (.watchdog watchdog true)

/-- SIGQUIT is delivered and the activation runs to its end. -/
def interceptActions (recipient : Recipient) (activation : Nat) : List AnrAction :=
  .deliver recipient :: List.replicate 9 (.intercept activation true)

/-- A watchdog that waits is woken, relays and gets to wait again. -/
def relayActions (watchdog : Nat) : List AnrAction :=
  List.replicate 7 (.watchdog watchdog true)

/-- `anr_handler_shutdown` wakes the watchdog, which ends, and runs to its end. -/
def shutdownActions (watchdog : Nat) : List AnrAction :=
  .handlerShutdown :: List.replicate 2 (.call true) ++ List.replicate 3 (.watchdog watchdog true) ++
    List.replicate 6 (.call true)

end AgentNDK
