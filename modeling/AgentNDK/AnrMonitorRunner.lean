import AgentNDK.ANRMonitor

namespace AgentNDK
open Runs

namespace ANRMonitor

/-- in milliseconds -/
def anrTimeout : Int := 6000

/-- the ANRs in a row to wait for before one is recorded -/
def anrSampleCnt : Nat := 2

end ANRMonitor

/-- The `condition` of a `ProcessErrorStateInfo`. -/
inductive Condition
  | noError
  | crashed
  | notResponding
  deriving DecidableEq

/-- How the synchronized block of an iteration is left. -/
inductive Leaving
  | normally
  /-- by `return@Runnable` -/
  | returning
  /-- by an InterruptedException -/
  | throwing
  deriving DecidableEq

/-- The next statement of the thread that runs `anrMonitorRunner`. -/
inductive Monitoring
  | notBegun
  /-- `while (!Thread.interrupted())` -/
  | looping
  /-- the entry of `synchronized(runner)` -/
  | entering
  /-- `handler.removeCallbacks(runner)` -/
  | removing
  /-- `handler.post(runner)` -/
  | posting
  /-- the call of `runner.wait` -/
  | calling
  /-- in `runner.wait` -/
  | waiting
  /-- `blocked()` in `inANRState` -/
  | sampling
  /-- in `getProcessErrorStateInfoOrNull` -/
  | querying
  /-- the assignment to `tRemaining` -/
  | measuring
  /-- `runner.reset()` -/
  | resetting (leaving : Leaving)
  /-- the end of the synchronized block -/
  | exiting (leaving : Leaving)
  /-- `if (isANR)` -/
  | deciding
  /-- in `createANRReport` -/
  | reporting
  /-- `anrSampleCnt.set` -/
  | recounting
  /-- in `Thread.sleep` -/
  | sleeping
  /-- `handler.removeCallbacks(runner)` of the last `finally` -/
  | cleaning
  /-- `monitorThread.quitSafely()` -/
  | quitting
  | ended
  deriving DecidableEq

/-- The thread is in the synchronized block, and not waiting. -/
def Monitoring.holds : Monitoring → Bool
  | .removing | .posting | .calling | .sampling | .querying | .measuring => true
  | .resetting _ | .exiting _ => true
  | _ => false

/-- The statements that may come after a statement. No second run gets to the
loop, since `monitorThread` cannot be started again. -/
def Monitoring.next : Monitoring → List Monitoring
  | .notBegun => [.looping]
  | .looping => [.entering, .cleaning]
  | .entering => [.removing]
  | .removing => [.posting]
  | .posting => [.calling, .resetting .returning]
  | .calling => [.waiting, .resetting .throwing]
  | .waiting => [.sampling, .resetting .throwing]
  | .sampling => [.querying, .measuring]
  | .querying => [.measuring, .resetting .normally]
  | .measuring => [.resetting .normally]
  | .resetting leaving => [.exiting leaving]
  | .exiting .normally => [.deciding]
  | .exiting .returning | .exiting .throwing => [.cleaning]
  | .deciding => [.looping, .reporting, .sleeping]
  | .reporting => [.recounting, .cleaning]
  | .recounting => [.looping]
  | .sleeping => [.looping, .cleaning]
  | .cleaning => [.quitting]
  | .quitting | .ended => [.ended]

/-- The statements a statement may come after. -/
def Monitoring.previous : Monitoring → List Monitoring
  | .notBegun => []
  | .looping => [.notBegun, .deciding, .recounting, .sleeping]
  | .entering => [.looping]
  | .removing => [.entering]
  | .posting => [.removing]
  | .calling => [.posting]
  | .waiting => [.calling]
  | .sampling => [.waiting]
  | .querying => [.sampling]
  | .measuring => [.sampling, .querying]
  | .resetting .normally => [.querying, .measuring]
  | .resetting .returning => [.posting]
  | .resetting .throwing => [.calling, .waiting]
  | .exiting leaving => [.resetting leaving]
  | .deciding => [.exiting .normally]
  | .reporting | .sleeping => [.deciding]
  | .recounting => [.reporting]
  | .cleaning => [.looping, .exiting .returning, .exiting .throwing, .reporting, .sleeping]
  | .quitting => [.cleaning]
  | .ended => [.quitting, .ended]

theorem mem_previous {place next : Monitoring} (follows : next ∈ place.next) : place ∈ next.previous := by
  cases place with
  | resetting leaving =>
    cases List.mem_singleton.mp follows
    exact List.mem_singleton_self _
  | exiting leaving =>
    cases leaving <;> cases List.mem_singleton.mp follows <;> simp [Monitoring.previous]
  | _ =>
    simp only [Monitoring.next, List.mem_cons, List.not_mem_nil, or_false] at follows
    rcases follows with rfl | rfl | rfl <;> simp [Monitoring.previous]

/-- The places where the monitor's thread waits for an answer, and those
outside of a run. -/
def Monitoring.asks : Monitoring → Bool
  | .notBegun | .posting | .waiting | .querying | .measuring | .reporting | .ended => true
  | _ => false

/-- The next statement of the main looper. -/
inductive Looper
  /-- idle, or in another message -/
  | elsewhere
  /-- the entry of `run`, for a copy of the runner it has dequeued -/
  | dispatching
  /-- `signaled = true` -/
  | signaling
  /-- `notify()` -/
  | notifying
  /-- the end of `run` -/
  | exiting
  deriving DecidableEq

/-- The looper is in `run`. -/
def Looper.holds : Looper → Bool
  | .signaling | .notifying | .exiting => true
  | .elsewhere | .dispatching => false

inductive LockHolder
  | monitor
  | looper
  deriving DecidableEq

/-- What an iteration has found out, and whether it called `createANRReport`. -/
structure Sample where
  isANR : Bool
  reported : Bool
  deriving DecidableEq

/-- The thread of the monitor and the main looper, with the WaitableRunner
between them. -/
structure AnrMonitorRunner where
  place : Monitoring
  monitorThread : HandlerThread
  /-- the interrupt status of the thread -/
  interrupted : Bool
  isANR : Bool
  tRemaining : Int
  anrSampleCnt : Int
  signaled : Bool
  /-- the monitor of the WaitableRunner: who is in it, and whether the thread
  that waits was notified -/
  lock : Option LockHolder
  notified : Bool
  /-- the copies of the runner in the queue of the main handler -/
  pending : Nat
  looper : Looper
  /-- the samples so far, the latest first -/
  samples : List Sample
  /-- the main looper has run a runner since the last post -/
  ranSincePost : Bool
  deriving DecidableEq

/-- Why `runner.wait` ends; a spurious wakeup is as a timeout. -/
inductive Wakeup
  | notified
  | timeout
  | interrupted
  deriving DecidableEq

inductive MonitorAction
  /-- the executor's thread begins a run -/
  | begin
  /-- a statement whose effect is determined by the state -/
  | advance
  /-- what `handler.post` returns -/
  | post (accepted : Bool)
  | wake (wakeup : Wakeup)
  /-- the `condition` that `getProcessErrorStateInfoOrNull` returns -/
  | query (condition : Option Condition)
  /-- the milliseconds since `tStart` -/
  | measure (elapsed : Int)
  /-- whether `createANRReport` returns -/
  | report (returned : Bool)
  deriving DecidableEq

inductive LoopAction
  | monitor (action : MonitorAction)
  | looper
  | interrupt
  deriving DecidableEq

namespace AnrMonitorRunner

def new : AnrMonitorRunner where
  place := .notBegun
  monitorThread := .new
  interrupted := false
  isANR := false
  tRemaining := 0
  anrSampleCnt := ANRMonitor.anrSampleCnt
  signaled := false
  lock := none
  notified := false
  pending := 0
  looper := .elsewhere
  samples := []
  ranSincePost := false

/-- `monitorThread.start()` throws unless the thread is new. -/
def begin (s : AnrMonitorRunner) : Option AnrMonitorRunner :=
  if s.place = .notBegun ∨ s.place = .ended then
    if s.monitorThread = .new then
      some { s with place := .looping, monitorThread := .started, interrupted := false }
    else some { s with place := .ended, interrupted := false }
  else none

/-- The count of the samples, outside of the synchronized block. -/
def decideReport (s : AnrMonitorRunner) : AnrMonitorRunner :=
  if s.isANR then
    -- decrementAndGet
    let count := s.anrSampleCnt - 1
    if 0 = count then
      { s with place := .reporting, anrSampleCnt := count, samples := ⟨true, true⟩ :: s.samples }
    else { s with place := .looping, anrSampleCnt := count, samples := ⟨true, false⟩ :: s.samples }
  else
    { s with
      place := if s.tRemaining > 0 then .sleeping else .looping
      samples := ⟨false, false⟩ :: s.samples }

def advance (s : AnrMonitorRunner) : Option AnrMonitorRunner :=
  match s.place with
  | .looping =>
    if s.interrupted then some { s with place := .cleaning, interrupted := false }
    else some { s with place := .entering, isANR := false, tRemaining := 0 }
  | .entering => if s.lock = none then some { s with place := .removing, lock := some .monitor } else none
  | .removing => some { s with place := .posting, pending := 0 }
  | .calling =>
    -- an interrupted thread does not begin to wait
    if s.interrupted then some { s with place := .resetting .throwing, interrupted := false }
    else some { s with place := .waiting, lock := none, notified := false }
  | .sampling => some { s with place := if s.signaled then .measuring else .querying }
  | .resetting leaving => some { s with place := .exiting leaving, signaled := false }
  | .exiting .normally => some { s with place := .deciding, lock := none }
  | .exiting .returning => some { s with place := .cleaning, lock := none }
  -- the catch clause interrupts its thread again
  | .exiting .throwing => some { s with place := .cleaning, lock := none, interrupted := true }
  | .deciding => some s.decideReport
  | .recounting => some { s with place := .looping, anrSampleCnt := ANRMonitor.anrSampleCnt }
  | .sleeping => some { s with place := if s.interrupted then .cleaning else .looping }
  | .cleaning => some { s with place := .quitting, pending := 0 }
  | .quitting => some { s with place := .ended, monitorThread := .quit }
  | .notBegun | .posting | .waiting | .querying | .measuring | .reporting | .ended => none

def post (s : AnrMonitorRunner) (accepted : Bool) : Option AnrMonitorRunner :=
  if s.place = .posting then
    if accepted then
      some { s with place := .calling, pending := s.pending + 1, ranSincePost := false }
    else some { s with place := .resetting .returning }
  else none

/-- A wait ends when the lock can be taken again. -/
def wake (s : AnrMonitorRunner) (wakeup : Wakeup) : Option AnrMonitorRunner :=
  if s.place = .waiting ∧ s.lock = none then
    let woken := { s with place := .sampling, lock := some .monitor }
    match wakeup with
    | .notified => if s.notified then some woken else none
    | .timeout => some woken
    | .interrupted =>
      if s.interrupted then some { woken with place := .resetting .throwing, interrupted := false }
      else none
  else none

def query (s : AnrMonitorRunner) (condition : Option Condition) : Option AnrMonitorRunner :=
  if s.place = .querying then
    if condition = some .notResponding then
      some { s with place := .resetting .normally, isANR := true }
    else some { s with place := .measuring }
  else none

def measure (s : AnrMonitorRunner) (elapsed : Int) : Option AnrMonitorRunner :=
  if s.place = .measuring then
    some { s with place := .resetting .normally, tRemaining := max 0 (ANRMonitor.anrTimeout - elapsed) }
  else none

def report (s : AnrMonitorRunner) (returned : Bool) : Option AnrMonitorRunner :=
  if s.place = .reporting then
    some { s with place := if returned then .recounting else .cleaning }
  else none

def monitorStep (s : AnrMonitorRunner) : MonitorAction → Option AnrMonitorRunner
  | .begin => s.begin
  | .advance => s.advance
  | .post accepted => s.post accepted
  | .wake wakeup => s.wake wakeup
  | .query condition => s.query condition
  | .measure elapsed => s.measure elapsed
  | .report returned => s.report returned

/-- The main looper dequeues a copy of the runner and runs it. -/
def looperStep (s : AnrMonitorRunner) : Option AnrMonitorRunner :=
  match s.looper with
  | .elsewhere =>
    if 0 < s.pending then some { s with looper := .dispatching, pending := s.pending - 1 } else none
  | .dispatching =>
    if s.lock = none then some { s with looper := .signaling, lock := some .looper } else none
  | .signaling => some { s with looper := .notifying, signaled := true, ranSincePost := true }
  | .notifying =>
    some { s with looper := .exiting, notified := s.notified || s.place = .waiting }
  | .exiting => some { s with looper := .elsewhere, lock := none }

def step (s : AnrMonitorRunner) : LoopAction → Option AnrMonitorRunner
  | .monitor action => s.monitorStep action
  | .looper => s.looperStep
  | .interrupt =>
    if s.place = .notBegun ∨ s.place = .ended then none else some { s with interrupted := true }

/-- The lock is held by whoever is in a synchronized part, and before the run
has begun there is nothing of it on the looper. -/
structure Inv (s : AnrMonitorRunner) : Prop where
  monitor : s.lock = some .monitor ↔ s.place.holds = true
  looper : s.lock = some .looper ↔ s.looper.holds = true
  unused : s.monitorThread = .new ↔ s.place = .notBegun
  idle : s.place = .notBegun → s.looper = .elsewhere ∧ s.pending = 0 ∧ s.signaled = false

theorem inv_new : new.Inv where
  monitor := by decide
  looper := by decide
  unused := ⟨fun _ => rfl, fun _ => rfl⟩
  idle := fun _ => ⟨rfl, rfl, rfl⟩

section Steps
variable {s t : AnrMonitorRunner}

/-- What a statement of the monitor's thread leaves alone, each variable with
the statements that write it. -/
structure MonitorFrame (s t : AnrMonitorRunner) : Prop where
  place : t.place ∈ s.place.next
  monitorThread : t.monitorThread ≠ .new
  looper : t.looper = s.looper
  pending : s.place ≠ .removing → s.place ≠ .posting → s.place ≠ .cleaning → t.pending = s.pending
  signaled : (∀ leaving, s.place ≠ .resetting leaving) → t.signaled = s.signaled
  reset : ∀ leaving, s.place = .resetting leaving → t.signaled = false
  ranSincePost : s.place ≠ .posting → t.ranSincePost = s.ranSincePost
  posted : s.place = .posting → t.place = .calling → t.ranSincePost = false
  samples : s.place ≠ .deciding → t.samples = s.samples
  anrSampleCnt : s.place ≠ .deciding → s.place ≠ .recounting → t.anrSampleCnt = s.anrSampleCnt
  recounted : s.place = .recounting → t.anrSampleCnt = ANRMonitor.anrSampleCnt
  /-- the lock is kept, taken or released -/
  lock : t.lock = s.lock ∧ t.place.holds = s.place.holds ∨
    s.lock = none ∧ t.lock = some .monitor ∧ t.place.holds = true ∨
    s.place.holds = true ∧ t.lock = none ∧ t.place.holds = false

theorem monitor_frame {action : MonitorAction} (inv : s.Inv)
    (taken : s.monitorStep action = some t) : s.MonitorFrame t := by
  have unused := inv.unused
  cases action with
  | begin =>
    simp only [monitorStep, begin] at taken
    split at taken
    · rename_i outside
      rcases outside with place | place
      · rw [if_pos (unused.mpr place)] at taken
        cases taken
        constructor <;> simp [place, Monitoring.next, Monitoring.holds]
      · rw [if_neg (unused.not.mpr (by rw [place]; exact Monitoring.noConfusion))] at taken
        cases taken
        constructor <;> simp [unused, place, Monitoring.next, Monitoring.holds]
    · cases taken
  | advance =>
    simp only [monitorStep, advance] at taken
    cases place : s.place with
    | looping | calling =>
      rw [place] at taken
      dsimp only at taken
      split at taken <;> cases taken <;> constructor <;>
        simp [unused, place, Monitoring.next, Monitoring.holds]
    | entering =>
      rw [place] at taken
      dsimp only at taken
      split at taken <;> cases taken
      rename_i free
      constructor <;> simp [unused, place, free, Monitoring.next, Monitoring.holds]
    | removing | resetting leaving | recounting | cleaning | quitting =>
      rw [place] at taken
      cases taken
      constructor <;> simp [unused, place, Monitoring.next, Monitoring.holds]
    | exiting leaving =>
      rw [place] at taken
      cases leaving <;> cases taken <;> constructor <;>
        simp [unused, place, Monitoring.next, Monitoring.holds]
    | sampling =>
      rw [place] at taken
      cases taken
      cases signaled : s.signaled <;> constructor <;>
        simp [unused, place, signaled, Monitoring.next, Monitoring.holds]
    | sleeping =>
      rw [place] at taken
      cases taken
      cases s.interrupted <;> constructor <;>
        simp [unused, place, Monitoring.next, Monitoring.holds]
    | deciding =>
      rw [place] at taken
      cases taken
      unfold decideReport
      dsimp only
      split
      · split <;> constructor <;> simp [unused, place, Monitoring.next, Monitoring.holds]
      · by_cases remains : s.tRemaining > 0 <;> constructor <;>
          simp [unused, place, remains, Monitoring.next, Monitoring.holds]
    | notBegun | posting | waiting | querying | measuring | reporting | ended =>
      rw [place] at taken
      cases taken
  | post accepted =>
    simp only [monitorStep, post] at taken
    split at taken
    · rename_i place
      split at taken <;> cases taken <;> constructor <;>
        simp [unused, place, Monitoring.next, Monitoring.holds]
    · cases taken
  | wake wakeup =>
    simp only [monitorStep, wake] at taken
    split at taken
    · rename_i waiting
      obtain ⟨place, free⟩ := waiting
      cases wakeup with
      | notified =>
        dsimp only at taken
        split at taken <;> cases taken
        constructor <;> simp [unused, place, free, Monitoring.next, Monitoring.holds]
      | timeout =>
        cases taken
        constructor <;> simp [unused, place, free, Monitoring.next, Monitoring.holds]
      | interrupted =>
        dsimp only at taken
        split at taken <;> cases taken
        constructor <;> simp [unused, place, free, Monitoring.next, Monitoring.holds]
    · cases taken
  | query condition =>
    simp only [monitorStep, query] at taken
    split at taken
    · rename_i place
      split at taken <;> cases taken <;> constructor <;>
        simp [unused, place, Monitoring.next, Monitoring.holds]
    · cases taken
  | measure elapsed =>
    simp only [monitorStep, measure] at taken
    split at taken <;> cases taken
    rename_i place
    constructor <;> simp [unused, place, Monitoring.next, Monitoring.holds]
  | report returned =>
    simp only [monitorStep, report] at taken
    split at taken <;> cases taken
    rename_i place
    cases returned <;> constructor <;> simp [unused, place, Monitoring.next, Monitoring.holds]

theorem advances {action : MonitorAction} (alone : s.place.asks = false)
    (taken : s.monitorStep action = some t) : action = .advance := by
  cases action with
  | advance => rfl
  | begin =>
    obtain ⟨place | place, _⟩ := Option.ite_none_right_eq_some.mp taken <;> rw [place] at alone <;>
      cases alone
  | wake wakeup =>
    obtain ⟨⟨place, _⟩, _⟩ := Option.ite_none_right_eq_some.mp taken
    rw [place] at alone
    cases alone
  | post accepted | query condition | measure elapsed | report returned =>
    obtain ⟨place, _⟩ := Option.ite_none_right_eq_some.mp taken
    rw [place] at alone
    cases alone

/-- What the looper leaves alone; the flag and the history it sets together. -/
structure LooperFrame (s t : AnrMonitorRunner) : Prop where
  place : t.place = s.place
  samples : t.samples = s.samples
  anrSampleCnt : t.anrSampleCnt = s.anrSampleCnt
  flag : t.signaled = s.signaled ∧ t.ranSincePost = s.ranSincePost ∨
    s.looper = .signaling ∧ t.signaled = true ∧ t.ranSincePost = true

theorem looper_frame (taken : s.looperStep = some t) : s.LooperFrame t := by
  cases at_looper : s.looper with
  | elsewhere | dispatching =>
    simp only [looperStep, at_looper] at taken
    split at taken <;> cases taken
    exact ⟨rfl, rfl, rfl, Or.inl ⟨rfl, rfl⟩⟩
  | signaling =>
    simp only [looperStep, at_looper] at taken
    cases taken
    exact ⟨rfl, rfl, rfl, Or.inr ⟨at_looper, rfl, rfl⟩⟩
  | notifying | exiting =>
    simp only [looperStep, at_looper] at taken
    cases taken
    exact ⟨rfl, rfl, rfl, Or.inl ⟨rfl, rfl⟩⟩

/-- Whoever is in the synchronized block keeps the looper out. -/
theorem Inv.outside (inv : s.Inv) (inside : s.place.holds = true) : s.looper.holds = false := by
  cases running : s.looper.holds with
  | false => rfl
  | true => cases (inv.monitor.mpr inside).symm.trans (inv.looper.mpr running)

theorem inv_monitor {action : MonitorAction} (inv : s.Inv)
    (taken : s.monitorStep action = some t) : t.Inv := by
  have frame := monitor_frame inv taken
  have begun : t.place ≠ .notBegun := by
    intro same
    have before := mem_previous frame.place
    rw [same] at before
    exact absurd before List.not_mem_nil
  refine
    { monitor := ?_
      looper := ?_
      unused := ⟨fun new => absurd new frame.monitorThread, fun place => absurd place begun⟩
      idle := fun place => absurd place begun }
  · rcases frame.lock with ⟨lock, holds⟩ | ⟨_, lock, holds⟩ | ⟨_, lock, holds⟩
    · rw [lock, holds, inv.monitor]
    · rw [lock, holds]
      simp
    · rw [lock, holds]
      simp
  · rw [frame.looper]
    rcases frame.lock with ⟨lock, _⟩ | ⟨free, lock, _⟩ | ⟨inside, lock, _⟩
    · rw [lock, inv.looper]
    · rw [lock, ← inv.looper, free]
      simp
    · rw [lock, inv.outside inside]
      simp

/-- Before the run has begun there is no runner for the looper. -/
theorem Inv.begun (inv : s.Inv) (busy : s.looper ≠ .elsewhere ∨ 0 < s.pending) :
    s.place ≠ .notBegun := by
  intro place
  obtain ⟨elsewhere, none, _⟩ := inv.idle place
  rcases busy with busy | busy
  · exact busy elsewhere
  · omega

theorem inv_looper (inv : s.Inv) (taken : s.looperStep = some t) : t.Inv := by
  have looper := inv.looper
  cases at_looper : s.looper with
  | elsewhere =>
    simp only [looperStep, at_looper] at taken
    split at taken <;> cases taken
    rename_i pending
    rw [at_looper] at looper
    exact { inv with looper := looper, idle := fun place => absurd place (inv.begun (Or.inr pending)) }
  | dispatching =>
    have begun := inv.begun (Or.inl (by rw [at_looper]; exact Looper.noConfusion))
    simp only [looperStep, at_looper] at taken
    split at taken <;> cases taken
    rename_i free
    refine
      { monitor := ?_
        looper := ⟨fun _ => rfl, fun _ => rfl⟩
        unused := inv.unused
        idle := fun place => absurd place begun }
    rw [← inv.monitor, free]
    simp
  | signaling | notifying =>
    have begun := inv.begun (Or.inl (by rw [at_looper]; exact Looper.noConfusion))
    simp only [looperStep, at_looper] at taken
    cases taken
    rw [at_looper] at looper
    exact { inv with looper := looper, idle := fun place => absurd place begun }
  | exiting =>
    have begun := inv.begun (Or.inl (by rw [at_looper]; exact Looper.noConfusion))
    have held := looper.mpr (by rw [at_looper]; rfl)
    simp only [looperStep, at_looper] at taken
    cases taken
    refine
      { monitor := ?_
        looper := by simp [Looper.holds]
        unused := inv.unused
        idle := fun place => absurd place begun }
    rw [← inv.monitor, held]
    simp

theorem inv_step {action : LoopAction} (inv : s.Inv) (taken : s.step action = some t) : t.Inv := by
  cases action with
  | monitor action => exact inv_monitor inv taken
  | looper => exact inv_looper inv taken
  | interrupt =>
    simp only [step] at taken
    split at taken <;> cases taken
    exact ⟨inv.monitor, inv.looper, inv.unused, inv.idle⟩

end Steps

theorem inv_run {s : AnrMonitorRunner} {actions : List LoopAction}
    (reach : run step new actions = some s) : s.Inv :=
  run_invariant (fun _ _ _ => inv_step) inv_new reach

end AnrMonitorRunner

end AgentNDK
