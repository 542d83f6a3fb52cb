import AgentNDK.Library.Runs

namespace AgentNDK
open Runs

inductive HandlerThread
  | new
  | started
  | quit
  deriving DecidableEq

inductive FutureState
  | pending
  | done
  /-- the task ended by an exception -/
  | failed
  | cancelled
  deriving DecidableEq

/-- Where the body of a submitted `anrMonitorRunner` is. -/
inductive Body
  | notBegun
  | looping
  | ended
  deriving DecidableEq

/-- A run of `anrMonitorRunner`: its FutureTask and its body. -/
structure Task where
  future : FutureState
  body : Body
  deriving DecidableEq

inductive MonitorCall
  | startMonitor
  | stopMonitor
  deriving DecidableEq

structure ANRMonitor where
  monitorThread : HandlerThread
  /-- the tasks submitted so far -/
  tasks : List Task
  /-- the field `future`, by the position of its task -/
  future : Option Nat
  /-- the single-thread executor: what it has to take, and what its thread is in -/
  queue : List Nat
  current : Option Nat
  /-- the interrupt status of its thread -/
  interrupted : Bool
  lastCall : Option MonitorCall
  deriving DecidableEq

namespace ANRMonitor

def new : ANRMonitor :=
  ⟨.new, [], none, [], none, false, none⟩

/-- `isDone()` is true of a cancelled future too. -/
def isDone (s : ANRMonitor) (i : Nat) : Bool :=
  match s.tasks[i]? with
  | some task => task.future ≠ .pending
  | none => true

def isRunning (s : ANRMonitor) : Bool :=
  match s.future with
  | some i => !s.isDone i
  | none => false

/-- `FutureTask.cancel(true)`: a completed task stays as it is, and the thread
that runs the task is interrupted. -/
def cancel (s : ANRMonitor) (i : Nat) : ANRMonitor :=
  match s.tasks[i]? with
  | some ⟨.pending, body⟩ =>
    { s with
      tasks := s.tasks.set i ⟨.cancelled, body⟩
      interrupted := s.interrupted || s.current == some i }
  | _ => s

/-- `future.get()` on a future that is not done would wait, which is `none`. -/
def stopMonitor (s : ANRMonitor) : Option ANRMonitor :=
  match s.future with
  | none => some s
  | some i =>
    let cancelled := s.cancel i
    if cancelled.isDone i then some { cancelled with future := none } else none

/-- `executor.submit` -/
def submit (s : ANRMonitor) : ANRMonitor :=
  { s with
    tasks := s.tasks ++ [⟨.pending, .notBegun⟩]
    queue := s.queue ++ [s.tasks.length]
    future := some s.tasks.length }

def startMonitor (s : ANRMonitor) : Option ANRMonitor :=
  (if s.isRunning then s.stopMonitor else some s).map submit

/-- The body has ended: a future that is still pending gets the outcome. -/
def finish (s : ANRMonitor) (i : Nat) (outcome : FutureState) : ANRMonitor :=
  match s.tasks[i]? with
  | some ⟨.pending, _⟩ => { s with tasks := s.tasks.set i ⟨outcome, .ended⟩, current := none }
  | some ⟨future, _⟩ => { s with tasks := s.tasks.set i ⟨future, .ended⟩, current := none }
  | none => s

/-- The executor's thread takes the next task. A cancelled one is passed over;
of any other the first thing is `monitorThread.start()`, which throws unless
the thread is new. -/
def begin (s : ANRMonitor) : Option ANRMonitor :=
  match s.current, s.queue with
  | none, i :: queue =>
    let taken := { s with queue := queue, interrupted := false }
    if s.isDone i then some taken
    else if s.monitorThread = .new then
      some { taken with
        monitorThread := .started
        tasks := s.tasks.set i ⟨.pending, .looping⟩
        current := some i }
    else some (taken.finish i .failed)
  | _, _ => none

/-- The `finally` of the loop, after which the future is set. -/
def leaveLoop (s : ANRMonitor) (i : Nat) : ANRMonitor :=
  { s.finish i .done with monitorThread := .quit }

inductive Action
  | call (call : MonitorCall)
  | begin
  /-- a round of the loop that goes on to the next one; nothing it calls throws -/
  | iterate
  /-- the loop sees that its thread was interrupted -/
  | interrupt
  /-- `handler.post` returns false -/
  | postFails
  deriving DecidableEq

def step (s : ANRMonitor) : Action → Option ANRMonitor
  | .call .startMonitor => s.startMonitor.map fun t => { t with lastCall := some .startMonitor }
  | .call .stopMonitor => s.stopMonitor.map fun t => { t with lastCall := some .stopMonitor }
  | .begin => s.begin
  | .iterate => s.current.map fun _ => s
  | .interrupt => if s.interrupted then s.current.map s.leaveLoop else none
  | .postFails => s.current.map s.leaveLoop

/-- After a start the run it submitted is in its loop once it has begun, and
after a stop the monitor is not running. -/
def Obeys (s : ANRMonitor) : Prop :=
  (s.lastCall = some .startMonitor → ∃ i task, s.future = some i ∧ s.tasks[i]? = some task ∧
    (task.body ≠ .notBegun → task = ⟨.pending, .looping⟩)) ∧
  (s.lastCall = some .stopMonitor → s.isRunning = false)

/-- The executor begins no second run, and the main looper takes the runners. -/
def SingleRun (s : ANRMonitor) : Action → Prop
  | .begin => (s.queue.head?.any fun i => !s.isDone i) = true → s.monitorThread = .new
  | .postFails => False
  | _ => True

instance : (s : ANRMonitor) → (action : Action) → Decidable (SingleRun s action)
  | _, .begin => inferInstanceAs (Decidable (_ → _))
  | _, .postFails => instDecidableFalse
  | _, .call _ | _, .iterate | _, .interrupt => instDecidableTrue

theorem isDone_of_getElem? {s : ANRMonitor} {i : Nat} {task : Task} (found : s.tasks[i]? = some task) :
    s.isDone i = decide (task.future ≠ .pending) := by
  rw [isDone, found]

theorem isDone_cancel (s : ANRMonitor) (i : Nat) : (s.cancel i).isDone i = true := by
  unfold cancel
  split
  · rename_i body found
    have bound := (List.getElem?_eq_some_iff.mp found).1
    have cancelled : (s.tasks.set i ⟨.cancelled, body⟩)[i]? = some ⟨.cancelled, body⟩ :=
      List.getElem?_set_self bound
    exact (isDone_of_getElem? cancelled).trans rfl
  · rename_i other
    cases found : s.tasks[i]? with
    | none => rw [isDone, found]
    | some task =>
      obtain ⟨future, body⟩ := task
      rw [isDone_of_getElem? found]
      exact decide_eq_true fun pending => other body (by rw [found, show future = _ from pending])

theorem stopMonitor_eq (s : ANRMonitor) : s.stopMonitor =
    some { (s.future.elim s s.cancel) with future := none } := by
  unfold stopMonitor
  split
  · rename_i idle
    rw [idle, Option.elim_none, ← idle]
  · rename_i i running
    rw [running, Option.elim_some]
    exact if_pos (isDone_cancel s i)

/-- The run of the field `future` waits to begin or is in its loop, and the
executor's thread is in the loop of a task that has begun. -/
structure Inv (s : ANRMonitor) : Prop where
  started : s.lastCall = some .startMonitor → s.future ≠ none
  stopped : s.lastCall = some .stopMonitor → s.future = none
  live : ∀ i, s.future = some i → s.tasks[i]? = some ⟨.pending, .notBegun⟩ ∨
    s.tasks[i]? = some ⟨.pending, .looping⟩ ∧ s.current = some i ∧ s.interrupted = false
  busy : ∀ k, s.current = some k → ∃ future, s.tasks[k]? = some ⟨future, .looping⟩

theorem inv_new : new.Inv where
  started := nofun
  stopped := nofun
  live := nofun
  busy := nofun

theorem Inv.obeys {s : ANRMonitor} (inv : s.Inv) : s.Obeys := by
  constructor
  · intro start
    obtain ⟨i, submitted⟩ := Option.ne_none_iff_exists'.mp (inv.started start)
    rcases inv.live i submitted with waiting | ⟨looping, _⟩
    · exact ⟨i, _, submitted, waiting, fun begun => absurd rfl begun⟩
    · exact ⟨i, _, submitted, looping, fun _ => rfl⟩
  · intro stop
    rw [isRunning, inv.stopped stop]

section Steps
variable {s t : ANRMonitor}

/-- What is left of a run that was stopped: the thread may still be in its loop. -/
theorem busy_cancel (busy : ∀ k, s.current = some k → ∃ future, s.tasks[k]? = some ⟨future, .looping⟩)
    (i : Nat) (k : Nat) (current : (s.cancel i).current = some k) :
    ∃ future, (s.cancel i).tasks[k]? = some ⟨future, .looping⟩ := by
  unfold cancel at current ⊢
  split at current
  · rename_i body found
    obtain ⟨future, looping⟩ := busy k current
    dsimp only
    by_cases same : i = k
    · subst same
      have bound := (List.getElem?_eq_some_iff.mp found).1
      rw [found] at looping
      cases looping
      exact ⟨.cancelled, List.getElem?_set_self bound⟩
    · rw [List.getElem?_set_ne same]
      exact ⟨future, looping⟩
  · exact busy k current

theorem busy_stopMonitor (inv : s.Inv) (stopped : s.stopMonitor = some t) :
    t.future = none ∧ ∀ k, t.current = some k → ∃ future, t.tasks[k]? = some ⟨future, .looping⟩ := by
  rw [stopMonitor_eq] at stopped
  cases stopped
  refine ⟨rfl, ?_⟩
  cases s.future with
  | none => exact inv.busy
  | some i => exact busy_cancel inv.busy i

theorem inv_stop (inv : s.Inv) (taken : s.step (.call .stopMonitor) = some t) : t.Inv := by
  obtain ⟨u, stopped, rfl⟩ := Option.map_eq_some_iff.mp taken
  obtain ⟨idle, busy⟩ := busy_stopMonitor inv stopped
  exact
    { started := nofun
      stopped := fun _ => idle
      live := fun i running => nomatch idle.symm.trans running
      busy := busy }

theorem inv_submit (busy : ∀ k, s.current = some k → ∃ future, s.tasks[k]? = some ⟨future, .looping⟩) :
    { s.submit with lastCall := some .startMonitor }.Inv where
  started := fun _ => Option.some_ne_none _
  stopped := nofun
  live := by
    rintro i ⟨⟩
    exact Or.inl List.getElem?_concat_length
  busy := by
    intro k current
    obtain ⟨future, looping⟩ := busy k current
    have bound := (List.getElem?_eq_some_iff.mp looping).1
    exact ⟨future, (List.getElem?_append_left bound).trans looping⟩

theorem inv_start (inv : s.Inv) (taken : s.step (.call .startMonitor) = some t) : t.Inv := by
  obtain ⟨u, started, rfl⟩ := Option.map_eq_some_iff.mp taken
  obtain ⟨v, before, rfl⟩ := Option.map_eq_some_iff.mp started
  split at before
  · exact inv_submit (busy_stopMonitor inv before).2
  · cases before
    exact inv_submit inv.busy

/-- A task that is passed over is done, so it is not the one of `future`. -/
theorem inv_begin (inv : s.Inv) (single : SingleRun s .begin) (taken : s.step .begin = some t) :
    t.Inv := by
  simp only [step, begin] at taken
  split at taken
  · rename_i j queue idle next
    have waiting : ∀ i, s.future = some i → s.tasks[i]? = some ⟨.pending, .notBegun⟩ := by
      intro i submitted
      rcases inv.live i submitted with waiting | ⟨_, running, _⟩
      · exact waiting
      · cases idle.symm.trans running
    split at taken
    · cases taken
      exact
        { started := inv.started
          stopped := inv.stopped
          live := fun i submitted => Or.inl (waiting i submitted)
          busy := fun k running => nomatch idle.symm.trans running }
    · rename_i pending
      have first : s.monitorThread = .new := by
        refine single ?_
        rw [next]
        simpa using pending
      rw [if_pos first] at taken
      cases taken
      have bound : j < s.tasks.length := by
        by_contra beyond
        rw [isDone, List.getElem?_eq_none (by omega)] at pending
        exact pending rfl
      refine
        { started := inv.started
          stopped := inv.stopped
          live := fun i submitted => ?_
          busy := fun k running => ?_ }
      · by_cases same : j = i
        · subst same
          exact Or.inr ⟨List.getElem?_set_self bound, rfl, rfl⟩
        · exact Or.inl ((List.getElem?_set_ne same).trans (waiting i submitted))
      · cases running
        exact ⟨.pending, List.getElem?_set_self bound⟩
  · cases taken

theorem finish_kept (s : ANRMonitor) (k : Nat) (outcome : FutureState) :
    (s.finish k outcome).lastCall = s.lastCall ∧ (s.finish k outcome).future = s.future ∧
      ∀ i, i ≠ k → (s.finish k outcome).tasks[i]? = s.tasks[i]? := by
  unfold finish
  split
  · exact ⟨rfl, rfl, fun i other => List.getElem?_set_ne other.symm⟩
  · exact ⟨rfl, rfl, fun i other => List.getElem?_set_ne other.symm⟩
  · exact ⟨rfl, rfl, fun _ _ => rfl⟩

theorem inv_interrupt (inv : s.Inv) (taken : s.step .interrupt = some t) : t.Inv := by
  simp only [step] at taken
  split at taken
  · rename_i interrupted
    obtain ⟨k, running, rfl⟩ := Option.map_eq_some_iff.mp taken
    obtain ⟨future, looping⟩ := inv.busy k running
    obtain ⟨called, submitted, others⟩ := finish_kept s k .done
    have idle : (s.finish k .done).current = none := by
      unfold finish
      rw [looping]
      cases future <;> rfl
    refine
      { started := fun start => ?_
        stopped := fun stop => ?_
        live := fun i live => ?_
        busy := fun k again => nomatch idle.symm.trans again }
    · exact submitted.trans_ne (inv.started (called.symm.trans start))
    · exact submitted.trans (inv.stopped (called.symm.trans stop))
    · rcases inv.live i (submitted.symm.trans live) with waiting | ⟨_, _, uninterrupted⟩
      · have other : i ≠ k := by
          rintro rfl
          cases waiting.symm.trans looping
        exact Or.inl ((others i other).trans waiting)
      · cases uninterrupted.symm.trans interrupted
  · cases taken

theorem inv_step {action : Action} (inv : s.Inv) (single : SingleRun s action)
    (taken : s.step action = some t) : t.Inv := by
  cases action with
  | call call =>
    cases call with
    | startMonitor => exact inv_start inv taken
    | stopMonitor => exact inv_stop inv taken
  | begin => exact inv_begin inv single taken
  | iterate =>
    obtain ⟨_, _, rfl⟩ := Option.map_eq_some_iff.mp taken
    exact inv
  | interrupt => exact inv_interrupt inv taken
  | postFails => exact single.elim

end Steps

theorem step_kept {s t : ANRMonitor} {action : Action} (other : ∀ call, action ≠ .call call)
    (taken : s.step action = some t) : t.lastCall = s.lastCall ∧ t.future = s.future := by
  have finished := fun (s : ANRMonitor) k outcome =>
    And.intro (finish_kept s k outcome).1 (finish_kept s k outcome).2.1
  cases action with
  | call call => exact absurd rfl (other call)
  | begin =>
    simp only [step, begin] at taken
    split at taken
    · split at taken
      · cases taken
        exact ⟨rfl, rfl⟩
      · split at taken <;> cases taken
        · exact ⟨rfl, rfl⟩
        · exact finished { s with queue := _, interrupted := false } _ _
    · cases taken
  | iterate =>
    obtain ⟨_, _, rfl⟩ := Option.map_eq_some_iff.mp taken
    exact ⟨rfl, rfl⟩
  | interrupt =>
    simp only [step] at taken
    split at taken
    · obtain ⟨k, _, rfl⟩ := Option.map_eq_some_iff.mp taken
      exact finished s k .done
    · cases taken
  | postFails =>
    obtain ⟨k, _, rfl⟩ := Option.map_eq_some_iff.mp taken
    exact finished s k .done

/-- After a stop the monitor is not running, in whatever runs it has begun. -/
theorem not_running_after_stop {s : ANRMonitor} {actions : List Action}
    (reach : run step new actions = some s) (stop : s.lastCall = some .stopMonitor) :
    s.isRunning = false := by
  have preserved : ∀ s action t, (s.lastCall = some .stopMonitor → s.future = none) →
      step s action = some t → (t.lastCall = some .stopMonitor → t.future = none) := by
    intro s action t idle taken called
    by_cases other : ∀ call, action ≠ .call call
    · obtain ⟨same, future⟩ := step_kept other taken
      exact future.trans (idle (same.symm.trans called))
    · push Not at other
      obtain ⟨call, rfl⟩ := other
      cases call with
      | startMonitor =>
        obtain ⟨_, _, rfl⟩ := Option.map_eq_some_iff.mp taken
        cases called
      | stopMonitor =>
        obtain ⟨u, stopped, rfl⟩ := Option.map_eq_some_iff.mp taken
        rw [stopMonitor_eq] at stopped
        cases stopped
        rfl
  have idle := run_invariant preserved (fun _ => rfl : new.lastCall = _ → new.future = none) reach
  rw [isRunning, idle stop]

/-- Whatever is called, as long as the executor begins no second run. -/
theorem obeys_of_singleRun {s : ANRMonitor} {actions : List Action}
    (reach : run (restrict SingleRun step) new actions = some s) : s.Obeys := by
  have inv : s.Inv := run_restrict_invariant (fun _ _ _ => inv_step) inv_new reach
  exact inv.obeys

/-- A start that is stopped before the executor has begun it, and a second one. -/
theorem obeys_restarted : ∃ s, run (restrict SingleRun step) new
    [.call .startMonitor, .call .stopMonitor, .call .startMonitor, .begin, .begin, .iterate] =
      some s ∧ s.Obeys := by
  have reach : ∃ s, run (restrict SingleRun step) new
      [.call .startMonitor, .call .stopMonitor, .call .startMonitor, .begin, .begin, .iterate] =
        some s := ⟨_, rfl⟩
  obtain ⟨s, reach⟩ := reach
  exact ⟨s, reach, obeys_of_singleRun reach⟩

/-- Stopped and started again, the monitor does not come back: the thread
cannot be started twice. -/
theorem restart_fails : ∃ s, run step new
    [.call .startMonitor, .begin, .call .stopMonitor, .interrupt, .call .startMonitor, .begin] =
      some s ∧ s.tasks[1]? = some ⟨.failed, .ended⟩ ∧ ¬ s.Obeys := by
  refine ⟨_, rfl, rfl, fun obeys => ?_⟩
  obtain ⟨i, task, submitted, found, begun⟩ := obeys.1 rfl
  cases submitted
  cases found
  exact absurd (begun Body.noConfusion) (by decide)

end ANRMonitor

end AgentNDK
