import AgentNDK.AnrWatchdog
import AgentNDK.NativeContext

namespace AgentNDK
open Runs
variable {tgt : Target}

/-- The agent between `nativeStart` and `nativeStop`, as far as ANRs go. -/
structure NativeAgent (tgt : Target) where
  anr : AnrHandler
  nativeContext : NativeContext tgt
  /-- a `nativeStop` is in `anr_handler_shutdown` -/
  stopping : Bool
  /-- the last call of `nativeStart` and `nativeStop` is a `nativeStop` that has returned -/
  stopped : Bool

def NativeAgent.load (tgt : Target) (getpid : Int32) (sigquit : Sigaction) : NativeAgent tgt where
  anr := .start getpid (.other sigquit)
  nativeContext := .zeroed tgt
  stopping := false
  stopped := false

inductive NativeAction
  | nativeStart (env : Option JNIEnv) (managedContext : Option Jobject) (dir : TaskDir)
  | nativeSetContext (env : Option JNIEnv) (managedContext : Option Jobject)
  | nativeStop
  /-- the next statement of the call in progress -/
  | call (succeeds : Bool)
  /-- a watchdog or an activation of the interceptor goes on, or one is delivered -/
  | deliver (recipient : Recipient)
  | intercept (index : Nat) (succeeds : Bool)
  | watchdog (index : Nat) (succeeds : Bool)

namespace NativeAgent

/-- The calls come one after another. What the other handlers do in them is
left out, since it does not touch SIGQUIT or the watchdog. -/
def step (s : NativeAgent tgt) : NativeAction → Option (NativeAgent tgt)
  | .nativeStart env managedContext dir =>
    if s.anr.caller = .idle then
      match setNativeContext env managedContext s.nativeContext with
      | .ok context =>
        if context.anrMonitorEnabled then
          (s.anr.step tgt.abi (.handlerInitialize dir)).map fun anr =>
            { s with anr := anr, nativeContext := context, stopped := false }
        else some { s with nativeContext := context, stopped := false }
      | .error _ => none
    else none
  | .nativeSetContext env managedContext =>
    if s.anr.caller = .idle then
      match setNativeContext env managedContext s.nativeContext with
      | .ok context => some { s with nativeContext := context }
      | .error _ => none
    else none
  | .nativeStop =>
    if s.anr.caller = .idle then
      if s.nativeContext.anrMonitorEnabled then
        (s.anr.step tgt.abi .handlerShutdown).map fun anr =>
          { s with anr := anr, stopping := true, stopped := false }
      else some { s with stopped := true }
    else none
  | .call succeeds =>
    (s.anr.step tgt.abi (.call succeeds)).map fun anr =>
      if s.stopping = true ∧ anr.caller = .idle then
        { s with anr := anr, stopping := false, stopped := true }
      else { s with anr := anr }
  | .deliver recipient =>
    (s.anr.step tgt.abi (.deliver recipient)).map fun anr => { s with anr := anr }
  | .intercept index succeeds =>
    (s.anr.step tgt.abi (.intercept index succeeds)).map fun anr => { s with anr := anr }
  | .watchdog index succeeds =>
    (s.anr.step tgt.abi (.watchdog index succeeds)).map fun anr => { s with anr := anr }

/-- After a `nativeStop` no watchdog runs and SIGQUIT is as it was at load time. -/
def Undone (sigquit : Sigaction) (s : NativeAgent tgt) : Prop :=
  s.stopped = true → (∀ index, ¬ s.anr.Alive index) ∧ s.anr.sigquit = .other sigquit

/-- SIGQUIT is never installed, a watchdog is created only when no other is
alive, and a `nativeStop` finds the flag set or no watchdog alive. -/
def Undoable (s : NativeAgent tgt) : NativeAction → Prop
  | .call succeeds => (s.anr.caller = .installing → succeeds = false) ∧
      (s.anr.caller = .creating → succeeds = true → ∀ place ∈ s.anr.watchdogs, place = .ended)
  | .nativeStop => s.nativeContext.anrMonitorEnabled = true ∨ ∀ place ∈ s.anr.watchdogs, place = .ended
  | _ => True

instance : (s : NativeAgent tgt) → (action : NativeAction) → Decidable (Undoable s action)
  | _, .call _ => inferInstanceAs (Decidable (_ ∧ _))
  | _, .nativeStop => inferInstanceAs (Decidable (_ ∨ _))
  | _, .nativeStart _ _ _ | _, .nativeSetContext _ _ | _, .deliver _ | _, .intercept _ _
  | _, .watchdog _ _ => instDecidableTrue

/-- What holds as long as there is nothing that a `nativeStop` leaves behind. -/
structure Undoing (sigquit : Sigaction) (s : NativeAgent tgt) : Prop where
  sigquit : s.anr.sigquit = .other sigquit
  single : s.anr.Single
  joined : s.anr.caller.joined = true → ∀ index, ¬ s.anr.Alive index
  stopping : s.stopping = true → s.anr.caller.stopping = true
  stopped : s.stopped = true → s.anr.caller = .idle ∧ ∀ index, ¬ s.anr.Alive index

theorem load_undoing (tgt : Target) (getpid : Int32) (sigquit : Sigaction) :
    (load tgt getpid sigquit).Undoing sigquit where
  sigquit := rfl
  single := fun _ ⟨_, found, _⟩ => nomatch found
  joined := Bool.noConfusion
  stopping := Bool.noConfusion
  stopped := Bool.noConfusion

section Steps
variable {sigquit : Sigaction} {s t : NativeAgent tgt}

theorem not_alive_of_ended {anr : AnrHandler} (ended : ∀ place ∈ anr.watchdogs, place = .ended)
    (index : Nat) : ¬ anr.Alive index := by
  rintro ⟨place, found, running⟩
  exact running (ended place (List.mem_of_getElem? found))

theorem undoing_nativeStart {env : Option JNIEnv} {managedContext : Option Jobject} {dir : TaskDir}
    (undoing : s.Undoing sigquit) (taken : s.step (.nativeStart env managedContext dir) = some t) :
    t.Undoing sigquit := by
  simp only [step] at taken
  split at taken
  · rename_i idle
    split at taken
    · rename_i context _
      split at taken
      · obtain ⟨anr, started, rfl⟩ := Option.map_eq_some_iff.mp taken
        obtain ⟨_, _, _, rfl⟩ := AnrHandler.handlerInitialize_taken started
        exact { undoing with
          joined := Bool.noConfusion
          stopping := fun stopping => by
            have stops := undoing.stopping stopping
            rw [idle] at stops
            cases stops
          stopped := Bool.noConfusion }
      · cases taken
        exact { undoing with stopped := Bool.noConfusion }
    · cases taken
  · cases taken

theorem undoing_nativeSetContext {env : Option JNIEnv} {managedContext : Option Jobject}
    (undoing : s.Undoing sigquit) (taken : s.step (.nativeSetContext env managedContext) = some t) :
    t.Undoing sigquit := by
  simp only [step] at taken
  split at taken
  · split at taken <;> cases taken
    exact { undoing with }
  · cases taken

theorem undoing_nativeStop (undoing : s.Undoing sigquit) (undoable : Undoable s .nativeStop)
    (taken : s.step .nativeStop = some t) : t.Undoing sigquit := by
  simp only [step] at taken
  split at taken
  · rename_i idle
    split at taken
    · obtain ⟨anr, begun, rfl⟩ := Option.map_eq_some_iff.mp taken
      obtain ⟨_, rfl⟩ := AnrHandler.handlerShutdown_taken begun
      exact { undoing with
        joined := Bool.noConfusion
        stopping := fun _ => rfl
        stopped := Bool.noConfusion }
    · rename_i off
      cases taken
      exact { undoing with
        stopped := fun _ => ⟨idle, not_alive_of_ended (undoable.resolve_left off)⟩ }
  · cases taken

theorem undoing_call {succeeds : Bool} (undoing : s.Undoing sigquit)
    (undoable : Undoable s (.call succeeds)) (taken : s.step (.call succeeds) = some t) :
    t.Undoing sigquit := by
  obtain ⟨anr, called, rfl⟩ := Option.map_eq_some_iff.mp taken
  obtain ⟨refused, alone⟩ := undoable
  have single := undoing.single.call alone called
  have moved := AnrHandler.call_taken called
  have frame := AnrHandler.callStep_frame moved
  have order := AnrHandler.callStep_order moved
  have disposition : anr.sigquit = .other sigquit := by
    by_cases installing : s.anr.caller = .installing
    · rw [installing, refused installing] at moved
      cases moved
      exact undoing.sigquit
    · exact (frame.sigquit installing).trans undoing.sigquit
  -- a call in progress is not one that has stopped
  have running : s.stopped = false := by
    refine Bool.eq_false_iff.mpr fun stopped => ?_
    rw [(undoing.stopped stopped).1] at moved
    cases moved
  have none_alive : anr.caller.joined = true ∨ s.anr.caller.joined = true →
      ∀ index, ¬ anr.Alive index := by
    have kept : s.anr.caller.joined = true → ∀ index, ¬ anr.Alive index := by
      intro was index alive
      have other : s.anr.caller ≠ .creating := fun creating => by
        rw [creating] at was
        cases was
      exact undoing.joined was index (alive.of_watchdogs (frame.watchdogs other).symm)
    rintro (now | was)
    · rcases order.joined now with was | ⟨_, none⟩
      · exact kept was
      · intro index alive
        exact nomatch none.symm.trans (single index alive)
    · exact kept was
  split
  · rename_i returned
    have was : s.anr.caller.joined = true := by
      rcases order.stopped (undoing.stopping returned.1) with stops | ⟨_, was⟩
      · rw [returned.2] at stops
        cases stops
      · exact was
    exact
      { sigquit := disposition
        single := single
        joined := fun now => none_alive (Or.inl now)
        stopping := Bool.noConfusion
        stopped := fun _ => ⟨returned.2, none_alive (Or.inr was)⟩ }
  · rename_i goes
    exact
      { sigquit := disposition
        single := single
        joined := fun now => none_alive (Or.inl now)
        stopping := fun stops =>
          (order.stopped (undoing.stopping stops)).resolve_right fun idle => goes ⟨stops, idle.1⟩
        stopped := fun stopped => absurd (running.symm.trans stopped) Bool.noConfusion }

theorem undoing_step {action : NativeAction} (undoing : s.Undoing sigquit)
    (undoable : Undoable s action) (taken : s.step action = some t) : t.Undoing sigquit := by
  cases action with
  | nativeStart env managedContext dir => exact undoing_nativeStart undoing taken
  | nativeSetContext env managedContext => exact undoing_nativeSetContext undoing taken
  | nativeStop => exact undoing_nativeStop undoing undoable taken
  | call succeeds => exact undoing_call undoing undoable taken
  | deliver recipient =>
    obtain ⟨anr, delivered, rfl⟩ := Option.map_eq_some_iff.mp taken
    obtain ⟨_, rfl⟩ := AnrHandler.deliver_taken delivered
    exact { undoing with }
  | intercept index succeeds =>
    obtain ⟨anr, went, rfl⟩ := Option.map_eq_some_iff.mp taken
    obtain ⟨_, _, _, _, moved, rfl⟩ := AnrHandler.intercept_taken went
    obtain ⟨_, _, _, rfl⟩ := AnrHandler.interceptStep_writes moved
    exact { undoing with }
  | watchdog index succeeds =>
    obtain ⟨anr, went, rfl⟩ := Option.map_eq_some_iff.mp taken
    have same : anr.sigquit = s.anr.sigquit ∧ anr.caller = s.anr.caller := by
      obtain ⟨_, _, _, _, moved, rfl⟩ := AnrHandler.watchdog_taken went
      obtain ⟨_, _, _, rfl⟩ := AnrHandler.watchdogStep_writes moved
      exact ⟨rfl, rfl⟩
    obtain ⟨disposition, caller⟩ := same
    exact
      { sigquit := disposition.trans undoing.sigquit
        single := undoing.single.watchdog went
        joined := fun joined index alive =>
          undoing.joined (caller ▸ joined) index (alive.before_watchdog went)
        stopping := fun stopping => caller ▸ undoing.stopping stopping
        stopped := fun stopped => ⟨caller.trans (undoing.stopped stopped).1, fun index alive =>
          (undoing.stopped stopped).2 index (alive.before_watchdog went)⟩ }

end Steps

end NativeAgent

/-- As long as SIGQUIT is never installed, watchdogs do not pile up and the
flag is not cleared under one, every `nativeStop` undoes what went before. -/
theorem nativeStop_undoes {getpid : Int32} {sigquit : Sigaction} {s : NativeAgent tgt}
    {actions : List NativeAction}
    (reach : run (restrict NativeAgent.Undoable NativeAgent.step) (.load tgt getpid sigquit) actions =
      some s) : s.Undone sigquit := by
  have undoing : s.Undoing sigquit :=
    run_restrict_invariant (fun _ _ _ => NativeAgent.undoing_step)
      (NativeAgent.load_undoing tgt getpid sigquit) reach
  exact fun stopped => ⟨(undoing.stopped stopped).2, undoing.sigquit⟩

/-- Nothing uninstalls the handler of SIGQUIT. -/
theorem sigquit_step {abi : Abi} {s t : AnrHandler} {action : AnrAction}
    (installed : s.sigquit = .anrInterceptor) (taken : s.step abi action = some t) :
    t.sigquit = .anrInterceptor := by
  cases action with
  | call succeeds =>
    have moved := AnrHandler.call_taken taken
    by_cases installing : s.caller = .installing
    · simp only [installing, AnrHandler.callStep] at moved
      split at moved <;> cases moved
      · rfl
      · exact installed
    · exact ((AnrHandler.callStep_frame moved).sigquit installing).trans installed
  | _ => exact (AnrHandler.step_kept taken fun _ => AnrAction.noConfusion).sigquit.trans installed

/-- What a step of the agent does to the handler. -/
theorem NativeAgent.step_anr {s t : NativeAgent tgt} {action : NativeAction}
    (taken : s.step action = some t) : t.anr = s.anr ∨ ∃ step, s.anr.step tgt.abi step = some t.anr := by
  cases action with
  | nativeStart env managedContext dir =>
    simp only [step] at taken
    split at taken
    · split at taken
      · split at taken
        · obtain ⟨anr, started, rfl⟩ := Option.map_eq_some_iff.mp taken
          exact Or.inr ⟨_, started⟩
        · cases taken
          exact Or.inl rfl
      · cases taken
    · cases taken
  | nativeSetContext env managedContext =>
    simp only [step] at taken
    split at taken
    · split at taken <;> cases taken
      exact Or.inl rfl
    · cases taken
  | nativeStop =>
    simp only [step] at taken
    split at taken
    · split at taken
      · obtain ⟨anr, begun, rfl⟩ := Option.map_eq_some_iff.mp taken
        exact Or.inr ⟨_, begun⟩
      · cases taken
        exact Or.inl rfl
    · cases taken
  | call succeeds =>
    obtain ⟨anr, called, rfl⟩ := Option.map_eq_some_iff.mp taken
    split <;> exact Or.inr ⟨_, called⟩
  | deliver recipient =>
    obtain ⟨anr, went, rfl⟩ := Option.map_eq_some_iff.mp taken
    exact Or.inr ⟨_, went⟩
  | intercept index succeeds =>
    obtain ⟨anr, went, rfl⟩ := Option.map_eq_some_iff.mp taken
    exact Or.inr ⟨_, went⟩
  | watchdog index succeeds =>
    obtain ⟨anr, went, rfl⟩ := Option.map_eq_some_iff.mp taken
    exact Or.inr ⟨_, went⟩

/-- Once SIGQUIT has been installed, no later `nativeStop` undoes it. -/
theorem installed_not_undone {s t : NativeAgent tgt} {sigquit : Sigaction} {actions : List NativeAction}
    (installed : s.anr.sigquit = .anrInterceptor) (reach : run NativeAgent.step s actions = some t)
    (stopped : t.stopped = true) : ¬ t.Undone sigquit := by
  have stays : t.anr.sigquit = .anrInterceptor := by
    refine run_invariant (I := fun s => s.anr.sigquit = .anrInterceptor) ?_ installed reach
    intro s action t installed taken
    rcases NativeAgent.step_anr taken with same | ⟨_, stepped⟩
    · exact same ▸ installed
    · exact sigquit_step installed stepped
  intro undone
  exact nomatch stays.symm.trans (undone stopped).2

/-- A JVM with a managed context that has the ANR monitor on or off. -/
def anrContext (anrMonitor : Bool) : Option JNIEnv :=
  some (.holding ⟨some "/data/cache", some "session", some "build", anrMonitor⟩)

/-- `nativeStart` with the flag set, its watchdog waiting. -/
def nativeSession (sigaction : Bool) : List NativeAction :=
  [.nativeStart (anrContext true) (some 1) .usual, .call true, .call true, .call true, .call sigaction] ++
    List.replicate 3 (.call true) ++ List.replicate 3 (.watchdog 0 true)

/-- A `nativeStop` that finds the flag set. -/
def nativeStopped : List NativeAction :=
  [.nativeStop] ++ List.replicate 2 (.call true) ++ List.replicate 3 (.watchdog 0 true) ++
    List.replicate 6 (.call true)

/-- Where the system refuses the handler, the stop undoes the start. -/
theorem nativeStop_undoes_refused : ∃ s, run (restrict NativeAgent.Undoable NativeAgent.step)
    (.load .arm64Build 1000 ⟨.sigDfl, 0, 0⟩) (nativeSession false ++ nativeStopped) = some s ∧
    s.stopped = true ∧ s.Undone ⟨.sigDfl, 0, 0⟩ := by
  have reach : ∃ s, run (restrict NativeAgent.Undoable NativeAgent.step)
      (.load .arm64Build 1000 ⟨.sigDfl, 0, 0⟩) (nativeSession false ++ nativeStopped) = some s ∧
      s.stopped = true := ⟨_, rfl, rfl⟩
  obtain ⟨s, reach, stopped⟩ := reach
  exact ⟨s, reach, stopped, nativeStop_undoes reach⟩

/-- A start and a stop leave the interceptor installed for SIGQUIT; when the
flag is cleared in between, the watchdog is left running too. -/
theorem nativeStop_leaves : ∃ s t,
    run NativeAgent.step (.load .arm64Build 1000 ⟨.sigDfl, 0, 0⟩)
      (nativeSession true ++ nativeStopped) = some s ∧
    (s.stopped = true ∧ s.anr.sigquit = .anrInterceptor ∧ ¬ s.Undone ⟨.sigDfl, 0, 0⟩) ∧
    run NativeAgent.step (.load .arm64Build 1000 ⟨.sigDfl, 0, 0⟩)
      (nativeSession true ++ [.nativeSetContext (anrContext false) (some 1), .nativeStop]) = some t ∧
    (t.stopped = true ∧ t.anr.watchdogs = [.waiting] ∧ ¬ t.Undone ⟨.sigDfl, 0, 0⟩) := by
  refine ⟨_, _, rfl, ⟨rfl, rfl, fun undone => ?_⟩, rfl, rfl, rfl, fun undone => ?_⟩
  · exact nomatch (undone rfl).2
  · exact (undone rfl).1 0 ⟨.waiting, rfl, Watchdog.noConfusion⟩

end AgentNDK
