import AgentNDK.AnrHandler

namespace AgentNDK
open Runs

/-- What the detections of a session leave in `anr_monitor_tid`. -/
def sessionTid (abi : Abi) (detections : List TaskDir) : Int32 :=
  detections.foldl (fun tid dir => detectLoop abi dir tid (dir.names.getD [])) (-1)

/-- A relay goes to the process itself, and there to the Signal Catcher that
the detection of the session has found. -/
def Relay.OnTarget (abi : Abi) (getpid : Int32) (r : Relay) : Prop :=
  r.pid = getpid ∧ r.tid = sessionTid abi r.detections ∧
    ∃ dir ∈ r.detections, dir.Identifies abi r.tid

/-- No watchdog relays once a shutdown has reset the target. -/
def BeforeReset (s : AnrHandler) : AnrAction → Prop
  | .watchdog index _ => s.watchdogs[index]? = some .relaying → s.reset = false
  | _ => True

instance : (s : AnrHandler) → (action : AnrAction) → Decidable (BeforeReset s action)
  | _, .watchdog _ _ => inferInstanceAs (Decidable (_ → _))
  | _, .handlerInitialize _ | _, .handlerShutdown | _, .call _ | _, .deliver _ | _, .intercept _ _ =>
    instDecidableTrue

theorem sessionTid_append {abi : Abi} {detections : List TaskDir} {dir : TaskDir} {tid : Int32}
    (found : detectAndroidAnrHandler abi dir (sessionTid abi detections) = .ok tid) :
    sessionTid abi (detections ++ [dir]) = tid := by
  obtain ⟨names, listed, found⟩ := deref_bind_eq_ok.mp found
  cases found
  simp [sessionTid, List.foldl_append, listed]

/-- The target and the relays as long as none follows a reset. -/
structure AnrHandler.Aims (abi : Abi) (getpid : Int32) (s : AnrHandler) : Prop where
  pid : s.reset = false → s.pid = getpid
  tid : s.anrMonitorTid = sessionTid abi s.detections
  found : s.anrMonitorTid = -1 ∨ ∃ dir ∈ s.detections, dir.Identifies abi s.anrMonitorTid
  /-- a watchdog that has tested the target still has it -/
  aimed : .relaying ∈ s.watchdogs → s.reset = false →
    ∃ dir ∈ s.detections, dir.Identifies abi s.anrMonitorTid
  forgetting : s.caller = .forgetting → s.reset = true
  relays : ∀ r ∈ s.relays, r.OnTarget abi getpid

theorem start_aims (abi : Abi) (getpid : Int32) (sigquit : QuitAction) :
    (AnrHandler.start getpid sigquit).Aims abi getpid where
  pid := fun _ => rfl
  tid := rfl
  found := Or.inl rfl
  aimed := fun member => absurd member List.not_mem_nil
  forgetting := Calling.noConfusion
  relays := fun _ member => absurd member List.not_mem_nil

section Steps
variable {abi : Abi} {getpid : Int32} {s t : AnrHandler}

theorem aims_detection {dir : TaskDir} (aims : s.Aims abi getpid)
    (taken : s.step abi (.handlerInitialize dir) = some t) : t.Aims abi getpid := by
  obtain ⟨_, tid, detected, rfl⟩ := AnrHandler.handlerInitialize_taken taken
  have kept : (∃ old ∈ s.detections, old.Identifies abi s.anrMonitorTid) →
      ∃ new ∈ s.detections ++ [dir], new.Identifies abi tid := by
    rintro ⟨old, member, identifies⟩
    rcases detectAndroidAnrHandler_identifies detected with same | new
    · exact ⟨old, List.mem_append_left _ member, same ▸ identifies⟩
    · exact ⟨dir, by simp, new⟩
  exact
    { aims with
      tid := (sessionTid_append (aims.tid ▸ detected)).symm
      found := by
        rcases detectAndroidAnrHandler_identifies detected with same | new
        · exact aims.found.imp same.trans kept
        · exact Or.inr ⟨dir, by simp, new⟩
      aimed := fun member running => kept (aims.aimed member running)
      forgetting := Calling.noConfusion }

theorem aims_call {succeeds : Bool} (aims : s.Aims abi getpid)
    (taken : s.step abi (.call succeeds) = some t) : t.Aims abi getpid := by
  have moved := AnrHandler.call_taken taken
  have frame := AnrHandler.callStep_frame moved
  have order := AnrHandler.callStep_order moved
  by_cases resetting : s.caller = .resetting
  · rw [resetting] at moved
    cases moved
    exact { aims with
      pid := Bool.noConfusion
      aimed := fun _ => Bool.noConfusion
      forgetting := fun _ => rfl }
  by_cases forgetting : s.caller = .forgetting
  · have reset := aims.forgetting forgetting
    rw [forgetting] at moved
    cases moved
    exact { aims with
      tid := rfl
      found := Or.inl rfl
      aimed := fun _ running => absurd (reset.symm.trans running) Bool.noConfusion
      forgetting := Calling.noConfusion }
  obtain ⟨pid, reset⟩ := frame.pid resetting
  obtain ⟨tid, detections⟩ := frame.anrMonitorTid forgetting
  exact
    { pid := fun running => pid.trans (aims.pid (reset.symm.trans running))
      tid := by rw [tid, detections, aims.tid]
      found := by
        rw [tid, detections]
        exact aims.found
      aimed := fun member running => by
        have old := (AnrHandler.mem_callStep_watchdogs moved member).resolve_right Watchdog.noConfusion
        rw [tid, detections]
        exact aims.aimed old (reset.symm.trans running)
      forgetting := fun next => absurd (order.forgetting next) resetting
      relays := frame.relays ▸ aims.relays }

theorem aims_watchdog {index : Nat} {succeeds : Bool} (aims : s.Aims abi getpid)
    (early : BeforeReset s (.watchdog index succeeds))
    (taken : s.step abi (.watchdog index succeeds) = some t) : t.Aims abi getpid := by
  obtain ⟨place, next, u, found, moved, rfl⟩ := AnrHandler.watchdog_taken taken
  have listed : place ∈ s.watchdogs := List.mem_of_getElem? found
  -- only a watchdog that has just tested the target is new at the relay
  have settle : (next = .relaying → s.reset = false →
      ∃ dir ∈ s.detections, dir.Identifies abi s.anrMonitorTid) → .relaying ∈ s.watchdogs.set index next →
      s.reset = false → ∃ dir ∈ s.detections, dir.Identifies abi s.anrMonitorTid := by
    intro new member running
    rcases List.mem_or_eq_of_mem_set member with old | same
    · exact aims.aimed old running
    · exact new same.symm running
  cases place with
  | targeting =>
    cases moved
    refine { aims with aimed := settle fun relaying running => ?_ }
    split at relaying
    · rename_i valid
      rcases aims.found with unset | found
      · exact absurd valid.2 (by rw [unset]; decide)
      · exact found
    · cases relaying
  | relaying =>
    cases moved
    have running := early found
    refine { aims with aimed := settle Watchdog.noConfusion, relays := fun r member => ?_ }
    rcases List.mem_append.mp member with old | new
    · exact aims.relays r old
    · cases List.mem_singleton.mp new
      exact ⟨aims.pid running, aims.tid, aims.aimed listed running⟩
  | waiting =>
    simp only [AnrHandler.watchdogStep] at moved
    split at moved
    · split at moved <;> cases moved
      exact { aims with aimed := settle Watchdog.noConfusion }
    · cases moved
      exact { aims with aimed := settle Watchdog.noConfusion }
  | looping | choosing | polling | testing =>
    cases moved
    refine { aims with aimed := settle fun relaying => ?_ }
    split at relaying <;> cases relaying
  | clearing =>
    cases moved
    exact { aims with aimed := settle Watchdog.noConfusion }
  | ended => cases moved

theorem aims_step {action : AnrAction} (aims : s.Aims abi getpid) (early : BeforeReset s action)
    (taken : s.step abi action = some t) : t.Aims abi getpid := by
  cases action with
  | handlerInitialize dir => exact aims_detection aims taken
  | call succeeds => exact aims_call aims taken
  | watchdog index succeeds => exact aims_watchdog aims early taken
  | handlerShutdown =>
    obtain ⟨_, rfl⟩ := AnrHandler.handlerShutdown_taken taken
    exact { aims with forgetting := Calling.noConfusion }
  | deliver recipient =>
    obtain ⟨_, rfl⟩ := AnrHandler.deliver_taken taken
    exact { aims with }
  | intercept index succeeds =>
    obtain ⟨_, _, _, _, moved, rfl⟩ := AnrHandler.intercept_taken taken
    obtain ⟨_, _, _, rfl⟩ := AnrHandler.interceptStep_writes moved
    exact { aims with }

/-- The pid stays what it was until a shutdown sets it to zero. -/
def AnrHandler.PidReset (s : AnrHandler) : Prop :=
  s.reset = true → s.pid = 0

theorem pidReset_step {action : AnrAction} (inv : s.PidReset) (taken : s.step abi action = some t) :
    t.PidReset := by
  cases action with
  | call succeeds =>
    have moved := AnrHandler.call_taken taken
    by_cases resetting : s.caller = .resetting
    · rw [resetting] at moved
      cases moved
      exact fun _ => rfl
    · obtain ⟨pid, reset⟩ := (AnrHandler.callStep_frame moved).pid resetting
      exact fun done => pid.trans (inv (reset.symm.trans done))
  | _ =>
    have kept := AnrHandler.step_kept taken fun _ => AnrAction.noConfusion
    exact fun done => kept.pid.trans (inv (kept.reset.symm.trans done))

/-- A relay that has been made stays made. -/
theorem relays_step {action : AnrAction} {r : Relay} (made : r ∈ s.relays)
    (taken : s.step abi action = some t) : r ∈ t.relays := by
  cases action with
  | call succeeds => exact (AnrHandler.callStep_frame (AnrHandler.call_taken taken)).relays ▸ made
  | _ => exact (AnrHandler.step_kept taken fun _ => AnrAction.noConfusion).relays r made

/-- A relay after a reset goes to process 0. -/
theorem late_relay {action : AnrAction} (inv : s.PidReset) (late : ¬ BeforeReset s action)
    (taken : s.step abi action = some t) : ∃ r ∈ t.relays, r.pid = 0 := by
  cases action with
  | watchdog index succeeds =>
    obtain ⟨relaying, reset⟩ := Classical.not_imp.mp late
    obtain ⟨place, next, u, found, moved, rfl⟩ := AnrHandler.watchdog_taken taken
    cases Option.some.inj (relaying.symm.trans found)
    cases moved
    exact ⟨_, List.mem_append_right _ (List.mem_singleton_self _), inv (by simpa using reset)⟩
  | _ => exact absurd trivial late

end Steps

/-- Every relay is on target exactly in the runs in which no watchdog relays
after a shutdown has reset the target. -/
theorem relays_on_target_iff {abi : Abi} {getpid : Int32} {sigquit : QuitAction} {s : AnrHandler}
    {actions : List AnrAction} (positive : 0 < getpid)
    (reach : run (AnrHandler.step abi) (.start getpid sigquit) actions = some s) :
    (∀ r ∈ s.relays, r.OnTarget abi getpid) ↔
      run (restrict BeforeReset (AnrHandler.step abi)) (.start getpid sigquit) actions = some s := by
  constructor
  · intro targeted
    have fresh : (AnrHandler.start getpid sigquit).PidReset := Bool.noConfusion
    have kept : ∀ s action t, (∃ r ∈ s.relays, r.pid = 0) → AnrHandler.step abi s action = some t →
        ∃ r ∈ t.relays, r.pid = 0 := by
      rintro s action t ⟨r, made, pid⟩ taken
      exact ⟨r, relays_step made taken, pid⟩
    rcases run_restrict_or (fun _ _ _ => pidReset_step) (fun _ _ _ => late_relay) kept fresh reach with
      early | ⟨r, made, pid⟩
    · exact early
    · exact absurd (pid.symm.trans (targeted r made).1) (Int32.ne_of_lt positive)
  · intro early
    have aims : s.Aims abi getpid :=
      run_restrict_invariant (fun _ _ _ => aims_step) (start_aims abi getpid sigquit) early
    exact aims.relays

/-- The ANR of a first session is relayed to the Signal Catcher. -/
theorem relays_on_target_first : ∃ s,
    run (AnrHandler.step .aarch64) (.start 1000 (.other ⟨.sigDfl, 0, 0⟩))
      (initializeActions ++ waitActions 0 ++ interceptActions .caller 0 ++ relayActions 0) = some s ∧
    (∀ r ∈ s.relays, r.OnTarget .aarch64 1000) ∧ s.relays.map Relay.tid = [1007] := by
  obtain ⟨s, early⟩ : ∃ s, run (restrict BeforeReset (AnrHandler.step .aarch64))
      (.start 1000 (.other ⟨.sigDfl, 0, 0⟩))
      (initializeActions ++ waitActions 0 ++ interceptActions .caller 0 ++ relayActions 0) = some s :=
    ⟨_, rfl⟩
  have reach := run_of_restrict early
  refine ⟨s, reach, (relays_on_target_iff (by decide) reach).mpr early, ?_⟩
  cases early
  rfl

/-- A session, its shutdown, and a second session with one ANR. -/
def secondSession : List AnrAction :=
  initializeActions ++ waitActions 0 ++ shutdownActions 0 ++ initializeActions ++ waitActions 1 ++
    interceptActions .caller 0 ++ relayActions 1

/-- The second session finds the Signal Catcher, and relays to process 0. -/
theorem second_session_off_target : ∃ s,
    run (AnrHandler.step .aarch64) (.start 1000 (.other ⟨.sigDfl, 0, 0⟩)) secondSession = some s ∧
      ∃ r ∈ s.relays, r.tid = 1007 ∧ r.pid = 0 ∧ ¬ r.OnTarget .aarch64 1000 := by
  have relayed : ((run (AnrHandler.step .aarch64) (.start 1000 (.other ⟨.sigDfl, 0, 0⟩))
      secondSession).map fun s => s.relays.map fun r => (r.tid, r.pid)) = some [(1007, 0)] := by
    decide +kernel
  obtain ⟨s, reach, relays⟩ := Option.map_eq_some_iff.mp relayed
  obtain ⟨r, made, target⟩ := List.mem_map.mp (relays ▸ List.mem_singleton_self _)
  obtain ⟨tid, pid⟩ := Prod.mk.inj target
  exact ⟨s, reach, r, made, tid, pid, fun aimed => absurd (pid.symm.trans aimed.1) (by decide)⟩

end AgentNDK
