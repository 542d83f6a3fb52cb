import AgentNDK.AnrWatchdog

namespace AgentNDK
open Runs

/-- An activation that found `enabled` set and has not done with its report. -/
def Intercepting.reporting : Intercepting → Bool
  | .locating | .collecting _ | .writing _ _ | .posting _ | .storing _ _ => true
  | _ => false

/-- An activation has found a buffer, and that buffer and what it passes on are allocated. -/
def AnrHandler.Holds (s : AnrHandler) : Intercepting → Prop
  | .missing => False
  | .collecting buffer | .posting buffer => buffer ∈ s.live
  | .writing buffer argument | .storing buffer argument =>
    buffer ∈ s.live ∧ ∃ block ∈ s.live, argument = some block
  | _ => True

/-- Every activation that found `enabled` set has an allocated buffer. -/
def AnrHandler.Buffered (s : AnrHandler) : Prop :=
  ∀ activation ∈ s.activations, s.Holds activation.place

/-- No activation looks for the buffer before the first has been allocated, and
none is reporting when a shutdown deletes it. -/
def BufferInUse (s : AnrHandler) : AnrAction → Prop
  | .intercept index _ =>
    (s.activations[index]?).map AnrActivation.place = some .locating → 0 < s.allocated
  | .call _ => s.caller = .deleting →
    ∀ activation ∈ s.activations, activation.place.reporting = false
  | _ => True

instance : (s : AnrHandler) → (action : AnrAction) → Decidable (BufferInUse s action)
  | _, .intercept _ _ => inferInstanceAs (Decidable (_ → _))
  | _, .call _ => inferInstanceAs (Decidable (_ → _))
  | _, .handlerInitialize _ | _, .handlerShutdown | _, .deliver _ | _, .watchdog _ _ => instDecidableTrue

/-- What holds as long as the buffer is there for whoever is reporting. -/
structure AnrHandler.Buffering (s : AnrHandler) : Prop where
  buffered : s.Buffered
  /-- a shutdown has deleted the buffer at the pointer -/
  live : s.caller ≠ .nulling → ∀ buffer, s.reportBuffer = some buffer → buffer ∈ s.live
  counted : ∀ block ∈ s.live, block < s.allocated
  found : 0 < s.allocated →
    s.enabled = true ∨ (∃ activation ∈ s.activations, activation.place.reporting = true) →
    s.reportBuffer ≠ none
  disabled : s.caller.stopping = true → s.enabled = false
  enabling : s.caller = .enabling → s.reportBuffer ≠ none
  nulling : s.caller = .nulling → ∀ activation ∈ s.activations, activation.place.reporting = false

theorem start_buffering (getpid : Int32) (sigquit : QuitAction) :
    (AnrHandler.start getpid sigquit).Buffering where
  buffered := fun _ member => absurd member List.not_mem_nil
  live := fun _ _ => nofun
  counted := fun _ member => absurd member List.not_mem_nil
  found := fun none => absurd none (Nat.lt_irrefl 0)
  disabled := Bool.noConfusion
  enabling := Calling.noConfusion
  nulling := fun _ _ member => absurd member List.not_mem_nil

section Steps
variable {abi : Abi} {s t : AnrHandler}

/-- Where no block is deleted, what an activation holds stays allocated. -/
theorem AnrHandler.Holds.mono {place : Intercepting} (holds : s.Holds place)
    (kept : ∀ block ∈ s.live, block ∈ t.live) : t.Holds place := by
  cases place with
  | missing => exact holds
  | collecting buffer | posting buffer => exact kept buffer holds
  | writing buffer argument | storing buffer argument =>
    obtain ⟨there, block, live, same⟩ := holds
    exact ⟨kept buffer there, block, kept block live, same⟩
  | _ => trivial

theorem holds_of_not_reporting {place : Intercepting} (idle : place.reporting = false)
    (holds : s.Holds place) : t.Holds place := by
  cases place with
  | missing => exact holds
  | collecting _ | posting _ | writing _ _ | storing _ _ | locating => cases idle
  | _ => trivial

theorem buffering_call {succeeds : Bool} (buffering : s.Buffering)
    (unused : BufferInUse s (.call succeeds)) (taken : s.step abi (.call succeeds) = some t) :
    t.Buffering := by
  have moved := AnrHandler.call_taken taken
  have order := AnrHandler.callStep_order moved
  have frame := AnrHandler.callStep_frame moved
  by_cases allocating : s.caller = .allocating
  · rw [allocating] at moved
    cases moved
    exact
      { buffered := fun activation member =>
          (buffering.buffered activation member).mono fun block => List.mem_cons_of_mem _
        live := fun _ buffer same => Option.some.inj same ▸ List.mem_cons_self
        counted := fun block member => by
          rcases List.mem_cons.mp member with new | old
          · exact new ▸ Nat.lt_succ_self _
          · exact Nat.lt_succ_of_lt (buffering.counted block old)
        found := fun _ _ => Option.some_ne_none _
        disabled := Bool.noConfusion
        enabling := fun _ => Option.some_ne_none _
        nulling := Calling.noConfusion }
  by_cases deleting : s.caller = .deleting
  · have idle := unused deleting
    have disabled := buffering.disabled (by rw [deleting]; rfl)
    simp only [deleting, AnrHandler.callStep] at moved
    split at moved <;> cases moved
    · exact { buffering with
        live := fun _ buffer same =>
          absurd (same.symm.trans (by assumption : s.reportBuffer = none)) (Option.some_ne_none buffer)
        disabled := Bool.noConfusion
        enabling := Calling.noConfusion
        nulling := Calling.noConfusion }
    · exact { buffering with
        buffered := fun activation member =>
          holds_of_not_reporting (idle activation member) (buffering.buffered activation member)
        live := fun other => absurd rfl other
        counted := fun block member => buffering.counted block (List.mem_of_mem_erase member)
        disabled := fun _ => disabled
        enabling := Calling.noConfusion
        nulling := fun _ => idle }
  by_cases at_pointer : s.caller = .nulling
  · have idle := buffering.nulling at_pointer
    have disabled := buffering.disabled (by rw [at_pointer]; rfl)
    rw [at_pointer] at moved
    cases moved
    refine { buffering with
      live := fun _ buffer same => absurd same.symm (Option.some_ne_none buffer)
      found := fun _ seen => ?_
      disabled := Bool.noConfusion
      enabling := Calling.noConfusion
      nulling := Calling.noConfusion }
    rcases seen with set | ⟨activation, member, reporting⟩
    · exact absurd (set.symm.trans disabled) Bool.noConfusion
    · exact absurd (reporting.symm.trans (idle activation member)) Bool.noConfusion
  have pointer := frame.reportBuffer allocating at_pointer
  have live := frame.live allocating deleting
  have allocated := frame.allocated allocating
  have activations := frame.activations
  refine
    { buffered := fun activation member => ?_
      live := fun _ buffer same => live ▸ buffering.live at_pointer buffer (pointer ▸ same)
      counted := fun block member => allocated ▸ buffering.counted block (live ▸ member)
      found := fun counted seen => ?_
      disabled := AnrHandler.callStep_disabled moved buffering.disabled
      enabling := fun next => absurd (order.enabling next) allocating
      nulling := fun next => absurd (order.nulling next) deleting }
  · exact (buffering.buffered activation (activations ▸ member)).mono fun _ listed => live ▸ listed
  · rw [pointer]
    by_cases sets : s.caller = .enabling
    · exact buffering.enabling sets
    · rw [frame.enabled sets, activations] at seen
      exact buffering.found (allocated ▸ counted) seen

/-- Whoever is reporting finds a live block at the pointer. -/
theorem AnrHandler.Buffering.pointer (buffering : s.Buffering) {activation : AnrActivation}
    (member : activation ∈ s.activations) (reporting : activation.place.reporting = true)
    (counted : 0 < s.allocated) : ∃ block ∈ s.live, s.reportBuffer = some block := by
  obtain ⟨block, pointer⟩ := Option.ne_none_iff_exists'.mp
    (buffering.found counted (Or.inr ⟨activation, member, reporting⟩))
  have kept : s.caller ≠ .nulling := fun nulling =>
    absurd (reporting.symm.trans (buffering.nulling nulling activation member)) Bool.noConfusion
  exact ⟨block, buffering.live kept block pointer, pointer⟩

/-- Only an activation that finds `enabled` set begins to report. -/
theorem interceptStep_reporting {succeeds : Bool} {place next : Intercepting}
    (moved : s.interceptStep succeeds place = some (next, t)) (reporting : next.reporting = true) :
    place.reporting = true ∨ s.enabled = true := by
  cases place with
  | entered =>
    cases moved
    split at reporting
    · exact Or.inr (by assumption)
    · cases reporting
  | locating | collecting _ | writing _ _ | posting _ | storing _ _ => exact Or.inl rfl
  | waking =>
    simp only [AnrHandler.interceptStep] at moved
    split at moved <;> cases moved <;> cases reporting
  | choosing =>
    cases moved
    split at reporting <;> cases reporting
  | missing | triggering | failing =>
    cases moved
    cases reporting
  | returned => cases moved

theorem AnrHandler.Buffering.holds_next (buffering : s.Buffering) {activation : AnrActivation}
    {succeeds : Bool} {next : Intercepting} (member : activation ∈ s.activations)
    (early : activation.place = .locating → 0 < s.allocated)
    (moved : s.interceptStep succeeds activation.place = some (next, t)) : s.Holds next := by
  have holds := buffering.buffered activation member
  have pointer := buffering.pointer member
  cases place : activation.place with
  | locating =>
    obtain ⟨block, live, same⟩ := pointer (by rw [place]; rfl) (early place)
    simp only [place, AnrHandler.interceptStep, same] at moved
    cases moved
    exact live
  | collecting buffer | posting buffer =>
    rw [place] at moved holds
    cases moved
    have counted := buffering.counted buffer holds
    obtain ⟨block, live, same⟩ := pointer (by rw [place]; rfl) (by omega)
    exact ⟨holds, block, live, same⟩
  | writing buffer argument =>
    rw [place] at moved holds
    cases moved
    split
    · exact holds.1
    · trivial
  | missing =>
    rw [place] at holds
    exact holds.elim
  | entered | choosing =>
    rw [place] at moved
    cases moved
    split <;> trivial
  | waking =>
    simp only [place, AnrHandler.interceptStep] at moved
    split at moved <;> cases moved <;> trivial
  | storing _ _ | triggering | failing =>
    rw [place] at moved
    cases moved
    trivial
  | returned =>
    rw [place] at moved
    cases moved

theorem buffering_intercept {index : Nat} {succeeds : Bool} (buffering : s.Buffering)
    (early : BufferInUse s (.intercept index succeeds))
    (taken : s.step abi (.intercept index succeeds) = some t) : t.Buffering := by
  obtain ⟨activation, next, u, found, moved, rfl⟩ := AnrHandler.intercept_taken taken
  have member : activation ∈ s.activations := List.mem_of_getElem? found
  have holds := buffering.holds_next member
    (fun locating => early (by rw [found, Option.map_some, locating])) moved
  have reporting := interceptStep_reporting moved
  obtain ⟨_, _, _, rfl⟩ := AnrHandler.interceptStep_writes moved
  refine { buffering with
    buffered := fun other listed => ?_
    found := fun counted seen => ?_
    nulling := fun nulling other listed => ?_ }
  · rcases List.mem_or_eq_of_mem_set listed with old | rfl
    · exact (buffering.buffered other old).mono fun _ live => live
    · exact holds.mono fun _ live => live
  · refine buffering.found counted ?_
    rcases seen with set | ⟨other, listed, reports⟩
    · exact Or.inl set
    · rcases List.mem_or_eq_of_mem_set listed with old | rfl
      · exact Or.inr ⟨other, old, reports⟩
      · rcases reporting reports with before | set
        · exact Or.inr ⟨activation, member, before⟩
        · exact Or.inl set
  · rcases List.mem_or_eq_of_mem_set listed with old | rfl
    · exact buffering.nulling nulling other old
    · refine Bool.eq_false_iff.mpr fun reports => ?_
      rcases reporting reports with before | set
      · exact absurd (before.symm.trans (buffering.nulling nulling activation member)) Bool.noConfusion
      · have disabled := buffering.disabled (by dsimp only at nulling; rw [nulling]; rfl)
        exact absurd (set.symm.trans disabled) Bool.noConfusion

theorem buffering_step {action : AnrAction} (buffering : s.Buffering) (guarded : BufferInUse s action)
    (taken : s.step abi action = some t) : t.Buffering := by
  cases action with
  | call succeeds => exact buffering_call buffering guarded taken
  | intercept index succeeds => exact buffering_intercept buffering guarded taken
  | watchdog index succeeds =>
    obtain ⟨_, _, _, _, moved, rfl⟩ := AnrHandler.watchdog_taken taken
    obtain ⟨_, _, _, rfl⟩ := AnrHandler.watchdogStep_writes moved
    exact { buffering with
      buffered := fun activation member => (buffering.buffered activation member).mono fun _ live => live }
  | deliver recipient =>
    obtain ⟨_, rfl⟩ := AnrHandler.deliver_taken taken
    refine { buffering with
      buffered := fun activation member => ?_
      found := fun counted seen => ?_
      nulling := fun nulling activation member => ?_ }
    · rcases List.mem_append.mp member with old | new
      · exact (buffering.buffered activation old).mono fun _ live => live
      · cases List.mem_singleton.mp new
        trivial
    · refine buffering.found counted (seen.imp_right ?_)
      rintro ⟨activation, member, reporting⟩
      rcases List.mem_append.mp member with old | new
      · exact ⟨activation, old, reporting⟩
      · cases List.mem_singleton.mp new
        cases reporting
    · rcases List.mem_append.mp member with old | new
      · exact buffering.nulling nulling activation old
      · cases List.mem_singleton.mp new
        rfl
  | handlerInitialize dir =>
    obtain ⟨idle, _, _, rfl⟩ := AnrHandler.handlerInitialize_taken taken
    exact { buffering with
      buffered := fun activation member => (buffering.buffered activation member).mono fun _ live => live
      live := fun _ => buffering.live (by rw [idle]; exact Calling.noConfusion)
      disabled := Bool.noConfusion
      enabling := Calling.noConfusion
      nulling := Calling.noConfusion }
  | handlerShutdown =>
    obtain ⟨idle, rfl⟩ := AnrHandler.handlerShutdown_taken taken
    exact { buffering with
      buffered := fun activation member => (buffering.buffered activation member).mono fun _ live => live
      live := fun _ => buffering.live (by rw [idle]; exact Calling.noConfusion)
      found := fun counted seen => buffering.found counted (Or.inr (seen.resolve_left Bool.noConfusion))
      disabled := fun _ => rfl
      enabling := Calling.noConfusion
      nulling := Calling.noConfusion }

end Steps

/-- As long as no activation looks for a buffer before there is one and none is
reporting when a shutdown deletes it, every report is written to an allocated buffer. -/
theorem reports_buffered {abi : Abi} {getpid : Int32} {sigquit : QuitAction} {s : AnrHandler}
    {actions : List AnrAction}
    (reach : run (restrict BufferInUse (AnrHandler.step abi)) (.start getpid sigquit) actions = some s) :
    s.Buffered := by
  have buffering : s.Buffering :=
    run_restrict_invariant (fun _ _ _ => buffering_step) (start_buffering getpid sigquit) reach
  exact buffering.buffered

/-- A session in which an activation is in `collect_backtrace`. -/
def collectingSession : List AnrAction :=
  initializeActions ++ waitActions 0 ++ [.deliver (.other 1)] ++ List.replicate 3 (.intercept 0 true)

theorem reports_buffered_collecting : ∃ s, run (restrict BufferInUse (AnrHandler.step .aarch64))
    (.start 1000 (.other ⟨.sigDfl, 0, 0⟩)) collectingSession = some s ∧
    s.activations = [⟨.other 1, .writing 0 (some 0)⟩] ∧ s.Buffered := by
  have reach : ∃ s, run (restrict BufferInUse (AnrHandler.step .aarch64))
      (.start 1000 (.other ⟨.sigDfl, 0, 0⟩)) collectingSession = some s ∧
      s.activations = [⟨.other 1, .writing 0 (some 0)⟩] := ⟨_, rfl, rfl⟩
  obtain ⟨s, reach, writing⟩ := reach
  exact ⟨s, reach, writing, reports_buffered reach⟩

/-- A shutdown deletes the buffer that an activation is writing to. -/
theorem report_unbuffered : ∃ s, run (AnrHandler.step .aarch64) (.start 1000 (.other ⟨.sigDfl, 0, 0⟩))
    (collectingSession ++ shutdownActions 0) = some s ∧
    s.activations = [⟨.other 1, .writing 0 (some 0)⟩] ∧ s.live = [] ∧ ¬ s.Buffered := by
  refine ⟨_, rfl, rfl, rfl, fun buffered => ?_⟩
  have holds := buffered ⟨.other 1, .writing 0 (some 0)⟩ (List.mem_singleton_self _)
  exact absurd holds.1 List.not_mem_nil

/-- SIGQUIT is delivered in the first session before the buffer is allocated. -/
theorem report_before_buffer : ∃ s, run (AnrHandler.step .aarch64)
    (.start 1000 (.other ⟨.sigDfl, 0, 0⟩))
    (initializeActions.take 5 ++ [.deliver (.other 1), .intercept 0 true, .intercept 0 true]) = some s ∧
    s.activations = [⟨.other 1, .missing⟩] ∧ ¬ s.Buffered := by
  refine ⟨_, rfl, rfl, fun buffered => ?_⟩
  exact buffered ⟨.other 1, .missing⟩ (List.mem_singleton_self _)

end AgentNDK
