import AgentNDK.UnwoundFrames

/-! The array of the frames under any sequence of callbacks, those after a
refused one included. -/

namespace AgentNDK
open Compaction
variable {tgt : Target}

/-- The store `state->frames[state->frame_cnt++] = ip`, where `record_frame`
gets to it: the index and the address. -/
def recordFrameStore (ip : tgt.Word) (state : BacktraceState tgt) : Option (Nat × tgt.Word) :=
  if backtraceFramesMax ≤ state.frameCnt then none
  else
    let ip := resetThumbBit tgt.abi ip
    if 0 < state.frameCnt ∧ (ip = 0 ∨ state.frames[state.frameCnt - 1]? = some ip) then none
    else some (state.frameCnt, ip)

/-- The store of a callback. -/
def unwinderCbStore (ip : tgt.Word) (state : BacktraceState tgt) : Option (Nat × tgt.Word) :=
  if ip = state.crashIp then
    recordFrameStore ip { state with skippedFrames := state.frameCnt, frameCnt := 0 }
  else recordFrameStore (adjustIp tgt.abi ip) state

/-- The state the unwinding begins with, for any crash ip. -/
def BacktraceState.begun (state : BacktraceState tgt) (crashIp : tgt.Word) : BacktraceState tgt :=
  { state with skippedFrames := 0, frameCnt := 0, crashIp := crashIp }

/-- The callbacks one after another, whatever they answer. -/
def callbacks (state : BacktraceState tgt) (ips : List tgt.Word) : BacktraceState tgt :=
  ips.foldl (fun state ip => (unwinderCb ip state).2) state

/-- The frames fit the array, none is recorded twice in a row and none but the
first is null. -/
structure BacktraceState.Proper (state : BacktraceState tgt) : Prop where
  bound : state.frameCnt ≤ backtraceFramesMax
  compacted : Compacted 0 state.recorded

theorem begun_proper (state : BacktraceState tgt) (crashIp : tgt.Word) : (state.begun crashIp).Proper where
  bound := Nat.zero_le _
  compacted := compacted_nil 0

section
variable (ip : tgt.Word) (state : BacktraceState tgt)

/-- The frames change by the store alone, and it is within the array. -/
theorem recordFrame_store : (recordFrame ip state).2.frames.toList =
      (recordFrameStore ip state).elim state.frames.toList (fun store => state.frames.toList.set store.1 store.2) ∧
    ∀ store ∈ recordFrameStore ip state, store.1 < backtraceFramesMax := by
  unfold recordFrame recordFrameStore
  by_cases full : backtraceFramesMax ≤ state.frameCnt
  · rw [dif_pos full, if_pos full]
    exact ⟨rfl, fun _ none => absurd none.symm (Option.some_ne_none _)⟩
  · rw [dif_neg full, if_neg full]
    dsimp only
    split
    · exact ⟨rfl, fun _ none => absurd none.symm (Option.some_ne_none _)⟩
    · refine ⟨Vector.toList_set (Nat.lt_of_not_le full), fun store stored => ?_⟩
      rw [← Option.some.inj stored]
      exact Nat.lt_of_not_le full

theorem unwinderCb_store : (unwinderCb ip state).2.frames.toList =
      (unwinderCbStore ip state).elim state.frames.toList (fun store => state.frames.toList.set store.1 store.2) ∧
    ∀ store ∈ unwinderCbStore ip state, store.1 < backtraceFramesMax := by
  unfold unwinderCb unwinderCbStore
  split
  · exact recordFrame_store ip { state with skippedFrames := state.frameCnt, frameCnt := 0 }
  · exact recordFrame_store _ state

/-- A callback is refused when the frames are full and the address is not the
crash ip; nothing has changed then. -/
theorem unwinderCb_refused (refused : (unwinderCb ip state).1 = false) :
    (unwinderCb ip state).2 = state := by
  rcases full_or_room ip state with ⟨other, full⟩ | room
  · rw [unwinderCb_full other full]
  · exact absurd ((unwinderCb_recorded ip room).1.symm.trans refused) Bool.noConfusion

variable {state}

theorem unwinderCb_proper (proper : state.Proper) : (unwinderCb ip state).2.Proper := by
  rcases full_or_room ip state with ⟨other, full⟩ | room
  · rw [unwinderCb_full other full]
    exact proper
  · obtain ⟨_, recorded, _, bound⟩ := unwinderCb_recorded ip room
    refine ⟨bound, ?_⟩
    rw [recorded]
    split
    · exact compacted_singleton 0 _
    · exact compacted_push 0 proper.compacted _

end

theorem callbacks_proper {state : BacktraceState tgt} (proper : state.Proper) (ips : List tgt.Word) :
    (callbacks state ips).Proper := by
  induction ips generalizing state with
  | nil => exact proper
  | cons ip ips ih => exact ih (unwinderCb_proper ip proper)

/-- The unwinder makes the callbacks up to the first refused one. -/
theorem unwindAll_callbacks (state : BacktraceState tgt) (ips : List tgt.Word) :
    ∃ made, made <+: ips ∧ unwindAll state ips = callbacks state made := by
  induction ips generalizing state with
  | nil => exact ⟨[], List.prefix_rfl, rfl⟩
  | cons ip ips ih =>
    unfold unwindAll
    split
    · rename_i next stepped
      obtain ⟨made, front, same⟩ := ih next
      refine ⟨ip :: made, (List.prefix_cons_inj ip).mpr front, ?_⟩
      rw [same, callbacks, callbacks, List.foldl_cons, stepped]
    · rename_i next stepped
      refine ⟨[ip], (List.prefix_cons_inj ip).mpr (List.nil_prefix), ?_⟩
      rw [callbacks, List.foldl_cons, stepped, List.foldl_nil]

theorem unwindAll_proper {state : BacktraceState tgt} (proper : state.Proper) (ips : List tgt.Word) :
    (unwindAll state ips).Proper := by
  obtain ⟨made, _, same⟩ := unwindAll_callbacks state ips
  rw [same]
  exact callbacks_proper proper made

theorem unwindBacktrace_proper {state : BacktraceState tgt} {uc : Ucontext tgt}
    (given : state.saUcontext = some uc) (ips : List tgt.Word) : (unwindBacktrace ips state).2.Proper := by
  unfold unwindBacktrace
  rw [given]
  exact unwindAll_proper (begun_proper { state with saUcontext := some uc } _) ips

/-- What a callback on this address may do to the state. -/
structure SafeCallback (ip : tgt.Word) (before after : BacktraceState tgt) : Prop where
  bound : after.frameCnt ≤ backtraceFramesMax
  /-- the array changes by the one store -/
  stores : after.frames.toList = (unwinderCbStore ip before).elim before.frames.toList
    fun store => before.frames.toList.set store.1 store.2
  within : ∀ store ∈ unwinderCbStore ip before, store.1 < backtraceFramesMax
  apart : after.recorded.IsChain (· ≠ ·)
  visible : ∀ frame ∈ after.recorded.tail, frame ≠ 0
  refused : (unwinderCb ip before).1 = false →
    after.frames = before.frames ∧ after.frameCnt = before.frameCnt

/-- Every callback of a sequence is safe, whatever has been answered before it. -/
theorem callbacks_safe (state : BacktraceState tgt) (crashIp : tgt.Word) (ips : List tgt.Word)
    (ip : tgt.Word) : SafeCallback ip (callbacks (state.begun crashIp) ips)
      (callbacks (state.begun crashIp) (ips ++ [ip])) := by
  have last : callbacks (state.begun crashIp) (ips ++ [ip]) =
      (unwinderCb ip (callbacks (state.begun crashIp) ips)).2 := by
    rw [callbacks, List.foldl_append]
    rfl
  have proper := callbacks_proper (begun_proper state crashIp) (ips ++ [ip])
  obtain ⟨stores, within⟩ := unwinderCb_store ip (callbacks (state.begun crashIp) ips)
  rw [last] at proper ⊢
  refine
    { bound := proper.bound
      stores := stores
      within := within
      apart := proper.compacted.apart
      visible := proper.compacted.visible
      refused := fun refused => ?_ }
  rw [unwinderCb_refused ip _ refused]
  exact ⟨rfl, rfl⟩

end AgentNDK
