import AgentNDK.Backtrace

namespace AgentNDK

/-- The crash ip, read from the register set of the context. -/
def crashIpFromMcontext : (abi : Abi) → Mcontext abi → BitVec abi.wordBits
  | .i386, m => McontextX86.gregs m 14
  | .x86_64, m => McontextX86.gregs m 16
  | .arm _ _, m => McontextArm.armPc m
  | .aarch64, m => McontextArm64.pc m

variable {tgt : Target}

/-- Thumb code addresses have their lowest bit set. -/
def resetThumbBit (abi : Abi) (ip : BitVec abi.wordBits) : BitVec abi.wordBits :=
  match abi with
  | .arm true _ => ip &&& ~~~1
  | _ => ip

/-- Records an address unless the stack is full; null and repeated addresses
after the first are skipped. The result is false when the stack is full. -/
def recordFrame (ip : tgt.Word) (state : BacktraceState tgt) : Bool × BacktraceState tgt :=
  if full : backtraceFramesMax ≤ state.frameCnt then (false, state)
  else
    let ip := resetThumbBit tgt.abi ip
    if 0 < state.frameCnt ∧ (ip = 0 ∨ state.frames[state.frameCnt - 1]? = some ip) then
      (true, { state with skippedFrames := state.skippedFrames + 1 })
    else
      (true, { state with
        frames := state.frames.set state.frameCnt ip (by omega)
        frameCnt := state.frameCnt + 1 })

/-- On aarch64 a non-crashing address is moved back by one instruction. -/
def adjustIp (abi : Abi) (ip : BitVec abi.wordBits) : BitVec abi.wordBits :=
  match abi with
  | .aarch64 => if 0 < ip.toNat then ip - 4 else ip
  | _ => ip

/-- One callback of the unwinder. Reaching the crash ip resets the index, so
that the frames of the handler above it are dropped. -/
def unwinderCb (ip : tgt.Word) (state : BacktraceState tgt) : Bool × BacktraceState tgt :=
  if ip = state.crashIp then
    recordFrame ip { state with skippedFrames := state.frameCnt, frameCnt := 0 }
  else
    recordFrame (adjustIp tgt.abi ip) state

/-- `_Unwind_Backtrace`: the callback on each address in turn, until it
answers with the end of the stack. -/
def unwindAll (state : BacktraceState tgt) : List tgt.Word → BacktraceState tgt
  | [] => state
  | ip :: ips =>
    match unwinderCb ip state with
    | (true, next) => unwindAll next ips
    | (false, next) => next

/-- Without a context the state is left as it is. -/
def unwindBacktrace (ips : List tgt.Word) (state : BacktraceState tgt) : Bool × BacktraceState tgt :=
  match state.saUcontext with
  | none => (false, state)
  | some uc => (true, unwindAll
      { state with
        skippedFrames := 0
        frameCnt := 0
        crashIp := crashIpFromMcontext tgt.abi uc.ucMcontext } ips)

/-- The two pointers the unwinder is handed and never changes. -/
def BacktraceState.SameContext (s t : BacktraceState tgt) : Prop :=
  s.saUcontext = t.saUcontext ∧ s.siginfo = t.siginfo

theorem recordFrame_context (ip : tgt.Word) (state : BacktraceState tgt) :
    (recordFrame ip state).2.SameContext state := by
  unfold recordFrame
  split
  · exact ⟨rfl, rfl⟩
  · dsimp only
    split <;> exact ⟨rfl, rfl⟩

theorem recordFrame_frameCnt_le (ip : tgt.Word) {state : BacktraceState tgt}
    (bound : state.frameCnt ≤ backtraceFramesMax) :
    (recordFrame ip state).2.frameCnt ≤ backtraceFramesMax := by
  unfold recordFrame
  split
  · exact bound
  · dsimp only
    split
    · exact bound
    · dsimp only
      omega

theorem unwinderCb_context (ip : tgt.Word) (state : BacktraceState tgt) :
    (unwinderCb ip state).2.SameContext state := by
  unfold unwinderCb
  split <;> exact recordFrame_context _ _

theorem unwinderCb_frameCnt_le (ip : tgt.Word) {state : BacktraceState tgt}
    (bound : state.frameCnt ≤ backtraceFramesMax) :
    (unwinderCb ip state).2.frameCnt ≤ backtraceFramesMax := by
  unfold unwinderCb
  split
  · exact recordFrame_frameCnt_le ip (Nat.zero_le _)
  · exact recordFrame_frameCnt_le _ bound

theorem unwindAll_context (ips : List tgt.Word) (state : BacktraceState tgt) :
    (unwindAll state ips).SameContext state := by
  induction ips generalizing state with
  | nil => exact ⟨rfl, rfl⟩
  | cons ip ips ih =>
    have first := unwinderCb_context ip state
    unfold unwindAll
    split
    · rename_i next stepped
      rw [stepped] at first
      have rest := ih next
      exact ⟨rest.1.trans first.1, rest.2.trans first.2⟩
    · rename_i next stepped
      rw [stepped] at first
      exact first

theorem unwindAll_frameCnt_le (ips : List tgt.Word) {state : BacktraceState tgt}
    (bound : state.frameCnt ≤ backtraceFramesMax) :
    (unwindAll state ips).frameCnt ≤ backtraceFramesMax := by
  induction ips generalizing state with
  | nil => exact bound
  | cons ip ips ih =>
    have first := unwinderCb_frameCnt_le ip bound
    unfold unwindAll
    split
    · rename_i next stepped
      rw [stepped] at first
      exact ih first
    · rename_i next stepped
      rw [stepped] at first
      exact first

theorem unwindBacktrace_context (ips : List tgt.Word) (state : BacktraceState tgt) :
    (unwindBacktrace ips state).2.SameContext state := by
  unfold unwindBacktrace
  split
  · exact ⟨rfl, rfl⟩
  · exact unwindAll_context ips _

theorem unwindBacktrace_frameCnt_le (ips : List tgt.Word) {state : BacktraceState tgt}
    (bound : state.frameCnt ≤ backtraceFramesMax) :
    (unwindBacktrace ips state).2.frameCnt ≤ backtraceFramesMax := by
  unfold unwindBacktrace
  split
  · exact bound
  · exact unwindAll_frameCnt_le ips (Nat.zero_le _)

/-- Frames are recorded only where a context was given. -/
theorem unwindBacktrace_recorded {ips : List tgt.Word} {state : BacktraceState tgt}
    (empty : state.frameCnt = 0) (recorded : 0 < (unwindBacktrace ips state).2.frameCnt) :
    state.saUcontext ≠ none := by
  intro null
  simp [unwindBacktrace, null, empty] at recorded

end AgentNDK
