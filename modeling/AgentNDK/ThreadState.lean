import Mathlib.Data.List.Nodup
import AgentNDK.ThreadInfo
import AgentNDK.Unwinder

namespace AgentNDK
open CText
variable {tgt : Target}

/-- `backtrace_state_t state = {}` with the two pointers of the caller. -/
def BacktraceState.given (sa_ucontext : Option (Ucontext tgt)) (siginfo : Option (Siginfo tgt)) :
    BacktraceState tgt where
  frames := Vector.replicate backtraceFramesMax 0
  frameCnt := 0
  skippedFrames := 0
  crashIp := 0
  saUcontext := sa_ucontext
  siginfo := siginfo

/-- The state `collect_backtrace` has after unwinding. -/
def unwound (os : Os tgt) (sa_ucontext : Option (Ucontext tgt)) (siginfo : Option (Siginfo tgt)) :
    BacktraceState tgt :=
  (unwindBacktrace os.unwind (BacktraceState.given sa_ucontext siginfo)).2

theorem unwound_saUcontext (os : Os tgt) (sa_ucontext : Option (Ucontext tgt))
    (siginfo : Option (Siginfo tgt)) : (unwound os sa_ucontext siginfo).saUcontext = sa_ucontext :=
  (unwindBacktrace_context _ _).1

theorem unwound_frameCnt_le (os : Os tgt) (sa_ucontext : Option (Ucontext tgt))
    (siginfo : Option (Siginfo tgt)) :
    (unwound os sa_ucontext siginfo).frameCnt ≤ backtraceFramesMax :=
  unwindBacktrace_frameCnt_le _ (Nat.zero_le _)

/-- Only numeric directories represent thread ids. -/
def isNumericName (name : Text) : Bool :=
  name.head?.any Char.isDigit

/-- The entry of one thread; the crashing one is handed the backtrace state. -/
def threadEntry (os : Os tgt) (state : BacktraceState tgt) (tid : Int32) : ThreadInfo tgt :=
  let threadinfo := collectThreadInfo os tid
  if threadinfo.crashed ∧ 0 < state.frameCnt then { threadinfo with backtraceState := some state }
  else threadinfo

/-- The readdir loop: it ends with the listing or when the threads are full. -/
def collectThreads (os : Os tgt) (state : BacktraceState tgt) (threads : List (ThreadInfo tgt)) :
    List Text → List (ThreadInfo tgt)
  | [] => threads
  | name :: names =>
    if threads.length < backtraceThreadsMax then
      if isNumericName name then
        let tid := Int32.ofInt (strtol tgt.abi.wordBits name)
        collectThreads os state (threads ++ [threadEntry os state tid]) names
      else collectThreads os state threads names
    else threads

def collectThreadState (os : Os tgt) (backtrace : Backtrace tgt) : Backtrace tgt :=
  match os.task with
  | none => backtrace
  | some names =>
    { backtrace with threads := collectThreads os backtrace.state backtrace.threads names }

theorem threadEntry_spec (os : Os tgt) (state : BacktraceState tgt) (tid : Int32) :
    (threadEntry os state tid).tid = tid ∧
      (threadEntry os state tid).crashed = (tid == os.gettid) ∧
      (threadEntry os state tid).backtraceState =
        (if tid = os.gettid ∧ 0 < state.frameCnt then some state else none) ∧
      (threadEntry os state tid).PlainTexts := by
  obtain ⟨same, crashed, noFrames, plain⟩ := collectThreadInfo_spec os tid
  have test : (collectThreadInfo os tid).crashed = true ↔ tid = os.gettid := by
    rw [crashed, beq_iff_eq]
  unfold threadEntry
  dsimp only
  split
  · rename_i handed
    rw [if_pos ⟨test.mp handed.1, handed.2⟩]
    exact ⟨same, crashed, rfl, plain⟩
  · rename_i kept
    rw [if_neg fun both => kept ⟨test.mpr both.1, both.2⟩]
    exact ⟨same, crashed, noFrames, plain⟩

/-- The loop takes the numeric names in the order of the listing and stops at
the limit, whatever is still to come. -/
theorem collectThreads_eq (os : Os tgt) (state : BacktraceState tgt) (names : List Text)
    {threads : List (ThreadInfo tgt)} (room : threads.length ≤ backtraceThreadsMax) :
    collectThreads os state threads names = (threads ++ (names.filter isNumericName).map fun name =>
      threadEntry os state (Int32.ofInt (strtol tgt.abi.wordBits name))).take backtraceThreadsMax := by
  induction names generalizing threads with
  | nil =>
    simp only [collectThreads, List.filter_nil, List.map_nil, List.append_nil]
    exact (List.take_of_length_le room).symm
  | cons name names ih =>
    unfold collectThreads
    by_cases more : threads.length < backtraceThreadsMax
    · by_cases numeric : isNumericName name = true
      · have next : (threads ++ [threadEntry os state
            (Int32.ofInt (strtol tgt.abi.wordBits name))]).length ≤ backtraceThreadsMax := by
          simp only [List.length_append, List.length_singleton]
          omega
        simp only [more, numeric, if_true, ih next, List.filter_cons_of_pos, List.map_cons,
          List.append_assoc, List.singleton_append]
      · rw [if_pos more, if_neg numeric, ih room, List.filter_cons_of_neg numeric]
    · have full : threads.length = backtraceThreadsMax := by omega
      simp only [more, if_false]
      rw [← full, List.take_left']
      rfl

/-- `tids` are the threads of the process in the order readdir returns them,
each once. Other names (the two dot directories) may stand between them. -/
structure TaskListing (os : Os tgt) (tids : List Nat) : Prop where
  listed : ∃ names, os.task = some names ∧ names.filter isNumericName = tids.map decimal
  nodup : tids.Nodup
  small : ∀ tid ∈ tids, tid < 2 ^ 31

theorem strtol_tid {tid : Nat} (small : tid < 2 ^ 31) : strtol tgt.abi.wordBits (decimal tid) = tid := by
  have wide : 31 ≤ tgt.abi.wordBits - 1 := by
    cases tgt.abi <;> simp [Abi.wordBits]
  exact strtol_decimal (small.trans_le (Nat.pow_le_pow_right (by decide) wide))

theorem int32_ofNat_inj {a b : Nat} (smallA : a < 2 ^ 31) (smallB : b < 2 ^ 31)
    (same : Int32.ofNat a = Int32.ofNat b) : a = b := by
  have values := congrArg Int32.toInt same
  rw [Int32.toInt_ofNat_of_lt smallA, Int32.toInt_ofNat_of_lt smallB] at values
  exact Int.ofNat_inj.mp values

theorem TaskListing.threads {os : Os tgt} {tids : List Nat} (listing : TaskListing os tids)
    {backtrace : Backtrace tgt} (fresh : backtrace.threads = []) :
    (collectThreadState os backtrace).threads = (tids.take backtraceThreadsMax).map fun tid =>
      threadEntry os backtrace.state (Int32.ofNat tid) := by
  obtain ⟨names, task, numeric⟩ := listing.listed
  unfold collectThreadState
  rw [task]
  dsimp only
  rw [fresh, collectThreads_eq os _ names (Nat.zero_le _), numeric, List.nil_append, List.map_map,
    List.map_take]
  congr 1
  refine List.map_congr_left fun tid member => ?_
  simp only [Function.comp_def, strtol_tid (listing.small tid member)]
  rfl

theorem collectThreadState_length (os : Os tgt) {backtrace : Backtrace tgt}
    (fresh : backtrace.threads = []) :
    (collectThreadState os backtrace).threads.length ≤ backtraceThreadsMax := by
  unfold collectThreadState
  split
  · rw [fresh]
    exact Nat.zero_le _
  · dsimp only
    rw [fresh, collectThreads_eq os _ _ (Nat.zero_le _), List.length_take]
    exact min_le_left _ _

/-- Every entry was made by `threadEntry`. -/
theorem collectThreadState_entries (os : Os tgt) {backtrace : Backtrace tgt}
    (fresh : backtrace.threads = []) {info : ThreadInfo tgt}
    (member : info ∈ (collectThreadState os backtrace).threads) :
    ∃ tid, info = threadEntry os backtrace.state tid := by
  unfold collectThreadState at member
  split at member
  · rw [fresh] at member
    exact absurd member List.not_mem_nil
  · dsimp only at member
    rw [fresh, collectThreads_eq os _ _ (Nat.zero_le _), List.nil_append] at member
    obtain ⟨name, _, rfl⟩ := List.mem_map.mp (List.mem_of_mem_take member)
    exact ⟨_, rfl⟩

/-- Only the calling thread's entry is marked, so at most one is, and one is
exactly when the listing reaches that thread before the limit. -/
theorem TaskListing.crashed {os : Os tgt} {tids : List Nat} (listing : TaskListing os tids)
    {caller : Nat} (calling : caller ∈ tids) (gettid : os.gettid = Int32.ofNat caller)
    {backtrace : Backtrace tgt} (fresh : backtrace.threads = []) :
    (collectThreadState os backtrace).threads.filter (·.crashed) =
      if caller ∈ tids.take backtraceThreadsMax then
        [threadEntry os backtrace.state os.gettid] else [] := by
  have marked : ∀ tid ∈ tids.take backtraceThreadsMax,
      (threadEntry os backtrace.state (Int32.ofNat tid)).crashed = (tid == caller) := by
    intro tid member
    rw [(threadEntry_spec os _ _).2.1, gettid, Bool.eq_iff_iff, beq_iff_eq, beq_iff_eq]
    exact ⟨int32_ofNat_inj (listing.small tid (List.mem_of_mem_take member))
      (listing.small caller calling), fun same => same ▸ rfl⟩
  rw [listing.threads fresh, List.filter_map, Function.comp_def, List.filter_congr marked,
    List.filter_beq, gettid]
  split
  · rename_i reached
    rw [List.count_eq_one_of_mem (listing.nodup.sublist (List.take_sublist _ _)) reached]
    rfl
  · rename_i beyond
    rw [List.count_eq_zero_of_not_mem beyond]
    rfl

/-- A 32-bit x86 process with the given threads, in listing order, whose
calling thread has one frame. -/
def Os.running (tids : List Nat) (caller : Nat) : Os .x86Build where
  unwind := [0x1000]
  dladdr := fun _ => none
  demangle := fun _ => none
  cmdline := none
  task := some (tids.map decimal)
  threadStat := fun _ => none
  time := 0
  getuid := 0
  getpid := 1
  getppid := 0
  gettid := Int32.ofNat caller

theorem Os.running_listing {tids : List Nat} (nodup : tids.Nodup) (small : ∀ tid ∈ tids, tid < 2 ^ 31)
    (caller : Nat) : TaskListing (Os.running tids caller) tids := by
  refine ⟨⟨tids.map decimal, rfl, List.filter_eq_self.mpr fun name member => ?_⟩, nodup, small⟩
  obtain ⟨tid, _, rfl⟩ := List.mem_map.mp member
  obtain ⟨c, t, shape, digit⟩ := decimal_head_isDigit tid
  simp [isNumericName, shape, digit]

end AgentNDK
