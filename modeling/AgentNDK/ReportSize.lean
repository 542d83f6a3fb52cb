import Mathlib.Algebra.Order.BigOperators.Group.List
import AgentNDK.Serializer

namespace AgentNDK
open CText
variable {tgt : Target}

theorem emitF_length (state line : Text) :
    (emitF state line).length ≤ state.length + line.length ∧
      (emitF state line).length ≤ state.length + 2047 := by
  rw [emitF, List.length_append, List.length_take]
  omega

/-- Every formatted line is cut at the end of the buffer. -/
theorem emitLines_length (state : Text) (lines : List Text) :
    (emitLines state lines).length ≤ state.length + 2047 * lines.length := by
  induction lines generalizing state with
  | nil => simp [emitLines]
  | cons line lines ih =>
    have first := (emitF_length state line).2
    have rest := ih (emitF state line)
    rw [emitLines, List.foldl_cons, ← emitLines, List.length_cons]
    omega

/-- Lines that are shorter than the buffer. -/
theorem emitLines_length_of {lines : List Text} {k : Nat} (short : ∀ line ∈ lines, line.length ≤ k)
    (state : Text) : (emitLines state lines).length ≤ state.length + k * lines.length := by
  induction lines generalizing state with
  | nil => simp [emitLines]
  | cons line lines ih =>
    have first := (emitF_length state line).1
    have bound := short line List.mem_cons_self
    have rest := ih (fun l member => short l (List.mem_cons_of_mem line member)) (emitF state line)
    rw [emitLines, List.foldl_cons, ← emitLines, List.length_cons, Nat.mul_succ]
    omega

theorem emitGroup_named_length (opening closing : Char) (state name body : Text) :
    (emitGroup opening closing state (some name) [some body, none]).length ≤
      state.length + name.length + body.length + 5 := by
  have title := (emitF_length state ('\'' :: name ++ "':")).1
  have one : untilNull [some body, none] = [body] := rfl
  unfold emitGroup
  dsimp only
  rw [one, List.intercalate_singleton]
  simp at title ⊢
  omega

theorem emitGroup_unnamed_length (opening closing : Char) (state body : Text) :
    (emitGroup opening closing state none [some body, none]).length =
      state.length + body.length + 2 := by
  have one : untilNull [some body, none] = [body] := rfl
  unfold emitGroup
  dsimp only
  rw [one, List.intercalate_singleton]
  simp
  omega

theorem joinItems_length (items : List Text) :
    (joinItems items).length ≤ (items.map fun item => item.length + 1).sum := by
  rw [joinItems_eq, List.length_dropLast, List.length_flatten, List.map_map]
  simp [Function.comp_def]

/-! One frame, one thread. -/

theorem frameToJson_length (stackframe : Stackframe tgt) :
    (frameToJson stackframe []).length ≤ 6400 := by
  have index := fmtD_length stackframe.index
  have zu : ∀ value : tgt.Word, (fmtZu value).length ≤ 20 := fmtZu_length
  have address := zu stackframe.address
  have pc := zu stackframe.pc
  have soBase := zu stackframe.soBase
  have symAddr := zu stackframe.symAddr
  have offset := zu stackframe.symAddrOffset
  have grows : ∀ (test : Prop) [Decidable test] (state line : Text),
      (if test then emitF state line else state).length ≤ state.length + 2047 := by
    intro test _ state line
    split
    · exact (emitF_length state line).2
    · exact Nat.le_add_right _ _
  have lines : ∀ cstr : Text, (emitLines [] [ quoted "cstr" cstr ++ [','],
      bare "index" (fmtD stackframe.index) ++ [','], bare "address" (fmtZu stackframe.address) ++ [','],
      bare "pc" (fmtZu stackframe.pc) ++ [','], bare "so_base" (fmtZu stackframe.soBase) ++ [','],
      bare "sym_addr" (fmtZu stackframe.symAddr) ++ [','],
      bare "sym_addr_offset" (fmtZu stackframe.symAddrOffset) ]).length ≤ 2047 + 40 * 6 := by
    intro cstr
    have first := (emitF_length [] (quoted "cstr" cstr ++ [','])).2
    rw [emitLines, List.foldl_cons, ← emitLines]
    refine (emitLines_length_of ?_ _).trans (Nat.add_le_add_right first _)
    simp only [List.forall_mem_cons, List.length_append, bare_length, List.length_singleton]
    simp
    omega
  unfold frameToJson emitE
  dsimp only
  rw [emitGroup_unnamed_length]
  have common := lines (frameToString stackframe [])
  generalize emitLines [] _ = state at common ⊢
  have path := grows (stackframe.soPath.text ≠ []) state
    (',' :: quoted "so_path" stackframe.soPath.text)
  generalize (if stackframe.soPath.text ≠ [] then emitF state _ else state) = state at path ⊢
  have name := grows (stackframe.symName.text ≠ []) state
    (',' :: quoted "sym_name" stackframe.symName.text)
  rw [List.length_nil]
  omega

theorem sum_map_le {α : Type} {f : α → Nat} {k : Nat} (items : List α)
    (bound : ∀ a ∈ items, f a ≤ k) : (items.map f).sum ≤ items.length * k := by
  have each : ∀ n ∈ items.map f, n ≤ k := by
    intro n member
    obtain ⟨a, inside, rfl⟩ := List.mem_map.mp member
    exact bound a inside
  simpa using List.sum_le_card_nsmul _ k each

theorem emitCallstack_length (os : Os tgt) (backtrace_state : Option (BacktraceState tgt)) :
    (emitCallstack os backtrace_state []).length ≤
      10 + match backtrace_state with
        | none => 0
        | some state => state.frameCnt * 6401 := by
  unfold emitCallstack emitA
  refine (emitGroup_named_length _ _ _ _ _).trans ?_
  cases backtrace_state with
  | none =>
    dsimp only
    decide
  | some state =>
    have count : (stackframes os state).length ≤ state.frameCnt := by
      simp [stackframes, BacktraceState.recorded]
    have frames := joinItems_length ((stackframes os state).map (emitStackframe · []))
    have each : ∀ item ∈ (stackframes os state).map (emitStackframe · []), item.length + 1 ≤ 6401 := by
      intro item member
      obtain ⟨frame, _, rfl⟩ := List.mem_map.mp member
      exact Nat.succ_le_succ (frameToJson_length frame)
    have total := frames.trans (sum_map_le _ each)
    have items := Nat.mul_le_mul_right 6401 count
    rw [List.length_map] at total
    simp
    omega

theorem emitThreadInfo_length (os : Os tgt) (thread : ThreadInfo tgt) :
    (emitThreadInfo os thread []).length ≤ 300 + match thread.backtraceState with
      | none => 0
      | some state => state.frameCnt * 6401 := by
  have tid := fmtD_length thread.tid.toBitVec
  have priority := fmtD_length thread.priority.toBitVec
  have name := thread.threadName.fits
  have state := thread.threadState.fits
  have crashed : (if thread.crashed then ("true" : Text) else "false").length ≤ 5 := by
    split <;> decide
  have lines : ∀ word : Text, word.length ≤ 5 → (emitLines []
      [ bare "threadNumber" (fmtD thread.tid.toBitVec) ++ [','],
        quoted "threadId" thread.threadName.text ++ [','], quoted "state" thread.threadState.text ++ [','],
        bare "priority" (fmtD thread.priority.toBitVec) ++ [','],
        bare "crashed" word ++ [','] ]).length ≤ 0 + 50 * 5 := by
    intro word short
    refine emitLines_length_of ?_ []
    simp only [List.forall_mem_cons, List.length_append, bare_length, quoted_length,
      List.length_singleton]
    simp
    omega
  have stack := emitCallstack_length os thread.backtraceState
  unfold emitThreadInfo emitE
  dsimp only
  rw [emitGroup_unnamed_length, emitC]
  have fields := lines _ crashed
  generalize emitLines [] _ = tstate at fields ⊢
  simp [untilNull]
  omega

theorem emitContext_length (os : Os tgt) (native_context : NativeContext tgt)
    (backtrace : Backtrace tgt) : (emitContext os native_context backtrace []).length ≤ 2047 * 10 :=
  (emitLines_length [] _).trans_eq (Nat.zero_add _)

theorem registerLines_count (abi : Abi) (m : Mcontext abi) : (registerLines abi m).1.length ≤ 37 := by
  cases abi <;> simp [registerLines]

theorem emitRegisters_length {sa_ucontext : Option (Ucontext tgt)} {text : Text}
    (emitted : emitRegisters sa_ucontext [] = some text) : text.length ≤ 2047 * 38 + 14 := by
  unfold emitRegisters at emitted
  split at emitted
  · cases emitted
  · rename_i sa_ucontext
    cases Option.some.inj emitted
    have count := registerLines_count tgt.abi sa_ucontext.ucMcontext
    have lines := emitLines_length [] ((registerLines tgt.abi sa_ucontext.ucMcontext).1.map
      (· ++ [',']) ++ [(registerLines tgt.abi sa_ucontext.ucMcontext).2])
    simp only [List.length_append, List.length_map, List.length_nil, List.length_singleton] at lines
    unfold emitE
    refine (emitGroup_named_length _ _ _ _ _).trans ?_
    simp
    omega

theorem emitSignalContext_length (siginfo : Option (Siginfo tgt)) :
    (emitSignalContext siginfo []).length ≤ 2047 * 5 + 30 := by
  unfold emitSignalContext emitE
  refine (emitGroup_named_length _ _ _ _ _).trans ?_
  have title := (emitF_length [] (quoted "name" "Native exception" ++ [','])).2
  cases siginfo with
  | none =>
    dsimp only
    simp at title ⊢
    omega
  | some siginfo =>
    have cause := (emitF_length (emitF [] (quoted "name" "Native exception" ++ [',']))
      (quoted "cause" (getSignalDescription siginfo.siSigno siginfo.siCode) ++ [','])).2
    have info := emitLines_length []
      [ quoted "signalName" (getSignalDescription siginfo.siSigno (-1)) ++ [','],
        bare "signalCode" (fmtD siginfo.siCode.toBitVec) ++ [','],
        bare "faultAddress" (fmtZu siginfo.siAddr) ]
    dsimp only
    generalize emitLines [] _ = csiginfo at info ⊢
    generalize emitF [] _ = titled at title cause ⊢
    generalize emitF titled _ = exception at cause ⊢
    have group := emitGroup_named_length '{' '}' exception "signalInfo" csiginfo
    simp at title info group ⊢
    omega

/-! The whole report: at most one thread has frames, at most a hundred of them. -/

/-- What `collect_backtrace` can have collected. -/
structure Bounded (backtrace : Backtrace tgt) : Prop where
  threads : backtrace.threads.length ≤ backtraceThreadsMax
  frames : ∀ thread ∈ backtrace.threads, ∀ state, thread.backtraceState = some state →
    state.frameCnt ≤ backtraceFramesMax
  single : (backtrace.threads.filter (·.backtraceState.isSome)).length ≤ 1

theorem emitThreads_length (os : Os tgt) {threads : List (ThreadInfo tgt)}
    (frames : ∀ thread ∈ threads, ∀ state, thread.backtraceState = some state →
      state.frameCnt ≤ backtraceFramesMax) :
    ((threads.map (emitThreadInfo os · [])).map fun item => item.length + 1).sum ≤
      threads.length * 301 + (threads.filter (·.backtraceState.isSome)).length * 640100 := by
  induction threads with
  | nil => simp
  | cons thread threads ih =>
    have first := emitThreadInfo_length os thread
    have rest := ih fun t member => frames t (List.mem_cons_of_mem thread member)
    have bound := frames thread List.mem_cons_self
    rw [List.map_cons, List.map_cons, List.sum_cons, List.length_cons]
    cases handed : thread.backtraceState with
    | none =>
      rw [handed] at first
      rw [List.filter_cons_of_neg (by simp [handed])]
      dsimp only at first
      omega
    | some state =>
      have count := bound state handed
      rw [handed] at first
      rw [List.filter_cons_of_pos (by simp [handed]), List.length_cons]
      unfold backtraceFramesMax at count
      dsimp only at first
      omega

theorem emitThreadState_length (os : Os tgt) {backtrace : Backtrace tgt} (bounded : Bounded backtrace) :
    (emitThreadState os backtrace []).length ≤ 670300 := by
  have items := joinItems_length (backtrace.threads.map (emitThreadInfo os · []))
  have total := emitThreads_length os bounded.frames
  have count := bounded.threads
  have single := bounded.single
  unfold backtraceThreadsMax at count
  unfold emitThreadState emitA
  refine (emitGroup_named_length _ _ _ _ _).trans ?_
  simp
  omega

/-- The report leaves the buffer room for its terminator and one more cell. -/
theorem emitBacktrace_length (os : Os tgt) (native_context : NativeContext tgt)
    {backtrace : Backtrace tgt} (bounded : Bounded backtrace) :
    (emitBacktrace os native_context backtrace).length ≤ backtraceSzMax - 2 := by
  have context := emitContext_length os native_context backtrace
  have signal := emitSignalContext_length backtrace.state.siginfo
  have threads := emitThreadState_length os bounded
  have title := (emitF_length ['{'] ('\'' :: "backtrace" ++ "':")).1
  unfold emitBacktrace emitE emitGroup
  dsimp only
  rw [requote_length]
  cases emitted : emitRegisters backtrace.state.saUcontext [] with
  | none =>
    have one : untilNull [some (emitContext os native_context backtrace []), none,
      some (emitSignalContext backtrace.state.siginfo []),
      some (emitThreadState os backtrace []), none] = [emitContext os native_context backtrace []] := rfl
    rw [one, List.intercalate_singleton]
    simp [backtraceSzMax] at title ⊢
    omega
  | some registers =>
    have registersLength := emitRegisters_length emitted
    simp [untilNull, List.intercalate, backtraceSzMax] at title ⊢
    omega

end AgentNDK
