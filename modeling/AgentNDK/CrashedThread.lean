import AgentNDK.CollectBacktrace

namespace AgentNDK
open CText
variable {tgt : Target}

theorem joinItems_contains {items : List Text} {item : Text} (member : item ∈ items) :
    item <:+: joinItems items := by
  obtain ⟨before, after, rfl⟩ := List.append_of_mem member
  have commas : ((before ++ item :: after).map (· ++ [','])).flatten =
      (before.map (· ++ [','])).flatten ++ item ++ (',' :: (after.map (· ++ [','])).flatten) := by
    simp
  rw [joinItems_eq, commas, List.dropLast_append_of_ne_nil (by simp)]
  exact List.infix_append _ _ _

theorem intercalate_contains {items : List Text} {item : Text} (member : item ∈ items) (sep : Text) :
    item <:+: List.intercalate sep items := by
  induction items with
  | nil => exact absurd member List.not_mem_nil
  | cons first rest ih =>
    cases rest with
    | nil =>
      obtain rfl := List.mem_singleton.mp member
      exact List.intercalate_singleton ▸ List.infix_rfl
    | cons second more =>
      rw [List.intercalate_cons_cons]
      rcases List.mem_cons.mp member with rfl | later
      · exact (List.prefix_append _ _).isInfix.trans (List.prefix_append _ _).isInfix
      · exact (ih later).trans (List.suffix_append _ _).isInfix

/-- What is appended between brackets is a part of the text. -/
theorem emitGroup_contains (opening closing : Char) (state : Text) (name : Option Text)
    {args : List (Option Text)} {item : Text} (member : item ∈ untilNull args) :
    item <:+: emitGroup opening closing state name args := by
  have inner : List.intercalate [','] (untilNull args) <:+:
      emitGroup opening closing state name args := by
    unfold emitGroup
    dsimp only
    exact ((List.suffix_cons opening _).isInfix.trans (List.suffix_append _ _).isInfix).trans
      (List.prefix_append _ _).isInfix
  exact (intercalate_contains member _).trans inner

/-- Where a context was given, the report holds what is emitted for each of
its threads. -/
theorem emitBacktrace_contains (os : Os tgt) (native_context : NativeContext tgt)
    {backtrace : Backtrace tgt} (context : backtrace.state.saUcontext ≠ none)
    {thread : ThreadInfo tgt} (member : thread ∈ backtrace.threads) :
    requote (emitThreadInfo os thread []) <:+: emitBacktrace os native_context backtrace := by
  obtain ⟨sa_ucontext, given⟩ := Option.ne_none_iff_exists'.mp context
  have joined := joinItems_contains (List.mem_map.mpr ⟨thread, member, rfl⟩ :
    emitThreadInfo os thread [] ∈ backtrace.threads.map (emitThreadInfo os · []))
  have listed : joinItems (backtrace.threads.map (emitThreadInfo os · [])) <:+:
      emitThreadState os backtrace [] := by
    unfold emitThreadState emitA
    exact emitGroup_contains _ _ _ _ List.mem_cons_self
  have grouped : emitThreadState os backtrace [] <:+: emitE ['{'] (some "backtrace")
      [ some (emitContext os native_context backtrace []),
        emitRegisters backtrace.state.saUcontext [],
        some (emitSignalContext backtrace.state.siginfo []),
        some (emitThreadState os backtrace []), none ] := by
    unfold emitE
    refine emitGroup_contains _ _ _ _ ?_
    rw [given, emitRegisters]
    simp only [untilNull]
    simp
  have whole := ((joined.trans listed).trans grouped).trans (List.prefix_append _ ['}']).isInfix
  exact whole.map _

/-- Exactly one thread of the report is marked as crashed. It is the calling
thread, its stack is the unwound one, and the report shows it. -/
def CrashReported (os : Os tgt) (native_context : NativeContext tgt) (backtrace : Backtrace tgt) : Prop :=
  ∃ thread, backtrace.threads.filter (·.crashed) = [thread] ∧ thread.tid = os.gettid ∧
    thread.backtraceState = some backtrace.state ∧
    requote (emitThreadInfo os thread []) <:+: emitBacktrace os native_context backtrace

/-- The report has the crashing thread exactly when the listing reaches it
before the limit; which threads those are depends on the order alone. -/
theorem crash_reported_iff {os : Os tgt} {native_context : NativeContext tgt} {tids : List Nat}
    {caller : Nat} (listing : TaskListing os tids) (calling : caller ∈ tids)
    (gettid : os.gettid = Int32.ofNat caller) {backtrace : Backtrace tgt}
    {sa_ucontext : Option (Ucontext tgt)} {siginfo : Option (Siginfo tgt)}
    (state : backtrace.state = unwound os sa_ucontext siginfo) (fresh : backtrace.threads = [])
    (frames : 0 < backtrace.state.frameCnt) :
    CrashReported os native_context (collectThreadState os backtrace) ↔
      caller ∈ tids.take backtraceThreadsMax := by
  have marked := listing.crashed calling gettid fresh
  constructor
  · rintro ⟨thread, one, _⟩
    by_contra beyond
    rw [marked, if_neg beyond] at one
    exact List.cons_ne_nil _ _ one.symm
  · intro reached
    rw [if_pos reached] at marked
    obtain ⟨same, _, handed, _⟩ := threadEntry_spec os backtrace.state os.gettid
    have inside : threadEntry os backtrace.state os.gettid ∈ (collectThreadState os backtrace).threads :=
      (List.mem_filter.mp (marked ▸ List.mem_singleton_self _)).1
    have context : (collectThreadState os backtrace).state.saUcontext ≠ none := by
      rw [collectThreadState_state, state, unwound_saUcontext]
      rw [state] at frames
      exact unwindBacktrace_recorded rfl frames
    refine ⟨_, marked, same, ?_, emitBacktrace_contains os native_context context inside⟩
    rw [handed, if_pos ⟨rfl, frames⟩, collectThreadState_state]

/-- The backtrace of a crash in such a process, before its threads. -/
def crashOf (tids : List Nat) (caller : Nat) : Backtrace .x86Build :=
  Backtrace.filled (Os.running tids caller)
    (unwound (Os.running tids caller) (some Ucontext.running) (some ⟨11, 1, 0⟩)) ⟨11, 1, 0⟩

theorem crash_reported_second : CrashReported (Os.running [6, 7, 8] 7) (NativeContext.zeroed _)
    (collectThreadState (Os.running [6, 7, 8] 7) (crashOf [6, 7, 8] 7)) :=
  (crash_reported_iff (Os.running_listing (by decide) (by decide) 7) (by decide) rfl rfl rfl
    (by decide)).mpr (by decide)

/-- A process of 101 threads whose last listed thread crashes: none of the
reported threads is marked. -/
theorem crash_unreported_last : (101 ∈ List.range' 1 101 ∧
      TaskListing (Os.running (List.range' 1 101) 101) (List.range' 1 101) ∧
      0 < (crashOf (List.range' 1 101) 101).state.frameCnt) ∧
    ¬ CrashReported (Os.running (List.range' 1 101) 101) (NativeContext.zeroed _)
      (collectThreadState (Os.running (List.range' 1 101) 101) (crashOf (List.range' 1 101) 101)) := by
  have listing : TaskListing (Os.running (List.range' 1 101) 101) (List.range' 1 101) :=
    Os.running_listing List.nodup_range' (by simp only [List.mem_range'_1]; omega) 101
  refine ⟨⟨by decide, listing, by decide⟩, ?_⟩
  rintro ⟨thread, one, _⟩
  have marked : (collectThreadState _ (crashOf (List.range' 1 101) 101)).threads.filter (·.crashed) =
      _ := listing.crashed (by decide) rfl rfl
  rw [marked, if_neg (by decide)] at one
  exact List.cons_ne_nil _ _ one.symm

end AgentNDK
