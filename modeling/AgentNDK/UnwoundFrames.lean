import AgentNDK.CollectBacktrace
import AgentNDK.Library.Compaction

namespace AgentNDK
open Compaction
variable {tgt : Target}

/-- The address a delivered instruction pointer is recorded as. -/
def addressOf (crashIp ip : tgt.Word) : tgt.Word :=
  resetThumbBit tgt.abi (if ip = crashIp then ip else adjustIp tgt.abi ip)

/-- The frames of the reference computation: from the first delivery of the
crash ip on, or of everything where it is not delivered. -/
def referenceFrames (crashIp : tgt.Word) (ips : List tgt.Word) : List tgt.Word :=
  (compact 0 ((if crashIp ∈ ips then ips.dropWhile (· ≠ crashIp) else ips).map (addressOf crashIp))).take
    backtraceFramesMax

/-- The frames recorded from a delivery of the crash ip on, with what was
delivered behind it. -/
def framesFrom (crashIp : tgt.Word) (lap : List tgt.Word) : List tgt.Word :=
  compact 0 ((crashIp :: lap).map (addressOf crashIp))

/-- Behind the first delivery of the crash ip. -/
def behindCrash (crashIp : tgt.Word) (ips : List tgt.Word) : List tgt.Word :=
  (ips.dropWhile (· ≠ crashIp)).drop 1

/-- What is delivered behind the last delivery of the crash ip that the
unwinder gets to; another address ends it once the frames are full. -/
def lastLap (crashIp : tgt.Word) (lap : List tgt.Word) : List tgt.Word → List tgt.Word
  | [] => lap
  | ip :: ips =>
    if ip = crashIp then lastLap crashIp [] ips
    else if backtraceFramesMax ≤ (framesFrom crashIp lap).length then lap
    else lastLap crashIp (lap ++ [ip]) ips

/-- Starting over at the crash ip behind `lap` loses no frame: none but the
crashing one is recorded yet, or that one is null and the only other one is
the first to be recorded again. -/
def Harmless (crashIp : tgt.Word) (lap ips : List tgt.Word) : Prop :=
  (framesFrom crashIp lap).length = 1 ∨
    addressOf crashIp crashIp = 0 ∧ (framesFrom crashIp lap).length = 2 ∧
      framesFrom crashIp lap <+: framesFrom crashIp ips

/-- Whenever the crash ip is delivered again before the unwinder ends,
starting over is harmless. -/
def Undisturbed (crashIp : tgt.Word) (lap : List tgt.Word) : List tgt.Word → Prop
  | [] => True
  | ip :: ips =>
    if ip = crashIp then Harmless crashIp lap ips ∧ Undisturbed crashIp [] ips
    else if backtraceFramesMax ≤ (framesFrom crashIp lap).length then True
    else Undisturbed crashIp (lap ++ [ip]) ips

/-- The unwinder on the list of recorded frames. -/
def unwoundFrom (crashIp : tgt.Word) (kept : List tgt.Word) : List tgt.Word → List tgt.Word
  | [] => kept
  | ip :: ips =>
    if ip = crashIp then unwoundFrom crashIp [addressOf crashIp crashIp] ips
    else if backtraceFramesMax ≤ kept.length then kept
    else unwoundFrom crashIp (push 0 kept (addressOf crashIp ip)) ips

/-- A full list is the first part of every extension. -/
theorem take_extension {kept frames : List tgt.Word} (full : kept.length = backtraceFramesMax)
    (longer : kept <+: frames) : kept = frames.take backtraceFramesMax := by
  obtain ⟨rest, rfl⟩ := longer
  rw [← full, List.take_left]

theorem recorded_length {state : BacktraceState tgt} (bound : state.frameCnt ≤ backtraceFramesMax) :
    state.recorded.length = state.frameCnt := by
  rw [BacktraceState.recorded, List.length_take, Vector.length_toList, Nat.min_eq_left bound]

theorem recorded_getLast? {state : BacktraceState tgt} (bound : state.frameCnt ≤ backtraceFramesMax)
    (positive : 0 < state.frameCnt) :
    state.recorded.getLast? = state.frames[state.frameCnt - 1]? := by
  rw [List.getLast?_eq_getElem?, recorded_length bound, BacktraceState.recorded,
    List.getElem?_take_of_lt (by omega), Vector.getElem?_toList]

theorem recorded_eq_nil {state : BacktraceState tgt} (bound : state.frameCnt ≤ backtraceFramesMax) :
    state.recorded = [] ↔ state.frameCnt = 0 := by
  rw [← List.length_eq_zero_iff, recorded_length bound]

/-- A frame is pushed on the recorded ones while there is room. -/
theorem recordFrame_recorded (ip : tgt.Word) {state : BacktraceState tgt}
    (room : state.frameCnt < backtraceFramesMax) :
    (recordFrame ip state).1 = true ∧
      (recordFrame ip state).2.recorded = push 0 state.recorded (resetThumbBit tgt.abi ip) ∧
      (recordFrame ip state).2.crashIp = state.crashIp ∧
      (recordFrame ip state).2.frameCnt ≤ backtraceFramesMax := by
  have bound := Nat.le_of_lt room
  have skips : (0 < state.frameCnt ∧ (resetThumbBit tgt.abi ip = 0 ∨
      state.frames[state.frameCnt - 1]? = some (resetThumbBit tgt.abi ip))) ↔
      (state.recorded ≠ [] ∧ (resetThumbBit tgt.abi ip = 0 ∨
        state.recorded.getLast? = some (resetThumbBit tgt.abi ip))) := by
    rw [ne_eq, recorded_eq_nil bound, ← ne_eq, ← Nat.pos_iff_ne_zero]
    exact and_congr_right fun positive => by rw [recorded_getLast? bound positive]
  unfold recordFrame push
  rw [dif_neg (Nat.not_le_of_lt room)]
  dsimp only
  by_cases skipped : 0 < state.frameCnt ∧ (resetThumbBit tgt.abi ip = 0 ∨
      state.frames[state.frameCnt - 1]? = some (resetThumbBit tgt.abi ip))
  · rw [if_pos skipped, if_pos (skips.mp skipped)]
    exact ⟨rfl, rfl, rfl, bound⟩
  · rw [if_neg skipped, if_neg fun both => skipped (skips.mpr both)]
    refine ⟨rfl, ?_, rfl, room⟩
    simp only [BacktraceState.recorded, Vector.toList_set]
    rw [List.take_add_one, List.take_set_of_le (Nat.le_refl _), List.getElem?_set_self (by simpa using room)]
    rfl

theorem recordFrame_full (ip : tgt.Word) {state : BacktraceState tgt}
    (full : backtraceFramesMax ≤ state.frameCnt) : recordFrame ip state = (false, state) :=
  dif_pos full

/-- One callback that does not end the unwinding: the crash ip starts over,
any other address is pushed. -/
theorem unwinderCb_recorded (ip : tgt.Word) {state : BacktraceState tgt}
    (room : ip = state.crashIp ∨ state.frameCnt < backtraceFramesMax) :
    (unwinderCb ip state).1 = true ∧
      (unwinderCb ip state).2.recorded =
        (if ip = state.crashIp then [addressOf state.crashIp state.crashIp]
          else push 0 state.recorded (addressOf state.crashIp ip)) ∧
      (unwinderCb ip state).2.crashIp = state.crashIp ∧
      (unwinderCb ip state).2.frameCnt ≤ backtraceFramesMax := by
  unfold unwinderCb addressOf
  by_cases crash : ip = state.crashIp
  · subst crash
    rw [if_pos rfl, if_pos rfl, if_pos rfl]
    exact recordFrame_recorded state.crashIp (Nat.succ_pos _)
  · rw [if_neg crash, if_neg crash, if_neg crash]
    exact recordFrame_recorded _ (room.resolve_left crash)

theorem unwinderCb_full {ip : tgt.Word} {state : BacktraceState tgt} (other : ip ≠ state.crashIp)
    (full : backtraceFramesMax ≤ state.frameCnt) : unwinderCb ip state = (false, state) := by
  rw [unwinderCb, if_neg other, recordFrame_full _ full]

/-- A callback ends the unwinding, or has room to record. -/
theorem full_or_room (ip : tgt.Word) (state : BacktraceState tgt) :
    (ip ≠ state.crashIp ∧ backtraceFramesMax ≤ state.frameCnt) ∨
      (ip = state.crashIp ∨ state.frameCnt < backtraceFramesMax) := by
  by_cases crash : ip = state.crashIp
  · exact Or.inr (Or.inl crash)
  · exact (Nat.lt_or_ge state.frameCnt backtraceFramesMax).elim (fun room => Or.inr (Or.inr room))
      fun full => Or.inl ⟨crash, full⟩

/-- The recorded frames are those of the list. -/
theorem unwindAll_recorded (ips : List tgt.Word) {state : BacktraceState tgt}
    (bound : state.frameCnt ≤ backtraceFramesMax) :
    (unwindAll state ips).recorded = unwoundFrom state.crashIp state.recorded ips := by
  induction ips generalizing state with
  | nil => rfl
  | cons ip ips ih =>
    unfold unwindAll unwoundFrom
    rw [recorded_length bound]
    rcases full_or_room ip state with ⟨other, full⟩ | room
    · rw [unwinderCb_full other full, if_neg other, if_pos full]
    · have stepped := unwinderCb_recorded ip room
      generalize unwinderCb ip state = next at stepped
      obtain ⟨goesOn, next⟩ := next
      obtain ⟨rfl, recorded, crashIp, within⟩ := stepped
      dsimp only at recorded crashIp within ⊢
      rw [ih within, recorded, crashIp]
      by_cases crash : ip = state.crashIp
      · rw [if_pos crash, if_pos crash]
      · rw [if_neg crash, if_neg crash, if_neg (Nat.not_le_of_lt (room.resolve_left crash))]

/-! The list computation against the reference. -/

section
variable {crashIp : tgt.Word}

/-- Where the crash ip does not come again, the frames are the first hundred. -/
theorem unwoundFrom_notMem {kept ips : List tgt.Word} (away : crashIp ∉ ips)
    (bound : kept.length ≤ backtraceFramesMax) : unwoundFrom crashIp kept ips =
      ((ips.map (addressOf crashIp)).foldl (push 0) kept).take backtraceFramesMax := by
  induction ips generalizing kept with
  | nil => exact (List.take_of_length_le bound).symm
  | cons ip ips ih =>
    have other : ip ≠ crashIp := fun same => away (same ▸ List.mem_cons_self)
    have later : crashIp ∉ ips := fun member => away (List.mem_cons_of_mem ip member)
    unfold unwoundFrom
    rw [if_neg other]
    split
    · rename_i full
      exact take_extension (Nat.le_antisymm bound full)
        (prefix_foldl_push 0 kept ((ip :: ips).map (addressOf crashIp)))
    · rename_i room
      have grown := push_length_le 0 kept (addressOf crashIp ip)
      rw [ih later (by omega), List.map_cons, List.foldl_cons]

/-- Before the frames are full, the crash ip is reached and starts over. -/
theorem unwoundFrom_reaches {kept before : List tgt.Word} (away : crashIp ∉ before)
    (room : ((before.map (addressOf crashIp)).foldl (push 0) kept).length < backtraceFramesMax)
    (behind : List tgt.Word) : unwoundFrom crashIp kept (before ++ crashIp :: behind) =
      unwoundFrom crashIp [addressOf crashIp crashIp] behind := by
  induction before generalizing kept with
  | nil => rw [List.nil_append, unwoundFrom, if_pos rfl]
  | cons ip before ih =>
    have other : ip ≠ crashIp := fun same => away (same ▸ List.mem_cons_self)
    have shorter := (prefix_foldl_push 0 kept ((ip :: before).map (addressOf crashIp))).length_le
    rw [List.cons_append, unwoundFrom, if_neg other, if_neg (by omega)]
    exact ih (fun member => away (List.mem_cons_of_mem ip member)) room

theorem framesFrom_cons (ips : List tgt.Word) : framesFrom crashIp ips =
    (ips.map (addressOf crashIp)).foldl (push 0) [addressOf crashIp crashIp] :=
  (foldl_push 0 _).symm

theorem framesFrom_append (lap ips : List tgt.Word) : framesFrom crashIp (lap ++ ips) =
    (ips.map (addressOf crashIp)).foldl (push 0) (framesFrom crashIp lap) := by
  rw [framesFrom_cons, framesFrom_cons, List.map_append, List.foldl_append]

theorem framesFrom_snoc (lap : List tgt.Word) (ip : tgt.Word) :
    framesFrom crashIp (lap ++ [ip]) = push 0 (framesFrom crashIp lap) (addressOf crashIp ip) :=
  framesFrom_append lap [ip]

theorem framesFrom_head (lap : List tgt.Word) :
    [addressOf crashIp crashIp] <+: framesFrom crashIp lap :=
  framesFrom_append [] lap ▸ prefix_foldl_push 0 _ _

/-- The unwinder leaves the frames of the last lap. -/
theorem unwoundFrom_lastLap (lap ips : List tgt.Word) :
    unwoundFrom crashIp (framesFrom crashIp lap) ips = framesFrom crashIp (lastLap crashIp lap ips) := by
  induction ips generalizing lap with
  | nil => rfl
  | cons ip ips ih =>
    unfold unwoundFrom lastLap
    split
    · exact ih []
    · split
      · rfl
      · rw [← framesFrom_snoc]
        exact ih (lap ++ [ip])

/-- A harmless start loses no frame. -/
theorem framesFrom_harmless {lap ips : List tgt.Word} (harmless : Harmless crashIp lap ips) :
    framesFrom crashIp (lap ++ crashIp :: ips) = framesFrom crashIp ips := by
  rw [framesFrom_append, List.map_cons, List.foldl_cons]
  rcases harmless with single | ⟨isNull, pair, again⟩
  · have only : framesFrom crashIp lap = [addressOf crashIp crashIp] :=
      ((framesFrom_head lap).eq_of_length single.symm).symm
    rw [only, push_singleton, if_pos (Or.inr rfl), framesFrom_cons]
  · obtain ⟨rest, shape⟩ : [addressOf crashIp crashIp] <+: framesFrom crashIp lap :=
      framesFrom_head lap
    rw [← shape, List.length_append] at pair
    obtain ⟨caller, rfl⟩ := List.length_eq_one_iff.mp (Nat.add_left_cancel pair)
    rw [← shape, framesFrom_cons, isNull] at again
    rw [← shape, framesFrom_cons, isNull, push_null 0 (by simp)]
    exact foldl_push_joined 0 again

/-- Any other one has recorded more than is left behind it. -/
theorem framesFrom_harmful {lap ips : List tgt.Word} (harmful : ¬ Harmless crashIp lap ips) :
    (framesFrom crashIp ips).length < (framesFrom crashIp (lap ++ crashIp :: ips)).length := by
  obtain ⟨several, unless_null⟩ := not_or.mp harmful
  obtain ⟨kept, last, shape⟩ : ∃ kept last, framesFrom crashIp lap = kept ++ [last] := by
    rcases List.eq_nil_or_concat' (framesFrom crashIp lap) with empty | shape
    · exact absurd (empty ▸ (framesFrom_head lap).length_le) (by simp)
    · exact shape
  have longer : 1 ≤ kept.length := by
    rw [shape, List.length_append, List.length_singleton] at several
    omega
  rw [framesFrom_append, shape, List.map_cons, List.foldl_cons]
  by_cases isNull : addressOf crashIp crashIp = 0
  · rw [isNull, push_null 0 (by simp), foldl_push_append, List.length_append, framesFrom_cons, isNull]
    by_cases joined : [0, last] <+: (ips.map (addressOf crashIp)).foldl (push 0) [0]
    · -- one frame more alone would be harmless
      have more : kept.length ≠ 1 := by
        intro single
        have first : [addressOf crashIp crashIp] = kept :=
          (List.prefix_of_prefix_length_le (framesFrom_head lap) (shape ▸ List.prefix_append _ _)
            (by rw [single, List.length_singleton])).eq_of_length single.symm
        refine unless_null ⟨isNull, ?_, ?_⟩
        · rw [shape, ← first, List.length_append, List.length_singleton, List.length_singleton]
        · rw [shape, ← first, framesFrom_cons, isNull]
          exact joined
      rw [foldl_push_joined_length 0 joined]
      omega
    · have fewer := foldl_push_apart 0 joined
      omega
  · obtain ⟨before, pushed, nonempty⟩ : ∃ before, push 0 (kept ++ [last]) (addressOf crashIp crashIp) =
        before ++ [addressOf crashIp crashIp] ∧ 1 ≤ before.length := by
      rw [push_snoc]
      by_cases repeated : last = addressOf crashIp crashIp
      · exact ⟨kept, by rw [if_pos (Or.inr repeated), repeated], longer⟩
      · refine ⟨kept ++ [last], if_neg (not_or.mpr ⟨isNull, repeated⟩), ?_⟩
        rw [List.length_append, List.length_singleton]
        exact Nat.le_add_left 1 _
    rw [pushed, foldl_push_append, List.length_append, framesFrom_cons]
    omega

theorem framesFrom_again (lap ips : List tgt.Word) :
    (framesFrom crashIp ips).length ≤ (framesFrom crashIp (lap ++ crashIp :: ips)).length := by
  by_cases harmless : Harmless crashIp lap ips
  · rw [framesFrom_harmless harmless]
  · exact Nat.le_of_lt (framesFrom_harmful harmless)

/-- Undisturbed, the last lap has the frames of everything delivered. -/
theorem lastLap_undisturbed {lap ips : List tgt.Word} (undisturbed : Undisturbed crashIp lap ips)
    (bound : (framesFrom crashIp lap).length ≤ backtraceFramesMax) :
    framesFrom crashIp (lastLap crashIp lap ips) =
      (framesFrom crashIp (lap ++ ips)).take backtraceFramesMax := by
  induction ips generalizing lap with
  | nil => rw [lastLap, List.append_nil, List.take_of_length_le bound]
  | cons ip ips ih =>
    unfold Undisturbed at undisturbed
    unfold lastLap
    by_cases crash : ip = crashIp
    · subst crash
      rw [if_pos rfl] at undisturbed ⊢
      rw [framesFrom_harmless undisturbed.1, ih undisturbed.2 (Nat.succ_le_succ (Nat.zero_le _)),
        List.nil_append]
    · rw [if_neg crash] at undisturbed ⊢
      by_cases full : backtraceFramesMax ≤ (framesFrom crashIp lap).length
      · rw [if_pos full, framesFrom_append]
        exact take_extension (Nat.le_antisymm bound full) (prefix_foldl_push 0 _ _)
      · rw [if_neg full] at undisturbed ⊢
        have grown : (framesFrom crashIp (lap ++ [ip])).length ≤ backtraceFramesMax := by
          have step := push_length_le 0 (framesFrom crashIp lap) (addressOf crashIp ip)
          rw [framesFrom_snoc]
          omega
        rw [ih undisturbed grown, List.append_assoc, List.singleton_append]

theorem lastLap_bound {lap : List tgt.Word} (ips : List tgt.Word)
    (bound : (framesFrom crashIp lap).length ≤ backtraceFramesMax) :
    (framesFrom crashIp (lastLap crashIp lap ips)).length ≤ backtraceFramesMax := by
  induction ips generalizing lap with
  | nil => exact bound
  | cons ip ips ih =>
    unfold lastLap
    split
    · exact ih (Nat.succ_le_succ (Nat.zero_le _))
    · split
      · exact bound
      · have step := push_length_le 0 (framesFrom crashIp lap) (addressOf crashIp ip)
        exact ih (by rw [framesFrom_snoc]; omega)

theorem lastLap_length_le (lap ips : List tgt.Word) :
    (framesFrom crashIp (lastLap crashIp lap ips)).length ≤ (framesFrom crashIp (lap ++ ips)).length := by
  induction ips generalizing lap with
  | nil => rw [lastLap, List.append_nil]
  | cons ip ips ih =>
    unfold lastLap
    split
    · rename_i crash
      subst crash
      exact (ih []).trans (framesFrom_again lap ips)
    · split
      · rw [framesFrom_append]
        exact (prefix_foldl_push 0 _ _).length_le
      · have later := ih (lap ++ [ip])
        rw [List.append_assoc, List.singleton_append] at later
        exact later

/-- Disturbed, the last lap has fewer frames than everything delivered. -/
theorem lastLap_disturbed {lap ips : List tgt.Word} (disturbed : ¬ Undisturbed crashIp lap ips) :
    (framesFrom crashIp (lastLap crashIp lap ips)).length < (framesFrom crashIp (lap ++ ips)).length := by
  induction ips generalizing lap with
  | nil => exact absurd trivial disturbed
  | cons ip ips ih =>
    unfold Undisturbed at disturbed
    unfold lastLap
    by_cases crash : ip = crashIp
    · subst crash
      rw [if_pos rfl] at disturbed ⊢
      by_cases harmless : Harmless ip lap ips
      · rw [framesFrom_harmless harmless]
        exact ih fun undisturbed => disturbed ⟨harmless, undisturbed⟩
      · exact Nat.lt_of_le_of_lt (lastLap_length_le [] ips) (framesFrom_harmful harmless)
    · rw [if_neg crash] at disturbed ⊢
      by_cases full : backtraceFramesMax ≤ (framesFrom crashIp lap).length
      · rw [if_pos full] at disturbed
        exact absurd trivial disturbed
      · rw [if_neg full] at disturbed ⊢
        have later := ih disturbed
        rw [List.append_assoc, List.singleton_append] at later
        exact later

end

/-- The last lap alone fills all the slots, and everything delivered begins
with the same frames. -/
def Recurs (crashIp : tgt.Word) (ips : List tgt.Word) : Prop :=
  backtraceFramesMax ≤ (framesFrom crashIp (lastLap crashIp [] ips)).length ∧
    framesFrom crashIp (lastLap crashIp [] ips) <+: framesFrom crashIp ips

theorem lastLap_iff (crashIp : tgt.Word) (ips : List tgt.Word) :
    framesFrom crashIp (lastLap crashIp [] ips) = (framesFrom crashIp ips).take backtraceFramesMax ↔
      Undisturbed crashIp [] ips ∨ Recurs crashIp ips := by
  constructor
  · intro same
    by_cases undisturbed : Undisturbed crashIp [] ips
    · exact Or.inl undisturbed
    · have fewer := lastLap_disturbed undisturbed
      have length := congrArg List.length same
      rw [List.nil_append] at fewer
      rw [List.length_take] at length
      exact Or.inr ⟨by omega, same ▸ List.take_prefix _ _⟩
  · rintro (undisturbed | ⟨full, again⟩)
    · exact lastLap_undisturbed undisturbed (Nat.succ_le_succ (Nat.zero_le _))
    · have single : (framesFrom crashIp []).length ≤ backtraceFramesMax := Nat.succ_le_succ (Nat.zero_le _)
      exact take_extension (Nat.le_antisymm (lastLap_bound ips single) full) again

theorem unwindBacktrace_recordedFrom {state : BacktraceState tgt} {uc : Ucontext tgt}
    (given : state.saUcontext = some uc) (ips : List tgt.Word) :
    (unwindBacktrace ips state).2.recorded =
      unwoundFrom (crashIpFromMcontext tgt.abi uc.ucMcontext) [] ips := by
  unfold unwindBacktrace
  rw [given]
  exact unwindAll_recorded ips (Nat.zero_le _)

/-- The frames are those of the reference exactly when starting over at a
crash ip that comes again is harmless, but for a recursion as deep as the
slots reach. -/
theorem frames_reference_iff {state : BacktraceState tgt} {uc : Ucontext tgt}
    (given : state.saUcontext = some uc) {crashIp : tgt.Word}
    (crash : crashIpFromMcontext tgt.abi uc.ucMcontext = crashIp) {ips : List tgt.Word}
    (room : crashIp ∈ ips → (compact 0 ((ips.takeWhile (· ≠ crashIp)).map (addressOf crashIp))).length <
      backtraceFramesMax) :
    (unwindBacktrace ips state).2.recorded = referenceFrames crashIp ips ↔
      Undisturbed crashIp [] (behindCrash crashIp ips) ∨ Recurs crashIp (behindCrash crashIp ips) := by
  rw [unwindBacktrace_recordedFrom given, crash]
  by_cases delivered : crashIp ∈ ips
  · obtain ⟨before, behind, rfl, away⟩ := List.eq_append_cons_of_mem delivered
    have others : ∀ ip ∈ before, decide (ip ≠ crashIp) = true := by
      intro ip member
      exact decide_eq_true fun same => away (same ▸ member)
    have taken : (before ++ crashIp :: behind).takeWhile (· ≠ crashIp) = before := by
      rw [List.takeWhile_append_of_pos others, List.takeWhile_cons_of_neg (by simp), List.append_nil]
    have dropped : (before ++ crashIp :: behind).dropWhile (· ≠ crashIp) = crashIp :: behind := by
      rw [List.dropWhile_append_of_pos others, List.dropWhile_cons_of_neg (by simp)]
    have reached := room delivered
    rw [taken, ← foldl_push] at reached
    have reference : referenceFrames crashIp (before ++ crashIp :: behind) =
        (framesFrom crashIp behind).take backtraceFramesMax := by
      rw [referenceFrames, if_pos delivered, dropped, framesFrom]
    have code : unwoundFrom crashIp [] (before ++ crashIp :: behind) =
        framesFrom crashIp (lastLap crashIp [] behind) :=
      (unwoundFrom_reaches away reached behind).trans (unwoundFrom_lastLap [] behind)
    rw [behindCrash, dropped, List.drop_one, List.tail_cons, code, reference]
    exact lastLap_iff crashIp behind
  · have all : ips.dropWhile (· ≠ crashIp) = [] :=
      List.dropWhile_eq_nil_iff.mpr fun ip member => decide_eq_true fun same => delivered (same ▸ member)
    rw [unwoundFrom_notMem delivered (Nat.zero_le _), foldl_push, referenceFrames, if_neg delivered,
      behindCrash, all]
    exact iff_of_true rfl (Or.inl trivial)

/-- A caller is unwound once behind the crashing instruction. -/
theorem frames_reference_plain :
    (unwindBacktrace [0x900, 0x1000, 0x2000] (BacktraceState.given (some Ucontext.running) none)).2.recorded =
      referenceFrames 0x1000 [0x900, 0x1000, 0x2000] :=
  (frames_reference_iff (show (BacktraceState.given (some Ucontext.running) none).saUcontext =
    some Ucontext.running from rfl) rfl fun _ => by decide).mpr (Or.inl trivial)

/-- `ucontext_t _sa_ucontext = {}`. -/
def Ucontext.zeroed : Ucontext .x86Build :=
  ⟨(⟨fun _ => 0⟩ : McontextX86 32)⟩

/-- The null address that ends the stack is taken for the crash ip again. -/
theorem null_crash_loses_callers :
    (unwindBacktrace [0, 0x1000, 0x2000, 0] (BacktraceState.given (some Ucontext.zeroed) none)).2.recorded ≠
      referenceFrames 0 [0, 0x1000, 0x2000, 0] := by
  decide

end AgentNDK
