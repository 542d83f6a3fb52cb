import AgentNDK.DelegateSafety

namespace AgentNDK
open CText Runs Threads
variable {τ : Type}

/-- Every step but these releases or passes on what the thread has to release:
a delegate thread gets no environment, and a caller that has attached itself
gets no memory or cannot create the thread. -/
def DelegatePlace.Releases : DelegatePlace → DelegateMove → Prop
  | .begun _, .getEnv answer => answer = .given
  | .entered _ jniAttached, .allocate succeeds => succeeds = true ∨ jniAttached = false
  | .discarding jniAttached _, .advance => jniAttached = false
  | _, _ => True

section Balance
open DelegateShared
variable {t : τ} {s : DelegateShared τ} {place : DelegatePlace}

/-- A live block that is neither ready nor owned at the place. -/
def Unclaimed (place : DelegatePlace) (s : DelegateShared τ) (block : Nat) : Prop :=
  (s.blocks.get block).isSome = true ∧ block ∉ s.ready ∧ place.owns ≠ some block

/-- The thread is attached, and would not detach itself. -/
def LeftAttached (t : τ) (place : DelegatePlace) (s : DelegateShared τ) : Prop :=
  s.attached t = true ∧ place.jniAttached = false

/-- A step that neither leaves something behind nor takes it up again. -/
structure Balanced (t : τ) (place : DelegatePlace) (s : DelegateShared τ)
    (next : DelegatePlace × DelegateShared τ) : Prop where
  blocks : ∀ block, Unclaimed next.1 next.2 block ↔ Unclaimed place s block
  attached : LeftAttached t next.1 next.2 ↔ LeftAttached t place s

theorem balanced_same {next : DelegatePlace × DelegateShared τ}
    (blocks : ∀ b, (next.2.blocks.get b).isSome = (s.blocks.get b).isSome) (ready : next.2.ready = s.ready)
    (attached : next.2.attached t = s.attached t) (owns : next.1.owns = place.owns)
    (flag : next.1.jniAttached = place.jniAttached) : Balanced t place s next where
  blocks := fun b => by rw [Unclaimed, blocks b, ready, owns, Unclaimed]
  attached := by rw [LeftAttached, attached, flag, LeftAttached]

theorem deleteRef_frame {ref : Option Nat} {s' : DelegateShared τ} (deleted : s.deleteRef ref = some s') :
    s'.blocks = s.blocks ∧ s'.ready = s.ready ∧ s'.attached = s.attached := by
  cases ref with
  | none =>
    cases deleted
    exact ⟨rfl, rfl, rfl⟩
  | some ref =>
    obtain ⟨_, _, rfl⟩ := Option.map_eq_some_iff.mp deleted
    exact ⟨rfl, rfl, rfl⟩

theorem callVoidMethod_frame {block : Nat} {args : DelegateThreadArgs} {s' : DelegateShared τ}
    (called : s.callVoidMethod block args = some s') :
    s'.blocks = s.blocks ∧ s'.ready = s.ready ∧ s'.attached = s.attached := by
  unfold callVoidMethod at called
  split at called
  · split at called
    · obtain ⟨_, _, rfl⟩ := Option.map_eq_some_iff.mp called
      exact ⟨rfl, rfl, rfl⟩
    · cases called
  · cases called
    exact ⟨rfl, rfl, rfl⟩

theorem balanced_released {block : Nat} (live : (s.blocks.get block).isSome = true)
    (owned : place.owns = some block) {next : DelegatePlace} (owns : next.owns = none)
    (flag : next.jniAttached = place.jniAttached) :
    Balanced t place s (next, { s with blocks := s.blocks.release block }) where
  blocks := by
    intro b
    obtain ⟨args, found⟩ := Option.isSome_iff_exists.mp live
    have get := Slots.get_release (j := b) found
    by_cases same : b = block
    · refine iff_of_false ?_ fun unclaimed => unclaimed.2.2 (same ▸ owned)
      rintro ⟨still, _⟩
      rw [get, if_pos same] at still
      cases still
    · simp only [Unclaimed, get, if_neg same, owns, owned, ne_eq, reduceCtorEq, not_false_eq_true, and_true,
        Option.some.injEq, Ne.symm same]
  attached := by rw [LeftAttached, flag, LeftAttached]

/-- A thread that attaches itself is to detach itself. -/
theorem balanced_attach [DecidableEq τ] (detached : s.attached t = false) {next : DelegatePlace}
    (owns : next.owns = place.owns) (flag : next.jniAttached = true) :
    Balanced t place s (next, s.attach t) where
  blocks := fun b => by
    rw [Unclaimed, owns, Unclaimed]
    rfl
  attached := iff_of_false (fun left => Bool.noConfusion (flag.symm.trans left.2))
    fun left => Bool.noConfusion (detached.symm.trans left.1)

/-- A block that is ready becomes the one of the thread that begins. -/
theorem balanced_begin {block : Nat} {rest : List Nat} (ready : s.ready = block :: rest) :
    Balanced t .idle s (.begun block, { s with ready := rest }) where
  blocks := by
    intro b
    simp only [Unclaimed, DelegatePlace.owns, ready, List.mem_cons, not_or]
    constructor
    · rintro ⟨live, rest, other⟩
      exact ⟨live, ⟨fun same => other (congrArg some same.symm), rest⟩, (Option.some_ne_none b).symm⟩
    · rintro ⟨live, ⟨other, rest⟩, _⟩
      exact ⟨live, rest, fun same => other (Option.some.inj same).symm⟩
  attached := Iff.rfl

theorem delegateAct_balanced [DecidableEq τ] {move : DelegateMove}
    {next : DelegatePlace × DelegateShared τ} (sound : s.Sound) (relies : place.Relies t s)
    (releases : place.Releases move) (acted : delegateAct t place s move = some next) :
    Balanced t place s next := by
  have still : ∀ {p : DelegatePlace}, p.owns = place.owns → p.jniAttached = place.jniAttached →
      Balanced t place s (p, s) :=
    fun {p} owns flag => balanced_same (fun _ => rfl) rfl rfl owns flag
  unfold delegateAct at acted
  split at acted
  case h_1 call =>
    cases acted
    exact balanced_same (fun _ => rfl) rfl rfl rfl rfl
  case h_2 kind backtrace => split at acted <;> cases acted <;> exact still rfl rfl
  case h_3 request answer =>
    split at acted
    · cases acted
      exact still rfl rfl
    · rcases getEnv_cases s t answer with missing | ⟨_, given⟩ | ⟨detached, given⟩
      · rw [missing] at acted
        cases acted
        exact still rfl rfl
      · rw [given] at acted
        cases acted
        exact still rfl rfl
      · rw [given] at acted
        cases acted
        exact balanced_attach detached rfl rfl
  case h_4 request jniAttached succeeds =>
    split at acted
    · cases acted
      refine ⟨fun b => ?_, Iff.rfl⟩
      simp only [Unclaimed, Slots.get_alloc, DelegatePlace.owns]
      by_cases new : b = s.blocks.length
      · simp [new, Slots.get_length]
      · simp [new, Ne.symm new]
    · rename_i failed
      cases acted
      exact still rfl (releases.resolve_left failed).symm
  case h_5 request jniAttached block made =>
    rw [relies.knows.1] at acted
    cases acted
    refine balanced_same (fun b => ?_) rfl rfl rfl rfl
    dsimp only
    rw [Slots.get_put relies.knows.1]
    split
    · rename_i same
      rw [same, relies.knows.1]
      rfl
    · rfl
  case h_6 jniAttached block ref succeeds =>
    split at acted <;> cases acted
    · refine ⟨fun b => ?_, Iff.rfl⟩
      simp only [Unclaimed, DelegatePlace.owns, List.mem_append, List.mem_singleton, not_or, ne_eq,
        reduceCtorEq, not_false_eq_true, and_true, Option.some.injEq, eq_comm]
    · exact still rfl rfl
  case h_7 jniAttached block ref =>
    obtain ⟨args, _, found, _⟩ := id relies.knows.1
    obtain ⟨s', deleted, _⟩ := deleteRef_clears (t := t) sound relies.knows.1 (relies.apart block rfl) found
    rw [relies.knows.2.2 args found] at deleted
    obtain ⟨blocks, ready, attached⟩ := deleteRef_frame deleted
    rw [deleted] at acted
    cases acted
    exact balanced_same (fun b => by rw [blocks]) ready (congrFun attached t) rfl rfl
  case h_8 jniAttached block =>
    obtain ⟨args, found, _⟩ := id relies.knows
    have live : (s.blocks.get block).isSome = true := by rw [found]; rfl
    rw [found] at acted
    cases acted
    exact balanced_released live rfl rfl (show false = jniAttached from releases.symm)
  case h_9 jniAttached =>
    cases acted
    exact still rfl rfl
  case h_10 =>
    split at acted
    · rename_i block rest ready
      split at acted <;> cases acted
      exact balanced_begin ready
    · cases acted
  case h_11 block answer =>
    obtain rfl : answer = .given := releases
    have detached := relies.detached block rfl
    have given : s.getEnv t .given = some (true, s.attach t) := by
      rw [DelegateShared.getEnv, detached]
      rfl
    rw [given] at acted
    cases acted
    exact balanced_attach detached rfl rfl
  case h_12 block jniAttached =>
    obtain ⟨args, _, found, _⟩ := id relies.knows.1
    obtain ⟨s', called, _⟩ := callVoidMethod_delivers (t := t) sound relies.knows.1 relies.knows.2
      (relies.apart block rfl) found
    obtain ⟨blocks, ready, attached⟩ := callVoidMethod_frame called
    rw [found, Option.bind_some, called] at acted
    cases acted
    exact balanced_same (fun b => by rw [blocks]) ready (congrFun attached t) rfl rfl
  case h_13 block jniAttached =>
    obtain ⟨args, _, found, _⟩ := id relies.knows
    obtain ⟨s', deleted, _⟩ := deleteRef_clears (t := t) sound relies.knows (relies.apart block rfl) found
    obtain ⟨blocks, ready, attached⟩ := deleteRef_frame deleted
    rw [found, Option.bind_some, deleted] at acted
    cases acted
    exact balanced_same (fun b => by rw [blocks]) ready (congrFun attached t) rfl rfl
  case h_14 block jniAttached =>
    obtain ⟨args, found, _⟩ := id relies.knows
    have live : (s.blocks.get block).isSome = true := by rw [found]; rfl
    rw [found] at acted
    cases acted
    exact balanced_released live rfl rfl rfl
  case h_15 jniAttached =>
    cases acted
    cases jniAttached with
    | false => exact still rfl rfl
    | true =>
      refine ⟨fun b => Iff.rfl, iff_of_false (fun left => ?_) fun left => ?_⟩
      · have detached : (s.detach t).attached t = false := Function.update_self ..
        exact Bool.noConfusion (detached.symm.trans left.1)
      · exact Bool.noConfusion left.2
  case h_16 => cases acted

end Balance

section Leaks
variable {java : τ → Bool} {s s' : DelegateThreads τ}

/-- Something that nobody will release: a live block that no thread has or
waits for, or a thread of the system that stays attached. -/
def DelegateThreads.Leaked (java : τ → Bool) (s : DelegateThreads τ) : Prop :=
  (∃ block, (s.shared.blocks.get block).isSome = true ∧ block ∉ s.shared.ready ∧
    ∀ t, (s.place t).owns ≠ some block) ∨
  ∃ t, java t = false ∧ LeftAttached t (s.place t) s.shared

/-- With the outline, the threads of the VM stay attached. -/
structure DelegateThreads.Accounted (java : τ → Bool) (s : DelegateThreads τ) : Prop where
  holds : delegateOutline.Holds s
  java : ∀ t, java t = true → LeftAttached t (s.place t) s.shared

/-- A thread that is left attached has nothing to leave behind but a block. -/
theorem releases_of_left {t : τ} {place : DelegatePlace} {s : DelegateShared τ} {move : DelegateMove}
    (relies : place.Relies t s) (left : LeftAttached t place s) : place.Releases move := by
  unfold DelegatePlace.Releases
  split
  · exact Bool.noConfusion (left.1.symm.trans (relies.detached _ rfl))
  · exact Or.inr left.2
  · exact left.2
  · trivial

variable [DecidableEq τ]

theorem releases_accounted {turn : τ × DelegateMove} (accounted : s.Accounted java)
    (taken : s.step turn = some s') : s'.Accounted java := by
  refine ⟨accounted.holds.step delegate_keeps taken, fun u attached => ?_⟩
  obtain ⟨next, acted, rfl⟩ := step_eq_some.mp taken
  have relies := accounted.holds.relies turn.1
  have before := accounted.java u attached
  by_cases same : u = turn.1
  · subst same
    have balanced := delegateAct_balanced accounted.holds.always relies
      (releases_of_left relies before) acted
    rw [show (⟨_, next.2⟩ : DelegateThreads τ).place turn.1 = next.1 from Function.update_self ..]
    exact balanced.attached.mpr before
  · rw [show (⟨_, next.2⟩ : DelegateThreads τ).place u = s.place u from Function.update_of_ne same ..]
    have advance := delegateAct_advances accounted.holds.always relies acted
    exact ⟨(advance.spares.attached u same).trans before.1, before.2⟩

theorem leaked_of_not_releases {turn : τ × DelegateMove} (accounted : s.Accounted java)
    (keeps : ¬ (s.place turn.1).Releases turn.2) (taken : s.step turn = some s') : s'.Leaked java := by
  obtain ⟨next, acted, rfl⟩ := step_eq_some.mp taken
  obtain ⟨t, move⟩ := turn
  have relies := accounted.holds.relies t
  have apart := accounted.holds.apart t
  have native : (s.place t).jniAttached = true → java t = false := by
    intro flag
    by_contra attached
    have left := accounted.java t (by simpa using attached)
    exact Bool.noConfusion (flag.symm.trans left.2)
  have stray : (s.place t).jniAttached = true → next.1 = .idle → next.2.attached = s.shared.attached →
      DelegateThreads.Leaked java ⟨Function.update s.place t next.1, next.2⟩ := by
    intro flag idle attached
    refine Or.inr ⟨t, native flag, ?_, ?_⟩
    · exact (congrFun attached t).trans (relies.attached flag)
    · dsimp only
      rw [Function.update_self, idle]
      rfl
  dsimp only at keeps acted ⊢
  generalize here : s.place t = place at keeps acted relies stray apart
  unfold DelegatePlace.Releases at keeps
  split at keeps
  · rename_i block answer
    have detached := relies.detached block rfl
    have missing : s.shared.getEnv t answer = none := by
      unfold DelegateShared.getEnv
      rw [detached]
      simp [keeps]
    obtain ⟨args, _, found, _⟩ := relies.knows.1
    simp only [delegateAct, missing] at acted
    cases acted
    refine Or.inl ⟨block, by rw [found]; rfl, relies.apart block rfl, fun u => ?_⟩
    dsimp only
    by_cases same : u = t
    · rw [same, Function.update_self]
      exact nofun
    · rw [Function.update_of_ne same]
      exact apart u same block rfl
  · rename_i request jniAttached succeeds
    obtain ⟨failed, flag⟩ := not_or.mp keeps
    simp only [delegateAct, if_neg failed] at acted
    cases acted
    exact stray (show jniAttached = true by simpa using flag) rfl rfl
  · rename_i jniAttached block
    obtain ⟨args, found, _⟩ := relies.knows
    simp only [delegateAct, found, Option.map_some, orFault] at acted
    cases acted
    exact stray (show jniAttached = true by simpa using keeps) rfl rfl
  · exact absurd trivial keeps

theorem leaked_step {turn : τ × DelegateMove} (accounted : s.Accounted java)
    (taken : s.step turn = some s') :
    s'.Leaked java ↔ s.Leaked java ∨ ¬ (s.place turn.1).Releases turn.2 := by
  by_cases releases : (s.place turn.1).Releases turn.2
  · rw [or_iff_left (not_not_intro releases)]
    obtain ⟨next, acted, rfl⟩ := step_eq_some.mp taken
    obtain ⟨t, move⟩ := turn
    have sound := accounted.holds.always
    have relies := accounted.holds.relies t
    have balanced := delegateAct_balanced sound relies releases acted
    have spares := (delegateAct_advances sound relies acted).spares
    have owners : ∀ (p : DelegatePlace) block, (∀ u, (Function.update s.place t p u).owns ≠ some block) ↔
        p.owns ≠ some block ∧ ∀ u, u ≠ t → (s.place u).owns ≠ some block := by
      intro p block
      constructor
      · refine fun each => ⟨?_, fun u other => ?_⟩
        · simpa only [Function.update_self] using each t
        · simpa only [Function.update_of_ne other] using each u
      · rintro ⟨mine, theirs⟩ u
        by_cases same : u = t
        · rw [same, Function.update_self]
          exact mine
        · rw [Function.update_of_ne same]
          exact theirs u same
    refine or_congr (exists_congr fun block => ?_) (exists_congr fun u => and_congr_right fun _ => ?_)
    · have before := owners (s.place t) block
      rw [Function.update_eq_self] at before
      dsimp only
      rw [owners, before, ← and_assoc, ← and_assoc, ← and_assoc, ← and_assoc]
      refine and_congr_left fun _ => ?_
      rw [and_assoc, and_assoc]
      exact balanced.blocks block
    · dsimp only
      by_cases same : u = t
      · rw [same, Function.update_self]
        exact balanced.attached
      · rw [Function.update_of_ne same, LeftAttached, spares.attached u same, LeftAttached]
  · exact iff_of_true (leaked_of_not_releases accounted releases taken) (Or.inr releases)

end Leaks

/-- All blocks and references are deleted, and no thread is attached but those
of the VM. -/
structure DelegateThreads.Released (java : τ → Bool) (s : DelegateThreads τ) : Prop where
  blocks : ∀ block, s.shared.blocks.get block = none
  refs : ∀ ref, s.shared.refs.get ref = none
  attached : s.shared.attached = java

/-- Once all calls have returned and all delegate threads have ended, everything
is released exactly when each delegate thread got an environment and no caller
that had attached itself failed to get memory or to create the thread. -/
theorem delegate_released_iff [DecidableEq τ] {java : τ → Bool} {s : DelegateThreads τ}
    {turns : List (τ × DelegateMove)} (reach : run DelegateThreads.step (.start java) turns = some s)
    (returned : ∀ t, s.place t = .idle) (ended : s.shared.ready = []) : s.Released java ↔
      Meets (fun s turn => (s.place turn.1).Releases turn.2) DelegateThreads.step (.start java) turns := by
  have start : (DelegateThreads.start java).Accounted java :=
    ⟨delegate_start_holds java, fun _ attached => ⟨attached, rfl⟩⟩
  have pres : ∀ (s : DelegateThreads τ) turn t, s.Accounted java → s.step turn = some t → t.Accounted java :=
    fun _ _ _ => releases_accounted
  have accounted := run_invariant pres start reach
  have exactly := meets_iff_not pres (fun _ _ _ => leaked_step) start reach
  have fresh : ¬ (DelegateThreads.start java).Leaked java := by
    rintro (⟨block, live, _⟩ | ⟨t, native, attached, _⟩)
    · cases live
    · exact Bool.noConfusion (native.symm.trans attached)
  rw [and_iff_right fresh] at exactly
  rw [← exactly]
  constructor
  · rintro released (⟨block, live, _⟩ | ⟨t, native, attached, _⟩)
    · rw [released.blocks] at live
      cases live
    · rw [released.attached, native] at attached
      cases attached
  · intro sealed
    have blocks : ∀ block, s.shared.blocks.get block = none := by
      intro block
      by_contra live
      refine sealed (Or.inl ⟨block, Option.isSome_iff_ne_none.mpr live, by simp [ended], fun t => ?_⟩)
      rw [returned t]
      exact nofun
    refine ⟨blocks, fun ref => ?_, ?_⟩
    · by_contra live
      obtain ⟨text, alive⟩ := Option.ne_none_iff_exists'.mp live
      obtain ⟨block, args, found, _⟩ := accounted.holds.always.held ref text alive
      exact nomatch (blocks block).symm.trans found
    · funext t
      cases known : java t with
      | true => exact (accounted.java t known).1
      | false =>
        by_contra attached
        refine sealed (Or.inr ⟨t, known, by simpa using attached, ?_⟩)
        rw [returned t]
        rfl

/-- A thread of the system stays attached when no delegate thread can be
created for its report. -/
theorem delegate_not_released : ∃ s : DelegateThreads Bool,
    run DelegateThreads.step (.start fun _ => false)
      [(false, .library (.onLoad 1 none)), (true, .report .onNativeCrash "backtrace"),
        (true, .getEnv .given), (true, .allocate true), (true, .fill true), (true, .create false),
        (true, .advance), (true, .advance)] = some s ∧
    ¬ Meets (fun s turn => (s.place turn.1).Releases turn.2) DelegateThreads.step (.start fun _ => false)
      [(false, .library (.onLoad 1 none)), (true, .report .onNativeCrash "backtrace"),
        (true, .getEnv .given), (true, .allocate true), (true, .fill true), (true, .create false),
        (true, .advance), (true, .advance)] := by
  have reach : ∃ s : DelegateThreads Bool, run DelegateThreads.step (.start fun _ => false)
      [(false, .library (.onLoad 1 none)), (true, .report .onNativeCrash "backtrace"),
        (true, .getEnv .given), (true, .allocate true), (true, .fill true), (true, .create false),
        (true, .advance), (true, .advance)] = some s ∧ (s.place true = .idle ∧ s.place false = .idle) ∧
      s.shared.ready = [] ∧ s.shared.attached true = true := ⟨_, rfl, ⟨rfl, rfl⟩, rfl, rfl⟩
  obtain ⟨s, reach, ⟨first, second⟩, ended, attached⟩ := reach
  refine ⟨s, reach, fun releases => ?_⟩
  have released := (delegate_released_iff reach (Bool.rec second first) ended).mpr releases
  rw [released.attached] at attached
  cases attached

end AgentNDK
