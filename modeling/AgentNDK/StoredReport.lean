import AgentNDK.ReportSize

namespace AgentNDK
open CText
variable {tgt : Target}

/-! No part of a report holds a NUL, so its length is that of the C string. -/

theorem nulFree_flatten {ts : List Text} (each : ∀ t ∈ ts, nul ∉ t) : nul ∉ ts.flatten := by
  intro member
  obtain ⟨t, inside, here⟩ := List.mem_flatten.mp member
  exact each t inside here

theorem comma_nulFree {line : Text} (free : nul ∉ line) : nul ∉ line ++ [','] :=
  nulFree_append free (by decide)

theorem emitF_nulFree {state line : Text} (before : nul ∉ state) (free : nul ∉ line) :
    nul ∉ emitF state line :=
  nulFree_append before fun member => free (List.mem_of_mem_take member)

theorem emitLines_nulFree {state : Text} {lines : List Text} (before : nul ∉ state)
    (free : ∀ line ∈ lines, nul ∉ line) : nul ∉ emitLines state lines := by
  rw [emitLines_eq]
  refine nulFree_append before (nulFree_flatten fun t member => ?_)
  obtain ⟨line, inside, rfl⟩ := List.mem_map.mp member
  exact fun here => free line inside (List.mem_of_mem_take here)

theorem intercalate_nulFree {items : List Text} (free : ∀ item ∈ items, nul ∉ item) :
    nul ∉ List.intercalate [','] items := by
  induction items with
  | nil => simp [List.intercalate]
  | cons first rest ih =>
    cases rest with
    | nil =>
      rw [List.intercalate_singleton]
      exact free first List.mem_cons_self
    | cons second more =>
      rw [List.intercalate_cons_cons]
      exact nulFree_append (comma_nulFree (free first List.mem_cons_self))
        (ih fun item member => free item (List.mem_cons_of_mem first member))

theorem emitGroup_nulFree {opening closing : Char} (brackets : opening ≠ nul ∧ closing ≠ nul)
    {state : Text} (before : nul ∉ state) {name : Option Text} (plain : ∀ n, name = some n → Plain n)
    {args : List (Option Text)} (free : ∀ item ∈ untilNull args, nul ∉ item) :
    nul ∉ emitGroup opening closing state name args := by
  have marks : nul ∉ (['\''] : Text) ∧ nul ∉ ("':" : Text) := by decide
  have items := intercalate_nulFree free
  have bracketed : nul ∉ opening :: List.intercalate [','] (untilNull args) := by
    simp only [List.mem_cons, not_or]
    exact ⟨brackets.1.symm, items⟩
  have closed : nul ∉ [closing] := by simpa using brackets.2.symm
  cases name with
  | none => exact nulFree_append (nulFree_append before bracketed) closed
  | some name =>
    have title := nulFree_append (nulFree_append marks.1 (plain name rfl).nulFree) marks.2
    exact nulFree_append (nulFree_append (emitF_nulFree before title) bracketed) closed

theorem emitGroup_named_nulFree {opening closing : Char} (brackets : opening ≠ nul ∧ closing ≠ nul)
    {state name body : Text} (before : nul ∉ state) (plain : Plain name) (free : nul ∉ body) :
    nul ∉ emitGroup opening closing state (some name) [some body, none] :=
  emitGroup_nulFree brackets before (fun _ named => Option.some.inj named ▸ plain)
    (List.forall_mem_singleton.mpr free)

theorem emitGroup_unnamed_nulFree {opening closing : Char} (brackets : opening ≠ nul ∧ closing ≠ nul)
    {state body : Text} (before : nul ∉ state) (free : nul ∉ body) :
    nul ∉ emitGroup opening closing state none [some body, none] :=
  emitGroup_nulFree brackets before (by simp) (List.forall_mem_singleton.mpr free)

theorem joinItems_nulFree {items : List Text} (free : ∀ item ∈ items, nul ∉ item) :
    nul ∉ joinItems items := by
  rw [joinItems_eq]
  refine fun member => nulFree_flatten (fun t inside => ?_) ((List.dropLast_sublist _).subset member)
  obtain ⟨item, here, rfl⟩ := List.mem_map.mp inside
  exact comma_nulFree (free item here)

theorem requote_nulFree {t : Text} (free : nul ∉ t) : nul ∉ requote t := by
  intro member
  obtain ⟨c, inside, same⟩ := List.mem_map.mp member
  split at same
  · exact absurd same (by decide)
  · exact free (same ▸ inside)

theorem frameToString_nulFree (stackframe : Stackframe tgt) : nul ∉ frameToString stackframe [] := by
  have index := (zeroPad_numeral (fmtZu_numeral stackframe.index) 2).plain.nulFree
  have pc := (fmtX_numeral 16 stackframe.pc).plain.nulFree
  have offset := (fmtD_numeral stackframe.symAddrOffset).plain.nulFree
  have words : nul ∉ (['#'] : Text) ∧ nul ∉ (" pc " : Text) ∧ nul ∉ (" " : Text) ∧
      nul ∉ (" (" : Text) ∧ nul ∉ ("+" : Text) ∧ nul ∉ (")" : Text) := by decide
  have symbol : nul ∉ symbolPart stackframe := by
    unfold symbolPart
    split
    · exact nulFree_append (nulFree_append (nulFree_append (nulFree_append words.2.2.2.1
        stackframe.symName.nulFree) words.2.2.2.2.1) offset) words.2.2.2.2.2
    · exact List.not_mem_nil
  have opening := nulFree_append (nulFree_append (nulFree_append (nulFree_append (nulFree_append
    words.1 index) words.2.1) pc) words.2.2.1) stackframe.soPath.nulFree
  rw [frameToString_eq]
  exact nulFree_append (fun member => opening (List.mem_of_mem_take member)) symbol

theorem frameToJson_nulFree (stackframe : Stackframe tgt) : nul ∉ frameToJson stackframe [] := by
  have zu : ∀ value : tgt.Word, nul ∉ fmtZu value := fun value => (fmtZu_numeral value).plain.nulFree
  have index := (fmtD_numeral stackframe.index).plain.nulFree
  have lines : nul ∉ emitLines [] [ quoted "cstr" (frameToString stackframe []) ++ [','],
      bare "index" (fmtD stackframe.index) ++ [','], bare "address" (fmtZu stackframe.address) ++ [','],
      bare "pc" (fmtZu stackframe.pc) ++ [','], bare "so_base" (fmtZu stackframe.soBase) ++ [','],
      bare "sym_addr" (fmtZu stackframe.symAddr) ++ [','],
      bare "sym_addr_offset" (fmtZu stackframe.symAddrOffset) ] := by
    refine emitLines_nulFree List.not_mem_nil ?_
    simp only [List.forall_mem_cons]
    exact ⟨comma_nulFree (quoted_nulFree (by decide) (frameToString_nulFree stackframe)),
      comma_nulFree (bare_nulFree (by decide) index), comma_nulFree (bare_nulFree (by decide) (zu _)),
      comma_nulFree (bare_nulFree (by decide) (zu _)), comma_nulFree (bare_nulFree (by decide) (zu _)),
      comma_nulFree (bare_nulFree (by decide) (zu _)), bare_nulFree (by decide) (zu _), by simp⟩
  have grows : ∀ {test : Prop} [Decidable test] {state key value : Text}, nul ∉ state → Plain key →
      nul ∉ value → nul ∉ if test then emitF state (',' :: quoted key value) else state := by
    intro test _ state key value before plain free
    split
    · exact emitF_nulFree before (nulFree_append (show nul ∉ [','] by decide) (quoted_nulFree plain free))
    · exact before
  unfold frameToJson emitE
  exact emitGroup_unnamed_nulFree (by decide) List.not_mem_nil
    (grows (grows lines (by decide) stackframe.soPath.nulFree) (by decide) stackframe.symName.nulFree)

theorem emitCallstack_nulFree (os : Os tgt) (backtrace_state : Option (BacktraceState tgt)) :
    nul ∉ emitCallstack os backtrace_state [] := by
  unfold emitCallstack emitA
  refine emitGroup_named_nulFree (by decide) List.not_mem_nil (by decide) ?_
  split
  · exact List.not_mem_nil
  · refine joinItems_nulFree fun item member => ?_
    obtain ⟨frame, _, rfl⟩ := List.mem_map.mp member
    exact frameToJson_nulFree frame

theorem emitThreadInfo_nulFree (os : Os tgt) (thread : ThreadInfo tgt) :
    nul ∉ emitThreadInfo os thread [] := by
  have d : ∀ value : Int32, nul ∉ fmtD value.toBitVec := fun value => (fmtD_numeral _).plain.nulFree
  have crashed : nul ∉ (if thread.crashed then ("true" : Text) else "false") := by
    split <;> decide
  unfold emitThreadInfo emitE
  refine emitGroup_unnamed_nulFree (by decide) List.not_mem_nil ?_
  refine nulFree_append (emitLines_nulFree List.not_mem_nil ?_)
    (nulFree_flatten (List.forall_mem_singleton.mpr (emitCallstack_nulFree os _)))
  simp only [List.forall_mem_cons]
  exact ⟨comma_nulFree (bare_nulFree (by decide) (d _)),
    comma_nulFree (quoted_nulFree (by decide) thread.threadName.nulFree),
    comma_nulFree (quoted_nulFree (by decide) thread.threadState.nulFree),
    comma_nulFree (bare_nulFree (by decide) (d _)), comma_nulFree (bare_nulFree (by decide) crashed),
    by simp⟩

theorem emitThreadState_nulFree (os : Os tgt) (backtrace : Backtrace tgt) :
    nul ∉ emitThreadState os backtrace [] := by
  unfold emitThreadState emitA
  refine emitGroup_named_nulFree (by decide) List.not_mem_nil (by decide) ?_
  refine joinItems_nulFree fun item member => ?_
  obtain ⟨thread, _, rfl⟩ := List.mem_map.mp member
  exact emitThreadInfo_nulFree os thread

theorem emitContext_nulFree (os : Os tgt) (native_context : NativeContext tgt)
    (backtrace : Backtrace tgt) : nul ∉ emitContext os native_context backtrace [] := by
  have d : ∀ value : Int32, nul ∉ fmtD value.toBitVec := fun value => (fmtD_numeral _).plain.nulFree
  refine emitLines_nulFree List.not_mem_nil ?_
  simp only [List.forall_mem_cons]
  exact ⟨comma_nulFree (quoted_nulFree (by decide) (getProcessName_nulFree os)),
    comma_nulFree (quoted_nulFree (by decide) backtrace.description.nulFree),
    comma_nulFree (bare_nulFree (by decide) (fmtLd_numeral 0 _).plain.nulFree),
    comma_nulFree (quoted_nulFree (by decide) backtrace.arch.nulFree),
    comma_nulFree (bare_nulFree (by decide) (d _)), comma_nulFree (bare_nulFree (by decide) (d _)),
    comma_nulFree (bare_nulFree (by decide) (d _)),
    comma_nulFree (quoted_nulFree (by decide) (nul_not_mem_cstr _)),
    comma_nulFree (quoted_nulFree (by decide) (nul_not_mem_cstr _)),
    quoted_nulFree (by decide) (by decide), by simp⟩

theorem emitSignalContext_nulFree (siginfo : Option (Siginfo tgt)) :
    nul ∉ emitSignalContext siginfo [] := by
  have title : nul ∉ emitF [] (quoted "name" "Native exception" ++ [',']) :=
    emitF_nulFree List.not_mem_nil (comma_nulFree (quoted_nulFree (by decide) (by decide)))
  unfold emitSignalContext emitE
  refine emitGroup_named_nulFree (by decide) List.not_mem_nil (by decide) ?_
  split
  · exact title
  · rename_i siginfo
    have description := fun code => (getSignalDescription_plain siginfo.siSigno code).nulFree
    refine emitGroup_named_nulFree (by decide)
      (emitF_nulFree title (comma_nulFree (quoted_nulFree (by decide) (description _)))) (by decide)
      (emitLines_nulFree List.not_mem_nil ?_)
    simp only [List.forall_mem_cons]
    exact ⟨comma_nulFree (quoted_nulFree (by decide) (description _)),
      comma_nulFree (bare_nulFree (by decide) (fmtD_numeral _).plain.nulFree),
      bare_nulFree (by decide) (fmtZu_numeral _).plain.nulFree, by simp⟩

theorem emitRegisters_nulFree {sa_ucontext : Option (Ucontext tgt)} {text : Text}
    (emitted : emitRegisters sa_ucontext [] = some text) : nul ∉ text := by
  unfold emitRegisters at emitted
  split at emitted
  · cases emitted
  · rename_i sa_ucontext
    cases Option.some.inj emitted
    obtain ⟨each, final⟩ := registerLines_shown tgt.abi sa_ucontext.ucMcontext
    unfold emitE
    refine emitGroup_named_nulFree (by decide) List.not_mem_nil (by decide) ?_
    refine emitLines_nulFree List.not_mem_nil (List.forall_mem_append.mpr
      ⟨fun line member => ?_, List.forall_mem_singleton.mpr final.1⟩)
    obtain ⟨inner, inside, rfl⟩ := List.mem_map.mp member
    exact comma_nulFree (each inner inside).1

theorem emitBacktrace_nulFree (os : Os tgt) (native_context : NativeContext tgt)
    (backtrace : Backtrace tgt) : nul ∉ emitBacktrace os native_context backtrace := by
  have context := emitContext_nulFree os native_context backtrace
  have signal := emitSignalContext_nulFree backtrace.state.siginfo
  have threads := emitThreadState_nulFree os backtrace
  refine requote_nulFree (nulFree_append (emitGroup_nulFree (by decide) (by decide)
    (fun _ named => Option.some.inj named ▸ (by decide)) ?_) (by decide))
  cases emitted : emitRegisters backtrace.state.saUcontext [] with
  | none => exact List.forall_mem_singleton.mpr context
  | some registers =>
    have shown := emitRegisters_nulFree emitted
    simp only [untilNull, List.forall_mem_cons]
    exact ⟨context, shown, signal, threads, by simp⟩

/-! What collect_backtrace collects is bounded. -/

/-- Only the calling thread has frames, those unwound. -/
theorem collected_frames {os : Os tgt} {siginfo : Siginfo tgt} {sa_ucontext : Option (Ucontext tgt)}
    {thread : ThreadInfo tgt} (member : thread ∈ (collected os siginfo sa_ucontext).threads)
    {state : BacktraceState tgt} (handed : thread.backtraceState = some state) :
    thread.tid = os.gettid ∧ state = unwound os sa_ucontext (some siginfo) := by
  obtain ⟨tid, rfl⟩ := collectThreadState_entries os rfl member
  obtain ⟨same, _, given, _⟩ := threadEntry_spec os (unwound os sa_ucontext (some siginfo)) tid
  have which := given.symm.trans handed
  split at which
  · rename_i calling
    exact ⟨same.trans calling.1, (Option.some.inj which).symm⟩
  · cases which

theorem collected_bounded {os : Os tgt} {siginfo : Siginfo tgt} {sa_ucontext : Option (Ucontext tgt)}
    (distinct : ((collected os siginfo sa_ucontext).threads.map (·.tid)).Nodup) :
    Bounded (collected os siginfo sa_ucontext) where
  threads := collectThreadState_length os rfl
  frames := by
    intro thread member state handed
    rw [(collected_frames member handed).2]
    exact unwound_frameCnt_le os sa_ucontext (some siginfo)
  single := by
    have caller : ∀ thread ∈ (collected os siginfo sa_ucontext).threads,
        thread.backtraceState.isSome = true → (thread.tid == os.gettid) = true := by
      intro thread member handed
      obtain ⟨state, shown⟩ := Option.isSome_iff_exists.mp handed
      exact beq_iff_eq.mpr (collected_frames member shown).1
    have marked := List.countP_mono_left caller
    have once := List.nodup_iff_count_le_one.mp distinct os.gettid
    rw [List.count_eq_countP, List.countP_map] at once
    rw [← List.countP_eq_length_filter]
    exact marked.trans once

/-- The cells of a buffer that holds the whole report. -/
def holding (report buffer : Text) : Text :=
  report ++ nul :: buffer.drop (report.length + 1)

theorem Target.szMax_lt (tgt : Target) : backtraceSzMax < 2 ^ tgt.abi.wordBits := by
  have wide : 32 ≤ tgt.abi.wordBits := by
    cases tgt.abi <;> simp [Abi.wordBits]
  exact (show backtraceSzMax < 2 ^ 32 by decide).trans_le (Nat.pow_le_pow_right (by decide) wide)

theorem szMax_toNat (tgt : Target) :
    (BitVec.ofNat tgt.abi.wordBits backtraceSzMax).toNat = backtraceSzMax := by
  rw [BitVec.toNat_ofNat, Nat.mod_eq_of_lt tgt.szMax_lt]

/-- `max_size - 2` does not wrap. -/
theorem szMax_sub_two (tgt : Target) :
    (BitVec.ofNat tgt.abi.wordBits backtraceSzMax - 2).toNat = backtraceSzMax - 2 := by
  have room := tgt.szMax_lt
  have two : (2 : BitVec tgt.abi.wordBits).toNat = 2 := by
    change (BitVec.ofNat _ 2).toNat = 2
    rw [BitVec.toNat_ofNat, Nat.mod_eq_of_lt ((show 2 < backtraceSzMax by decide).trans room)]
  have small : (2 : BitVec tgt.abi.wordBits) ≤ BitVec.ofNat _ backtraceSzMax := by
    rw [BitVec.le_def, two, szMax_toNat]
    decide
  rw [BitVec.toNat_sub_of_le small, szMax_toNat, two]

end AgentNDK
