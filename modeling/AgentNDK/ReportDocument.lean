import AgentNDK.CollectBacktrace

namespace AgentNDK
open CText JsonText
variable {tgt : Target}

/-- Every string the report shows. Without a context the report ends with
the context member, and no thread is shown. -/
def emittedStrings (os : Os tgt) (native_context : NativeContext tgt) (backtrace : Backtrace tgt) :
    List Text :=
  contextStrings os native_context backtrace ++
    match backtrace.state.saUcontext with
    | none => []
    | some _ => backtrace.threads.flatMap (threadStrings os)

section Report
variable {os : Os tgt} {native_context : NativeContext tgt} {backtrace : Backtrace tgt}

theorem emitBacktrace_items {fs : List Field}
    (items : requote (List.intercalate [','] (untilNull
      [ some (emitContext os native_context backtrace []),
        emitRegisters backtrace.state.saUcontext [],
        some (emitSignalContext backtrace.state.siginfo []),
        some (emitThreadState os backtrace []), none ])) = (fieldsText fs).dropLast) :
    emitBacktrace os native_context backtrace = objectText [.object "backtrace" fs] := by
  have single : (fieldsText [.object "backtrace" fs]).dropLast =
      (Field.object "backtrace" fs).render := fieldsText_dropLast [] _
  unfold emitBacktrace emitE
  rw [emitGroup_state, requote_append, requote_append,
    requote_items (by decide) (by decide) _ _ (by decide), items, objectText, single]
  rfl

theorem emitBacktrace_noContext (null : backtrace.state.saUcontext = none)
    (unquoted : ∀ s ∈ contextStrings os native_context backtrace, Unquoted s) :
    emitBacktrace os native_context backtrace =
      objectText [.object "backtrace" (contextFields os native_context backtrace)] := by
  refine emitBacktrace_items ?_
  have one : ∀ a c d, untilNull [some a, none, some c, some d, none] = [a] := fun _ _ _ => rfl
  rw [null, emitRegisters, one, List.intercalate_singleton]
  exact requote_emitContext unquoted

theorem requote_emitThreadState
    (unquoted : ∀ thread ∈ backtrace.threads, ∀ s ∈ threadStrings os thread, Unquoted s) :
    requote (emitThreadState os backtrace []) =
      (Field.array "threads" (backtrace.threads.map (threadElement os))).render := by
  have same : (backtrace.threads.map (emitThreadInfo os · [])).map requote =
      (backtrace.threads.map (threadElement os)).map Element.text := by
    rw [List.map_map, List.map_map]
    exact List.map_congr_left fun thread member =>
      (threadElement_written (unquoted thread member)).2.symm
  unfold emitThreadState emitA
  rw [requote_group (by decide) (by decide) _ _ (by decide), requote_joinItems same]
  rfl

theorem threadsField_written
    (unquoted : ∀ thread ∈ backtrace.threads, ∀ s ∈ threadStrings os thread, Unquoted s) :
    (Field.array "threads" (backtrace.threads.map (threadElement os))).Written := by
  refine Field.array_written (by decide) fun e member => ?_
  obtain ⟨thread, inside, rfl⟩ := List.mem_map.mp member
  exact (threadElement_written (unquoted thread inside)).1

/-- With a context the report also has the registers, the exception and the
threads, in this order. -/
theorem emitBacktrace_context {sa_ucontext : Ucontext tgt}
    (given : backtrace.state.saUcontext = some sa_ucontext)
    (contextUnquoted : ∀ s ∈ contextStrings os native_context backtrace, Unquoted s)
    (threadsUnquoted : ∀ thread ∈ backtrace.threads, ∀ s ∈ threadStrings os thread, Unquoted s) :
    ∃ registers, (Field.object "registers" registers).Written ∧
      (Field.object "registers" registers).Reads ∧ emitBacktrace os native_context backtrace =
        objectText [.object "backtrace" (contextFields os native_context backtrace ++
          [.object "registers" registers] ++ [exceptionField backtrace.state.siginfo] ++
          [.array "threads" (backtrace.threads.map (threadElement os))])] := by
  obtain ⟨registers, text, emitted, render, written, reads⟩ := requote_emitRegisters sa_ucontext
  refine ⟨registers, written, reads, emitBacktrace_items ?_⟩
  have join : ∀ a b c d : Text, requote (List.intercalate [','] [a, b, c, d]) =
      requote a ++ ',' :: requote b ++ ',' :: requote c ++ ',' :: requote d := by
    intro a b c d
    simp [List.intercalate]
  rw [given, emitted]
  simp only [untilNull]
  rw [join, requote_emitContext contextUnquoted, render, requote_emitSignalContext,
    requote_emitThreadState threadsUnquoted, fieldsText_snoc (by simp), fieldsText_snoc (by simp),
    fieldsText_snoc (by simp [contextFields])]

/-- The frame strings, the only members that can outgrow the buffer, all fit. -/
def FramesFit (os : Os tgt) (backtrace : Backtrace tgt) : Prop :=
  ∀ thread ∈ backtrace.threads, ∀ frame ∈ threadFrames os thread, FrameFits frame

instance : Decidable (FramesFit os backtrace) :=
  inferInstanceAs (Decidable (∀ thread ∈ _, ∀ frame ∈ _, FrameFits frame))

theorem forall_mem_emittedStrings {P : Text → Prop} {sa_ucontext : Ucontext tgt}
    (given : backtrace.state.saUcontext = some sa_ucontext) :
    (∀ s ∈ emittedStrings os native_context backtrace, P s) ↔
      (∀ s ∈ contextStrings os native_context backtrace, P s) ∧
        ∀ thread ∈ backtrace.threads, ∀ s ∈ threadStrings os thread, P s := by
  simp only [emittedStrings, given, List.forall_mem_append, List.forall_mem_flatMap]

theorem threadsField_reads :
    (Field.array "threads" (backtrace.threads.map (threadElement os))).Reads ↔
      (∀ thread ∈ backtrace.threads, ∀ s ∈ threadStrings os thread, Readable s) ∧
        FramesFit os backtrace := by
  rw [Field.array_reads, List.forall_mem_map, FramesFit, ← forall₂_and]
  exact forall₂_congr fun thread _ => threadElement_reads os thread

/-- With no quotation mark, apostrophe or backslash in its strings, the report
is a document exactly when the strings are readable, and either nothing but
the context is emitted or there is a siginfo and every frame string fits. -/
theorem report_document_iff
    (unquoted : ∀ s ∈ emittedStrings os native_context backtrace, Unquoted s) :
    JsonDocument (emitBacktrace os native_context backtrace) ↔
      (∀ s ∈ emittedStrings os native_context backtrace, Readable s) ∧
        (backtrace.state.saUcontext = none ∨
          backtrace.state.siginfo ≠ none ∧ FramesFit os backtrace) := by
  cases given : backtrace.state.saUcontext with
  | none =>
    have strings : emittedStrings os native_context backtrace =
        contextStrings os native_context backtrace := by
      simp only [emittedStrings, given, List.append_nil]
    rw [strings] at unquoted ⊢
    rw [emitBacktrace_noContext given unquoted, document_objectText
      (List.forall_mem_singleton.mpr (Field.object_written (by decide) (contextFields_written unquoted))),
      List.forall_mem_singleton, Field.object_reads, contextFields_reads]
    exact (and_iff_left (Or.inl rfl)).symm
  | some sa_ucontext =>
    obtain ⟨context, threads⟩ := (forall_mem_emittedStrings given).mp unquoted
    obtain ⟨registers, written, reads, text⟩ := emitBacktrace_context given context threads
    have members : ∀ f ∈ contextFields os native_context backtrace ++
        [.object "registers" registers] ++ [exceptionField backtrace.state.siginfo] ++
        [.array "threads" (backtrace.threads.map (threadElement os))], f.Written := by
      simp only [List.forall_mem_append, List.forall_mem_singleton]
      exact ⟨⟨⟨contextFields_written context, written⟩, exceptionField_written _⟩,
        threadsField_written threads⟩
    rw [text, document_objectText (List.forall_mem_singleton.mpr
      (Field.object_written (by decide) members)), List.forall_mem_singleton, Field.object_reads]
    simp only [List.forall_mem_append, List.forall_mem_singleton, contextFields_reads, reads,
      exceptionField_reads, threadsField_reads, forall_mem_emittedStrings given]
    tauto

end Report

/-- The report of a crash in a process of two threads is a document. -/
theorem running_report_document : JsonDocument
    (emitBacktrace (Os.running [6, 7] 7) (NativeContext.zeroed _) runningBacktrace) := by
  have plain : ∀ s ∈ emittedStrings (Os.running [6, 7] 7) (NativeContext.zeroed _) runningBacktrace,
      Plain s := by decide +kernel
  have fit : FramesFit (Os.running [6, 7] 7) runningBacktrace := by decide +kernel
  exact (report_document_iff fun s member => unquoted_of_plain (plain s member)).mpr
    ⟨fun s member => readable_of_plain (plain s member), Or.inr ⟨Option.some_ne_none _, fit⟩⟩

/-- A process that crashes in a lambda: the demangled name of its function has
the apostrophes the demangler writes around `lambda`. -/
def lambdaProcess : Os .x86Build :=
  { Os.running [7] 7 with
    dladdr := fun _ => some ⟨some "/data/app/lib/x86/libnative.so", 0x800, some "_ZZ1fvENKUlvE_clEv", 0xff0⟩
    demangle := fun _ => some "f()::'lambda'()::operator()() const" }

/-- The apostrophes become quotation marks inside a string. -/
theorem lambda_report_no_document : ¬ JsonDocument (emitBacktrace lambdaProcess (NativeContext.zeroed _)
    (collected lambdaProcess ⟨11, 1, 0⟩ (some Ucontext.running))) := by
  have unread : (parse (emitBacktrace lambdaProcess (NativeContext.zeroed _)
    (collected lambdaProcess ⟨11, 1, 0⟩ (some Ucontext.running)))).isNone = true := by decide +kernel
  rintro ⟨_, v, document⟩
  rw [parse_eq_some_iff.mpr document] at unread
  cases unread

/-! The sections of a report. -/

section Sections
variable (os : Os tgt) (native_context : NativeContext tgt) (backtrace : Backtrace tgt)

/-- The threads array with one entry for every thread. -/
def threadsSection : Text :=
  "'threads':[" ++ List.intercalate [','] (backtrace.threads.map (emitThreadInfo os · [])) ++ "]"

/-- Behind whatever comes first, the report has the exception member and the
threads array. -/
def HasSections (report : Text) : Prop :=
  ∃ before, report = before ++ ',' :: requote (emitSignalContext backtrace.state.siginfo []) ++
    ',' :: requote (threadsSection os backtrace) ++ ['\x7d', '\x7d']

theorem emitThreadState_eq : emitThreadState os backtrace [] = threadsSection os backtrace := by
  unfold emitThreadState emitA emitGroup threadsSection
  dsimp only [untilNull]
  rw [emitF_fit (by decide), List.intercalate_singleton, joinItems_eq, ← intercalate_dropLast]
  simp

/-- The context ends in a quotation mark, the threads array in a bracket. -/
theorem requote_emitContext_ends :
    ∃ before, requote (emitContext os native_context backtrace []) = before ++ ['"'] := by
  have platform : requote (quoted "platform" "android") = "\"platform\":\"android" ++ ['"'] := by decide
  have ends : ∃ before, emitContext os native_context backtrace [] =
      before ++ quoted "platform" "android" := by
    unfold emitContext
    exact ⟨_, (emitLines_append [] [_, _, _, _, _, _, _, _, _] [_]).trans (emitF_fit (by decide) _)⟩
  obtain ⟨before, shape⟩ := ends
  rw [shape, requote_append, platform, ← List.append_assoc]
  exact ⟨_, rfl⟩

theorem requote_threadsSection_ends :
    ∃ before, requote (threadsSection os backtrace) = before ++ [']'] := by
  unfold threadsSection
  rw [requote_append]
  exact ⟨_, rfl⟩

theorem emitBacktrace_joined : ∃ before, emitBacktrace os native_context backtrace =
    before ++ requote (List.intercalate [','] (untilNull
      [ some (emitContext os native_context backtrace []),
        emitRegisters backtrace.state.saUcontext [],
        some (emitSignalContext backtrace.state.siginfo []),
        some (emitThreadState os backtrace []), none ])) ++ ['\x7d', '\x7d'] := by
  unfold emitBacktrace emitE emitGroup
  exact ⟨requote (emitF ['\x7b'] "'backtrace':" ++ ['\x7b']), by simp⟩

/-- An absent register set is the null pointer that ends the list of sections. -/
theorem hasSections_null (null : backtrace.state.saUcontext = none) :
    ¬ HasSections os backtrace (emitBacktrace os native_context backtrace) := by
  rintro ⟨start, same⟩
  obtain ⟨before, joined⟩ := emitBacktrace_joined os native_context backtrace
  obtain ⟨context, contextEnds⟩ := requote_emitContext_ends os native_context backtrace
  obtain ⟨threads, threadsEnd⟩ := requote_threadsSection_ends os backtrace
  have single : ∀ a c d, untilNull [some a, none, some c, some d, none] = [a] := fun _ _ _ => rfl
  rw [joined, null] at same
  have cut := List.append_cancel_right same
  rw [emitRegisters, single, List.intercalate_singleton, contextEnds, threadsEnd] at cut
  have lasts := congrArg List.getLast? cut
  rw [← List.append_assoc, ← List.cons_append, ← List.append_assoc, List.getLast?_concat,
    List.getLast?_concat] at lasts
  exact absurd (Option.some.inj lasts) (by decide)

/-- Whatever its strings are, and with or without a siginfo, a report has the
exception and the threads exactly when it has a register set. -/
theorem hasSections_iff : HasSections os backtrace (emitBacktrace os native_context backtrace) ↔
    backtrace.state.saUcontext ≠ none := by
  refine ⟨fun sections null => hasSections_null os native_context backtrace null sections, ?_⟩
  intro present
  obtain ⟨sa_ucontext, given⟩ := Option.ne_none_iff_exists'.mp present
  obtain ⟨before, joined⟩ := emitBacktrace_joined os native_context backtrace
  obtain ⟨registers, emitted⟩ : ∃ registers, emitRegisters (some sa_ucontext) [] = some registers :=
    ⟨_, rfl⟩
  rw [given, emitted, emitThreadState_eq] at joined
  refine ⟨before ++ requote (emitContext os native_context backtrace []) ++ ',' :: requote registers, ?_⟩
  rw [joined]
  simp [untilNull, List.intercalate]

end Sections

/-- The crash of a process of two threads, its register set withheld. -/
theorem sections_lost : ¬ HasSections (Os.running [6, 7] 7)
    (collected (Os.running [6, 7] 7) ⟨11, 1, 0⟩ none)
    (emitBacktrace (Os.running [6, 7] 7) (NativeContext.zeroed .x86Build)
      (collected (Os.running [6, 7] 7) ⟨11, 1, 0⟩ none)) := by
  refine hasSections_null _ _ _ ?_
  rw [collected_state, unwound_saUcontext]

end AgentNDK
