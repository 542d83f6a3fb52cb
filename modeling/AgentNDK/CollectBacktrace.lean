import AgentNDK.Report

namespace AgentNDK
open CText
variable {tgt : Target}

/-- The backtrace as `collect_backtrace` fills it in before the threads. -/
def Backtrace.filled (os : Os tgt) (state : BacktraceState tgt) (siginfo : Siginfo tgt) :
    Backtrace tgt where
  state := state
  description :=
    CharArray.ofText (getSignalDescription siginfo.siSigno siginfo.siCode) (Nat.succ_pos _)
  timestamp := os.time
  arch := CharArray.ofText (getArch tgt.abi) (Nat.succ_pos _)
  pid := os.getpid
  ppid := os.getppid
  uid := os.getuid
  threads := []

/-- The report is copied into the buffer as far as it fits and terminated.
The result tells whether all of it did. -/
def collectBacktrace (os : Os tgt) (native_context : NativeContext tgt) (buffer : Text)
    (max_size : tgt.Word) (siginfo : Option (Siginfo tgt)) (sa_ucontext : Option (Ucontext tgt)) :
    Except Fault (Bool × Text) := do
  let state := unwound os sa_ucontext siginfo
  let signal ← deref siginfo
  let backtrace := collectThreadState os (Backtrace.filled os state signal)
  let emitted := cstr (emitBacktrace os native_context backtrace)
  let copy_size := min emitted.length (max_size - 2).toNat
  return (copy_size == emitted.length, emitted.take copy_size ++ nul :: buffer.drop (copy_size + 1))

/-- The backtrace a call with this siginfo emits. -/
def collected (os : Os tgt) (siginfo : Siginfo tgt) (sa_ucontext : Option (Ucontext tgt)) :
    Backtrace tgt :=
  collectThreadState os (Backtrace.filled os (unwound os sa_ucontext (some siginfo)) siginfo)

/-- The calls of `collect_backtrace` in the sources. -/
inductive CallSite
  | interceptor
  | anrInterceptor
  | dumpStack
  | terminateHandler
  | terminateHandlerException
  | terminateHandlerUnknown
  | unexpectedHandler
  deriving DecidableEq

/-- The siginfo argument: that of the delivered signal, the zeroed one of the
stack dump, or the null pointer of the exception handlers. -/
def CallSite.siginfo (site : CallSite) (delivered : Siginfo tgt) : Option (Siginfo tgt) :=
  match site with
  | .interceptor | .anrInterceptor => some delivered
  | .dumpStack => some ⟨0, 0, 0⟩
  | .terminateHandler | .terminateHandlerException | .terminateHandlerUnknown
  | .unexpectedHandler => none

/-- The ucontext argument; `zeroed` is the `ucontext_t _sa_ucontext = {}` of
the stack dump. -/
def CallSite.ucontext (site : CallSite) (delivered zeroed : Ucontext tgt) : Option (Ucontext tgt) :=
  match site with
  | .interceptor | .anrInterceptor => some delivered
  | .dumpStack => some zeroed
  | .terminateHandler | .terminateHandlerException | .terminateHandlerUnknown
  | .unexpectedHandler => none

theorem collectBacktrace_some (os : Os tgt) (native_context : NativeContext tgt) (buffer : Text)
    (max_size : tgt.Word) (siginfo : Siginfo tgt) (sa_ucontext : Option (Ucontext tgt)) :
    collectBacktrace os native_context buffer max_size (some siginfo) sa_ucontext =
      let emitted := cstr (emitBacktrace os native_context (collected os siginfo sa_ucontext))
      let copy_size := min emitted.length (max_size - 2).toNat
      .ok (copy_size == emitted.length,
        emitted.take copy_size ++ nul :: buffer.drop (copy_size + 1)) := rfl

theorem collectBacktrace_none (os : Os tgt) (native_context : NativeContext tgt) (buffer : Text)
    (max_size : tgt.Word) (sa_ucontext : Option (Ucontext tgt)) :
    collectBacktrace os native_context buffer max_size none sa_ucontext =
      .error .nullDereference := rfl

theorem collectThreadState_state (os : Os tgt) (backtrace : Backtrace tgt) :
    (collectThreadState os backtrace).state = backtrace.state := by
  unfold collectThreadState
  split <;> rfl

theorem collected_state (os : Os tgt) (siginfo : Siginfo tgt) (sa_ucontext : Option (Ucontext tgt)) :
    (collected os siginfo sa_ucontext).state = unwound os sa_ucontext (some siginfo) :=
  collectThreadState_state os _

/-- The call returns, and the buffer holds a terminated report: as much of
what the emitter wrote as fits. -/
def ReturnsReport (os : Os tgt) (native_context : NativeContext tgt) (buffer : Text)
    (max_size : tgt.Word) (siginfo : Option (Siginfo tgt)) (sa_ucontext : Option (Ucontext tgt)) : Prop :=
  ∃ complete cells backtrace,
    collectBacktrace os native_context buffer max_size siginfo sa_ucontext = .ok (complete, cells) ∧
      backtrace.state = unwound os sa_ucontext siginfo ∧ nul ∈ cells ∧
      cstr cells <+: emitBacktrace os native_context backtrace ∧
      (complete = true → cstr cells = cstr (emitBacktrace os native_context backtrace))

/-- The two pointers reach the unwinder and the emitters, which test them; the
lookup of the description does not. Of the calls in the sources, those of the
exception handlers pass a null siginfo. -/
theorem callSite_returns_iff (os : Os tgt) (native_context : NativeContext tgt) (buffer : Text)
    (site : CallSite) (siginfo : Siginfo tgt) (ucontext zeroed : Ucontext tgt) :
    ReturnsReport os native_context buffer (BitVec.ofNat _ backtraceSzMax) (site.siginfo siginfo)
      (site.ucontext ucontext zeroed) ↔ (site.siginfo siginfo).isSome = true := by
  cases given : site.siginfo siginfo with
  | none =>
    refine iff_of_false ?_ (by simp)
    rintro ⟨complete, cells, backtrace, returned, _⟩
    rw [collectBacktrace_none] at returned
    cases returned
  | some signal =>
    refine iff_of_true ?_ rfl
    have free := nul_not_mem_cstr
      (emitBacktrace os native_context (collected os signal (site.ucontext ucontext zeroed)))
    refine ⟨_, _, collected os signal (site.ucontext ucontext zeroed),
      collectBacktrace_some os native_context buffer _ signal _, collected_state os signal _,
      by simp, ?_, ?_⟩
    · rw [cstr_append_nul fun member => free (List.mem_of_mem_take member)]
      exact (List.take_prefix _ _).trans (List.takeWhile_prefix _)
    · intro complete
      rw [beq_iff_eq.mp complete, List.take_length, cstr_append_nul free]

/-- A register set whose every register holds the address of the one frame. -/
def Ucontext.running : Ucontext .x86Build :=
  ⟨(⟨fun _ => 0x1000⟩ : McontextX86 32)⟩

/-- What is collected of a process of two threads when the second crashes. -/
def runningBacktrace : Backtrace .x86Build :=
  collected (Os.running [6, 7] 7) ⟨11, 1, 0⟩ (some Ucontext.running)

/-- An unhandled exception: the report of it dereferences the null siginfo. -/
theorem terminateHandler_faults : ¬ ReturnsReport (Os.running [1] 1) (NativeContext.zeroed _) []
    (BitVec.ofNat _ backtraceSzMax) (CallSite.terminateHandler.siginfo ⟨11, 1, 0⟩)
    (CallSite.terminateHandler.ucontext Ucontext.running Ucontext.running) := by
  rintro ⟨complete, cells, backtrace, returned, _⟩
  have fault := collectBacktrace_none (Os.running [1] 1) (NativeContext.zeroed _) []
    (BitVec.ofNat _ backtraceSzMax) none
  rw [CallSite.siginfo, CallSite.ucontext, fault] at returned
  cases returned

end AgentNDK
