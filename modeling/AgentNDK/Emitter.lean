import AgentNDK.NativeContext
import AgentNDK.SignalUtils
import AgentNDK.ThreadState

namespace AgentNDK
open CText
variable {tgt : Target}

/-- Resolves an address; what `dladdr` does not know stays zero. -/
def transformAddrToStackframe (os : Os tgt) (index address : tgt.Word) : Stackframe tgt :=
  let stackframe : Stackframe tgt :=
    { index, address, pc := 0, soPath := CharArray.empty tgt.pathMaxPos,
      symName := CharArray.empty (by decide), soBase := 0, symAddr := 0, symAddrOffset := 0 }
  match os.dladdr address with
  | none => stackframe
  | some info =>
    { stackframe with
      soPath := match info.dliFname with
        | some fname => CharArray.ofText fname tgt.pathMaxPos
        | none => stackframe.soPath
      symName := match info.dliSname with
        | some symbol => CharArray.ofText ((os.demangle symbol).getD symbol) (by decide)
        | none => stackframe.symName
      soBase := info.dliFbase
      symAddr := info.dliSaddr
      symAddrOffset := if info.dliSaddr ≠ 0 then address - info.dliSaddr else 0
      pc := address - info.dliFbase }

/-! The conversions of the formats. A 64-bit argument of a conversion without
a length modifier loses its upper half. -/

def fmtD {w : Nat} (value : BitVec w) : Text :=
  signedDecimal (value.setWidth 32).toInt

def fmtZu {w : Nat} (value : BitVec w) : Text :=
  decimal value.toNat

def fmtLu (width : Nat) {w : Nat} (value : BitVec w) : Text :=
  zeroPad width (decimal value.toNat)

def fmtLd (width : Nat) {w : Nat} (value : BitVec w) : Text :=
  zeroPadSigned width value.toInt

def fmtX (width : Nat) {w : Nat} (value : BitVec w) : Text :=
  zeroPad width (hexadecimal (value.toNat % 2 ^ 32))

def fmtP (width : Nat) {w : Nat} (value : BitVec w) : Text :=
  '0' :: 'x' :: zeroPad (width - 2) (hexadecimal value.toNat)

/-- The format `'key':'%s'`. -/
def quoted (key value : Text) : Text :=
  '\'' :: key ++ "':'" ++ value ++ "'"

/-- The format `'key':` followed by an unquoted conversion. -/
def bare (key value : Text) : Text :=
  '\'' :: key ++ "':" ++ value

/-- Append a formatted string; the buffer has room for 2047 characters of it. -/
def emitF (state line : Text) : Text :=
  state ++ line.take 2047

/-- Several formatted strings, one call each. -/
def emitLines (state : Text) (lines : List Text) : Text :=
  lines.foldl emitF state

/-- The arguments of a variadic call up to the first null pointer. -/
def untilNull : List (Option Text) → List Text
  | some cstr :: rest => cstr :: untilNull rest
  | _ => []

/-- Append a list of strings. -/
def emitC (state : Text) (args : List (Option Text)) : Text :=
  state ++ (untilNull args).flatten

/-- Append a list of items between brackets, under a name if there is one. -/
def emitGroup (opening closing : Char) (state : Text) (name : Option Text)
    (args : List (Option Text)) : Text :=
  let state := match name with
    | some name => emitF state ('\'' :: name ++ "':")
    | none => state
  state ++ opening :: List.intercalate [','] (untilNull args) ++ [closing]

def emitE (state : Text) (name : Option Text) (args : List (Option Text)) : Text :=
  emitGroup '{' '}' state name args

def emitA (state : Text) (name : Option Text) (args : List (Option Text)) : Text :=
  emitGroup '[' ']' state name args

def frameToString (stackframe : Stackframe tgt) (frame : Text) : Text :=
  let frame := emitF frame ('#' :: zeroPad 2 (fmtZu stackframe.index) ++ " pc " ++
    fmtX 16 stackframe.pc ++ " " ++ stackframe.soPath.text)
  if stackframe.symName.text ≠ [] then
    emitF frame (" (" ++ stackframe.symName.text ++ "+" ++ fmtD stackframe.symAddrOffset ++ ")")
  else frame

def frameToJson (stackframe : Stackframe tgt) (state : Text) : Text :=
  let frame := emitLines []
    [ quoted "cstr" (frameToString stackframe []) ++ [','],
      bare "index" (fmtD stackframe.index) ++ [','],
      bare "address" (fmtZu stackframe.address) ++ [','],
      bare "pc" (fmtZu stackframe.pc) ++ [','],
      bare "so_base" (fmtZu stackframe.soBase) ++ [','],
      bare "sym_addr" (fmtZu stackframe.symAddr) ++ [','],
      bare "sym_addr_offset" (fmtZu stackframe.symAddrOffset) ]
  let frame := if stackframe.soPath.text ≠ [] then
    emitF frame (',' :: quoted "so_path" stackframe.soPath.text) else frame
  let frame := if stackframe.symName.text ≠ [] then
    emitF frame (',' :: quoted "sym_name" stackframe.symName.text) else frame
  emitE state none [some frame, none]

def emitStackframe (stackframe : Stackframe tgt) (frame : Text) : Text :=
  frameToJson stackframe frame

/-- Without a siginfo the exception has its name only, and the comma after it. -/
def emitSignalContext (siginfo : Option (Siginfo tgt)) (state : Text) : Text :=
  let exception := emitF [] (quoted "name" "Native exception" ++ [','])
  let exception := match siginfo with
    | none => exception
    | some siginfo =>
      let exception := emitF exception
        (quoted "cause" (getSignalDescription siginfo.siSigno siginfo.siCode) ++ [','])
      let csiginfo := emitLines []
        [ quoted "signalName" (getSignalDescription siginfo.siSigno (-1)) ++ [','],
          bare "signalCode" (fmtD siginfo.siCode.toBitVec) ++ [','],
          bare "faultAddress" (fmtZu siginfo.siAddr) ]
      emitE exception (some "signalInfo") [some csiginfo, none]
  emitE state (some "exception") [some exception, none]

/-- The register lines of each ABI, all but the last followed by a comma. On
i386 the edx line shows REG_EAX; on arm the lines of r0 to r10 show the index
REG_R0 to REG_R10, the value being one argument too many for the format. -/
def registerLines : (abi : Abi) → Mcontext abi → List Text × Text
  | .i386, m =>
    let gregs := McontextX86.gregs m
    ([ quoted "eax" (fmtLu 8 (gregs 11)), quoted "ebx" (fmtLu 8 (gregs 8)),
      quoted "ecx" (fmtLu 8 (gregs 10)), quoted "edx" (fmtLu 8 (gregs 11)),
      quoted "edi" (fmtLu 8 (gregs 4)), quoted "esi" (fmtLu 8 (gregs 5)),
      quoted "ebp" (fmtLu 8 (gregs 6)), quoted "esp" (fmtX 8 (gregs 7)),
      quoted "eip" (fmtX 8 (gregs 14)), bare "trapno" (fmtD (gregs 12)) ],
      bare "error_code" (fmtD (gregs 13)))
  | .x86_64, m =>
    let gregs := McontextX86.gregs m
    ((List.range 34).map (fun i => quoted ('r' :: decimal i) (fmtLd 16 (gregs i))) ++
      [ quoted "rip" (fmtX 16 (gregs 16)), quoted "rsp" (fmtX 16 (gregs 15)),
        bare "trapno" (fmtD (gregs 20)) ],
      bare "error_code" (fmtD (gregs 19)))
  | .arm _ _, m =>
    ((List.range 11).map (fun i => quoted ('r' :: decimal i) (fmtX 8 (BitVec.ofNat 32 i))) ++
      [ quoted "fp" (fmtX 8 (McontextArm.armFp m)), quoted "ip" (fmtX 8 (McontextArm.armIp m)),
        quoted "sp" (fmtX 8 (McontextArm.armSp m)), quoted "lr" (fmtX 8 (McontextArm.armLr m)),
        quoted "pc" (fmtX 8 (McontextArm.armPc m)), quoted "cpsr" (fmtX 8 (McontextArm.armCpsr m)),
        bare "trapno" (fmtD (McontextArm.trapNo m)),
        bare "error_code" (fmtD (McontextArm.errorCode m)) ],
      quoted "fault_address" (fmtP 0 (McontextArm.faultAddress m)))
  | .aarch64, m =>
    let regs := McontextArm64.regs m
    ((List.range 30).map (fun i => quoted ('x' :: decimal i) (fmtX 16 (regs i))) ++
      [ quoted "lr" (fmtX 16 (regs 30)), quoted "sp" (fmtX 16 (McontextArm64.sp m)),
        quoted "pc" (fmtX 16 (McontextArm64.pc m)), quoted "pst" (fmtX 16 (McontextArm64.pstate m)) ],
      quoted "fault_address" (fmtP 16 (McontextArm64.faultAddress m)))

/-- The registers, or a null pointer when there is no context. -/
def emitRegisters (sa_ucontext : Option (Ucontext tgt)) (state : Text) : Option Text :=
  match sa_ucontext with
  | none => none
  | some sa_ucontext =>
    let lines := registerLines tgt.abi sa_ucontext.ucMcontext
    let registers := emitLines [] (lines.1.map (· ++ [',']) ++ [lines.2])
    some (emitE state (some "registers") [some registers, none])

def emitContext (os : Os tgt) (native_context : NativeContext tgt) (backtrace : Backtrace tgt)
    (state : Text) : Text :=
  emitLines state
    [ quoted "name" (getProcessName os) ++ [','],
      quoted "description" backtrace.description.text ++ [','],
      bare "timestamp" (fmtLd 0 backtrace.timestamp) ++ [','],
      quoted "abi" backtrace.arch.text ++ [','],
      bare "pid" (fmtD backtrace.pid.toBitVec) ++ [','],
      bare "ppid" (fmtD backtrace.ppid.toBitVec) ++ [','],
      bare "uid" (fmtD backtrace.uid.toBitVec) ++ [','],
      quoted "buildid" native_context.buildId.text ++ [','],
      quoted "sessionid" native_context.sessionId.text ++ [','],
      quoted "platform" "android" ]

/-- The frames of the loop over the recorded addresses. -/
def stackframes (os : Os tgt) (state : BacktraceState tgt) : List (Stackframe tgt) :=
  state.recorded.zipIdx.map fun (address, i) =>
    transformAddrToStackframe os (BitVec.ofNat _ i) address

/-- Each item followed by a comma, and the last comma popped. -/
def joinItems (items : List Text) : Text :=
  (items.foldl (fun joined item => emitC joined [some item, some [','], none]) []).dropLast

def emitCallstack (os : Os tgt) (backtrace_state : Option (BacktraceState tgt)) (state : Text) :
    Text :=
  let callstack := match backtrace_state with
    | none => []
    | some backtrace_state =>
      joinItems ((stackframes os backtrace_state).map (emitStackframe · []))
  emitA state (some "stack") [some callstack, none]

def emitThreadInfo (os : Os tgt) (thread : ThreadInfo tgt) (state : Text) : Text :=
  let tstate := emitLines []
    [ bare "threadNumber" (fmtD thread.tid.toBitVec) ++ [','],
      quoted "threadId" thread.threadName.text ++ [','],
      quoted "state" thread.threadState.text ++ [','],
      bare "priority" (fmtD thread.priority.toBitVec) ++ [','],
      bare "crashed" (if thread.crashed then "true" else "false") ++ [','] ]
  let tstate := emitC tstate [some (emitCallstack os thread.backtraceState []), none]
  emitE state none [some tstate, none]

def emitThreadState (os : Os tgt) (backtrace : Backtrace tgt) (state : Text) : Text :=
  let threads := joinItems (backtrace.threads.map (emitThreadInfo os · []))
  emitA state (some "threads") [some threads, none]

/-- The translation of single to double quotes. -/
def requote (t : Text) : Text :=
  t.map fun c => if c = '\'' then '"' else c

/-- Emit a fully formed report for this backtrace. -/
def emitBacktrace (os : Os tgt) (native_context : NativeContext tgt) (backtrace : Backtrace tgt) :
    Text :=
  let state := emitE ['{'] (some "backtrace")
    [ some (emitContext os native_context backtrace []),
      emitRegisters backtrace.state.saUcontext [],
      some (emitSignalContext backtrace.state.siginfo []),
      some (emitThreadState os backtrace []), none ]
  requote (state ++ ['}'])

theorem fmtD_numeral {w : Nat} (value : BitVec w) : Numeral (fmtD value) :=
  signedDecimal_numeral _

theorem fmtZu_numeral {w : Nat} (value : BitVec w) : Numeral (fmtZu value) :=
  decimal_numeral _

theorem fmtLu_numeral (width : Nat) {w : Nat} (value : BitVec w) : Numeral (fmtLu width value) :=
  zeroPad_numeral (decimal_numeral _) width

theorem fmtLd_numeral (width : Nat) {w : Nat} (value : BitVec w) : Numeral (fmtLd width value) :=
  zeroPadSigned_numeral width _

theorem fmtX_numeral (width : Nat) {w : Nat} (value : BitVec w) : Numeral (fmtX width value) :=
  zeroPad_numeral (hexadecimal_numeral _) width

theorem fmtP_numeral (width : Nat) {w : Nat} (value : BitVec w) : Numeral (fmtP width value) :=
  ((zeroPad_numeral (hexadecimal_numeral _) _).cons (by decide)).cons (by decide)

theorem natAbs_toInt_lt {w : Nat} (value : BitVec w) : value.toInt.natAbs < 2 ^ w := by
  have upper := value.isLt
  rw [BitVec.toInt_eq_toNat_cond]
  split <;> omega

theorem fmtD_length {w : Nat} (value : BitVec w) : (fmtD value).length ≤ 11 := by
  have small := natAbs_toInt_lt (value.setWidth 32)
  exact signedDecimal_length_le (by decide) (small.trans (by decide))

theorem fmtZu_length (value : tgt.Word) : (fmtZu value).length ≤ 20 :=
  decimal_length_le (by decide) ((tgt.word_lt value).trans (by decide))

theorem fmtLu_length (width : Nat) (value : BitVec 32) : (fmtLu width value).length ≤ max width 10 :=
  zeroPad_length_le (decimal_length_le (by decide) (value.isLt.trans (by decide)))

theorem fmtLd_length (width : Nat) {w : Nat} (narrow : w ≤ 64) (value : BitVec w) :
    (fmtLd width value).length ≤ max width 20 + 1 := by
  have small := natAbs_toInt_lt value
  have wide : 2 ^ w ≤ 2 ^ 64 := Nat.pow_le_pow_right (by decide) narrow
  exact zeroPadSigned_length_le (by decide) (small.trans (wide.trans_lt (by decide)))

theorem fmtX_length (width : Nat) {w : Nat} (value : BitVec w) :
    (fmtX width value).length ≤ max width 8 :=
  zeroPad_length_le (hexadecimal_length_le (by decide) (Nat.mod_lt _ (by decide)))

theorem fmtP_length {width w : Nat} (narrow : w ≤ 64) (value : BitVec w) :
    (fmtP width value).length ≤ max (width - 2) 16 + 2 := by
  have wide : 2 ^ w ≤ 16 ^ 16 := (Nat.pow_le_pow_right (by decide) narrow).trans (by decide)
  exact Nat.succ_le_succ (Nat.succ_le_succ
    (zeroPad_length_le (hexadecimal_length_le (by decide) (value.isLt.trans_le wide))))

theorem requote_length (t : Text) : (requote t).length = t.length :=
  List.length_map _

theorem quoted_length (key value : Text) :
    (quoted key value).length = key.length + value.length + 5 := by
  simp only [quoted, List.length_append, List.length_cons]
  simp
  omega

theorem bare_length (key value : Text) : (bare key value).length = key.length + value.length + 3 := by
  simp only [bare, List.length_append, List.length_cons]
  simp
  omega

theorem emitLines_eq (state : Text) (lines : List Text) :
    emitLines state lines = state ++ (lines.map (·.take 2047)).flatten := by
  induction lines generalizing state with
  | nil => simp [emitLines]
  | cons line lines ih =>
    rw [emitLines, List.foldl_cons, ← emitLines, ih]
    simp [emitF]

theorem emitF_fit {line : Text} (fit : line.length ≤ 2047) (state : Text) :
    emitF state line = state ++ line := by
  rw [emitF, List.take_of_length_le fit]

theorem joinItems_eq (items : List Text) :
    joinItems items = ((items.map (· ++ [','])).flatten).dropLast := by
  have joined : ∀ (items : List Text) (state : Text),
      items.foldl (fun joined item => emitC joined [some item, some [','], none]) state =
        state ++ (items.map (· ++ [','])).flatten := by
    intro items
    induction items with
    | nil => simp
    | cons item items ih =>
      intro state
      rw [List.foldl_cons, ih]
      simp [emitC, untilNull]
  rw [joinItems, joined, List.nil_append]

/-- Items each followed by a comma, the last comma popped, are joined by commas. -/
theorem intercalate_dropLast (items : List Text) :
    List.intercalate [','] items = ((items.map (· ++ [','])).flatten).dropLast := by
  induction items with
  | nil => rfl
  | cons item items ih =>
    cases items with
    | nil => simp
    | cons next items =>
      have nonempty : ((next :: items).map (· ++ [','])).flatten ≠ [] := by simp
      rw [List.intercalate_cons_cons, ih, List.map_cons (l := next :: items), List.flatten_cons,
        List.dropLast_append_of_ne_nil nonempty]

theorem nulFree_append {s t : Text} (left : nul ∉ s) (right : nul ∉ t) : nul ∉ s ++ t :=
  fun member => (List.mem_append.mp member).elim left right

theorem quoted_nulFree {key value : Text} (plain : Plain key) (free : nul ∉ value) :
    nul ∉ quoted key value := by
  have marks : nul ∉ (['\''] : Text) ∧ nul ∉ ("':'" : Text) ∧ nul ∉ ("'" : Text) := by decide
  exact nulFree_append (nulFree_append (nulFree_append
    (nulFree_append marks.1 plain.nulFree) marks.2.1) free) marks.2.2

theorem bare_nulFree {key value : Text} (plain : Plain key) (free : nul ∉ value) :
    nul ∉ bare key value := by
  have marks : nul ∉ (['\''] : Text) ∧ nul ∉ ("':" : Text) := by decide
  exact nulFree_append (nulFree_append (nulFree_append marks.1 plain.nulFree) marks.2) free

end AgentNDK
