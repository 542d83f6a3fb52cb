import AgentNDK.Abi

namespace AgentNDK
open CText

/-- The registers of the two x86 ABIs. Indices past the end of the array read
whatever follows it in the context. -/
structure McontextX86 (bits : Nat) where
  gregs : Nat → BitVec bits

structure McontextArm where
  armR : Nat → BitVec 32
  armFp : BitVec 32
  armIp : BitVec 32
  armSp : BitVec 32
  armLr : BitVec 32
  armPc : BitVec 32
  armCpsr : BitVec 32
  trapNo : BitVec 32
  errorCode : BitVec 32
  faultAddress : BitVec 32

structure McontextArm64 where
  regs : Nat → BitVec 64
  sp : BitVec 64
  pc : BitVec 64
  pstate : BitVec 64
  faultAddress : BitVec 64

/-- `mcontext_t` of each ABI. -/
def Mcontext : Abi → Type
  | .i386 => McontextX86 32
  | .x86_64 => McontextX86 64
  | .arm _ _ => McontextArm
  | .aarch64 => McontextArm64

structure Ucontext (tgt : Target) where
  ucMcontext : Mcontext tgt.abi

structure Siginfo (tgt : Target) where
  siSigno : Int32
  siCode : Int32
  siAddr : tgt.Word

/-- `backtrace_state_t`: of `frames`, the first `frameCnt` are recorded. -/
structure BacktraceState (tgt : Target) where
  frames : Vector tgt.Word backtraceFramesMax
  frameCnt : Nat
  skippedFrames : Int
  crashIp : tgt.Word
  saUcontext : Option (Ucontext tgt)
  siginfo : Option (Siginfo tgt)

/-- The recorded frames, top down. -/
def BacktraceState.recorded {tgt : Target} (state : BacktraceState tgt) : List tgt.Word :=
  state.frames.toList.take state.frameCnt

/-- `stackframe_t`: the resolved address data of one calling frame. -/
structure Stackframe (tgt : Target) where
  index : tgt.Word
  address : tgt.Word
  pc : tgt.Word
  soPath : CharArray tgt.pathMax
  symName : CharArray 255
  soBase : tgt.Word
  symAddr : tgt.Word
  symAddrOffset : tgt.Word

/-- `threadinfo_t`. The pointer to the backtrace state is modelled by the
state it points at, which nothing changes once threads are collected. -/
structure ThreadInfo (tgt : Target) where
  tid : Int32
  threadName : CharArray 32
  crashed : Bool
  threadState : CharArray 16
  priority : Int32
  stack : tgt.Word
  backtraceState : Option (BacktraceState tgt)

/-- `backtrace_t`: the state of the machine at the point of violation. -/
structure Backtrace (tgt : Target) where
  state : BacktraceState tgt
  description : CharArray 128
  timestamp : tgt.Word
  arch : CharArray 16
  pid : Int32
  ppid : Int32
  uid : Int32
  threads : List (ThreadInfo tgt)

/-- What `dladdr` reports about an address. -/
structure DlInfo (tgt : Target) where
  dliFname : Option Text
  dliFbase : tgt.Word
  dliSname : Option Text
  dliSaddr : tgt.Word

/-- What the operating system and the C++ runtime answer while a report is
collected. A file or directory that cannot be opened is `none`. -/
structure Os (tgt : Target) where
  /-- the addresses `_Unwind_Backtrace` delivers, in order -/
  unwind : List tgt.Word
  dladdr : tgt.Word → Option (DlInfo tgt)
  /-- `__cxa_demangle` with status 0 -/
  demangle : Text → Option Text
  /-- /proc/<pid>/cmdline -/
  cmdline : Option Text
  /-- the names `readdir` returns for /proc/<pid>/task, in order -/
  task : Option (List Text)
  /-- /proc/<pid>/task/<tid>/stat -/
  threadStat : Int32 → Option Text
  time : tgt.Word
  getuid : Int32
  getpid : Int32
  getppid : Int32
  gettid : Int32

end AgentNDK
