import AgentNDK.Library.JsonGrammar
import AgentNDK.ThreadState

namespace AgentNDK
open CText

/-- What the detection reads below /proc/<pid>/task. -/
structure TaskDir where
  /-- the names `readdir` returns, in order; `none` when `opendir` fails -/
  names : Option (List Text)
  comm : Int32 → Option Text
  status : Int32 → Option Text

def anrThreadName : Text := "Signal Catcher"

def anrSigblkLabel : Text := "SigBlk:\t"

def anrThreadSigblk : BitVec 64 := 0x1000

def getThreadName (dir : TaskDir) (tid : Int32) : Text :=
  readProcLine (dir.comm tid) "<unknown>"

/-- What a loop of `fgets` into a buffer of `size` cells reads, after `line`. -/
def fgetsLines (size : Nat) (line : Text) : Text → List Text
  | [] => if line = [] then [] else [line]
  | c :: rest =>
    if c = '\n' ∨ size ≤ line.length + 2 then (line ++ [c]) :: fgetsLines size [] rest
    else fgetsLines size (line ++ [c]) rest

/-- The digits after the optional prefix of a base 16 number. -/
def hexDigits (t : Text) : List Nat :=
  let digits := match t with
    | '0' :: x :: c :: rest =>
      if (x = 'x' ∨ x = 'X') ∧ (JsonText.hexValue c).isSome then c :: rest else t
    | _ => t
  (digits.takeWhile fun c => (JsonText.hexValue c).isSome).filterMap JsonText.hexValue

/-- `strtoull` in base 16, which negates a signed number unless it overflows. -/
def strtoullHex (t : Text) : BitVec 64 :=
  let value (digits : Text) : Nat := (hexDigits digits).foldl (fun n d => 16 * n + d) 0
  match t.dropWhile isSpace with
  | '-' :: digits =>
    if value digits < 2 ^ 64 then -BitVec.ofNat 64 (value digits) else BitVec.allOnes 64
  | '+' :: digits => BitVec.ofNat 64 (min (value digits) (2 ^ 64 - 1))
  | digits => BitVec.ofNat 64 (min (value digits) (2 ^ 64 - 1))

/-- The mask on the first `SigBlk` line of the status file, zero without one. -/
def sigblk (dir : TaskDir) (tid : Int32) : BitVec 64 :=
  let lines := (dir.status tid).elim [] (fgetsLines 1024 [])
  match lines.find? anrSigblkLabel.isPrefixOf with
  | some buff => strtoullHex (buff.drop anrSigblkLabel.length)
  | none => 0

/-- Whether a thread has the name and the mask of the runtime's ANR monitor. -/
def TaskDir.isAnrMonitor (dir : TaskDir) (tid : Int32) : Bool :=
  anrThreadName.isPrefixOf (getThreadName dir tid) &&
    sigblk dir tid &&& anrThreadSigblk == anrThreadSigblk

/-- The thread id an entry of the directory stands for. -/
def threadId (abi : Abi) (name : Text) : Int32 :=
  Int32.ofInt (strtol abi.wordBits name)

/-- The readdir loop. It ends as soon as `anr_monitor_tid` is set, also when
an earlier detection has set it. -/
def detectLoop (abi : Abi) (dir : TaskDir) (anrMonitorTid : Int32) : List Text → Int32
  | [] => anrMonitorTid
  | name :: names =>
    if isNumericName name then
      let tid := threadId abi name
      let anrMonitorTid := if dir.isAnrMonitor tid then tid else anrMonitorTid
      if anrMonitorTid ≠ -1 then anrMonitorTid else detectLoop abi dir anrMonitorTid names
    else detectLoop abi dir anrMonitorTid names

/-- The value `anr_monitor_tid` gets from the one it had; the result is
whether this is not -1. A null directory goes into `readdir`. -/
def detectAndroidAnrHandler (abi : Abi) (dir : TaskDir) (anrMonitorTid : Int32) : Except Fault Int32 := do
  let names ← deref dir.names
  return detectLoop abi dir anrMonitorTid names

/-- Some entry of the directory is the thread, and it is the ANR monitor. -/
def TaskDir.Identifies (dir : TaskDir) (abi : Abi) (tid : Int32) : Prop :=
  dir.isAnrMonitor tid = true ∧
    ∃ names, dir.names = some names ∧ ∃ name ∈ names, isNumericName name = true ∧ threadId abi name = tid

theorem detectLoop_identifies {abi : Abi} {dir : TaskDir} {before : Int32} (names : List Text)
    (other : detectLoop abi dir before names ≠ before) :
    dir.isAnrMonitor (detectLoop abi dir before names) = true ∧
      ∃ name ∈ names, isNumericName name = true ∧ threadId abi name = detectLoop abi dir before names := by
  induction names generalizing before with
  | nil => exact absurd rfl other
  | cons name names ih =>
    have later : ∀ {after}, detectLoop abi dir after names ≠ after →
        dir.isAnrMonitor (detectLoop abi dir after names) = true ∧ ∃ entry ∈ name :: names,
          isNumericName entry = true ∧ threadId abi entry = detectLoop abi dir after names := by
      intro after other
      obtain ⟨monitor, entry, member, numeric, same⟩ := ih other
      exact ⟨monitor, entry, List.mem_cons_of_mem name member, numeric, same⟩
    simp only [detectLoop] at other ⊢
    by_cases numeric : isNumericName name = true
    · rw [if_pos numeric] at other ⊢
      by_cases monitor : dir.isAnrMonitor (threadId abi name) = true
      · simp only [if_pos monitor] at other ⊢
        by_cases unset : threadId abi name = -1
        · rw [if_neg (not_not_intro unset)] at other ⊢
          by_cases same : detectLoop abi dir (threadId abi name) names = threadId abi name
          · rw [same]
            exact ⟨monitor, name, List.mem_cons_self, numeric, rfl⟩
          · exact later same
        · rw [if_pos unset]
          exact ⟨monitor, name, List.mem_cons_self, numeric, rfl⟩
      · simp only [if_neg monitor] at other ⊢
        by_cases unset : before = -1
        · rw [if_neg (not_not_intro unset)] at other ⊢
          exact later other
        · exact absurd (if_pos unset) other
    · rw [if_neg numeric] at other ⊢
      exact later other

/-- What a detection changes `anr_monitor_tid` to is the ANR monitor. -/
theorem detectAndroidAnrHandler_identifies {abi : Abi} {dir : TaskDir} {before after : Int32}
    (found : detectAndroidAnrHandler abi dir before = .ok after) :
    after = before ∨ dir.Identifies abi after := by
  obtain ⟨names, listed, found⟩ := deref_bind_eq_ok.mp found
  cases found
  by_cases same : detectLoop abi dir before names = before
  · exact Or.inl same
  · obtain ⟨monitor, entry⟩ := detectLoop_identifies names same
    exact Or.inr ⟨monitor, names, listed, entry⟩

/-- The directory of a process with the main thread and the Signal Catcher. -/
def TaskDir.usual : TaskDir where
  names := some [".", "..", "1000", "1007"]
  comm tid := some (if tid = 1007 then "Signal Catcher\n" else "main\n")
  status tid := some (if tid = 1007 then "SigPnd:\t0\nSigBlk:\t0000000000001000\n" else "SigBlk:\t0\n")

example : detectAndroidAnrHandler .aarch64 .usual (-1) = .ok 1007 := by
  decide +kernel

end AgentNDK
