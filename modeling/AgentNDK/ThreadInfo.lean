import AgentNDK.Procfs
import AgentNDK.Library.Encoding

namespace AgentNDK
open CText
variable {tgt : Target}

/-- The scan set `[A-Za-z0-9 _.:-]`. -/
def isNameChar (c : Char) : Bool :=
  c.isAlphanum || c == ' ' || c == '_' || c == '.' || c == ':' || c == '-'

/-- `sscanf(token, "(%[A-Za-z0-9 _.:-])", value) == 1`: the accepted
characters after an opening parenthesis, if there is at least one. -/
def scanName : Text → Option Text
  | '(' :: rest =>
    let value := rest.takeWhile isNameChar
    if value = [] then none else some value
  | _ => none

/-- The word for the state letter of the stat line. -/
def stateWord (letter : Char) : Text :=
  match letter.toLower with
  | 'r' => "RUNNING"
  | 's' | 'd' => "SLEEPING"
  | 'z' => "ZOMBIE"
  | 't' => "STOPPED"
  | 'x' => "DEAD"
  | 'w' => "WAKING"
  | 'k' => "WAKE KILL"
  | 'p' => "PARKED"
  | _ => "unknown"

def CharArray.empty {size : Nat} (room : 0 < size) : CharArray size :=
  ⟨[], room, List.not_mem_nil⟩

/-- `threadinfo_t threadinfo = {}`. -/
def ThreadInfo.zeroed (tgt : Target) : ThreadInfo tgt where
  tid := 0
  threadName := CharArray.empty (by decide)
  crashed := false
  threadState := CharArray.empty (by decide)
  priority := 0
  stack := 0
  backtraceState := none

/-- `count` tokens read and thrown away: the position after them. -/
def skipTokens (ppos : Option Text) : Nat → Option Text
  | 0 => ppos
  | count + 1 => skipTokens (strtokR " " ppos).2 count

def readName (token : Option Text) (info : ThreadInfo tgt) : ThreadInfo tgt :=
  match token.bind scanName with
  | some value => { info with threadName := CharArray.ofText value (by decide) }
  | none => info

def readState (token : Option Text) (info : ThreadInfo tgt) : ThreadInfo tgt :=
  match token with
  | some (letter :: _) =>
    { info with threadState := CharArray.ofText (stateWord letter) (by decide) }
  | _ => info

def readPriority (token : Option Text) (info : ThreadInfo tgt) : ThreadInfo tgt :=
  match token with
  | some digits => { info with priority := Int32.ofInt (strtol tgt.abi.wordBits digits) }
  | none => info

def readStack (token : Option Text) (info : ThreadInfo tgt) : ThreadInfo tgt :=
  match token with
  | some digits => { info with stack := (strtoull digits).setWidth _ }
  | none => info

/-- The fields of the stat line after the thread id. -/
def parseStat (ppos : Option Text) (info : ThreadInfo tgt) : ThreadInfo tgt :=
  let (name, ppos) := strtokR ")" ppos
  let (state, ppos) := strtokR " " ppos
  -- ppid, pgrp, session id, tty_nr, tty_pgrp, flags, the four fault counts and the four times
  let (prior, ppos) := strtokR " " (skipTokens ppos 14)
  -- nice, num threads, itrealvalue, start time, vsize, rss mem, rss lim, start code, end code
  let (stack, _) := strtokR " " (skipTokens ppos 9)
  readStack stack (readPriority prior (readState state (readName name info)))

/-- `collect_thread_info` on a zeroed `threadinfo_t`: everything needed is in
the thread's /proc stat file. -/
def collectThreadInfo (os : Os tgt) (tid : Int32) : ThreadInfo tgt :=
  let tstat := getThreadStat os tid
  let info := { ThreadInfo.zeroed tgt with tid }
  let info := match tstat with
    | [] => info
    | _ =>
      let (token, ppos) := strtokR " " (some tstat)
      if token.isSome then parseStat ppos info else info
  { info with crashed := tid == os.gettid }

theorem isPlain_of_isNameChar {c : Char} (name : isNameChar c = true) : isPlain c = true := by
  simp only [isNameChar, Bool.or_eq_true, beq_iff_eq] at name
  rcases name with ((((alphanum | rfl) | rfl) | rfl) | rfl) | rfl
  · exact isPlain_of_isNumeral (by simp [isNumeral, alphanum])
  all_goals decide

theorem scanName_plain {token value : Text} (scanned : scanName token = some value) : Plain value := by
  unfold scanName at scanned
  split at scanned
  · dsimp only at scanned
    split at scanned
    · simp at scanned
    · cases Option.some.inj scanned
      exact fun c member => isPlain_of_isNameChar (List.mem_takeWhile_imp member)
  · simp at scanned

theorem stateWord_plain (letter : Char) : Plain (stateWord letter) := by
  unfold stateWord
  split <;> decide

theorem plain_ofText {size : Nat} {src : Text} (plain : Plain src) (room : 0 < size) :
    Plain (CharArray.ofText src room).text :=
  fun c member => plain c ((List.takeWhile_sublist _).subset (List.mem_of_mem_take member))

/-- The two texts of a thread are of plain characters only. -/
def ThreadInfo.PlainTexts (info : ThreadInfo tgt) : Prop :=
  Plain info.threadName.text ∧ Plain info.threadState.text

theorem zeroed_plainTexts (tgt : Target) : (ThreadInfo.zeroed tgt).PlainTexts :=
  ⟨fun _ member => absurd member List.not_mem_nil, fun _ member => absurd member List.not_mem_nil⟩

/-- What reading the stat line leaves alone. -/
structure ThreadInfo.Keeps (info next : ThreadInfo tgt) : Prop where
  tid : next.tid = info.tid
  backtraceState : next.backtraceState = info.backtraceState
  plainTexts : info.PlainTexts → next.PlainTexts

theorem ThreadInfo.Keeps.trans {a b c : ThreadInfo tgt} (first : a.Keeps b) (second : b.Keeps c) :
    a.Keeps c where
  tid := second.tid.trans first.tid
  backtraceState := second.backtraceState.trans first.backtraceState
  plainTexts plain := second.plainTexts (first.plainTexts plain)

theorem readName_keeps (token : Option Text) (info : ThreadInfo tgt) :
    info.Keeps (readName token info) := by
  unfold readName
  split
  · rename_i value scanned
    obtain ⟨_, _, name⟩ := Option.bind_eq_some_iff.mp scanned
    exact ⟨rfl, rfl, fun plain => ⟨plain_ofText (scanName_plain name) (by decide), plain.2⟩⟩
  · exact ⟨rfl, rfl, id⟩

theorem readState_keeps (token : Option Text) (info : ThreadInfo tgt) :
    info.Keeps (readState token info) := by
  unfold readState
  split
  · exact ⟨rfl, rfl, fun plain => ⟨plain.1, plain_ofText (stateWord_plain _) (by decide)⟩⟩
  · exact ⟨rfl, rfl, id⟩

theorem readPriority_keeps (token : Option Text) (info : ThreadInfo tgt) :
    info.Keeps (readPriority token info) := by
  unfold readPriority
  split <;> exact ⟨rfl, rfl, id⟩

theorem readStack_keeps (token : Option Text) (info : ThreadInfo tgt) :
    info.Keeps (readStack token info) := by
  unfold readStack
  split <;> exact ⟨rfl, rfl, id⟩

theorem parseStat_keeps (ppos : Option Text) (info : ThreadInfo tgt) :
    info.Keeps (parseStat ppos info) := by
  have named := readName_keeps (strtokR ")" ppos).1 info
  exact ((named.trans (readState_keeps _ _)).trans (readPriority_keeps _ _)).trans
    (readStack_keeps _ _)

/-- The entry of a listed thread: its own id, marked as crashed exactly when
it is the calling thread, and no frames yet. -/
theorem collectThreadInfo_spec (os : Os tgt) (tid : Int32) :
    (collectThreadInfo os tid).tid = tid ∧
      (collectThreadInfo os tid).crashed = (tid == os.gettid) ∧
      (collectThreadInfo os tid).backtraceState = none ∧
      (collectThreadInfo os tid).PlainTexts := by
  have started : { ThreadInfo.zeroed tgt with tid }.PlainTexts := zeroed_plainTexts tgt
  unfold collectThreadInfo
  dsimp only
  split
  · exact ⟨rfl, rfl, rfl, started⟩
  · split
    · have kept := parseStat_keeps (strtokR " " (some (getThreadStat os tid))).2
        { ThreadInfo.zeroed tgt with tid }
      exact ⟨kept.tid, rfl, kept.backtraceState, kept.plainTexts started⟩
    · exact ⟨rfl, rfl, rfl, started⟩

end AgentNDK
