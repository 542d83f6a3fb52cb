import AgentNDK.AnrDetection

/-! The entry of the task directory that the detection settles on, told by
the files of its thread. -/

namespace AgentNDK
open CText

/-- The first line with the label of the signal mask, with this behind it. -/
def FirstSigblk (lines : List Text) (mask : Text) : Prop :=
  ∃ before after, lines = before ++ (anrSigblkLabel ++ mask) :: after ∧
    ∀ line ∈ before, ¬ anrSigblkLabel <+: line

/-- The lines `fgets` reads of a status file, none if it cannot be opened. -/
def TaskDir.statusLines (dir : TaskDir) (tid : Int32) : List Text :=
  (dir.status tid).elim [] (fgetsLines 1024 [])

/-- An entry of a thread that has the name and the mask of the ANR monitor. -/
structure TaskDir.MonitorEntry (dir : TaskDir) (abi : Abi) (name : Text) : Prop where
  numeric : isNumericName name = true
  named : ∃ comm, dir.comm (threadId abi name) = some comm ∧ anrThreadName <+: comm
  masked : ∃ mask, FirstSigblk (dir.statusLines (threadId abi name)) mask ∧
    (strtoullHex mask).getLsbD 12 = true

/-! Lines. -/

theorem fgetsLines_append {size : Nat} {line : Text} (newline : '\n' ∉ line) (start rest : Text)
    (room : start.length + line.length + 2 ≤ size) :
    fgetsLines size start (line ++ '\n' :: rest) =
      (start ++ line ++ ['\n']) :: fgetsLines size [] rest := by
  induction line generalizing start with
  | nil => simp [fgetsLines]
  | cons c line ih =>
    rw [List.mem_cons, not_or] at newline
    rw [List.length_cons] at room
    have uncut : ¬ (c = '\n' ∨ size ≤ start.length + 2) := by
      rintro (same | full)
      · exact newline.1 same.symm
      · omega
    rw [List.cons_append, fgetsLines, if_neg uncut, ih newline.2 (start ++ [c])]
    · rw [List.append_assoc start [c] line, List.singleton_append]
    · rw [List.length_append, List.length_singleton]
      omega

/-- Lines that fit into the buffer are read as they are. -/
theorem fgetsLines_lines {size : Nat} {lines : List Text}
    (fit : ∀ line ∈ lines, '\n' ∉ line ∧ line.length + 2 ≤ size) :
    fgetsLines size [] (lines.flatMap (· ++ ['\n'])) = lines.map (· ++ ['\n']) := by
  induction lines with
  | nil => rfl
  | cons line lines ih =>
    obtain ⟨newline, room⟩ := fit line List.mem_cons_self
    rw [List.flatMap_cons, List.append_assoc, List.singleton_append,
      fgetsLines_append newline [] _ (by simpa using room),
      ih fun later member => fit later (List.mem_cons_of_mem _ member), List.nil_append, List.map_cons]

theorem firstSigblk_iff {lines : List Text} {mask : Text} : FirstSigblk lines mask ↔
    lines.find? anrSigblkLabel.isPrefixOf = some (anrSigblkLabel ++ mask) := by
  rw [List.find?_eq_some_iff_append, FirstSigblk,
    and_iff_right (List.isPrefixOf_iff_prefix.mpr (List.prefix_append _ mask))]
  simp only [← List.isPrefixOf_iff_prefix, Bool.not_eq_true, Bool.not_eq_true']

theorem and_anrThreadSigblk (sigblk : BitVec 64) :
    (sigblk &&& anrThreadSigblk == anrThreadSigblk) = sigblk.getLsbD 12 := by
  have bit : anrThreadSigblk = BitVec.twoPow 64 12 := by decide
  rw [bit, BitVec.and_twoPow]
  cases sigblk.getLsbD 12 <;> decide

/-- Without a line that has the label the mask is zero. -/
theorem sigblk_masked_iff (dir : TaskDir) (tid : Int32) : (sigblk dir tid).getLsbD 12 = true ↔
    ∃ mask, FirstSigblk (dir.statusLines tid) mask ∧ (strtoullHex mask).getLsbD 12 = true := by
  unfold sigblk
  simp only [firstSigblk_iff, TaskDir.statusLines]
  cases found : ((dir.status tid).elim [] (fgetsLines 1024 [])).find? anrSigblkLabel.isPrefixOf with
  | none => simp
  | some buff =>
    obtain ⟨mask, rfl⟩ := List.isPrefixOf_iff_prefix.mp (List.find?_some found)
    simp

theorem getThreadName_begins_iff (dir : TaskDir) (tid : Int32) :
    anrThreadName <+: getThreadName dir tid ↔
      ∃ comm, dir.comm tid = some comm ∧ anrThreadName <+: comm := by
  have letters : anrThreadName = 'S' :: "ignal Catcher".toList := rfl
  have visible : ∀ c ∈ "ignal Catcher".toList.getLast?, isSpace c = false := by
    intro c last
    have same : some 'r' = some c := last
    cases same
    rfl
  rw [letters]
  exact begins_readProcLine_iff (by decide) (by decide) (by decide) visible (by decide) (dir.comm tid)

/-- What the loop asks of an entry is that it is the monitor's. -/
theorem monitorEntry_iff (dir : TaskDir) (abi : Abi) (name : Text) : dir.MonitorEntry abi name ↔
    (isNumericName name && dir.isAnrMonitor (threadId abi name)) = true := by
  rw [TaskDir.isAnrMonitor, and_anrThreadSigblk, Bool.and_eq_true, Bool.and_eq_true,
    List.isPrefixOf_iff_prefix, getThreadName_begins_iff, sigblk_masked_iff]
  exact ⟨fun entry => ⟨entry.numeric, entry.named, entry.masked⟩, fun ⟨numeric, named, masked⟩ =>
    ⟨numeric, named, masked⟩⟩

instance (dir : TaskDir) (abi : Abi) : DecidablePred (dir.MonitorEntry abi) :=
  fun name => decidable_of_iff _ (monitorEntry_iff dir abi name).symm

/-- The first entry of the monitor, where the listing has one. -/
def TaskDir.firstMonitor (dir : TaskDir) (abi : Abi) : Option Text :=
  (dir.names.getD []).find? fun name => dir.MonitorEntry abi name

/-- The detection returns, from an `anr_monitor_tid` of -1, with whether there
is an entry of the monitor, and with the thread of the first one. -/
def TaskDir.Detected (dir : TaskDir) (abi : Abi) : Prop :=
  ∃ tid, detectAndroidAnrHandler abi dir (-1) = .ok tid ∧
    (tid ≠ -1 ↔ ∃ name ∈ dir.names.getD [], dir.MonitorEntry abi name) ∧
    tid = (dir.firstMonitor abi).elim (-1) (threadId abi)

theorem find_entry {abi : Abi} {dir : TaskDir} {names : List Text} {name : Text}
    (first : (names.find? fun name => dir.MonitorEntry abi name) = some name) :
    name ∈ names ∧ dir.MonitorEntry abi name :=
  ⟨List.mem_of_find?_eq_some first, by simpa using List.find?_some first⟩

/-- The loop goes on behind an entry of the monitor that is read as -1. -/
theorem detectLoop_eq (abi : Abi) (dir : TaskDir) (names : List Text) :
    detectLoop abi dir (-1) names =
      (names.find? fun name => dir.MonitorEntry abi name ∧ threadId abi name ≠ -1).elim (-1)
        (threadId abi) := by
  induction names with
  | nil => rfl
  | cons name names ih =>
    have asked := monitorEntry_iff dir abi name
    rw [Bool.and_eq_true] at asked
    simp only [detectLoop]
    by_cases numeric : isNumericName name = true
    · by_cases monitor : dir.isAnrMonitor (threadId abi name) = true
      · have entry := asked.mpr ⟨numeric, monitor⟩
        by_cases unset : threadId abi name = -1
        · rw [if_pos numeric, if_pos monitor, if_neg (not_not_intro unset), unset, ih,
            List.find?_cons_of_neg (by simp [unset])]
        · rw [if_pos numeric, if_pos monitor, if_pos unset,
            List.find?_cons_of_pos (by simp [entry, unset]), Option.elim_some]
      · have other : ¬ dir.MonitorEntry abi name := fun entry => monitor (asked.mp entry).2
        rw [if_pos numeric, if_neg monitor, if_neg (not_not_intro rfl), ih,
          List.find?_cons_of_neg (by simp [other])]
    · have other : ¬ dir.MonitorEntry abi name := fun entry => numeric (asked.mp entry).1
      rw [if_neg numeric, ih, List.find?_cons_of_neg (by simp [other])]

/-- Where the first entry of the monitor has a thread id, the loop stops there. -/
theorem detectLoop_first {abi : Abi} {dir : TaskDir} {names : List Text}
    (set : ∀ name, (names.find? fun name => dir.MonitorEntry abi name) = some name → threadId abi name ≠ -1) :
    detectLoop abi dir (-1) names =
      (names.find? fun name => dir.MonitorEntry abi name).elim (-1) (threadId abi) := by
  rw [detectLoop_eq]
  cases first : names.find? fun name => dir.MonitorEntry abi name with
  | none =>
    have none := List.find?_eq_none.mp first
    rw [List.find?_eq_none.mpr]
    intro name member both
    exact none name member (by simpa using (of_decide_eq_true both).1)
  | some name =>
    obtain ⟨entry, before, after, split, earlier⟩ := List.find?_eq_some_iff_append.mp first
    have stops : (names.find? fun name => dir.MonitorEntry abi name ∧ threadId abi name ≠ -1) = some name := by
      refine List.find?_eq_some_iff_append.mpr ⟨?_, before, after, split, ?_⟩
      · exact decide_eq_true ⟨of_decide_eq_true entry, set name first⟩
      · intro other member
        have no := earlier other member
        simp only [Bool.not_eq_true', decide_eq_false_iff_not] at no ⊢
        exact fun both => no both.1
    rw [stops]

/-- The detection does so on exactly the directories that can be opened, as
long as the first entry of the monitor is not read as the thread id -1. -/
theorem detected_iff (abi : Abi) (dir : TaskDir) : dir.Detected abi ↔
    dir.names ≠ none ∧ ∀ name, dir.firstMonitor abi = some name → threadId abi name ≠ -1 := by
  constructor
  · rintro ⟨tid, detected, returned, first⟩
    obtain ⟨names, listed, _⟩ := deref_bind_eq_ok.mp detected
    refine ⟨fun closed => Option.some_ne_none _ (listed.symm.trans closed), fun name found unset => ?_⟩
    rw [found, Option.elim_some, unset] at first
    exact returned.mpr ⟨name, find_entry found⟩ first
  · rintro ⟨opened, set⟩
    obtain ⟨names, listed⟩ := Option.ne_none_iff_exists'.mp opened
    have all : dir.names.getD [] = names := by rw [listed, Option.getD_some]
    rw [TaskDir.firstMonitor, all] at set
    have stops := detectLoop_first set
    refine ⟨_, deref_bind_eq_ok.mpr ⟨names, listed, rfl⟩, ?_, ?_⟩
    · rw [all, stops]
      cases first : names.find? fun name => dir.MonitorEntry abi name with
      | none =>
        refine iff_of_false (not_not_intro rfl) ?_
        rintro ⟨name, member, entry⟩
        exact List.find?_eq_none.mp first name member (decide_eq_true entry)
      | some name =>
        exact iff_of_true (set name first) ⟨name, find_entry first⟩
    · rw [TaskDir.firstMonitor, all]
      exact stops

/-- The directory cannot be opened, and `readdir` gets the null pointer. -/
theorem closed_not_detected : ¬ ({ TaskDir.usual with names := none } : TaskDir).Detected .aarch64 := by
  rintro ⟨tid, detected, _⟩
  cases detected

end AgentNDK
