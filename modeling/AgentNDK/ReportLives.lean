import Mathlib.Data.List.Perm.Basic
import AgentNDK.Library.Runs
import AgentNDK.ReportExpiry

/-! The report directory over the launches of an application. -/

namespace AgentNDK
open CText Runs

deriving instance DecidableEq for ReportFile

/-- A call of `flushPendingReports`, and the process it was made in. -/
structure LaunchFlush where
  launch : Nat
  context : FlushContext
  platform : Platform

/-- What it does. -/
def LaunchFlush.done (flush : LaunchFlush) : Flush :=
  flushPendingReports (some flush.context) flush.platform ⟨[], [], [], 0⟩

structure ReportLives where
  /-- the report directory -/
  files : List ReportFile
  /-- what `deleteOnExit` was called for in this process -/
  deleteOnExit : List Text
  launch : Nat
  /-- the reports as they were stored -/
  stored : List ReportFile
  /-- the files that a flush has deleted -/
  deleted : List ReportFile
  /-- the files removed at an exit, with the process that ended there -/
  expired : List (ReportFile × Nat)
  flushes : List LaunchFlush
  /-- the callbacks of all flushes -/
  calls : List (Text × Callback)

inductive LaunchAction
  /-- a report is stored -/
  | store (report : ReportFile)
  | flush (context : FlushContext) (platform : Platform)
  /-- the virtual machine ends, and deletes what it can of its list -/
  | exit (deletes : Text → Bool)
  /-- the process ends without that, as after a crash -/
  | kill

namespace ReportLives

/-- With the reports that an installation finds. -/
def start (files : List ReportFile) : ReportLives :=
  ⟨files, [], 0, files, [], [], [], []⟩

/-- A report is stored under a name that none has had before. A flush lists the
directory in some order, or does not get to see it. -/
def step (s : ReportLives) : LaunchAction → Option ReportLives
  | .store report =>
    if s.stored.any (·.name = report.name) then none
    else some { s with files := s.files ++ [report], stored := s.stored ++ [report] }
  | .flush context platform =>
    if context.listed.isPerm s.files || context.listed.isEmpty then
      let flush : LaunchFlush := ⟨s.launch, context, platform⟩
      let after := flush.done
      some { s with
        files := s.files.filter fun file => !after.deleted.contains file.name
        deleted := s.deleted ++ s.files.filter fun file => after.deleted.contains file.name
        deleteOnExit := s.deleteOnExit ++ after.deleteOnExit
        flushes := s.flushes ++ [flush]
        calls := s.calls ++ after.calls }
    else none
  | .exit deletes =>
    let gone := fun file : ReportFile => s.deleteOnExit.contains file.name && deletes file.name
    some { s with
      files := s.files.filter fun file => !gone file
      expired := s.expired ++ (s.files.filter gone).map fun file => (file, s.launch)
      deleteOnExit := []
      launch := s.launch + 1 }
  | .kill => some { s with deleteOnExit := [], launch := s.launch + 1 }

end ReportLives

namespace LaunchFlush
variable {flush : LaunchFlush} {report : ReportFile}

/-- The listener took the report when its turn came. -/
def Consumes (flush : LaunchFlush) (report : ReportFile) : Prop :=
  ∃ earlier later call, flush.context.listed = earlier ++ report :: later ∧ report.offer = some call ∧
    flush.context.answer (offers flush.context earlier) call = .returned true

/-- The report was past the period, and its callback was made if it has one. -/
structure Expires (flush : LaunchFlush) (report : ReportFile) : Prop where
  listed : report ∈ flush.context.listed
  older : 0 ≤ flush.context.expirationPeriod → Older flush.context flush.platform report
  posted : flush.context.nativeReportListener.isSome = true → ∀ call, report.offer = some call →
    (report.name, call) ∈ flush.done.calls

theorem done_calls (flush : LaunchFlush) : flush.done.calls = offers flush.context flush.context.listed :=
  (flush_flushed flush.context flush.platform 0).calls

theorem consumes_of_deleted {name : Text} (deleted : name ∈ flush.done.deleted) :
    ∃ report ∈ flush.context.listed, report.name = name ∧ flush.Consumes report := by
  have flushed := flush_flushed flush.context flush.platform 0
  obtain ⟨report, listed, rfl⟩ := List.mem_map.mp
    ((flushed.deleted name deleted).resolve_left List.not_mem_nil)
  obtain ⟨earlier, later, split⟩ := List.append_of_mem listed
  have outcome := ((flushed.each earlier report later split).1.mp deleted).resolve_left List.not_mem_nil
  simp only [ReportFile.outcome, decide_eq_true_eq] at outcome
  obtain ⟨call, offered, answered⟩ := Option.map_eq_some_iff.mp outcome.1
  refine ⟨report, listed, rfl, earlier, later, call, split, ?_, answered⟩
  split at offered
  · exact offered
  · cases offered

theorem expires_of_scheduled {name : Text} (scheduled : name ∈ flush.done.deleteOnExit) :
    ∃ report, report.name = name ∧ flush.Expires report := by
  have flushed := flush_flushed flush.context flush.platform 0
  obtain ⟨report, listed, rfl⟩ := List.mem_map.mp
    ((flushed.scheduled name scheduled).resolve_left List.not_mem_nil)
  obtain ⟨earlier, later, split⟩ := List.append_of_mem listed
  have due := ((flushed.each earlier report later split).2.mp scheduled).resolve_left List.not_mem_nil
  have expired := (ReportFile.outcome_scheduled.mp due).2
  refine ⟨report, rfl, listed, fun period => ?_, fun listening call offered => ?_⟩
  · exact (isExpired_iff_older period flush.platform report).mp expired
  · rw [done_calls]
    exact (mem_offers listed call).mpr ⟨listening, offered⟩

/-- A callback is for a file that is listed, with its text. -/
theorem listed_of_call {entry : Text × Callback} (called : entry ∈ flush.done.calls) :
    ∃ report ∈ flush.context.listed, report.name = entry.1 ∧ report.offer = some entry.2 := by
  rw [done_calls, offers] at called
  split at called
  · obtain ⟨report, listed, offered⟩ := List.mem_filterMap.mp called
    obtain ⟨call, named, rfl⟩ := Option.map_eq_some_iff.mp offered
    exact ⟨report, listed, rfl, named⟩
  · exact absurd called List.not_mem_nil

end LaunchFlush

namespace ReportLives
variable {s t : ReportLives}

/-- What becomes of the reports. -/
structure Lives (s : ReportLives) : Prop where
  /-- Each is in one place and as it was stored: in the directory, deleted by a flush
  or removed at an exit. -/
  whole : (s.files ++ s.deleted ++ s.expired.map Prod.fst).Perm s.stored
  distinct : (s.stored.map ReportFile.name).Nodup
  /-- Only a whole report is heard of. -/
  heard : ∀ entry ∈ s.calls, ∃ report ∈ s.stored, report.name = entry.1 ∧ report.offer = some entry.2
  consumed : ∀ report ∈ s.deleted, ∃ flush ∈ s.flushes, flush.Consumes report
  /-- A report removed at an exit was past the period at a flush of that process. -/
  expired : ∀ entry ∈ s.expired, ∃ flush ∈ s.flushes, flush.launch = entry.2 ∧ flush.Expires entry.1

/-- With the reason for everything that the process would delete at its exit. -/
structure LivesInv (s : ReportLives) : Prop extends s.Lives where
  scheduled : ∀ name ∈ s.deleteOnExit, ∃ flush ∈ s.flushes, flush.launch = s.launch ∧
    ∃ report ∈ s.stored, report.name = name ∧ flush.Expires report

theorem start_inv {files : List ReportFile} (distinct : (files.map ReportFile.name).Nodup) :
    (start files).LivesInv where
  whole := by simp [start]
  distinct := distinct
  heard := fun _ member => absurd member List.not_mem_nil
  consumed := fun _ member => absurd member List.not_mem_nil
  expired := fun _ member => absurd member List.not_mem_nil
  scheduled := fun _ member => absurd member List.not_mem_nil

section Places
variable {files deleted expired stored : List ReportFile}

/-- What leaves the directory is added to the reports that have left it. -/
theorem perm_expired (gone : ReportFile → Bool) (whole : (files ++ deleted ++ expired).Perm stored) :
    ((files.filter fun file => !gone file) ++ deleted ++ (expired ++ files.filter gone)).Perm stored := by
  have parts : (files.filter gone ++ files.filter fun file => !gone file).Perm files :=
    List.filter_append_perm gone files
  rw [← List.append_assoc]
  refine List.perm_append_comm.trans ?_
  rw [← List.append_assoc, ← List.append_assoc]
  exact ((parts.append_right deleted).append_right expired).trans whole

theorem perm_deleted (gone : ReportFile → Bool) (whole : (files ++ deleted ++ expired).Perm stored) :
    ((files.filter fun file => !gone file) ++ (deleted ++ files.filter gone) ++ expired).Perm stored := by
  have moved := perm_expired gone whole
  rw [← List.append_assoc, List.append_assoc]
  exact (List.perm_append_comm.append_left _).trans moved

end Places

/-- The reports that a flush lists are in the directory. -/
theorem mem_files_of_listed {context : FlushContext} {report : ReportFile}
    (listing : (context.listed.isPerm s.files || context.listed.isEmpty) = true)
    (listed : report ∈ context.listed) : report ∈ s.files := by
  rcases Bool.or_eq_true_iff.mp listing with order | empty
  · exact (List.isPerm_iff.mp order).mem_iff.mp listed
  · rw [List.isEmpty_iff.mp empty] at listed
    exact absurd listed List.not_mem_nil

theorem Lives.stored_of_file (lives : s.Lives) {report : ReportFile} (there : report ∈ s.files) :
    report ∈ s.stored :=
  lives.whole.mem_iff.mp (List.mem_append_left _ (List.mem_append_left _ there))

theorem inv_store {report : ReportFile} (inv : s.LivesInv) (taken : s.step (.store report) = some t) :
    t.LivesInv := by
  simp only [step] at taken
  split at taken <;> cases taken
  rename_i fresh
  simp only [List.any_eq_true, decide_eq_true_eq, not_exists, not_and] at fresh
  exact
    { inv with
      whole := by
        have last : (s.files ++ ([report] ++ (s.deleted ++ s.expired.map Prod.fst))).Perm
            (s.files ++ (s.deleted ++ s.expired.map Prod.fst ++ [report])) :=
          List.perm_append_comm.append_left s.files
        have whole := inv.whole.append_right [report]
        rw [List.append_assoc, List.append_assoc]
        rw [List.append_assoc s.files, List.append_assoc s.files] at whole
        exact last.trans whole
      distinct := by
        rw [List.map_append]
        refine List.nodup_append'.mpr ⟨inv.distinct, List.nodup_singleton _, ?_⟩
        rintro name old new
        obtain ⟨other, member, rfl⟩ := List.mem_map.mp old
        exact fresh other member (List.mem_singleton.mp new)
      heard := fun entry member => by
        obtain ⟨other, stored, named⟩ := inv.heard entry member
        exact ⟨other, List.mem_append_left _ stored, named⟩
      scheduled := fun name member => by
        obtain ⟨flush, past, launch, other, stored, due⟩ := inv.scheduled name member
        exact ⟨flush, past, launch, other, List.mem_append_left _ stored, due⟩ }

theorem inv_flush {context : FlushContext} {platform : Platform} (inv : s.LivesInv)
    (taken : s.step (.flush context platform) = some t) : t.LivesInv := by
  simp only [step] at taken
  split at taken <;> cases taken
  rename_i listing
  have there : ∀ report ∈ context.listed, report ∈ s.files := fun _ => mem_files_of_listed listing
  generalize made : (⟨s.launch, context, platform⟩ : LaunchFlush) = flush
  have same : flush.context = context := by rw [← made]
  rw [← same] at there
  exact
    { whole := perm_deleted _ inv.whole
      distinct := inv.distinct
      heard := fun entry member => by
        rcases List.mem_append.mp member with before | now
        · exact inv.heard entry before
        · obtain ⟨report, listed, named⟩ := LaunchFlush.listed_of_call now
          exact ⟨report, inv.stored_of_file (there report listed), named⟩
      consumed := fun report member => by
        rcases List.mem_append.mp member with before | now
        · obtain ⟨past, member, consumes⟩ := inv.consumed report before
          exact ⟨past, List.mem_append_left _ member, consumes⟩
        · obtain ⟨member, deleted⟩ := List.mem_filter.mp now
          obtain ⟨other, listed, named, consumes⟩ :=
            LaunchFlush.consumes_of_deleted (List.contains_iff_mem.mp deleted)
          have one : other = report := List.inj_on_of_nodup_map inv.distinct
            (inv.stored_of_file (there other listed)) (inv.stored_of_file member) named
          exact ⟨flush, List.mem_append_right _ (List.mem_singleton_self _), one ▸ consumes⟩
      expired := fun entry member => by
        obtain ⟨past, member, due⟩ := inv.expired entry member
        exact ⟨past, List.mem_append_left _ member, due⟩
      scheduled := fun name member => by
        rcases List.mem_append.mp member with before | now
        · obtain ⟨past, member, due⟩ := inv.scheduled name before
          exact ⟨past, List.mem_append_left _ member, due⟩
        · obtain ⟨report, named, due⟩ := LaunchFlush.expires_of_scheduled now
          refine ⟨flush, List.mem_append_right _ (List.mem_singleton_self _), by rw [← made], report, ?_,
            named, due⟩
          exact inv.stored_of_file (there report due.listed) }

theorem inv_exit {deletes : Text → Bool} (inv : s.LivesInv) (taken : s.step (.exit deletes) = some t) :
    t.LivesInv := by
  cases taken
  exact
    { whole := by
        have moved := perm_expired (fun file => s.deleteOnExit.contains file.name && deletes file.name) inv.whole
        have same : ∀ files : List ReportFile,
            (files.map fun file => (file, s.launch)).map Prod.fst = files := fun files =>
          List.map_map.trans (List.map_id files)
        dsimp only
        rw [List.map_append, same]
        exact moved
      distinct := inv.distinct
      heard := inv.heard
      consumed := inv.consumed
      expired := fun entry member => by
        rcases List.mem_append.mp member with before | now
        · exact inv.expired entry before
        · obtain ⟨file, removed, rfl⟩ := List.mem_map.mp now
          obtain ⟨there, gone⟩ := List.mem_filter.mp removed
          have scheduled := List.contains_iff_mem.mp (Bool.and_eq_true_iff.mp gone).1
          obtain ⟨flush, past, launch, report, stored, named, due⟩ := inv.scheduled file.name scheduled
          have one : report = file :=
            List.inj_on_of_nodup_map inv.distinct stored (inv.stored_of_file there) named
          exact ⟨flush, past, launch, one ▸ due⟩
      scheduled := fun _ member => absurd member List.not_mem_nil }

theorem inv_lives {action : LaunchAction} (inv : s.LivesInv) (taken : s.step action = some t) :
    t.LivesInv := by
  cases action with
  | store report => exact inv_store inv taken
  | flush context platform => exact inv_flush inv taken
  | exit deletes => exact inv_exit inv taken
  | kill =>
    cases taken
    exact { inv with scheduled := fun _ member => absurd member List.not_mem_nil }

/-- What is heard of next is in the directory, and nowhere else. -/
theorem next_calls {action : LaunchAction} (lives : s.Lives) (taken : s.step action = some t) :
    ∃ new, t.calls = s.calls ++ new ∧ ∀ entry ∈ new, entry.1 ∈ s.files.map ReportFile.name ∧
      entry.1 ∉ s.deleted.map ReportFile.name ∧ entry.1 ∉ s.expired.map (·.1.name) := by
  cases action with
  | flush context platform =>
    simp only [step] at taken
    split at taken <;> cases taken
    rename_i listing
    refine ⟨_, rfl, fun entry called => ?_⟩
    obtain ⟨report, listed, named, _⟩ := LaunchFlush.listed_of_call called
    have there := mem_files_of_listed listing listed
    have names := (lives.whole.map ReportFile.name).nodup_iff.mpr lives.distinct
    rw [List.map_append, List.map_append, List.map_map] at names
    obtain ⟨left, _, removed⟩ := List.nodup_append'.mp names
    have member : entry.1 ∈ s.files.map ReportFile.name := named ▸ List.mem_map_of_mem there
    exact ⟨member, fun deleted => (List.nodup_append'.mp left).2.2 member deleted,
      fun expired => removed (List.mem_append_left _ member) expired⟩
  | store report =>
    simp only [step] at taken
    split at taken <;> cases taken
    exact ⟨[], (List.append_nil _).symm, fun _ member => absurd member List.not_mem_nil⟩
  | exit | kill =>
    cases taken
    exact ⟨[], (List.append_nil _).symm, fun _ member => absurd member List.not_mem_nil⟩

theorem minute_sinceEpoch (_ : Text) : 0 ≤ (60000 : Int) ∧ (60000 : Int) < 2 ^ 63 := by
  omega

/-- A system whose clock stands at a minute past the epoch. -/
def minutePast : Platform :=
  ⟨fun _ => 60000, fun _ => true, minute_sinceEpoch⟩

/-- In every run of launches, however they end, no report is lost or changed, and
none is heard of after it has gone. -/
theorem reports_accounted {files : List ReportFile} (distinct : (files.map ReportFile.name).Nodup)
    {actions : List LaunchAction} (reach : run step (start files) actions = some s) : s.Lives ∧
      ∀ action t, s.step action = some t → ∃ new, t.calls = s.calls ++ new ∧
        ∀ entry ∈ new, entry.1 ∈ s.files.map ReportFile.name ∧
          entry.1 ∉ s.deleted.map ReportFile.name ∧ entry.1 ∉ s.expired.map (·.1.name) := by
  have inv : s.LivesInv := run_invariant (fun _ _ _ => inv_lives) (start_inv distinct) reach
  exact ⟨inv.toLives, fun action t taken => next_calls inv.toLives taken⟩

/-- A report that has expired outlives a process that is killed. -/
theorem reports_accounted_killed :
    let crash : ReportFile := ⟨"crash-1", some "a", 0⟩
    let anr : ReportFile := ⟨"anr-2", some "b", 60000⟩
    let context := fun (file : ReportFile) (consumed : Bool) =>
      FlushContext.mk (some (singleDir file)) (some fun _ _ => .returned consumed) 59
    ∃ s, run step (start [crash]) [.flush (context crash false) minutePast, .kill,
        .flush (context crash false) minutePast, .exit fun _ => true, .store anr,
        .flush (context anr true) minutePast] = some s ∧
      s.expired = [(crash, 1)] ∧ s.deleted = [anr] ∧ s.calls.length = 3 ∧ s.Lives := by
  intro crash anr context
  obtain ⟨s, reach, left⟩ : ∃ s, run step (start [crash]) [.flush (context crash false) minutePast, .kill,
      .flush (context crash false) minutePast, .exit fun _ => true, .store anr,
      .flush (context anr true) minutePast] = some s ∧
      s.expired = [(crash, 1)] ∧ s.deleted = [anr] ∧ s.calls.length = 3 := ⟨_, rfl, rfl, rfl, rfl⟩
  refine ⟨s, reach, left.1, left.2.1, left.2.2, ?_⟩
  have distinct : ([crash].map ReportFile.name).Nodup := List.nodup_singleton _
  exact (reports_accounted distinct reach).1

end ReportLives

end AgentNDK
