import AgentNDK.PendingReports

namespace AgentNDK
open CText

/-- The file is older than the expiration period, in integers without bound. -/
def Older (context : FlushContext) (platform : Platform) (report : ReportFile) : Prop :=
  report.lastModified + secondsToMillis context.expirationPeriod <
    platform.currentTimeMillis report.name

/-- What is scheduled for removal is older than the period, and the listener
was called for it in this flush. -/
def FinalPost (context : FlushContext) (platform : Platform) (after : Flush) : Prop :=
  ∀ name ∈ after.deleteOnExit, ∃ report ∈ context.listed, report.name = name ∧
    Older context platform report ∧ ∃ call, (name, call) ∈ after.calls

theorem secondsToMillis_eq {duration : Int} (nonneg : 0 ≤ duration) :
    secondsToMillis duration = min (1000 * duration) (2 ^ 63 - 1) := by
  unfold secondsToMillis
  omega

/-- Of a clock that is past the epoch a period can be taken without overflow. -/
theorem isExpired_iff_older {context : FlushContext} (period : 0 ≤ context.expirationPeriod)
    (platform : Platform) (report : ReportFile) :
    isExpired context platform report = true ↔ Older context platform report := by
  have clock := platform.sinceEpoch report.name
  have millis := secondsToMillis_eq period
  have fits : Int.bmod
      (platform.currentTimeMillis report.name - secondsToMillis context.expirationPeriod) (2 ^ 64) =
      platform.currentTimeMillis report.name - secondsToMillis context.expirationPeriod := by
    apply Int.bmod_eq_of_le <;> omega
  unfold isExpired Older
  dsimp only
  rw [fits, decide_eq_true_eq]
  omega

/-- For a file dated after the epoch that is its age in seconds, of whatever
size the period is. -/
theorem older_iff {context : FlushContext} (period : 0 ≤ context.expirationPeriod)
    (platform : Platform) {report : ReportFile} (dated : 0 ≤ report.lastModified) :
    Older context platform report ↔
      1000 * context.expirationPeriod < platform.currentTimeMillis report.name - report.lastModified := by
  have clock := platform.sinceEpoch report.name
  have millis := secondsToMillis_eq period
  unfold Older
  omega

theorem mem_offers {context : FlushContext} {report : ReportFile} (listed : report ∈ context.listed)
    (call : Callback) : (report.name, call) ∈ offers context context.listed ↔
      context.nativeReportListener.isSome = true ∧ report.offer = some call := by
  unfold offers
  split
  · rename_i listening
    rw [List.mem_filterMap]
    constructor
    · rintro ⟨other, member, named⟩
      obtain ⟨_, offered, same⟩ := Option.map_eq_some_iff.mp named
      obtain ⟨name, rfl⟩ := Prod.mk.inj same
      have one := List.inj_on_of_nodup_map context.listed_distinct member listed name
      exact ⟨listening, one ▸ offered⟩
    · rintro ⟨_, offered⟩
      exact ⟨report, listed, by rw [offered]; rfl⟩
  · rename_i deaf
    simp [deaf]

/-- A file that is expired is scheduled, unless it has just been consumed. -/
theorem ReportFile.outcome_scheduled {context : FlushContext} {platform : Platform}
    {report : ReportFile} {answer : Callback → Response} :
    (report.outcome context platform answer).scheduled = true ↔
      (report.outcome context platform answer).deleted = false ∧
        isExpired context platform report = true := by
  simp only [ReportFile.outcome, decide_eq_true_eq, decide_eq_false_iff_not]

theorem ReportFile.outcome_deleted {context : FlushContext} {platform : Platform}
    {report : ReportFile} {answer : Callback → Response}
    (deleted : (report.outcome context platform answer).deleted = true) :
    context.nativeReportListener.isSome = true ∧ report.offer ≠ none := by
  simp only [ReportFile.outcome, decide_eq_true_eq] at deleted
  obtain ⟨call, offered, _⟩ := Option.map_eq_some_iff.mp deleted.1
  split at offered
  · rename_i listening
    exact ⟨listening, offered.trans_ne (Option.some_ne_none call)⟩
  · cases offered

/-- A flush schedules only what has had its final post, if and only if the
listener is set and every file older than the period is a report that can be
read. -/
theorem final_post_iff {context : FlushContext} (period : 0 ≤ context.expirationPeriod)
    (platform : Platform) (lock : Nat) :
    FinalPost context platform (flushPendingReports (some context) platform ⟨[], [], [], lock⟩) ↔
      ∀ report ∈ context.listed, Older context platform report →
        context.nativeReportListener.isSome = true ∧ report.offer ≠ none := by
  have flushed := flush_flushed context platform lock
  have calls := flushed.calls.trans (List.nil_append _)
  unfold FinalPost
  rw [calls]
  constructor
  · intro posted report listed older
    obtain ⟨earlier, later, split⟩ := List.append_of_mem listed
    have scheduled := (flushed.each earlier report later split).2
    generalize context.answer ([] ++ offers context earlier) = answer at scheduled
    have expired := (isExpired_iff_older period platform report).mpr older
    cases removed : (report.outcome context platform answer).deleted with
    | true => exact ReportFile.outcome_deleted removed
    | false =>
      have due := ReportFile.outcome_scheduled.mpr ⟨removed, expired⟩
      obtain ⟨_, _, _, _, call, called⟩ := posted report.name (scheduled.mpr (Or.inr due))
      obtain ⟨listening, offered⟩ := (mem_offers listed call).mp called
      exact ⟨listening, offered.trans_ne nofun⟩
  · intro offered name scheduled
    obtain ⟨report, listed, rfl⟩ := List.mem_map.mp
      ((flushed.scheduled name scheduled).resolve_left List.not_mem_nil)
    obtain ⟨earlier, later, split⟩ := List.append_of_mem listed
    have due := ((flushed.each earlier report later split).2.mp scheduled).resolve_left
      List.not_mem_nil
    have older := (isExpired_iff_older period platform report).mp
      (ReportFile.outcome_scheduled.mp due).2
    obtain ⟨listening, readable⟩ := offered report listed older
    obtain ⟨call, offered⟩ := Option.ne_none_iff_exists'.mp readable
    exact ⟨report, listed, rfl, older, call, (mem_offers listed call).mpr ⟨listening, offered⟩⟩

/-- A directory with one file. -/
def singleDir (report : ReportFile) : ReportsDir where
  isThere := true
  canRead := true
  listFiles := some [report]
  distinct := by
    rintro files ⟨⟩
    exact List.nodup_singleton _

theorem final_post_refused :
    let context : FlushContext :=
      ⟨some (singleDir ⟨"crash-1", some "a", 0⟩), some fun _ _ => .returned false, 59⟩
    let platform : Platform := ⟨fun _ => 60000, fun _ => true, fun _ => by omega⟩
    FinalPost context platform (flushPendingReports (some context) platform ⟨[], [], [], 0⟩) := by
  intro context platform
  have period : 0 ≤ context.expirationPeriod := by decide
  refine (final_post_iff period platform 0).mpr fun report listed _ => ⟨rfl, ?_⟩
  cases List.mem_singleton.mp listed
  decide

/-- Without a listener a report is scheduled without a post, and so is one that
cannot be read. -/
theorem unposted_scheduled :
    let silent : FlushContext := ⟨some (singleDir ⟨"crash-1", some "a", 0⟩), none, 59⟩
    let unreadable : FlushContext :=
      ⟨some (singleDir ⟨"crash-1", none, 0⟩), some fun _ _ => .returned true, 59⟩
    let platform : Platform := ⟨fun _ => 60000, fun _ => true, fun _ => by omega⟩
    ¬ FinalPost silent platform (flushPendingReports (some silent) platform ⟨[], [], [], 0⟩) ∧
      ¬ FinalPost unreadable platform
        (flushPendingReports (some unreadable) platform ⟨[], [], [], 0⟩) := by
  intro silent unreadable platform
  constructor
  · intro posted
    obtain ⟨_, _, _, _, call, called⟩ := posted "crash-1" (by decide)
    cases called
  · intro posted
    obtain ⟨_, _, _, _, call, called⟩ := posted "crash-1" (by decide)
    cases called

end AgentNDK
