import Mathlib.Algebra.Order.BigOperators.Group.Finset
import AgentNDK.DecoderCalls
import AgentNDK.Library.Runs

/-! The ANR reports on their way through the looper of `monitorThread`. -/

namespace AgentNDK
open CText Runs

/-- The looper of `monitorThread`. -/
inductive ReportLooper
  | notStarted
  | running
  /-- behind `quitSafely` -/
  | quitting
  | exited
  deriving DecidableEq

/-- `monitorThread.looper` is null of a thread that is not alive. -/
def ReportLooper.isAlive : ReportLooper → Bool
  | .running | .quitting => true
  | .notStarted | .exited => false

/-- Where a call of `createANRReport` is. -/
inductive ReportStage
  /-- the ANR counter has been incremented -/
  | counted
  /-- the exception has been made -/
  | constructed
  /-- `reportWithRetry` has its handler -/
  | handling
  /-- `handler.post` has returned, true or false -/
  | posted
  /-- an exception has left the call -/
  | thrown
  deriving DecidableEq

/-- One call of `createANRReport`, and the runnable it posts. -/
structure AnrReport where
  anrAsJson : Option Text
  stage : ReportStage
  retries : Int
  /-- the calls of `sendAgentData` so far; no code reads it -/
  sent : Nat

/-- The runnables in the queue of the looper are named by the position of their report. -/
structure AnrReports where
  looper : ReportLooper
  reports : List AnrReport
  /-- messages whose time has come, in their order -/
  due : List Nat
  /-- messages of `postDelayed`, in their order -/
  delayed : List Nat

/-- `NativeException(anrAsJson)` returns. -/
def readable (org : OrgJson) (anrAsJson : Option Text) : Bool :=
  match Calls.newNativeException org Calls.freshThreadInfo [] anrAsJson with
  | .ok _ => true
  | .error _ => false

/-- A report without a text can always be made, one with a text if it is that
of a JSON object. -/
theorem readable_iff (org : OrgJson) (anrAsJson : Option Text) :
    readable org anrAsJson = true ↔
      ∀ text, anrAsJson = some text → ∃ ms, org.parse text = some (.obj ms) := by
  unfold readable
  cases anrAsJson with
  | none => exact iff_of_true rfl fun text same => absurd same.symm (Option.some_ne_none text)
  | some text =>
    by_cases parsed : ∃ ms, org.parse text = some (.obj ms)
    · obtain ⟨trace, _, made⟩ := Calls.newNativeStackTrace_ok org Calls.freshThreadInfo parsed.choose_spec
      rw [Calls.newNativeException_ok org [] made]
      exact iff_of_true rfl fun _ same => Option.some.inj same ▸ parsed
    · have threw := Calls.newNativeStackTrace_error org Calls.freshThreadInfo (not_exists.mp parsed)
      rw [Calls.newNativeException_error org [] threw]
      exact iff_of_false Bool.false_ne_true fun each => parsed (each text rfl)

namespace AnrReports

def new : AnrReports :=
  ⟨.notStarted, [], [], []⟩

def update (s : AnrReports) (i : Nat) (report : AnrReport) : AnrReports :=
  { s with reports := s.reports.set i report }

/-- The report, if its call is at this stage. -/
def atStage (s : AnrReports) (i : Nat) (stage : ReportStage) : Option AnrReport :=
  s.reports[i]?.filter fun report => report.stage = stage

/-- `run()` of the runnable; `found` tells whether `getProcessErrorStateInfoOrNull`
returned something. -/
def runnable (s : AnrReports) (i : Nat) (report : AnrReport) (found : Bool) : AnrReports :=
  let retries := if found then 0 else report.retries
  let report := { report with retries := retries - 1 }
  if retries = 0 then s.update i { report with sent := report.sent + 1 }
  else { s.update i report with
    delayed := if s.looper = .running then s.delayed ++ [i] else s.delayed }

inductive Action
  /-- `monitorThread.start()` -/
  | start
  /-- the call, which increments the counter -/
  | createANRReport (anrAsJson : Option Text)
  /-- the exception and its stack trace -/
  | construct (i : Nat)
  /-- `Handler(monitorThread.looper)` -/
  | handler (i : Nat)
  /-- `handler.post` -/
  | post (i : Nat)
  /-- the delay of a message has passed -/
  | elapse
  /-- the looper takes the first message that is due -/
  | run (found : Bool)
  /-- the end of the monitor loop -/
  | quitSafely
  | exit

def step (org : OrgJson) (s : AnrReports) : Action → Option AnrReports
  | .start => if s.looper = .notStarted then some { s with looper := .running } else none
  | .createANRReport anrAsJson =>
    some { s with reports := s.reports ++ [⟨anrAsJson, .counted, 10, 0⟩] }
  | .construct i => (s.atStage i .counted).map fun report =>
    s.update i { report with
      stage := if readable org report.anrAsJson then .constructed else .thrown }
  | .handler i => (s.atStage i .constructed).map fun report =>
    s.update i { report with stage := if s.looper.isAlive then .handling else .thrown }
  | .post i => (s.atStage i .handling).map fun report =>
    { s.update i { report with stage := .posted } with
      due := if s.looper = .running then s.due ++ [i] else s.due }
  | .elapse =>
    match s.delayed with
    | i :: rest => some { s with due := s.due ++ [i], delayed := rest }
    | [] => none
  | .run found =>
    match s.due with
    | i :: rest =>
      if s.looper.isAlive then
        s.reports[i]?.map fun report => { s with due := rest }.runnable i report found
      else none
    | [] => none
  -- messages whose time has not come are dropped
  | .quitSafely => if s.looper = .running then some { s with looper := .quitting, delayed := [] } else none
  | .exit => if s.looper = .quitting ∧ s.due = [] then some { s with looper := .exited } else none

/-- Nothing of a call or a message is left to be done. -/
def Settled (s : AnrReports) : Prop :=
  s.due = [] ∧ s.delayed = [] ∧
    ∀ report ∈ s.reports, report.stage = .posted ∨ report.stage = .thrown

/-- The step loses no report: the exception can be made, the looper is there
for the handler and accepts the message, a runnable that polls on is not
refused its next turn, and no delayed message is dropped. -/
def lossless (org : OrgJson) (s : AnrReports) : Action → Bool
  | .construct i => s.reports[i]?.all fun report => readable org report.anrAsJson
  | .handler _ => s.looper.isAlive
  | .post _ => s.looper = .running
  | .run found => s.looper = .running || found ||
      s.due.head?.any fun i => s.reports[i]?.any fun report => report.retries = 0
  | .quitSafely => s.delayed = []
  | .start | .createANRReport _ | .elapse | .exit => true

/-- A step of a call that has begun, or of the looper on a message. -/
def Action.works : Action → Bool
  | .construct _ | .handler _ | .post _ | .elapse | .run _ => true
  | .start | .createANRReport _ | .quitSafely | .exit => false

/-- A report that was never sent and never will be. -/
def LostAt (s : AnrReports) (i : Nat) : Prop :=
  ∃ report, s.reports[i]? = some report ∧ (report.stage = .posted ∨ report.stage = .thrown) ∧
    report.sent = 0 ∧ i ∉ s.due ∧ i ∉ s.delayed

def Lost (s : AnrReports) : Prop :=
  ∃ i, s.LostAt i

/-- What is left to be done for a report: its call, and the turns of its
runnable with the delays in between. -/
def toDo (report : AnrReport) (due delayed : Bool) : Nat :=
  match report.stage with
  | .counted => 24
  | .constructed => 23
  | .handling => 22
  | .posted =>
    if due then 2 * report.retries.toNat + 1
    else if delayed then 2 * report.retries.toNat + 2
    else 0
  | .thrown => 0

/-- The report, where `queued` tells whether it has a message. -/
structure Sound (report : AnrReport) (queued : Prop) : Prop where
  once : report.sent ≤ 1
  early : report.stage ≠ .posted → report.sent = 0 ∧ report.retries = 10
  waiting : queued → report.stage = .posted ∧ report.sent = 0 ∧ 0 ≤ report.retries

structure Inv (s : AnrReports) : Prop where
  /-- no report has two messages -/
  nodup : (s.due ++ s.delayed).Nodup
  known : ∀ i ∈ s.due ++ s.delayed, i < s.reports.length
  each : ∀ i report, s.reports[i]? = some report → Sound report (i ∈ s.due ++ s.delayed)
  alive : s.due ≠ [] → s.looper.isAlive = true
  running : s.delayed ≠ [] → s.looper = .running

theorem inv_new : new.Inv where
  nodup := List.nodup_nil
  known := nofun
  each := nofun
  alive := fun nonempty => absurd rfl nonempty
  running := fun nonempty => absurd rfl nonempty

/-- A step on behalf of one report leaves the others and their messages alone. -/
structure Touches (i : Nat) (s t : AnrReports) : Prop where
  reports : ∀ j, j ≠ i → t.reports[j]? = s.reports[j]?
  due : ∀ j, j ≠ i → (j ∈ t.due ↔ j ∈ s.due)
  delayed : ∀ j, j ≠ i → (j ∈ t.delayed ↔ j ∈ s.delayed)

section Steps
variable {org : OrgJson} {s t : AnrReports} {i : Nat}

theorem Touches.queued (frame : Touches i s t) {j : Nat} (other : j ≠ i) :
    j ∈ t.due ++ t.delayed ↔ j ∈ s.due ++ s.delayed := by
  rw [List.mem_append, List.mem_append, frame.due j other, frame.delayed j other]

theorem Touches.lostAt (frame : Touches i s t) {j : Nat} (other : j ≠ i) : t.LostAt j ↔ s.LostAt j := by
  unfold LostAt
  rw [frame.reports j other, frame.due j other, frame.delayed j other]

/-- Lost before, or by this step. -/
theorem Touches.lost (frame : Touches i s t) (before : ¬ s.LostAt i) : t.Lost ↔ s.Lost ∨ t.LostAt i := by
  constructor
  · rintro ⟨j, lost⟩
    by_cases same : j = i
    · exact Or.inr (same ▸ lost)
    · exact Or.inl ⟨j, (frame.lostAt same).mp lost⟩
  · rintro (⟨j, lost⟩ | lost)
    · refine ⟨j, (frame.lostAt ?_).mpr lost⟩
      rintro rfl
      exact before lost
    · exact ⟨i, lost⟩

theorem Touches.each (frame : Touches i s t) (inv : s.Inv)
    (sound : ∀ report, t.reports[i]? = some report → Sound report (i ∈ t.due ++ t.delayed)) :
    ∀ j report, t.reports[j]? = some report → Sound report (j ∈ t.due ++ t.delayed) := by
  intro j report found
  by_cases same : j = i
  · subst same
    exact sound report found
  · rw [frame.reports j same] at found
    rw [frame.queued same]
    exact inv.each j report found

theorem touches_update (report : AnrReport) : Touches i s (s.update i report) where
  reports := fun _ other => List.getElem?_set_ne other.symm
  due := fun _ _ => Iff.rfl
  delayed := fun _ _ => Iff.rfl

theorem atStage_eq_some {stage : ReportStage} {report : AnrReport} :
    s.atStage i stage = some report ↔ s.reports[i]? = some report ∧ report.stage = stage := by
  rw [atStage, Option.filter_eq_some_iff, decide_eq_true_iff]

theorem getElem?_update {report report' : AnrReport} (found : s.reports[i]? = some report) :
    (s.update i report').reports[i]? = some report' :=
  List.getElem?_set_self (List.getElem?_eq_some_iff.mp found).1

theorem Inv.notQueued (inv : s.Inv) {report : AnrReport} (found : s.reports[i]? = some report)
    (early : report.stage ≠ .posted) : i ∉ s.due ++ s.delayed :=
  fun queued => early ((inv.each i report found).waiting queued).1

theorem not_lostAt_of_stage {report : AnrReport} (found : s.reports[i]? = some report)
    (early : report.stage ≠ .posted) (returns : report.stage ≠ .thrown) : ¬ s.LostAt i := by
  rintro ⟨report', found', posted | thrown, _⟩
  · cases found.symm.trans found'
    exact early posted
  · cases found.symm.trans found'
    exact returns thrown

theorem not_lostAt_of_queued (queued : i ∈ s.due ++ s.delayed) : ¬ s.LostAt i := by
  rintro ⟨_, _, _, _, notDue, notDelayed⟩
  exact (List.mem_append.mp queued).elim notDue notDelayed

/-! A call that goes on without a message. -/

section Stage
variable {report : AnrReport} {stage : ReportStage} (inv : s.Inv) (found : s.reports[i]? = some report)
  (early : report.stage ≠ .posted)
include inv found early

theorem inv_stage (stage : ReportStage) : (s.update i { report with stage }).Inv where
  nodup := inv.nodup
  known := fun j queued => (inv.known j queued).trans_eq List.length_set.symm
  each := by
    refine (touches_update _).each inv fun report' found' => ?_
    cases (getElem?_update found).symm.trans found'
    obtain ⟨unsent, retries⟩ := (inv.each i report found).early early
    exact
      { once := (inv.each i report found).once
        early := fun _ => ⟨unsent, retries⟩
        waiting := fun queued => absurd queued (inv.notQueued found early) }
  alive := inv.alive
  running := inv.running

theorem lost_stage (returns : report.stage ≠ .thrown) (unposted : stage ≠ .posted) :
    (s.update i { report with stage }).Lost ↔ s.Lost ∨ stage = .thrown := by
  rw [(touches_update _).lost (not_lostAt_of_stage found early returns)]
  refine or_congr_right ⟨?_, fun thrown => ?_⟩
  · rintro ⟨report', found', gone, _⟩
    cases (getElem?_update found).symm.trans found'
    exact gone.resolve_left unposted
  · have away := List.mem_append.not.mp (inv.notQueued found early)
    exact ⟨_, getElem?_update found, Or.inr thrown, ((inv.each i report found).early early).1,
      not_or.mp away⟩

end Stage

/-- The call goes on to its next stage, or an exception leaves it. -/
def GoesOn (s t : AnrReports) (i : Nat) (lossless : Bool) : Prop :=
  ∃ report stage, s.reports[i]? = some report ∧ t = s.update i { report with stage } ∧
    (report.stage ≠ .posted ∧ report.stage ≠ .thrown) ∧ stage ≠ .posted ∧
      (stage = .thrown ↔ lossless = false) ∧
        ∀ due delayed, toDo { report with stage } due delayed < toDo report due delayed

theorem GoesOn.inv {lossless : Bool} (goesOn : GoesOn s t i lossless) (inv : s.Inv) : t.Inv := by
  obtain ⟨report, stage, found, rfl, early, _⟩ := goesOn
  exact inv_stage inv found early.1 stage

theorem GoesOn.lost {lossless : Bool} (goesOn : GoesOn s t i lossless) (inv : s.Inv) :
    t.Lost ↔ s.Lost ∨ lossless = false := by
  obtain ⟨report, stage, found, rfl, early, unposted, thrown, _⟩ := goesOn
  rw [lost_stage inv found early.1 early.2 unposted, thrown]

theorem goesOn_construct (taken : step org s (.construct i) = some t) :
    GoesOn s t i (s.lossless org (.construct i)) := by
  obtain ⟨report, reached, rfl⟩ := Option.map_eq_some_iff.mp taken
  obtain ⟨found, counted⟩ := atStage_eq_some.mp reached
  refine ⟨report, _, found, rfl,
    ⟨counted.trans_ne ReportStage.noConfusion, counted.trans_ne ReportStage.noConfusion⟩, ?_⟩
  unfold toDo
  rw [lossless, found, Option.all_some, counted]
  cases readable org report.anrAsJson with
  | false => exact ⟨ReportStage.noConfusion, iff_of_true rfl rfl, fun _ _ => Nat.succ_pos 23⟩
  | true => exact ⟨ReportStage.noConfusion, iff_of_false ReportStage.noConfusion Bool.noConfusion,
      fun _ _ => Nat.lt_succ_self 23⟩

theorem goesOn_handler (taken : step org s (.handler i) = some t) :
    GoesOn s t i (s.lossless org (.handler i)) := by
  obtain ⟨report, reached, rfl⟩ := Option.map_eq_some_iff.mp taken
  obtain ⟨found, constructed⟩ := atStage_eq_some.mp reached
  refine ⟨report, _, found, rfl,
    ⟨constructed.trans_ne ReportStage.noConfusion, constructed.trans_ne ReportStage.noConfusion⟩, ?_⟩
  unfold toDo
  rw [lossless, constructed]
  cases s.looper.isAlive with
  | false => exact ⟨ReportStage.noConfusion, iff_of_true rfl rfl, fun _ _ => Nat.succ_pos 22⟩
  | true => exact ⟨ReportStage.noConfusion, iff_of_false ReportStage.noConfusion Bool.noConfusion,
      fun _ _ => Nat.lt_succ_self 22⟩

/-! The message of a call. -/

/-- A post that is accepted. -/
def enqueued (s : AnrReports) (i : Nat) (report : AnrReport) : AnrReports :=
  { s.update i { report with stage := .posted } with due := s.due ++ [i] }

theorem touches_enqueued (report : AnrReport) : Touches i s (s.enqueued i report) where
  reports := (touches_update _).reports
  due := by
    intro j other
    rw [enqueued, List.mem_append, List.mem_singleton, or_iff_left other]
  delayed := fun _ _ => Iff.rfl

theorem getElem?_enqueued {report : AnrReport} (found : s.reports[i]? = some report) :
    (s.enqueued i report).reports[i]? = some { report with stage := .posted } :=
  getElem?_update found

theorem queue_enqueued (report : AnrReport) :
    ((s.enqueued i report).due ++ (s.enqueued i report).delayed).Perm (i :: (s.due ++ s.delayed)) := by
  rw [enqueued, List.append_assoc, List.singleton_append]
  exact List.perm_middle

theorem post_cases (taken : step org s (.post i) = some t) : ∃ report, s.reports[i]? = some report ∧
    report.stage = .handling ∧ (s.looper = .running ∧ t = s.enqueued i report ∨
      s.looper ≠ .running ∧ t = s.update i { report with stage := .posted }) := by
  obtain ⟨report, reached, rfl⟩ := Option.map_eq_some_iff.mp taken
  obtain ⟨found, handling⟩ := atStage_eq_some.mp reached
  refine ⟨report, found, handling, ?_⟩
  by_cases accepts : s.looper = .running
  · exact Or.inl ⟨accepts, by rw [if_pos accepts]; rfl⟩
  · exact Or.inr ⟨accepts, by rw [if_neg accepts]; rfl⟩

theorem inv_post (inv : s.Inv) (taken : step org s (.post i) = some t) : t.Inv := by
  obtain ⟨report, found, handling, posted⟩ := post_cases taken
  have early : report.stage ≠ .posted := handling.trans_ne ReportStage.noConfusion
  rcases posted with ⟨accepts, rfl⟩ | ⟨_, rfl⟩
  · have queue := queue_enqueued (s := s) (i := i) report
    refine
      { nodup := queue.nodup_iff.mpr (List.nodup_cons.mpr ⟨inv.notQueued found early, inv.nodup⟩)
        known := fun j queued => ?_
        each := (touches_enqueued report).each inv fun report' found' => ?_
        alive := fun _ => ?_
        running := fun _ => accepts }
    · refine Nat.lt_of_lt_of_eq ?_ List.length_set.symm
      rcases List.mem_cons.mp (queue.mem_iff.mp queued) with rfl | before
      · exact (List.getElem?_eq_some_iff.mp found).1
      · exact inv.known j before
    · cases (getElem?_update found).symm.trans found'
      obtain ⟨unsent, retries⟩ := (inv.each i report found).early early
      refine
        { once := (inv.each i report found).once
          early := fun unposted => absurd rfl unposted
          waiting := fun _ => ⟨rfl, unsent, ?_⟩ }
      rw [retries]
      decide
    · rw [enqueued, update, accepts]
      rfl
  · exact inv_stage inv found early _

theorem lost_post (inv : s.Inv) (taken : step org s (.post i) = some t) :
    t.Lost ↔ s.Lost ∨ s.lossless org (.post i) = false := by
  obtain ⟨report, found, handling, posted⟩ := post_cases taken
  have early : report.stage ≠ .posted := handling.trans_ne ReportStage.noConfusion
  have before := not_lostAt_of_stage found early (handling.trans_ne ReportStage.noConfusion)
  rw [lossless, decide_eq_false_iff_not]
  rcases posted with ⟨accepts, rfl⟩ | ⟨refuses, rfl⟩
  · have queued : i ∈ (s.enqueued i report).due ++ (s.enqueued i report).delayed :=
      (queue_enqueued report).mem_iff.mpr List.mem_cons_self
    rw [(touches_enqueued report).lost before]
    exact or_congr_right (iff_of_false (not_lostAt_of_queued queued) (not_not.mpr accepts))
  · have away := List.mem_append.not.mp (inv.notQueued found early)
    rw [(touches_update _).lost before]
    exact or_congr_right (iff_of_true ⟨_, getElem?_update found, Or.inl rfl,
      ((inv.each i report found).early early).1, not_or.mp away⟩ refuses)

/-- A delay that has passed changes the place of the message. -/
theorem elapse_cases (taken : step org s .elapse = some t) : ∃ i rest, s.delayed = i :: rest ∧
    t = { s with due := s.due ++ [i], delayed := rest } ∧
      (t.due ++ t.delayed) = s.due ++ s.delayed := by
  simp only [step] at taken
  split at taken
  · rename_i i rest delayed
    cases taken
    refine ⟨i, rest, delayed, rfl, ?_⟩
    rw [delayed, List.append_assoc, List.singleton_append]
  · cases taken

theorem lostAt_queue : s.LostAt i ↔ ∃ report, s.reports[i]? = some report ∧
    (report.stage = .posted ∨ report.stage = .thrown) ∧ report.sent = 0 ∧ i ∉ s.due ++ s.delayed := by
  unfold LostAt
  simp only [List.mem_append, not_or]

theorem inv_elapse (inv : s.Inv) (taken : step org s .elapse = some t) : t.Inv := by
  obtain ⟨i, rest, delayed, rfl, queue⟩ := elapse_cases taken
  have running := inv.running (delayed ▸ List.cons_ne_nil i rest)
  refine
    { nodup := queue ▸ inv.nodup
      known := fun j queued => inv.known j (queue ▸ queued)
      each := fun j report found => queue ▸ inv.each j report found
      alive := fun _ => ?_
      running := fun _ => running }
  dsimp only
  rw [running]
  rfl

theorem lost_elapse (taken : step org s .elapse = some t) : t.Lost ↔ s.Lost := by
  obtain ⟨_, _, _, rfl, queue⟩ := elapse_cases taken
  refine exists_congr fun j => ?_
  rw [lostAt_queue, lostAt_queue, queue]

/-! A turn of the runnable: its message is off the queue, and it may be back. -/

def consumed (s : AnrReports) (i : Nat) (rest : List Nat) (report : AnrReport) : AnrReports :=
  { s with due := rest }.update i report

def requeued (s : AnrReports) (i : Nat) (rest : List Nat) (report : AnrReport) : AnrReports :=
  { s.consumed i rest report with delayed := s.delayed ++ [i] }

theorem run_cases {found : Bool} (taken : step org s (.run found) = some t) :
    ∃ i rest report, s.due = i :: rest ∧ s.reports[i]? = some report ∧
      ((found = true ∨ report.retries = 0) ∧
          t = s.consumed i rest { report with retries := -1, sent := report.sent + 1 } ∨
        ¬ (found = true ∨ report.retries = 0) ∧
          (s.looper = .running ∧ t = s.requeued i rest { report with retries := report.retries - 1 } ∨
            s.looper ≠ .running ∧ t = s.consumed i rest { report with retries := report.retries - 1 })) := by
  simp only [step] at taken
  split at taken
  · rename_i i rest due
    split at taken
    · obtain ⟨report, atReport, rfl⟩ := Option.map_eq_some_iff.mp taken
      refine ⟨i, rest, report, due, atReport, ?_⟩
      unfold runnable
      cases found with
      | true => exact Or.inl ⟨Or.inl rfl, rfl⟩
      | false =>
        dsimp only
        rw [if_neg Bool.false_ne_true]
        by_cases last : report.retries = 0
        · rw [if_pos last, last]
          exact Or.inl ⟨Or.inr rfl, rfl⟩
        · rw [if_neg last]
          refine Or.inr ⟨not_or.mpr ⟨Bool.false_ne_true, last⟩, ?_⟩
          by_cases accepts : s.looper = .running
          · exact Or.inl ⟨accepts, by rw [if_pos accepts]; rfl⟩
          · exact Or.inr ⟨accepts, by rw [if_neg accepts]; rfl⟩
    · cases taken
  · cases taken

section Turn
variable {rest : List Nat} {report : AnrReport}

theorem touches_consumed (due : s.due = i :: rest) (report : AnrReport) :
    Touches i s (s.consumed i rest report) where
  reports := fun _ other => List.getElem?_set_ne other.symm
  due := by
    intro j other
    rw [due, List.mem_cons, or_iff_right other]
    rfl
  delayed := fun _ _ => Iff.rfl

theorem touches_requeued (due : s.due = i :: rest) (report : AnrReport) :
    Touches i s (s.requeued i rest report) where
  reports := (touches_consumed due report).reports
  due := (touches_consumed due report).due
  delayed := by
    intro j other
    rw [requeued, List.mem_append, List.mem_singleton, or_iff_left other]

theorem getElem?_consumed (found : s.reports[i]? = some report) (left : AnrReport) :
    (s.consumed i rest left).reports[i]? = some left :=
  List.getElem?_set_self (List.getElem?_eq_some_iff.mp found).1

theorem getElem?_requeued (found : s.reports[i]? = some report) (left : AnrReport) :
    (s.requeued i rest left).reports[i]? = some left :=
  getElem?_consumed found left

theorem queue_requeued (report : AnrReport) :
    ((s.requeued i rest report).due ++ (s.requeued i rest report).delayed).Perm
      (i :: (rest ++ s.delayed)) := by
  have moved : (rest ++ s.delayed ++ [i]).Perm (i :: (rest ++ s.delayed)) := List.perm_append_singleton i _
  rw [List.append_assoc] at moved
  exact moved

theorem mem_requeued (report : AnrReport) :
    i ∈ (s.requeued i rest report).due ++ (s.requeued i rest report).delayed :=
  (queue_requeued report).mem_iff.mpr List.mem_cons_self

/-- The message was the only one of its report. -/
theorem turn_away (inv : s.Inv) (due : s.due = i :: rest) :
    i ∉ rest ++ s.delayed ∧ (rest ++ s.delayed).Nodup := by
  have nodup := inv.nodup
  rw [due, List.cons_append] at nodup
  exact List.nodup_cons.mp nodup

theorem turn_waiting (inv : s.Inv) (due : s.due = i :: rest) (found : s.reports[i]? = some report) :
    report.stage = .posted ∧ report.sent = 0 ∧ 0 ≤ report.retries :=
  (inv.each i report found).waiting (by rw [due]; exact List.mem_cons_self)

theorem turn_known (inv : s.Inv) (due : s.due = i :: rest) {j : Nat}
    (queued : j ∈ i :: (rest ++ s.delayed)) : j < s.reports.length :=
  inv.known j (by rw [due]; exact queued)

theorem inv_consumed (inv : s.Inv) (due : s.due = i :: rest) (found : s.reports[i]? = some report)
    {left : AnrReport} (posted : left.stage = .posted) (once : left.sent ≤ 1) :
    (s.consumed i rest left).Inv where
  nodup := (turn_away inv due).2
  known := fun j queued => (turn_known inv due (List.mem_cons_of_mem i queued)).trans_eq List.length_set.symm
  each := by
    refine (touches_consumed due left).each inv fun report' found' => ?_
    cases (getElem?_consumed found left).symm.trans found'
    exact
      { once := once
        early := fun unposted => absurd posted unposted
        waiting := fun queued => absurd queued (turn_away inv due).1 }
  alive := fun _ => inv.alive (due ▸ List.cons_ne_nil i rest)
  running := inv.running

theorem inv_requeued (inv : s.Inv) (due : s.due = i :: rest) (found : s.reports[i]? = some report)
    (accepts : s.looper = .running) {left : AnrReport} (posted : left.stage = .posted)
    (unsent : left.sent = 0) (retries : 0 ≤ left.retries) : (s.requeued i rest left).Inv where
  nodup := (queue_requeued left).nodup_iff.mpr (List.nodup_cons.mpr (turn_away inv due))
  known := fun j queued =>
    (turn_known inv due ((queue_requeued left).mem_iff.mp queued)).trans_eq List.length_set.symm
  each := by
    refine (touches_requeued due left).each inv fun report' found' => ?_
    cases (getElem?_requeued found left).symm.trans found'
    exact
      { once := unsent.trans_le (Nat.zero_le 1)
        early := fun unposted => absurd posted unposted
        waiting := fun _ => ⟨posted, unsent, retries⟩ }
  alive := fun _ => inv.alive (due ▸ List.cons_ne_nil i rest)
  running := fun _ => accepts

end Turn

theorem inv_run {found : Bool} (inv : s.Inv) (taken : step org s (.run found) = some t) : t.Inv := by
  obtain ⟨i, rest, report, due, atReport, ⟨_, rfl⟩ | ⟨polls, ⟨accepts, rfl⟩ | ⟨_, rfl⟩⟩⟩ := run_cases taken
  all_goals obtain ⟨posted, unsent, retries⟩ := turn_waiting inv due atReport
  · exact inv_consumed inv due atReport posted (by rw [unsent])
  · have more := (not_or.mp polls).2
    exact inv_requeued inv due atReport accepts posted unsent (by dsimp only; omega)
  · exact inv_consumed inv due atReport posted (by rw [unsent]; decide)

theorem lost_run {found : Bool} (inv : s.Inv) (taken : step org s (.run found) = some t) :
    t.Lost ↔ s.Lost ∨ s.lossless org (.run found) = false := by
  obtain ⟨i, rest, report, due, atReport, outcome⟩ := run_cases taken
  obtain ⟨posted, unsent, _⟩ := turn_waiting inv due atReport
  have before : ¬ s.LostAt i := not_lostAt_of_queued (by rw [due]; exact List.mem_cons_self)
  have guard : s.lossless org (.run found) = true ↔
      s.looper = .running ∨ found = true ∨ report.retries = 0 := by
    simp [lossless, due, atReport, or_assoc]
  rw [← Bool.not_eq_true, guard]
  rcases outcome with ⟨sends, rfl⟩ | ⟨polls, ⟨accepts, rfl⟩ | ⟨refuses, rfl⟩⟩
  · rw [(touches_consumed due _).lost before]
    refine or_congr_right (iff_of_false ?_ (not_not.mpr (Or.inr sends)))
    rintro ⟨report', found', _, never, _⟩
    cases (getElem?_consumed atReport _).symm.trans found'
    cases never
  · rw [(touches_requeued due _).lost before]
    exact or_congr_right (iff_of_false (not_lostAt_of_queued (mem_requeued _))
      (not_not.mpr (Or.inl accepts)))
  · rw [(touches_consumed due _).lost before]
    have lost := lostAt_queue.mpr ⟨_, getElem?_consumed atReport { report with retries := report.retries - 1 },
      Or.inl posted, unsent, (turn_away inv due).1⟩
    exact or_congr_right (iff_of_true lost (not_or.mpr ⟨refuses, polls⟩))

/-! The steps that are no work on a report. -/

theorem inv_create (inv : s.Inv) {anrAsJson : Option Text}
    (taken : step org s (.createANRReport anrAsJson) = some t) : t.Inv := by
  cases taken
  refine
    { nodup := inv.nodup
      known := fun j queued => ?_
      each := fun j report found => ?_
      alive := inv.alive
      running := inv.running }
  · rw [List.length_append]
    exact Nat.lt_add_right 1 (inv.known j queued)
  · rcases Nat.lt_or_ge j s.reports.length with old | new
    · rw [List.getElem?_append_left old] at found
      exact inv.each j report found
    · rw [List.getElem?_append_right new, List.getElem?_singleton] at found
      split at found <;> cases found
      exact
        { once := Nat.zero_le 1
          early := fun _ => ⟨rfl, rfl⟩
          waiting := fun queued => absurd (inv.known j queued) (Nat.not_lt_of_le new) }

theorem lost_create {anrAsJson : Option Text}
    (taken : step org s (.createANRReport anrAsJson) = some t) : t.Lost ↔ s.Lost := by
  cases taken
  have frame : Touches s.reports.length s
      { s with reports := s.reports ++ [⟨anrAsJson, .counted, 10, 0⟩] } :=
    { reports := fun j other => by
        rcases Nat.lt_or_gt_of_ne other with old | beyond
        · exact List.getElem?_append_left old
        · rw [List.getElem?_eq_none (Nat.le_of_lt beyond), List.getElem?_eq_none]
          rw [List.length_append]
          exact beyond
      due := fun _ _ => Iff.rfl
      delayed := fun _ _ => Iff.rfl }
  have before : ¬ s.LostAt s.reports.length := by
    rintro ⟨report, found, _⟩
    exact Nat.lt_irrefl _ (List.getElem?_eq_some_iff.mp found).1
  rw [frame.lost before]
  exact or_iff_left (not_lostAt_of_stage List.getElem?_concat_length ReportStage.noConfusion
    ReportStage.noConfusion)

theorem inv_quitSafely (inv : s.Inv) (taken : step org s .quitSafely = some t) : t.Inv := by
  simp only [step] at taken
  split at taken <;> cases taken
  have fewer : ∀ j, j ∈ s.due ++ [] → j ∈ s.due ++ s.delayed := by
    intro j queued
    exact List.mem_append_left _ (List.append_nil s.due ▸ queued)
  exact
    { nodup := by simpa only [List.append_nil] using (List.nodup_append.mp inv.nodup).1
      known := fun j queued => inv.known j (fewer j queued)
      each := fun j report found =>
        { inv.each j report found with
          waiting := fun queued => (inv.each j report found).waiting (fewer j queued) }
      alive := fun _ => rfl
      running := fun nonempty => absurd rfl nonempty }

/-- A delayed message that is dropped was the only one of its report. -/
theorem lost_quitSafely (inv : s.Inv) (taken : step org s .quitSafely = some t) :
    t.Lost ↔ s.Lost ∨ s.lossless org .quitSafely = false := by
  simp only [step] at taken
  split at taken <;> cases taken
  rw [lossless, decide_eq_false_iff_not]
  constructor
  · rintro ⟨j, report, found, gone, unsent, notDue, _⟩
    by_cases delayed : j ∈ s.delayed
    · exact Or.inr (List.ne_nil_of_mem delayed)
    · exact Or.inl ⟨j, report, found, gone, unsent, notDue, delayed⟩
  · rintro (⟨j, report, found, gone, unsent, notDue, _⟩ | nonempty)
    · exact ⟨j, report, found, gone, unsent, notDue, List.not_mem_nil⟩
    · obtain ⟨j, rest, delayed⟩ := List.exists_cons_of_ne_nil nonempty
      have last : j ∈ s.delayed := delayed ▸ List.mem_cons_self
      have queued : j ∈ s.due ++ s.delayed := List.mem_append_right _ last
      have found := List.getElem?_eq_getElem (inv.known j queued)
      obtain ⟨posted, unsent, _⟩ := (inv.each j _ found).waiting queued
      have notDue : j ∉ s.due := fun member => (List.nodup_append.mp inv.nodup).2.2 j member j last rfl
      exact ⟨j, _, found, Or.inl posted, unsent, notDue, List.not_mem_nil⟩

theorem inv_step {action : Action} (inv : s.Inv) (taken : step org s action = some t) : t.Inv := by
  cases action with
  | start =>
    simp only [step] at taken
    split at taken <;> cases taken
    exact { inv with alive := fun _ => rfl, running := fun _ => rfl }
  | createANRReport anrAsJson => exact inv_create inv taken
  | construct i => exact (goesOn_construct taken).inv inv
  | handler i => exact (goesOn_handler taken).inv inv
  | post i => exact inv_post inv taken
  | elapse => exact inv_elapse inv taken
  | run found => exact inv_run inv taken
  | quitSafely => exact inv_quitSafely inv taken
  | exit =>
    simp only [step] at taken
    split at taken <;> cases taken
    rename_i ended
    have none : s.delayed = [] := by
      by_contra nonempty
      cases ended.1.symm.trans (inv.running nonempty)
    exact
      { inv with
        alive := fun nonempty => absurd ended.2 nonempty
        running := fun nonempty => absurd none nonempty }

/-- A report is lost exactly by a step that is not lossless, and for good. -/
theorem lost_step {action : Action} (inv : s.Inv) (taken : step org s action = some t) :
    t.Lost ↔ s.Lost ∨ ¬ s.lossless org action = true := by
  rw [Bool.not_eq_true]
  cases action with
  | start =>
    simp only [step] at taken
    split at taken <;> cases taken
    exact (or_iff_left Bool.noConfusion).symm
  | createANRReport anrAsJson => exact (lost_create taken).trans (or_iff_left Bool.noConfusion).symm
  | construct i => exact (goesOn_construct taken).lost inv
  | handler i => exact (goesOn_handler taken).lost inv
  | post i => exact lost_post inv taken
  | elapse => exact (lost_elapse taken).trans (or_iff_left Bool.noConfusion).symm
  | run found => exact lost_run inv taken
  | quitSafely => exact lost_quitSafely inv taken
  | exit =>
    simp only [step] at taken
    split at taken <;> cases taken
    exact (or_iff_left Bool.noConfusion).symm

/-! The work on the reports comes to an end. -/

def rank (s : AnrReports) (i : Nat) : Nat :=
  match s.reports[i]? with
  | none => 0
  | some report => toDo report (i ∈ s.due) (i ∈ s.delayed)

def remaining (s : AnrReports) : Nat :=
  ∑ i ∈ Finset.range s.reports.length, s.rank i

theorem rank_eq {report : AnrReport} (found : s.reports[i]? = some report) :
    s.rank i = toDo report (i ∈ s.due) (i ∈ s.delayed) := by
  unfold rank
  rw [found]

theorem rank_due {report : AnrReport} (found : s.reports[i]? = some report)
    (posted : report.stage = .posted) (due : i ∈ s.due) : s.rank i = 2 * report.retries.toNat + 1 := by
  rw [rank_eq found, toDo, posted, decide_eq_true due]
  rfl

theorem rank_delayed {report : AnrReport} (found : s.reports[i]? = some report)
    (posted : report.stage = .posted) (notDue : i ∉ s.due) (delayed : i ∈ s.delayed) :
    s.rank i = 2 * report.retries.toNat + 2 := by
  rw [rank_eq found, toDo, posted, decide_eq_true delayed, decide_eq_false notDue]
  rfl

theorem rank_done {report : AnrReport} (found : s.reports[i]? = some report)
    (posted : report.stage = .posted) (away : i ∉ s.due ++ s.delayed) : s.rank i = 0 := by
  rw [List.mem_append, not_or] at away
  rw [rank_eq found, toDo, posted, decide_eq_false away.1, decide_eq_false away.2]
  rfl

theorem Touches.rank (frame : Touches i s t) {j : Nat} (other : j ≠ i) : t.rank j = s.rank j := by
  unfold AnrReports.rank
  simp only [frame.reports j other, frame.due j other, frame.delayed j other]

theorem Touches.remaining_lt (frame : Touches i s t) (length : t.reports.length = s.reports.length)
    (bound : i < s.reports.length) (less : t.rank i < s.rank i) : t.remaining < s.remaining := by
  unfold remaining
  rw [length]
  refine Finset.sum_lt_sum (fun j _ => ?_) ⟨i, Finset.mem_range.mpr bound, less⟩
  by_cases same : j = i
  · subst same
    exact Nat.le_of_lt less
  · exact Nat.le_of_eq (frame.rank same)

theorem GoesOn.remaining {lossless : Bool} (goesOn : GoesOn s t i lossless) : t.remaining < s.remaining := by
  obtain ⟨report, stage, found, rfl, _, _, _, less⟩ := goesOn
  refine (touches_update _).remaining_lt List.length_set (List.getElem?_eq_some_iff.mp found).1 ?_
  rw [rank_eq found, rank_eq (getElem?_update found)]
  exact less _ _

theorem remaining_post (inv : s.Inv) (taken : step org s (.post i) = some t) : t.remaining < s.remaining := by
  obtain ⟨report, found, handling, posted⟩ := post_cases taken
  have early : report.stage ≠ .posted := handling.trans_ne ReportStage.noConfusion
  have bound := (List.getElem?_eq_some_iff.mp found).1
  have before : s.rank i = 22 := by
    rw [rank_eq found, toDo, handling]
  rcases posted with ⟨_, rfl⟩ | ⟨_, rfl⟩
  · refine (touches_enqueued report).remaining_lt List.length_set bound ?_
    have due : i ∈ (s.enqueued i report).due := List.mem_append_right _ List.mem_cons_self
    rw [before, rank_due (getElem?_enqueued found) rfl due, ((inv.each i report found).early early).2]
    decide
  · refine (touches_update _).remaining_lt List.length_set bound ?_
    rw [before, rank_done (getElem?_update found) rfl (inv.notQueued found early)]
    decide

theorem remaining_elapse (inv : s.Inv) (taken : step org s .elapse = some t) :
    t.remaining < s.remaining := by
  obtain ⟨i, rest, delayed, rfl, _⟩ := elapse_cases taken
  have last : i ∈ s.delayed := delayed ▸ List.mem_cons_self
  have queued : i ∈ s.due ++ s.delayed := List.mem_append_right _ last
  have bound := inv.known i queued
  have found := List.getElem?_eq_getElem bound
  obtain ⟨posted, _⟩ := (inv.each i _ found).waiting queued
  have notDue : i ∉ s.due := fun member => (List.nodup_append.mp inv.nodup).2.2 i member i last rfl
  have frame : Touches i s { s with due := s.due ++ [i], delayed := rest } :=
    { reports := fun _ _ => rfl
      due := fun j other => by rw [List.mem_append, List.mem_singleton, or_iff_left other]
      delayed := fun j other => by rw [delayed, List.mem_cons, or_iff_right other] }
  refine frame.remaining_lt rfl bound ?_
  rw [rank_delayed found posted notDue last]
  exact Nat.lt_of_le_of_lt (Nat.le_of_eq (rank_due found posted (List.mem_append_right _ List.mem_cons_self)))
    (Nat.lt_succ_self _)

theorem rank_consumed {rest : List Nat} {report left : AnrReport} (inv : s.Inv) (due : s.due = i :: rest)
    (found : s.reports[i]? = some report) (posted : left.stage = .posted) :
    (s.consumed i rest left).rank i = 0 :=
  rank_done (getElem?_consumed found left) posted (turn_away inv due).1

theorem rank_requeued {rest : List Nat} {report left : AnrReport} (inv : s.Inv) (due : s.due = i :: rest)
    (found : s.reports[i]? = some report) (posted : left.stage = .posted) :
    (s.requeued i rest left).rank i = 2 * left.retries.toNat + 2 :=
  rank_delayed (getElem?_requeued found left) posted
    (fun member => (turn_away inv due).1 (List.mem_append_left _ member))
    (List.mem_append_right _ List.mem_cons_self)

theorem remaining_run {found : Bool} (inv : s.Inv) (taken : step org s (.run found) = some t) :
    t.remaining < s.remaining := by
  obtain ⟨i, rest, report, due, atReport, outcome⟩ := run_cases taken
  obtain ⟨posted, _, retries⟩ := turn_waiting inv due atReport
  have bound := (List.getElem?_eq_some_iff.mp atReport).1
  have before := rank_due atReport posted (by rw [due]; exact List.mem_cons_self)
  rcases outcome with ⟨_, rfl⟩ | ⟨polls, ⟨_, rfl⟩ | ⟨_, rfl⟩⟩
  · refine (touches_consumed due _).remaining_lt List.length_set bound ?_
    rw [before]
    exact Nat.lt_of_le_of_lt (Nat.le_of_eq (rank_consumed inv due atReport posted)) (Nat.succ_pos _)
  · have more := (not_or.mp polls).2
    refine (touches_requeued due _).remaining_lt List.length_set bound ?_
    rw [before]
    refine Nat.lt_of_le_of_lt (Nat.le_of_eq (rank_requeued inv due atReport posted)) ?_
    dsimp only
    omega
  · refine (touches_consumed due _).remaining_lt List.length_set bound ?_
    rw [before]
    exact Nat.lt_of_le_of_lt (Nat.le_of_eq (rank_consumed inv due atReport posted)) (Nat.succ_pos _)

theorem remaining_step {action : Action} (inv : s.Inv) (works : action.works = true)
    (taken : step org s action = some t) : t.remaining < s.remaining := by
  cases action with
  | start | createANRReport _ | quitSafely | exit => cases works
  | construct i => exact (goesOn_construct taken).remaining
  | handler i => exact (goesOn_handler taken).remaining
  | post i => exact remaining_post inv taken
  | elapse => exact remaining_elapse inv taken
  | run found => exact remaining_run inv taken

/-- With a message that is due the looper has a turn, whatever it finds. -/
theorem works_on (inv : s.Inv) (unsettled : ¬ s.Settled) (found : Bool) : ∃ action : Action,
    action.works = true ∧ (∀ answer, action = .run answer → answer = found) ∧
      (step org s action).isSome = true := by
  rcases List.eq_nil_or_concat' s.due with noneDue | someDue
  · cases delayed : s.delayed with
    | cons i rest =>
      exact ⟨.elapse, rfl, fun _ same => Action.noConfusion same, by rw [step, delayed]; rfl⟩
    | nil =>
      have begun : ¬ ∀ report ∈ s.reports, report.stage = .posted ∨ report.stage = .thrown :=
        fun ended => unsettled ⟨noneDue, delayed, ended⟩
      push Not at begun
      obtain ⟨report, member, unposted, returns⟩ := begun
      obtain ⟨i, atReport⟩ := List.mem_iff_getElem?.mp member
      cases stage : report.stage with
      | posted => exact absurd stage unposted
      | thrown => exact absurd stage returns
      | counted =>
        refine ⟨.construct i, rfl, fun _ same => Action.noConfusion same, ?_⟩
        rw [step, atStage_eq_some.mpr ⟨atReport, stage⟩]
        rfl
      | constructed =>
        refine ⟨.handler i, rfl, fun _ same => Action.noConfusion same, ?_⟩
        rw [step, atStage_eq_some.mpr ⟨atReport, stage⟩]
        rfl
      | handling =>
        refine ⟨.post i, rfl, fun _ same => Action.noConfusion same, ?_⟩
        rw [step, atStage_eq_some.mpr ⟨atReport, stage⟩]
        rfl
  · obtain ⟨i, rest, due⟩ : ∃ i rest, s.due = i :: rest := by
      obtain ⟨before, last, shape⟩ := someDue
      exact List.exists_cons_of_ne_nil (by rw [shape]; simp)
    have bound := inv.known i (by rw [due]; exact List.mem_cons_self)
    refine ⟨.run found, rfl, fun answer same => (Action.run.inj same).symm, ?_⟩
    rw [step, due]
    dsimp only
    rw [if_pos (inv.alive (due ▸ List.cons_ne_nil i rest)), List.getElem?_eq_getElem bound]
    rfl

theorem settled_iff (inv : s.Inv) (settled : s.Settled) :
    (∀ report ∈ s.reports, report.sent = 1) ↔ ¬ s.Lost := by
  obtain ⟨noneDue, noneDelayed, ended⟩ := settled
  constructor
  · rintro sent ⟨i, report, found, _, never, _⟩
    cases never.symm.trans (sent report (List.mem_of_getElem? found))
  · intro kept report member
    obtain ⟨i, found⟩ := List.mem_iff_getElem?.mp member
    by_contra other
    have never : report.sent = 0 := by
      have once := (inv.each i report found).once
      omega
    refine kept ⟨i, report, found, ended report member, never, ?_, ?_⟩
    · rw [noneDue]
      exact List.not_mem_nil
    · rw [noneDelayed]
      exact List.not_mem_nil

end Steps

/-- However long the messages wait and whatever the polls find, only so many
steps can be made on the reports there are, and one more can be made as long
as not everything is settled. -/
def WorksOff (org : OrgJson) (s : AnrReports) : Prop :=
  ∃ bound, ∀ work t, (∀ action ∈ work, action.works = true) → run (step org) s work = some t →
    work.length ≤ bound ∧ (t.Settled ∨ ∀ found, ∃ action : Action, action.works = true ∧
      (∀ answer, action = .run answer → answer = found) ∧ (step org t action).isSome = true)

section Runs
variable {org : OrgJson} {s : AnrReports}

theorem length_le_remaining (inv : s.Inv) {work : List Action} {t : AnrReports}
    (works : ∀ action ∈ work, action.works = true) (reach : run (step org) s work = some t) :
    work.length + t.remaining ≤ s.remaining := by
  induction work generalizing s with
  | nil =>
    obtain rfl := Option.some.inj reach
    exact Nat.le_of_eq (Nat.zero_add _)
  | cons action work ih =>
    obtain ⟨next, first, rest⟩ := Option.bind_eq_some_iff.mp reach
    have less := remaining_step inv (works action List.mem_cons_self) first
    have later := ih (inv_step inv first) (fun a member => works a (List.mem_cons_of_mem _ member)) rest
    rw [List.length_cons]
    omega

theorem worksOff (inv : s.Inv) : WorksOff org s := by
  refine ⟨s.remaining, fun work t works reach => ⟨?_, ?_⟩⟩
  · have bounded := length_le_remaining inv works reach
    omega
  · have later : t.Inv := run_invariant (fun _ _ _ => inv_step) inv reach
    exact (Classical.em t.Settled).imp_right fun unsettled => works_on later unsettled

/-- No report is ever sent twice; the reports are worked off; and when they
are, every one of them was sent exactly if each step of the run was lossless. -/
theorem sent_once_iff {actions : List Action} (reach : run (step org) new actions = some s) :
    (∀ report ∈ s.reports, report.sent ≤ 1) ∧ WorksOff org s ∧
      (s.Settled → ((∀ report ∈ s.reports, report.sent = 1) ↔
        Meets (fun s action => s.lossless org action = true) (step org) new actions)) := by
  have inv : s.Inv := run_invariant (fun _ _ _ => inv_step) inv_new reach
  have none : ¬ new.Lost := by
    rintro ⟨i, report, found, _⟩
    cases found
  refine ⟨fun report member => ?_, worksOff inv, fun settled => ?_⟩
  · obtain ⟨i, found⟩ := List.mem_iff_getElem?.mp member
    exact (inv.each i report found).once
  · have spoils : ∀ (s : AnrReports) action t, s.Inv → step org s action = some t →
        (t.Lost ↔ s.Lost ∨ ¬ s.lossless org action = true) := fun _ _ _ => lost_step
    rw [settled_iff inv settled, meets_iff_not (fun _ _ _ => inv_step) spoils inv_new reach,
      and_iff_right none]

/-- Nothing is found at first and something at the second poll. -/
theorem sent_at_second_poll : ∃ s, run (step OrgJson.verbatim) new
    [.start, .createANRReport none, .construct 0, .handler 0, .post 0, .run false, .elapse, .run true] =
      some s ∧ s.Settled ∧ ∀ report ∈ s.reports, report.sent = 1 := by
  have reach : run (step OrgJson.verbatim) new [.start, .createANRReport none, .construct 0, .handler 0,
      .post 0, .run false, .elapse, .run true] =
        some ⟨.running, [⟨none, .posted, -1, 1⟩], [], []⟩ := rfl
  have settled : (⟨.running, [⟨none, .posted, -1, 1⟩], [], []⟩ : AnrReports).Settled :=
    ⟨rfl, rfl, by simp⟩
  refine ⟨_, reach, settled, ((sent_once_iff reach).2.2 settled).mpr ?_⟩
  exact (meets_cons rfl _).mpr ⟨rfl, (meets_cons rfl _).mpr ⟨rfl, (meets_cons rfl _).mpr ⟨rfl,
    (meets_cons rfl _).mpr ⟨rfl, (meets_cons rfl _).mpr ⟨rfl, (meets_cons rfl _).mpr ⟨rfl,
      (meets_cons rfl _).mpr ⟨rfl, (meets_cons rfl _).mpr ⟨rfl, trivial⟩⟩⟩⟩⟩⟩⟩⟩

/-- The monitor is stopped between two polls. -/
theorem lost_between_polls : ∃ s, run (step OrgJson.verbatim) new
    [.start, .createANRReport none, .construct 0, .handler 0, .post 0, .run false, .quitSafely, .exit] =
      some s ∧ s.Settled ∧ ¬ ∀ report ∈ s.reports, report.sent = 1 := by
  refine ⟨⟨.exited, [⟨none, .posted, 9, 0⟩], [], []⟩, rfl, ⟨rfl, rfl, by simp⟩, fun sent => ?_⟩
  cases sent _ List.mem_cons_self

end Runs

end AnrReports

end AgentNDK
