import Mathlib.Algebra.Group.Nat.Even
import AgentNDK.AnrMonitorRunner

namespace AgentNDK
open Runs AnrMonitorRunner

/-- The samples since the previous report. -/
def sinceReport (samples : List Sample) : List Sample :=
  samples.takeWhile fun sample => !sample.reported

/-- The latest `ANR_SAMPLE_CNT` of these samples are there and all ANR. -/
def InARow (samples : List Sample) : Prop :=
  ANRMonitor.anrSampleCnt ≤ samples.length ∧
    ∀ sample ∈ samples.take ANRMonitor.anrSampleCnt, sample.isANR = true

/-- Each of the samples, the latest first, is reported exactly when it
completes a row of ANRs. -/
def Consecutive : List Sample → Prop
  | [] => True
  | sample :: older =>
    (sample.reported = true ↔ InARow (sample :: sinceReport older)) ∧ Consecutive older

/-- how many of the samples are ANR -/
def anrs (samples : List Sample) : Nat :=
  samples.countP Sample.isANR

/-- With the ANRs taken in pairs from the first on, no other sample comes
between the two of a pair. -/
def Unbroken (samples : List Sample) : Prop :=
  ∀ newer second between first older,
    samples = newer ++ second :: (between ++ first :: older) → second.isANR = true →
    first.isANR = true → Even (anrs older) → (∀ sample ∈ between, sample.isANR = false) → between = []

/-- What the counter does: every second ANR is reported. -/
def EverySecond : List Sample → Prop
  | [] => True
  | sample :: older =>
    (sample.reported = true ↔ sample.isANR = true ∧ ¬ Even (anrs older)) ∧ EverySecond older

theorem anrs_cons_anr {sample : Sample} (anr : sample.isANR = true) (older : List Sample) :
    anrs (sample :: older) = anrs older + 1 := by
  rw [anrs, List.countP_cons, if_pos anr, anrs]

theorem anrs_cons_other {sample : Sample} (other : sample.isANR = false) (older : List Sample) :
    anrs (sample :: older) = anrs older := by
  rw [anrs, List.countP_cons, if_neg (by simp [other]), anrs, Nat.add_zero]

theorem sinceReport_cons {sample : Sample} (unreported : sample.reported = false)
    (older : List Sample) : sinceReport (sample :: older) = sample :: sinceReport older := by
  unfold sinceReport
  exact List.takeWhile_cons_of_pos (by rw [unreported]; rfl)

theorem sinceReport_even {samples : List Sample} (every : EverySecond samples)
    (even : Even (anrs samples)) : ∀ sample ∈ sinceReport samples, sample.isANR = false := by
  induction samples with
  | nil => exact fun _ => nofun
  | cons latest older ih =>
    obtain ⟨counted, every⟩ := every
    cases anr : latest.isANR with
    | true =>
      rw [anrs_cons_anr anr, Nat.even_add_one] at even
      have reported := counted.mpr ⟨anr, even⟩
      intro sample member
      rw [sinceReport, List.takeWhile_cons_of_neg (by rw [reported]; nofun)] at member
      cases member
    | false =>
      rw [anrs_cons_other anr] at even
      have unreported : latest.reported = false := by
        cases reported : latest.reported with
        | true => cases anr.symm.trans (counted.mp reported).1
        | false => rfl
      rw [sinceReport_cons unreported]
      exact List.forall_mem_cons.mpr ⟨anr, ih every even⟩

theorem sinceReport_odd {samples : List Sample} (every : EverySecond samples)
    (odd : ¬ Even (anrs samples)) : ∃ between first older, samples = between ++ first :: older ∧
      first.isANR = true ∧ Even (anrs older) ∧ (∀ sample ∈ between, sample.isANR = false) ∧
      sinceReport samples = between ++ first :: sinceReport older := by
  induction samples with
  | nil => exact absurd Even.zero odd
  | cons latest older ih =>
    obtain ⟨counted, every⟩ := every
    cases anr : latest.isANR with
    | true =>
      rw [anrs_cons_anr anr, Nat.even_add_one, not_not] at odd
      have unreported : latest.reported = false := by
        cases reported : latest.reported with
        | true => exact absurd odd (counted.mp reported).2
        | false => rfl
      exact ⟨[], latest, older, rfl, anr, odd, fun _ => nofun, sinceReport_cons unreported older⟩
    | false =>
      rw [anrs_cons_other anr] at odd
      have unreported : latest.reported = false := by
        cases reported : latest.reported with
        | true => cases anr.symm.trans (counted.mp reported).1
        | false => rfl
      obtain ⟨between, first, rest, rfl, hung, even, quiet, since⟩ := ih every odd
      refine ⟨latest :: between, first, rest, rfl, hung, even,
        List.forall_mem_cons.mpr ⟨anr, quiet⟩, ?_⟩
      rw [sinceReport_cons unreported, since]
      rfl

/-- A row of two ends with the sample before the last one. -/
theorem inARow_cons {sample : Sample} {since : List Sample} :
    InARow (sample :: since) ↔ sample.isANR = true ∧ ∃ previous rest,
      since = previous :: rest ∧ previous.isANR = true := by
  cases since with
  | nil => simp [InARow, ANRMonitor.anrSampleCnt]
  | cons previous rest => simp [InARow, ANRMonitor.anrSampleCnt]

theorem unbroken_cons {sample : Sample} {samples : List Sample} :
    Unbroken (sample :: samples) ↔ Unbroken samples ∧ ∀ between first older,
      samples = between ++ first :: older → sample.isANR = true → first.isANR = true →
      Even (anrs older) → (∀ other ∈ between, other.isANR = false) → between = [] := by
  constructor
  · intro unbroken
    exact ⟨fun newer second between first older split =>
        unbroken (sample :: newer) second between first older (by rw [split]; rfl),
      fun between first older split => unbroken [] sample between first older (by rw [split]; rfl)⟩
  · rintro ⟨unbroken, last⟩ newer second between first older split
    cases newer with
    | nil =>
      obtain ⟨rfl, rest⟩ := List.cons.inj split
      exact last between first older rest
    | cons latest newer =>
      exact unbroken newer second between first older (List.cons.inj split).2

/-- With an ANR between the two parts the split is the only one. -/
theorem split_unique {before between older rest : List Sample} {first other : Sample}
    (split : before ++ first :: older = between ++ other :: rest)
    (quiet : ∀ sample ∈ before, sample.isANR = false) (calm : ∀ sample ∈ between, sample.isANR = false)
    (one : first.isANR = true) (another : other.isANR = true) : before = between := by
  induction before generalizing between with
  | nil =>
    cases between with
    | nil => rfl
    | cons latest between =>
      obtain ⟨rfl, _⟩ := List.cons.inj split
      cases one.symm.trans (calm _ List.mem_cons_self)
  | cons latest before ih =>
    cases between with
    | nil =>
      obtain ⟨rfl, _⟩ := List.cons.inj split
      cases another.symm.trans (quiet _ List.mem_cons_self)
    | cons next between =>
      obtain ⟨rfl, tail⟩ := List.cons.inj split
      rw [ih tail (fun sample member => quiet sample (List.mem_cons_of_mem _ member))
        fun sample member => calm sample (List.mem_cons_of_mem _ member)]

/-- Every second ANR completes a row exactly when no pair is broken. -/
theorem consecutive_iff_unbroken {samples : List Sample} (every : EverySecond samples) :
    Consecutive samples ↔ Unbroken samples := by
  induction samples with
  | nil => exact ⟨fun _ newer second between first older split => by simp at split, fun _ => trivial⟩
  | cons sample older ih =>
    obtain ⟨counted, every⟩ := every
    rw [unbroken_cons, ← ih every, Consecutive, and_comm]
    refine and_congr_right fun _ => ?_
    rw [inARow_cons, counted]
    by_cases even : Even (anrs older)
    · -- no report is due, and there is no ANR to make a row with
      have quiet := sinceReport_even every even
      constructor
      · intro _ between first rest split anr hung evenly calm
        rw [split, anrs, List.countP_append, ← anrs, ← anrs, anrs_cons_anr hung] at even
        have none : anrs between = 0 := List.countP_eq_zero.mpr fun s member => by simp [calm s member]
        rw [none, Nat.zero_add, Nat.even_add_one] at even
        exact absurd evenly even
      · intro _
        constructor
        · rintro ⟨_, odd⟩
          exact absurd even odd
        · rintro ⟨_, previous, rest, since, hung⟩
          have calm := quiet previous (since ▸ List.mem_cons_self)
          cases hung.symm.trans calm
    · obtain ⟨between, first, rest, split, hung, evenly, calm, since⟩ := sinceReport_odd every even
      have row : (∃ previous others, sinceReport older = previous :: others ∧ previous.isANR = true) ↔
          between = [] := by
        rw [since]
        cases between with
        | nil => exact ⟨fun _ => rfl, fun _ => ⟨first, _, rfl, hung⟩⟩
        | cons latest between =>
          constructor
          · rintro ⟨previous, others, same, anr⟩
            obtain ⟨rfl, _⟩ := List.cons.inj same
            cases anr.symm.trans (calm _ List.mem_cons_self)
          · nofun
      rw [row]
      constructor
      · intro due other second past halves anr another _ quiet
        rw [← split_unique (split.symm.trans halves) calm quiet hung another]
        exact (due.mp ⟨anr, even⟩).2
      · intro unbroken
        constructor
        · rintro ⟨anr, _⟩
          exact ⟨anr, unbroken between first rest split anr hung evenly calm⟩
        · rintro ⟨anr, _⟩
          exact ⟨anr, even⟩

/-- From here on no report has to return before the next sample. -/
def Monitoring.counts : Monitoring → Bool
  | .reporting | .recounting | .cleaning | .quitting | .ended => false
  | _ => true

/-- The counter has what the samples leave of it, but for a report that has not
returned. -/
structure Counted (s : AnrMonitorRunner) : Prop where
  every : EverySecond s.samples
  counter : s.place.counts = true → s.anrSampleCnt = if Even (anrs s.samples) then 2 else 1
  reporting : s.place = .reporting ∨ s.place = .recounting → Even (anrs s.samples)

theorem counted_new : Counted new where
  every := trivial
  counter := fun _ => rfl
  reporting := nofun

section Steps
variable {s t : AnrMonitorRunner}

theorem counted_decide (counted : Counted s) (deciding : s.place = .deciding) :
    Counted s.decideReport := by
  have counter := counted.counter (by rw [deciding]; rfl)
  unfold decideReport
  cases anr : s.isANR with
  | true =>
    have added (reported : Bool) : anrs (⟨true, reported⟩ :: s.samples) = anrs s.samples + 1 :=
      anrs_cons_anr rfl _
    dsimp only
    rw [if_pos rfl]
    by_cases even : Even (anrs s.samples)
    · rw [counter, if_pos even, if_neg (by decide)]
      have odd : ¬ Even (anrs (⟨true, false⟩ :: s.samples)) := by
        rw [added, Nat.even_add_one]
        exact not_not.mpr even
      exact
        { every := ⟨⟨nofun, fun due => absurd even due.2⟩, counted.every⟩
          counter := fun _ => (if_neg odd).symm
          reporting := nofun }
    · rw [counter, if_neg even, if_pos (by decide)]
      have even : Even (anrs (⟨true, true⟩ :: s.samples)) := by
        rw [added, Nat.even_add_one]
        exact even
      exact
        { every := ⟨⟨fun _ => ⟨rfl, ‹¬ _›⟩, fun _ => rfl⟩, counted.every⟩
          counter := nofun
          reporting := fun _ => even }
  | false =>
    rw [if_neg Bool.false_ne_true]
    refine
      { every := ⟨⟨nofun, fun due => nomatch due.1⟩, counted.every⟩
        counter := fun _ => counter
        reporting := fun place => ?_ }
    dsimp only at place
    split at place <;> rcases place with place | place <;> cases place

/-- No other statement leads to a report, and the counter is set where one has
returned. -/
theorem next_counts {place next : Monitoring} (follows : next ∈ place.next)
    (other : place ≠ .deciding) : (next = .reporting ∨ next = .recounting → place = .reporting) ∧
      (next.counts = true → place.counts = true ∨ place = .recounting) := by
  cases place with
  | resetting leaving | exiting leaving =>
    cases leaving <;> cases List.mem_singleton.mp follows <;> exact ⟨by simp, fun _ => Or.inl rfl⟩
  | deciding => exact absurd rfl other
  | recounting | quitting | ended | cleaning =>
    cases List.mem_singleton.mp follows
    simp [Monitoring.counts]
  | _ =>
    simp only [Monitoring.next, List.mem_cons, List.not_mem_nil, or_false] at follows
    rcases follows with rfl | rfl <;> simp [Monitoring.counts]

theorem counted_monitor {action : MonitorAction} (inv : s.Inv) (counted : Counted s)
    (taken : s.monitorStep action = some t) (other : s.place ≠ .deciding) : Counted t := by
  have frame := monitor_frame inv taken
  have samples := frame.samples other
  obtain ⟨reporting, counts⟩ := next_counts frame.place other
  refine
    { every := samples ▸ counted.every
      counter := fun counting => ?_
      reporting := fun place => samples ▸ counted.reporting (Or.inl (reporting place)) }
  rw [samples]
  by_cases recounting : s.place = .recounting
  · rw [frame.recounted recounting, if_pos (counted.reporting (Or.inr recounting))]
    rfl
  · rw [frame.anrSampleCnt other recounting]
    exact counted.counter ((counts counting).resolve_right recounting)

theorem counted_step {action : LoopAction} (inv : s.Inv) (counted : Counted s)
    (taken : s.step action = some t) : Counted t := by
  cases action with
  | monitor action =>
    by_cases deciding : s.place = .deciding
    · obtain rfl := advances (by rw [deciding]; rfl) taken
      simp only [step, monitorStep, advance, deciding] at taken
      cases taken
      exact counted_decide counted deciding
    · exact counted_monitor inv counted taken deciding
  | looper =>
    obtain ⟨place, samples, anrSampleCnt, _⟩ := looper_frame taken
    exact
      { every := samples ▸ counted.every
        counter := fun counts => by
          rw [anrSampleCnt, samples]
          exact counted.counter (place ▸ counts)
        reporting := fun reporting => samples ▸ counted.reporting (place ▸ reporting) }
  | interrupt =>
    simp only [step] at taken
    split at taken <;> cases taken
    exact { counted with }

end Steps

/-- The monitor reports exactly at every second ANR in a row, if and only if no
other sample comes between the two ANRs of a pair. -/
theorem consecutive_iff {s : AnrMonitorRunner} {actions : List LoopAction}
    (reach : run step new actions = some s) : Consecutive s.samples ↔ Unbroken s.samples := by
  have both := run_invariant (I := fun s => s.Inv ∧ Counted s)
    (fun s action t both taken => ⟨inv_step both.1 taken, counted_step both.1 both.2 taken⟩)
    ⟨inv_new, counted_new⟩ reach
  exact consecutive_iff_unbroken both.2.every

/-- An iteration in which the looper is late, by what the activity manager answers. -/
def lateIteration (condition : Option Condition) : List LoopAction :=
  [.monitor .advance, .monitor .advance, .monitor .advance, .monitor (.post true), .monitor .advance,
    .monitor (.wake .timeout), .monitor .advance, .monitor (.query condition)] ++
  (if condition = some .notResponding then [] else [.monitor (.measure 6000)]) ++
  [.monitor .advance, .monitor .advance, .monitor .advance]

theorem consecutive_iff_twice : ∃ s, run step new (.monitor .begin ::
    (lateIteration (some .notResponding) ++ lateIteration (some .notResponding))) = some s ∧
      s.samples = [⟨true, true⟩, ⟨true, false⟩] ∧ (Consecutive s.samples ↔ Unbroken s.samples) := by
  have reach : ∃ s, run step new (.monitor .begin ::
      (lateIteration (some .notResponding) ++ lateIteration (some .notResponding))) = some s ∧
        s.samples = [⟨true, true⟩, ⟨true, false⟩] := ⟨_, rfl, rfl⟩
  obtain ⟨s, reach, samples⟩ := reach
  exact ⟨s, reach, samples, consecutive_iff reach⟩

/-- The looper is late once, then in time for the system, and then late again. -/
theorem broken_pair_reported : ∃ s, run step new (.monitor .begin ::
    (lateIteration (some .notResponding) ++ lateIteration none ++
      lateIteration (some .notResponding))) = some s ∧
      s.samples = [⟨true, true⟩, ⟨false, false⟩, ⟨true, false⟩] ∧ ¬ Consecutive s.samples := by
  refine ⟨_, rfl, rfl, fun consecutive => ?_⟩
  obtain ⟨_, previous, rest, since, anr⟩ := inARow_cons.mp (consecutive.1.mp rfl)
  cases since
  cases anr

end AgentNDK
