import AgentNDK.PendingReports
import AgentNDK.Library.DoubleChecked

namespace AgentNDK
open CText Runs Threads DoubleChecked
variable {τ : Type}

/-- A `ManagedContext` of the Kotlin side, with what the library does not read. -/
structure AgentContext extends ManagedContext where
  nativeReportListener : Option AgentNDKListener
  /-- in seconds -/
  expirationPeriod : Int

/-- The path of the directory; a null root is formatted like any other value. -/
def getNativeReportsDir (rootDir : Option Text) : Text :=
  rootDir.getD "null" ++ "/newrelic/nativeReporting"

/-- Seven days. -/
def defaultTtl : Int := 604800

/-- `ManagedContext(context)`, with the `cacheDir` of the context. -/
def AgentContext.new (cacheDir : Option Text) : AgentContext where
  reportsDir := some (getNativeReportsDir cacheDir)
  sessionId := none
  buildId := none
  anrMonitor := true
  nativeReportListener := none
  expirationPeriod := defaultTtl

/-- The companion of the agent: what calls `getInstance`, and what a Builder
builds from its context. -/
abbrev AgentInstances (τ : Type) := Instance τ AgentContext

/-- The companion of the monitor, which has no Builder. -/
abbrev MonitorInstances (τ : Type) := Instance τ Empty

/-- What any number of calls of `getInstance` and `build` come to. -/
structure SingleInstance (s : AgentInstances τ) : Prop where
  /-- `getInstance` makes at most one instance -/
  once : s.shared.lazily ≤ 1
  /-- every call returns an instance that was made, and without a Builder the same one -/
  made : ∀ result ∈ s.shared.returned, result.2 < s.shared.objects.length
  same : (∀ agent, ¬ s.shared.Given agent) →
    ∀ one ∈ s.shared.returned, ∀ other ∈ s.shared.returned, one.2 = other.2
  /-- one thread at a time is in the synchronized block, -/
  exclusive : ∀ t u, (s.place t).inside = true → (s.place u).inside = true → t = u
  /-- and some call can go on as long as any is in progress -/
  progress : ∀ t, s.place t ≠ .outside → ∃ u, (act u (s.place u) s.shared .advance).isSome = true

section Threads
variable [DecidableEq τ]

/-- There is one monitor for all calls. -/
theorem anrMonitor_single {s : MonitorInstances τ} {turns : List (τ × Move Empty)}
    (reach : run Instance.step .start turns = some s) :
    s.shared.objects.length ≤ 1 ∧
      ∀ one ∈ s.shared.returned, ∀ other ∈ s.shared.returned, one.2 = other.2 := by
  have holds := run_holds reach
  have lazily : s.shared.lazily = s.shared.objects.length :=
    List.countP_eq_length.mpr fun object _ => by
      cases object with
      | none => rfl
      | some given => exact given.elim
  refine ⟨lazily.symm.trans_le holds.always.single, fun one member other others => ?_⟩
  exact returned_same holds (fun _ ⟨given, _⟩ => given.elim) member others

/-- The context of a Builder stays that of the agent, or is followed by that of
another one, exactly when no `getInstance` is between its second look and its
assignment: that one would install an agent of the default context. -/
theorem built_stays_iff {s : AgentInstances τ} {turns : List (τ × Move AgentContext)}
    (reach : run Instance.step .start turns = some s) {agent : Nat} {context : AgentContext}
    (installed : s.shared.field = some agent) (built : s.shared.objects[agent]? = some (some context)) :
    (∀ more t, run Instance.step s more = some t →
      ∃ agent context, t.shared.field = some agent ∧ t.shared.objects[agent]? = some (some context)) ↔
    ∀ u, (s.place u).undecided = false := by
  have stays := stays_given_iff (run_holds reach) installed ⟨context, built⟩
  refine Iff.trans ?_ stays
  refine forall₃_congr fun more t _ => ?_
  exact exists_congr fun agent => ⟨fun ⟨context, field, found⟩ => ⟨field, context, found⟩,
    fun ⟨field, context, found⟩ => ⟨context, field, found⟩⟩

/-- A `getInstance` that has found no agent goes on to install its own over the
one that is built meanwhile. -/
theorem built_displaced : ∃ s : AgentInstances Bool,
    run Instance.step .start
      [(true, .get), (true, .advance), (true, .advance), (false, .set (.new (some "/data"))),
        (false, .advance)] = some s ∧
    ¬ ∀ more t, run Instance.step s more = some t →
      ∃ agent context, t.shared.field = some agent ∧ t.shared.objects[agent]? = some (some context) := by
  have reach : ∃ s : AgentInstances Bool, run Instance.step .start
      [(true, .get), (true, .advance), (true, .advance), (false, .set (.new (some "/data"))),
        (false, .advance)] = some s ∧ s.shared.field = some 0 ∧
      s.shared.objects[0]? = some (some (.new (some "/data"))) ∧ s.place true = .creating :=
    ⟨_, rfl, rfl, rfl, rfl⟩
  obtain ⟨s, reach, installed, built, creating⟩ := reach
  refine ⟨s, reach, fun stays => ?_⟩
  have decided := (built_stays_iff reach installed built).mp stays true
  rw [creating] at decided
  cases decided

end Threads

end AgentNDK
