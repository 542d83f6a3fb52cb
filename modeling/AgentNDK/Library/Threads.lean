import Mathlib.Logic.Function.Basic
import AgentNDK.Library.Runs

/-! Threads that take turns on a shared state, and the rule by which what each
of them relies on holds all along, as long as no step of another interferes. -/

namespace Threads
open Runs
universe u v w x
variable {τ : Type u} {σ : Type v} {γ : Type w} {α : Type x}

/-- Every thread is at a place of its own. -/
structure Pool (τ : Type u) (σ : Type v) (γ : Type w) where
  place : τ → σ
  shared : γ

/-- A thread takes its turn; `none` while it has to wait. -/
def Pool.step [DecidableEq τ] (act : τ → σ → γ → α → Option (σ × γ)) (p : Pool τ σ γ)
    (turn : τ × α) : Option (Pool τ σ γ) :=
  (act turn.1 (p.place turn.1) p.shared turn.2).map fun next =>
    ⟨Function.update p.place turn.1 next.1, next.2⟩

/-- What holds of the shared state, what a thread relies on at its place, and
what holds between the places of two threads. -/
structure Outline (τ : Type u) (σ : Type v) (γ : Type w) where
  always : γ → Prop
  relies : τ → σ → γ → Prop
  apart : σ → σ → Prop

structure Outline.Holds (o : Outline τ σ γ) (p : Pool τ σ γ) : Prop where
  always : o.always p.shared
  relies : ∀ t, o.relies t (p.place t) p.shared
  apart : ∀ t u, u ≠ t → o.apart (p.place t) (p.place u)

/-- A step establishes what its thread relies on next and keeps what any other
thread relies on, where that one is. -/
structure Outline.Keeps (o : Outline τ σ γ) (act : τ → σ → γ → α → Option (σ × γ)) : Prop where
  own : ∀ {t place shared a next}, o.always shared → o.relies t place shared →
    act t place shared a = some next → o.always next.2 ∧ o.relies t next.1 next.2
  others : ∀ {t place shared a next u other}, u ≠ t → o.always shared → o.relies t place shared →
    o.relies u other shared → o.apart place other → act t place shared a = some next →
    o.relies u other next.2 ∧ o.apart next.1 other ∧ o.apart other next.1

section Steps
variable [DecidableEq τ] {act : τ → σ → γ → α → Option (σ × γ)} {p q : Pool τ σ γ} {turn : τ × α}

theorem step_eq_some : p.step act turn = some q ↔
    ∃ next, act turn.1 (p.place turn.1) p.shared turn.2 = some next ∧
      q = ⟨Function.update p.place turn.1 next.1, next.2⟩ := by
  rw [Pool.step, Option.map_eq_some_iff]
  exact exists_congr fun next => and_congr_right fun _ => eq_comm

theorem step_of_act {t : τ} {a : α} {next : σ × γ} (acted : act t (p.place t) p.shared a = some next) :
    p.step act (t, a) = some ⟨Function.update p.place t next.1, next.2⟩ :=
  step_eq_some.mpr ⟨next, acted, rfl⟩

theorem step_isSome_iff : (p.step act turn).isSome = true ↔
    (act turn.1 (p.place turn.1) p.shared turn.2).isSome = true := by
  rw [Pool.step, Option.isSome_map]

theorem Outline.Holds.step {o : Outline τ σ γ} (holds : o.Holds p) (keeps : o.Keeps act)
    (taken : p.step act turn = some q) : o.Holds q := by
  obtain ⟨next, acted, rfl⟩ := step_eq_some.mp taken
  obtain ⟨t, a⟩ := turn
  obtain ⟨always, mine⟩ := keeps.own holds.always (holds.relies t) acted
  have theirs := fun u (other : u ≠ t) => keeps.others other holds.always (holds.relies t)
    (holds.relies u) (holds.apart t u other) acted
  refine ⟨always, fun u => ?_, fun u v different => ?_⟩ <;> dsimp only
  · by_cases same : u = t
    · subst same
      rw [Function.update_self]
      exact mine
    · rw [Function.update_of_ne same]
      exact (theirs u same).1
  · by_cases first : u = t
    · subst first
      rw [Function.update_self, Function.update_of_ne different]
      exact (theirs v different).2.1
    · rw [Function.update_of_ne first]
      by_cases second : v = t
      · subst second
        rw [Function.update_self]
        exact (theirs u first).2.2
      · rw [Function.update_of_ne second]
        exact holds.apart u v different

/-- What no step interferes with holds in every run. -/
theorem Outline.Holds.run {o : Outline τ σ γ} (holds : o.Holds p) (keeps : o.Keeps act)
    {turns : List (τ × α)} (reach : run (Pool.step act) p turns = some q) : o.Holds q :=
  run_invariant (fun _ _ _ inv taken => inv.step keeps taken) holds reach

end Steps

end Threads
