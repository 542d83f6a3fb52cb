import Mathlib.Data.List.Basic

namespace Runs
universe u v
variable {σ : Type u} {α : Type v} {step : σ → α → Option σ}

/-- The listed steps taken one after another; `none` as soon as a step is
refused. Parsers and schedules are both runs of a partial step function. -/
def run (step : σ → α → Option σ) (s : σ) (as : List α) : Option σ :=
  as.foldlM step s

@[simp] theorem run_nil (s : σ) : run step s [] = some s := rfl

@[simp] theorem run_cons (s : σ) (a : α) (as : List α) :
    run step s (a :: as) = (step s a).bind fun t => run step t as := rfl

theorem run_append (s : σ) (as bs : List α) :
    run step s (as ++ bs) = (run step s as).bind fun t => run step t bs := by
  simp only [run, List.foldlM_append]
  rfl

theorem run_append_of {s t : σ} {as : List α} (reach : run step s as = some t) (bs : List α) :
    run step s (as ++ bs) = run step t bs := by
  rw [run_append, reach, Option.bind_some]

/-- What one accepted step preserves, a whole run preserves. -/
theorem run_invariant {I : σ → Prop} (pres : ∀ s a t, I s → step s a = some t → I t)
    {s t : σ} {as : List α} (init : I s) (reach : run step s as = some t) : I t := by
  induction as generalizing s with
  | nil => exact Option.some.inj reach ▸ init
  | cons a as ih =>
    obtain ⟨next, first, rest⟩ := Option.bind_eq_some_iff.mp reach
    exact ih (pres s a next init first) rest

/-- What the steps of a kind preserve, a run of such steps preserves. -/
theorem run_invariant_of_forall {I : σ → Prop} {good : α → Prop}
    (pres : ∀ s a t, I s → good a → step s a = some t → I t) {s t : σ} {as : List α}
    (each : ∀ a ∈ as, good a) (init : I s) (reach : run step s as = some t) : I t := by
  induction as generalizing s with
  | nil => exact Option.some.inj reach ▸ init
  | cons a as ih =>
    obtain ⟨next, first, rest⟩ := Option.bind_eq_some_iff.mp reach
    obtain ⟨met, others⟩ := List.forall_mem_cons.mp each
    exact ih others (pres s a next init met first) rest

/-- The step function that also refuses every step whose guard fails, so that
a run of it is a run of `step` in which every step meets the guard. -/
def restrict (guard : σ → α → Prop) [∀ s a, Decidable (guard s a)] (step : σ → α → Option σ)
    (s : σ) (a : α) : Option σ :=
  if guard s a then step s a else none

section Restrict
variable {guard : σ → α → Prop} [∀ s a, Decidable (guard s a)]

theorem restrict_eq_some {s t : σ} {a : α} :
    restrict guard step s a = some t ↔ guard s a ∧ step s a = some t := by
  unfold restrict
  split <;> simp_all

/-- What a step preserves when it meets the guard, a run of such steps preserves. -/
theorem run_restrict_invariant {I : σ → Prop}
    (pres : ∀ s a t, I s → guard s a → step s a = some t → I t) {s t : σ} {as : List α}
    (init : I s) (reach : run (restrict guard step) s as = some t) : I t := by
  refine run_invariant (fun s a t inv taken => ?_) init reach
  obtain ⟨met, taken⟩ := restrict_eq_some.mp taken
  exact pres s a t inv met taken

/-- Where a step that misses the guard brings about something that later
steps keep, a run either meets the guard all along or ends with it. -/
theorem run_restrict_or {I J : σ → Prop} (pres : ∀ s a t, I s → step s a = some t → I t)
    (missed : ∀ s a t, I s → ¬ guard s a → step s a = some t → J t)
    (kept : ∀ s a t, J s → step s a = some t → J t) {s t : σ} {as : List α} (init : I s)
    (reach : run step s as = some t) : run (restrict guard step) s as = some t ∨ J t := by
  induction as generalizing s with
  | nil => exact Or.inl reach
  | cons a as ih =>
    obtain ⟨next, first, rest⟩ := Option.bind_eq_some_iff.mp reach
    by_cases met : guard s a
    · refine (ih (pres s a next init first) rest).imp_left fun later => ?_
      rw [run_cons, restrict_eq_some.mpr ⟨met, first⟩]
      exact later
    · exact Or.inr (run_invariant kept (missed s a next init met first) rest)

/-- A run of steps that meet the guard is a run. -/
theorem run_of_restrict {s t : σ} {as : List α}
    (reach : run (restrict guard step) s as = some t) : run step s as = some t := by
  induction as generalizing s with
  | nil => exact reach
  | cons a as ih =>
    obtain ⟨next, first, rest⟩ := Option.bind_eq_some_iff.mp reach
    rw [run_cons, (restrict_eq_some.mp first).2]
    exact ih rest

end Restrict

/-- It holds in the first state of a run and in every state that its steps lead to. -/
def Throughout (step : σ → α → Option σ) (P : σ → Prop) (s : σ) : List α → Prop
  | [] => P s
  | a :: as => P s ∧ ∀ t, step s a = some t → Throughout step P t as

/-- Every step of a run that is taken meets the guard. -/
def Meets (guard : σ → α → Prop) (step : σ → α → Option σ) (s : σ) : List α → Prop
  | [] => True
  | a :: as => ∀ t, step s a = some t → guard s a ∧ Meets guard step t as

section Throughout
variable {guard : σ → α → Prop} {I P : σ → Prop}

/-- A property holds throughout exactly the runs that meet the guard, where
the steps that meet it preserve an invariant that implies the property, and a
step that misses it leads to a state without the property. -/
theorem throughout_iff (holds : ∀ s, I s → P s)
    (met : ∀ s a t, I s → guard s a → step s a = some t → I t)
    (missed : ∀ s a t, I s → ¬ guard s a → step s a = some t → ¬ P t) {s : σ} (init : I s)
    (as : List α) : Throughout step P s as ↔ Meets guard step s as := by
  induction as generalizing s with
  | nil => exact iff_of_true (holds s init) trivial
  | cons a as ih =>
    rw [Throughout, Meets, and_iff_right (holds s init)]
    refine forall₂_congr fun t taken => ?_
    by_cases good : guard s a
    · rw [ih (met s a t init good taken)]
      exact (and_iff_right good).symm
    · refine iff_of_false (fun throughout => missed s a t init good taken ?_) fun both => good both.1
      cases as with
      | nil => exact throughout
      | cons b bs => exact throughout.1

/-- Where no step is refused, a guard that looks at the step alone is met by
every step of the list. -/
theorem meets_iff_forall {good : α → Prop} (total : ∀ s a, ∃ t, step s a = some t) (s : σ)
    (as : List α) : Meets (fun _ => good) step s as ↔ ∀ a ∈ as, good a := by
  induction as generalizing s with
  | nil => exact iff_of_true trivial (by simp)
  | cons a as ih =>
    obtain ⟨next, taken⟩ := total s a
    rw [Meets, List.forall_mem_cons, ← ih next]
    constructor
    · exact fun each => each next taken
    · intro both t same
      exact Option.some.inj (taken.symm.trans same) ▸ both

theorem meets_cons {s next : σ} {a : α} (first : step s a = some next) (as : List α) :
    Meets guard step s (a :: as) ↔ guard s a ∧ Meets guard step next as := by
  refine ⟨fun each => each next first, fun both u taken => ?_⟩
  exact Option.some.inj (first.symm.trans taken) ▸ both

/-- What exactly the steps that miss the guard bring about, and no step undoes,
a run is free of exactly when every step met the guard. -/
theorem meets_iff_not {J : σ → Prop} (pres : ∀ s a t, I s → step s a = some t → I t)
    (spoils : ∀ s a t, I s → step s a = some t → (J t ↔ J s ∨ ¬ guard s a)) {s t : σ} {as : List α}
    (init : I s) (reach : run step s as = some t) : ¬ J t ↔ ¬ J s ∧ Meets guard step s as := by
  induction as generalizing s with
  | nil =>
    obtain rfl := Option.some.inj reach
    exact (and_iff_left trivial).symm
  | cons a as ih =>
    obtain ⟨next, first, rest⟩ := Option.bind_eq_some_iff.mp reach
    rw [ih (pres s a next init first) rest, spoils s a next init first, meets_cons first, not_or,
      not_not, and_assoc]

end Throughout

end Runs
