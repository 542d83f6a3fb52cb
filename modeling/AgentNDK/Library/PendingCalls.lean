import Mathlib.Logic.Basic

/-! Programs that call into an environment which may leave an exception pending,
and must not be called again before that is cleared. -/

namespace PendingCalls
universe u
variable {φ ρ : Type} {ε α β : Type}

structure Answer (ρ : Type) where
  value : ρ
  throws : Bool

/-- What a call is answered, after the calls before it. -/
abbrev Environment (φ ρ : Type) := List φ → φ → Answer ρ

structure Session (φ : Type) where
  history : List φ
  pending : Bool
  /-- a function was called while an exception was pending -/
  misused : Bool

/-- An error ends the program. -/
abbrev Program (ε φ α : Type) := ExceptT ε (StateM (Session φ)) α

def call (env : Environment φ ρ) (f : φ) : Program ε φ ρ := fun s =>
  let answer := env s.history f
  (.ok answer.value, ⟨s.history ++ [f], s.pending || answer.throws, s.misused || s.pending⟩)

/-- These two may be called with an exception pending. -/
def exceptionCheck : Program ε φ Bool := fun s =>
  (.ok s.pending, s)

def exceptionClear : Program ε φ Unit := fun s =>
  (.ok (), { s with pending := false })

/-- A value that may be missing. -/
def access (value : Except ε α) : Program ε φ α := fun s =>
  (value, s)

structure Session.Clean (s : Session φ) : Prop where
  pending : s.pending = false
  misused : s.misused = false

/-- Nothing is called while an exception is pending, and none is left. -/
def Clean (m : Program ε φ α) : Prop :=
  ∀ s : Session φ, s.Clean → (m s).2.Clean

/-- The result, whatever was called before. -/
def Gives (m : Program ε φ α) (result : Except ε α) : Prop :=
  ∀ s : Session φ, (m s).1 = result

section Rules
variable {m : Program ε φ α} {f : α → Program ε φ β}

theorem bind_apply (m : Program ε φ α) (f : α → Program ε φ β) (s : Session φ) :
    (m >>= f) s = match m s with
      | (.ok a, t) => f a t
      | (.error e, t) => (.error e, t) := by
  have unfolded : (m >>= f) s = (ExceptT.bindCont f (m s).1) (m s).2 := rfl
  rw [unfolded]
  cases m s with
  | mk r t => cases r <;> rfl

theorem clean_pure (a : α) : Clean (pure a : Program ε φ α) :=
  fun _ => id

theorem clean_access (value : Except ε α) : Clean (access value : Program ε φ α) :=
  fun _ => id

theorem Clean.bind (first : Clean m) (rest : ∀ a, Clean (f a)) : Clean (m >>= f) := by
  intro s clean
  have before := first s clean
  rw [bind_apply]
  cases came : m s with
  | mk r t =>
    rw [came] at before
    cases r with
    | ok a => exact rest a t before
    | error e => exact before

theorem gives_pure (a : α) : Gives (pure a : Program ε φ α) (.ok a) :=
  fun _ => rfl

theorem gives_access (value : Except ε α) : Gives (access value : Program ε φ α) value :=
  fun _ => rfl

theorem Gives.bind {result : Except ε α} (first : Gives m result) {last : α → Except ε β}
    (rest : ∀ a, Gives (f a) (last a)) : Gives (m >>= f) (result >>= last) := by
  intro s
  have came := first s
  rw [bind_apply]
  cases run : m s with
  | mk r t =>
    rw [run] at came
    subst came
    cases r with
    | ok a => exact rest a t
    | error e => rfl

theorem Gives.bind_ok {result : Except ε β} {a : α} (first : Gives m (.ok a)) (rest : Gives (f a) result) :
    Gives (m >>= f) result := by
  intro s
  have came := first s
  rw [bind_apply]
  cases run : m s with
  | mk r t =>
    rw [run] at came
    subst came
    exact rest t

/-- A call whose exception is cleared at once. -/
theorem clean_call {env : Environment φ ρ} {g : φ} {rest : ρ → Program ε φ α}
    (clears : ∀ a (s : Session φ), s.misused = false → (rest a s).2.Clean) : Clean (call env g >>= rest) := by
  intro s clean
  rw [bind_apply]
  exact clears _ _ (by simp only [clean.misused, clean.pending, Bool.or_false])

end Rules

end PendingCalls
