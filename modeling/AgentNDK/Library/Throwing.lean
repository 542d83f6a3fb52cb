import Mathlib.Data.List.Basic

namespace Throwing
variable {ε σ α β : Type}

/-- A method of an object: it reads and assigns fields and may throw. What it
assigned before a throw stays assigned. -/
abbrev Method (ε σ α : Type) := EStateM ε σ α

/-- The fields after a call, whether it returned or threw. -/
def after (method : Method ε σ α) (s : σ) : σ :=
  match method.run s with
  | .ok _ t => t
  | .error _ t => t

/-- A value whose absence is an exception. -/
def orThrow (e : ε) : Option α → Method ε σ α
  | some a => pure a
  | none => throw e

/-- A constructor with this body: an object with its fields, unless it throws. -/
def construct (body : Method ε σ Unit) (fields : σ) : Except ε σ :=
  match body.run fields with
  | .ok _ t => .ok t
  | .error e _ => .error e

/-- An object made within a method of another one. -/
def make : Except ε α → Method ε σ α
  | .ok a => pure a
  | .error e => throw e

/-- A try block that ignores what its body throws. -/
def ignoring (body : Method ε σ Unit) : Method ε σ Unit :=
  tryCatch body fun _ => pure ()

@[simp] theorem run_pure (a : α) (s : σ) : (pure a : Method ε σ α).run s = .ok a s := rfl

@[simp] theorem run_throw (e : ε) (s : σ) : (throw e : Method ε σ α).run s = .error e s := rfl

@[simp] theorem run_set (t s : σ) : (set t : Method ε σ PUnit).run s = .ok ⟨⟩ t := rfl

@[simp] theorem run_modify (f : σ → σ) (s : σ) : (modify f : Method ε σ PUnit).run s = .ok ⟨⟩ (f s) := rfl

@[simp] theorem run_get (s : σ) : (get : Method ε σ σ).run s = .ok s s := rfl

@[simp] theorem run_orThrow_some (e : ε) (a : α) (s : σ) : (orThrow e (some a)).run s = .ok a s := rfl

@[simp] theorem run_orThrow_none (e : ε) (s : σ) :
    (orThrow e none : Method ε σ α).run s = .error e s := rfl

theorem run_bind_ok {method : Method ε σ α} {s t : σ} {a : α} (returned : method.run s = .ok a t)
    (next : α → Method ε σ β) : (method >>= next).run s = (next a).run t := by
  show EStateM.bind method next s = _
  rw [EStateM.bind, show method s = .ok a t from returned]
  rfl

theorem run_bind_error {method : Method ε σ α} {s t : σ} {e : ε} (threw : method.run s = .error e t)
    (next : α → Method ε σ β) : (method >>= next).run s = .error e t := by
  show EStateM.bind method next s = _
  rw [EStateM.bind, show method s = .error e t from threw]

theorem run_catch_ok {body : Method ε σ α} {s t : σ} {a : α} (returned : body.run s = .ok a t)
    (handler : ε → Method ε σ α) : (tryCatch body handler).run s = .ok a t := by
  show EStateM.tryCatch body handler s = _
  rw [EStateM.tryCatch, show body s = .ok a t from returned]

/-- The handler starts from the fields as the throw left them. -/
theorem run_catch_error {body : Method ε σ α} {s t : σ} {e : ε} (threw : body.run s = .error e t)
    (handler : ε → Method ε σ α) : (tryCatch body handler).run s = (handler e).run t := by
  show EStateM.tryCatch body handler s = _
  rw [EStateM.tryCatch, show body s = .error e t from threw]
  rfl

/-- It returns, with what its body assigned. -/
@[simp] theorem run_ignoring (body : Method ε σ Unit) (s : σ) :
    (ignoring body).run s = .ok () (after body s) := by
  unfold ignoring after
  cases ran : body.run s with
  | ok _ t => exact run_catch_ok ran _
  | error e t => exact run_catch_error ran _

theorem after_of_ok {method : Method ε σ α} {s t : σ} {a : α} (returned : method.run s = .ok a t) :
    after method s = t := by
  rw [after, returned]

theorem construct_of_ok {body : Method ε σ Unit} {s t : σ} (returned : body.run s = .ok ⟨⟩ t) :
    construct body s = .ok t := by
  rw [construct, returned]

theorem construct_of_error {body : Method ε σ Unit} {s t : σ} {e : ε} (threw : body.run s = .error e t) :
    construct body s = .error e := by
  rw [construct, threw]

end Throwing
