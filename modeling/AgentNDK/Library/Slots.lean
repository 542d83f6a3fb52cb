import Mathlib.Data.List.Basic

/-! Memory that is allocated in order: an address is never used again. -/

universe u

/-- The cells allocated so far; `none` once a cell is released. -/
abbrev Slots (α : Type u) := List (Option α)

namespace Slots
variable {α : Type u} {m : Slots α} {i j : Nat} {a : α}

/-- What a cell holds; `none` where there is none, or none any more. -/
def get (m : Slots α) (i : Nat) : Option α :=
  m[i]?.join

/-- A new cell, at the address `m.length`. -/
def alloc (m : Slots α) (a : α) : Slots α :=
  m ++ [some a]

def put (m : Slots α) (i : Nat) (a : α) : Slots α :=
  m.set i (some a)

def release (m : Slots α) (i : Nat) : Slots α :=
  m.set i none

theorem lt_of_get (live : m.get i = some a) : i < m.length := by
  obtain ⟨cell, found, _⟩ := Option.bind_eq_some_iff.mp live
  exact (List.getElem?_eq_some_iff.mp found).1

theorem get_length (m : Slots α) : m.get m.length = none := by
  rw [get, List.getElem?_eq_none (Nat.le_refl _)]
  rfl

@[simp] theorem length_alloc : (m.alloc a).length = m.length + 1 :=
  List.length_append

@[simp] theorem length_put : (m.put i a).length = m.length :=
  List.length_set

@[simp] theorem length_release : (m.release i).length = m.length :=
  List.length_set

theorem get_alloc : (m.alloc a).get i = if i = m.length then some a else m.get i := by
  unfold get alloc
  split
  · rename_i new
    rw [new, List.getElem?_concat_length]
    rfl
  · rename_i old
    by_cases inside : i < m.length
    · rw [List.getElem?_append_left inside]
    · rw [List.getElem?_eq_none, List.getElem?_eq_none]
      · omega
      · simp only [List.length_append, List.length_singleton]
        omega

theorem get_set (inside : i < m.length) (cell : Option α) :
    get (m.set i cell) j = if j = i then cell else m.get j := by
  unfold get
  split
  · rename_i same
    rw [same, List.getElem?_set_self inside]
    rfl
  · rename_i other
    rw [List.getElem?_set_ne (Ne.symm other)]

theorem get_put {b : α} (live : m.get i = some b) :
    (m.put i a).get j = if j = i then some a else m.get j :=
  get_set (lt_of_get live) (some a)

theorem get_release {b : α} (live : m.get i = some b) :
    (m.release i).get j = if j = i then none else m.get j :=
  get_set (lt_of_get live) none

end Slots
