import Mathlib.Data.List.Destutter

namespace Compaction
variable {α : Type} [DecidableEq α] (null : α)

/-- Appends an element unless it is null or repeats the last one; the first
element is appended in any case. -/
def push (kept : List α) (a : α) : List α :=
  if kept ≠ [] ∧ (a = null ∨ kept.getLast? = some a) then kept else kept ++ [a]

/-- A list without the nulls after its first element and without immediate
repetitions. -/
def compact : List α → List α
  | [] => []
  | first :: rest => (first :: rest.filter (· ≠ null)).destutter (· ≠ ·)

theorem push_snoc (kept : List α) (last a : α) :
    push null (kept ++ [last]) a = if a = null ∨ last = a then kept ++ [last] else kept ++ [last] ++ [a] := by
  have nonempty : kept ++ [last] ≠ [] := by simp
  simp only [push, List.getLast?_concat, Option.some_inj, ne_eq, nonempty, not_false_eq_true, true_and]

theorem foldl_push_snoc (kept : List α) (last : α) (l : List α) :
    l.foldl (push null) (kept ++ [last]) = kept ++ (l.filter (· ≠ null)).destutter' (· ≠ ·) last := by
  induction l generalizing kept last with
  | nil => rfl
  | cons a l ih =>
    rw [List.foldl_cons, push_snoc]
    by_cases isNull : a = null
    · rw [if_pos (Or.inl isNull), ih, List.filter_cons_of_neg (by simp [isNull])]
    · rw [List.filter_cons_of_pos (by simp [isNull])]
      by_cases repeated : last = a
      · rw [if_pos (Or.inr repeated), ih, List.destutter'_cons_neg _ (not_not.mpr repeated)]
      · rw [if_neg (not_or.mpr ⟨isNull, repeated⟩), ih, List.destutter'_cons_pos _ repeated,
          List.append_assoc, List.singleton_append]

/-- Pushing one element after another compacts the list. -/
theorem foldl_push (l : List α) : l.foldl (push null) [] = compact null l := by
  cases l with
  | nil => rfl
  | cons first rest => exact foldl_push_snoc null [] first rest

/-- What comes behind an element that is kept depends on that element alone. -/
theorem foldl_push_append (kept : List α) (last : α) (l : List α) :
    l.foldl (push null) (kept ++ [last]) = kept ++ l.foldl (push null) [last] := by
  rw [foldl_push_snoc, ← List.nil_append [last], foldl_push_snoc, List.nil_append]

theorem prefix_push (kept : List α) (a : α) : kept <+: push null kept a := by
  unfold push
  split
  · exact List.prefix_rfl
  · exact List.prefix_append _ _

theorem prefix_foldl_push (kept l : List α) : kept <+: l.foldl (push null) kept := by
  induction l generalizing kept with
  | nil => exact List.prefix_rfl
  | cons a l ih => exact (prefix_push null kept a).trans (ih _)

theorem push_length_le (kept : List α) (a : α) : (push null kept a).length ≤ kept.length + 1 := by
  unfold push
  split
  · exact Nat.le_succ _
  · rw [List.length_append, List.length_singleton]

/-- No element repeats the one before it, and none behind the first is null. -/
structure Compacted (l : List α) : Prop where
  apart : l.IsChain (· ≠ ·)
  visible : ∀ a ∈ l.tail, a ≠ null

omit [DecidableEq α] in
theorem compacted_nil : Compacted null [] :=
  ⟨.nil, fun _ member => absurd member List.not_mem_nil⟩

omit [DecidableEq α] in
theorem compacted_singleton (a : α) : Compacted null [a] :=
  ⟨.singleton a, fun _ member => absurd member List.not_mem_nil⟩

theorem compacted_push {kept : List α} (compacted : Compacted null kept) (a : α) :
    Compacted null (push null kept a) := by
  unfold push
  split
  · exact compacted
  · rename_i appended
    cases kept with
    | nil => exact compacted_singleton null a
    | cons first rest =>
      rw [not_and, not_or] at appended
      obtain ⟨shown, other⟩ := appended (List.cons_ne_nil first rest)
      refine ⟨compacted.apart.append (.singleton a) ?_, ?_⟩
      · rintro last at_end _ ⟨⟩ same
        exact other (same ▸ at_end)
      · intro b member
        rcases List.mem_append.mp member with old | new
        · exact compacted.visible b old
        · rw [List.mem_singleton.mp new]
          exact shown

theorem push_null {kept : List α} (nonempty : kept ≠ []) : push null kept null = kept :=
  if_pos ⟨nonempty, Or.inl rfl⟩

theorem push_singleton (last a : α) :
    push null [last] a = if a = null ∨ last = a then [last] else [last, a] :=
  push_snoc null [] last a

/-- Behind a null, an element that is the next one to be kept anyway changes nothing. -/
theorem foldl_push_joined {last : α} {l : List α}
    (joined : [null, last] <+: l.foldl (push null) [null]) :
    l.foldl (push null) [null, last] = l.foldl (push null) [null] := by
  induction l with
  | nil => exact absurd joined.length_le (by simp)
  | cons a l ih =>
    rw [List.foldl_cons] at joined
    rw [List.foldl_cons, List.foldl_cons]
    by_cases isNull : a = null
    · subst isNull
      rw [push_null a (List.cons_ne_nil a [])] at joined ⊢
      rw [push_null a (List.cons_ne_nil a [last])]
      exact ih joined
    · have kept : push null [null] a = [null, a] := by
        rw [push_singleton, if_neg (not_or.mpr ⟨isNull, Ne.symm isNull⟩)]
      rw [kept] at joined ⊢
      have next : [null, a] <+: l.foldl (push null) [null, a] := prefix_foldl_push null _ _
      have same : [null, last] = [null, a] :=
        (List.prefix_of_prefix_length_le joined next (Nat.le_refl _)).eq_of_length rfl
      obtain rfl : last = a := by simpa using same
      have repeated : push null [null, last] last = [null, last] :=
        (push_snoc null [null] last last).trans (if_pos (Or.inr rfl))
      rw [repeated]

theorem foldl_push_joined_length {last : α} {l : List α}
    (joined : [null, last] <+: l.foldl (push null) [null]) :
    (l.foldl (push null) [null]).length = (l.foldl (push null) [last]).length + 1 := by
  have behind_null : l.foldl (push null) [null, last] = [null] ++ l.foldl (push null) [last] :=
    foldl_push_append null [null] last l
  rw [← foldl_push_joined null joined, behind_null, List.singleton_append, List.length_cons]

/-- Otherwise it comes before all that is kept behind the null. -/
theorem foldl_push_apart {last : α} {l : List α}
    (apart : ¬ [null, last] <+: l.foldl (push null) [null]) :
    (l.foldl (push null) [null]).length ≤ (l.foldl (push null) [last]).length := by
  induction l with
  | nil => exact Nat.le_refl _
  | cons a l ih =>
    rw [List.foldl_cons] at apart
    rw [List.foldl_cons, List.foldl_cons]
    by_cases isNull : a = null
    · subst isNull
      rw [push_null a (List.cons_ne_nil a [])] at apart ⊢
      rw [push_null a (List.cons_ne_nil last [])]
      exact ih apart
    · have kept : push null [null] a = [null, a] := by
        rw [push_singleton, if_neg (not_or.mpr ⟨isNull, Ne.symm isNull⟩)]
      rw [kept] at apart ⊢
      by_cases repeated : last = a
      · subst repeated
        exact absurd (prefix_foldl_push null _ _) apart
      · rw [push_singleton, if_neg (not_or.mpr ⟨isNull, repeated⟩)]
        have behind_null : l.foldl (push null) [null, a] = [null] ++ l.foldl (push null) [a] :=
          foldl_push_append null [null] a l
        have behind_last : l.foldl (push null) [last, a] = [last] ++ l.foldl (push null) [a] :=
          foldl_push_append null [last] a l
        rw [behind_null, behind_last, List.length_append, List.length_append]
        exact Nat.le_refl _

end Compaction
