import Mathlib.Data.List.InsertIdx
import AgentNDK.DecoderCalls

namespace AgentNDK.Calls
open CText JsonText Throwing

section
variable {α : Type} (org : OrgJson) (asElement : NativeStackFrame → α)

/-- `MutableList.add(index, element)`. -/
def addAt (index : Int) (element : α) : Method Thrown (List α) Unit := do
  let elements ← get
  if 0 ≤ index ∧ index ≤ elements.length then
    set (elements.insertIdx index.toNat element)
  else throw none

/-- The body of the two loops: a frame that cannot be added at its index is
added at the end, as a frame that has its text for a class name. -/
def addFrame (element : Json) : Method Thrown (List α) Unit := do
  if !isNull element then
    try
      let frame ← asJSONObject element
      let stackFrame := stackFrameFromJson org frame
      let stackFrames ← get
      addAt (org.optInt frame "index" stackFrames.length) (asElement stackFrame)
    catch _ =>
      modify (· ++ [asElement (newNativeStackFrame (org.print element))])

def addFrames : List Json → Method Thrown (List α) Unit
  | [] => pure ()
  | element :: rest => do
    addFrame org asElement element
    addFrames rest

/-- The list that `allFrames` and `allNativeFrames` return. -/
def framesOf (allFrames : Option (List Json)) : List α :=
  match allFrames with
  | none => []
  | some elements => after (addFrames org asElement elements) []

def allFrames (allFrames : Option (List Json)) : List StackTraceElement :=
  framesOf org (·.delegate) allFrames

def allNativeFrames (allFrames : Option (List Json)) : List NativeStackFrame :=
  framesOf org id allFrames

/-- The frame objects of an array. -/
def frameObjects (elements : List Json) : List JSONObject :=
  elements.filterMap fun element => match element with
    | .obj frame => some frame
    | _ => none

/-- The index fields of the frames, in the order of the array. -/
def indices (elements : List Json) : List (Option Int) :=
  (frameObjects elements).map (org.getInt · "index")

/-- As many indices from `first` on as there are frames. -/
def indicesFrom (first : Nat) (elements : List Json) : List (Option Int) :=
  (List.range' first (frameObjects elements).length).map fun k : Nat => some (k : Int)

/-- Frame objects and nulls, the index fields of the `n` frames being a
permutation of the numbers from 0 to `n - 1`. -/
structure Indexed (elements : List Json) : Prop where
  frames : ∀ element ∈ elements, element = .null ∨ ∃ frame, element = .obj frame
  permuted : (indices org elements).Perm (indicesFrom 0 elements)

/-- The frames in increasing index order, each as its own object decodes. -/
def ByIndex (elements : List Json) (stackFrames : List α) : Prop :=
  stackFrames.length = (frameObjects elements).length ∧
    ∀ frame ∈ frameObjects elements, ∀ k : Nat, org.getInt frame "index" = some (k : Int) →
      stackFrames[k]? = some (asElement (stackFrameFromJson org frame))

theorem addAt_run (index : Int) (element : α) (elements : List α) :
    (addAt index element).run elements =
      if 0 ≤ index ∧ index ≤ elements.length then .ok () (elements.insertIdx index.toNat element)
      else .error none elements := by
  unfold addAt
  rw [run_bind_ok (run_get _)]
  split <;> rfl

theorem addFrame_null (added : List α) : (addFrame org asElement .null).run added = .ok () added := rfl

/-- A frame is inserted at its index, which is the size where it has none;
past the end it leads to the placeholder. -/
theorem addFrame_obj (frame : JSONObject) (added : List α) :
    (addFrame org asElement (.obj frame)).run added = .ok ()
      (if 0 ≤ org.optInt frame "index" added.length ∧ org.optInt frame "index" added.length ≤ added.length
        then added.insertIdx (org.optInt frame "index" added.length).toNat
          (asElement (stackFrameFromJson org frame))
        else added ++ [asElement (newNativeStackFrame (org.print (.obj frame)))]) := by
  have ran := addAt_run (org.optInt frame "index" added.length)
    (asElement (stackFrameFromJson org frame)) added
  split at ran
  · rename_i inside
    rw [if_pos inside]
    exact run_catch_ok ran _
  · rename_i outside
    rw [if_neg outside]
    exact run_catch_error ran _

section
variable {frame : JSONObject} {added : List α} {k : Nat} (index : org.getInt frame "index" = some (k : Int))
include index

theorem addFrame_inside (inside : k ≤ added.length) :
    (addFrame org asElement (.obj frame)).run added =
      .ok () (added.insertIdx k (asElement (stackFrameFromJson org frame))) := by
  rw [addFrame_obj, OrgJson.optInt, index, Option.getD_some,
    if_pos ⟨Int.natCast_nonneg k, Int.ofNat_le.mpr inside⟩, Int.toNat_natCast]

theorem addFrame_outside (outside : added.length < k) :
    (addFrame org asElement (.obj frame)).run added =
      .ok () (added ++ [asElement (newNativeStackFrame (org.print (.obj frame)))]) := by
  rw [addFrame_obj, OrgJson.optInt, index, Option.getD_some,
    if_neg fun both => Nat.not_le_of_lt outside (Int.ofNat_le.mp both.2)]

end

/-- One more element leaves what was added where it is or shifts it. -/
theorem addFrame_keeps (element : Json) (added : List α) :
    ∃ later, (addFrame org asElement element).run added = .ok () later ∧ added.Sublist later := by
  cases element with
  | null => exact ⟨added, rfl, List.Sublist.refl _⟩
  | obj frame =>
    refine ⟨_, addFrame_obj org asElement frame added, ?_⟩
    split
    · exact List.sublist_insertIdx _ _ _
    · exact List.sublist_append_left _ _
  | _ => exact ⟨_, rfl, List.sublist_append_left _ _⟩

theorem addFrames_keeps (elements : List Json) (added : List α) :
    ∃ later, (addFrames org asElement elements).run added = .ok () later ∧ added.Sublist later := by
  induction elements generalizing added with
  | nil => exact ⟨added, rfl, List.Sublist.refl _⟩
  | cons element rest ih =>
    obtain ⟨next, ran, kept⟩ := addFrame_keeps org asElement element added
    obtain ⟨later, rest, keptLater⟩ := ih next
    exact ⟨later, (run_bind_ok ran _).trans rest, kept.trans keptLater⟩

theorem indices_frame (frame : JSONObject) (rest : List Json) :
    indices org (.obj frame :: rest) = org.getInt frame "index" :: indices org rest := rfl

theorem indicesFrom_frame (first : Nat) (frame : JSONObject) (rest : List Json) :
    indicesFrom first (.obj frame :: rest) = some (first : Int) :: indicesFrom (first + 1) rest := rfl

/-- In the order of their indices the frames are added one behind the other. -/
theorem addFrames_inOrder {elements : List Json} {added : List α}
    (frames : ∀ element ∈ elements, element = .null ∨ ∃ frame, element = .obj frame)
    (ordered : indices org elements = indicesFrom added.length elements) :
    (addFrames org asElement elements).run added = .ok () (added ++
      (frameObjects elements).map fun frame => asElement (stackFrameFromJson org frame)) := by
  induction elements generalizing added with
  | nil => rw [frameObjects, List.filterMap_nil, List.map_nil, List.append_nil]; rfl
  | cons element rest ih =>
    obtain ⟨head, tail⟩ := List.forall_mem_cons.mp frames
    rcases head with rfl | ⟨frame, rfl⟩
    · exact (run_bind_ok (addFrame_null org asElement added) _).trans (ih tail ordered)
    · rw [indices_frame, indicesFrom_frame] at ordered
      obtain ⟨index, later⟩ := List.cons.inj ordered
      have inserted := addFrame_inside org asElement index (Nat.le_refl _)
      rw [List.insertIdx_length_self] at inserted
      rw [addFrames, run_bind_ok inserted, ih tail (by rw [List.length_append]; exact later),
        List.append_assoc]
      rfl

/-- The first frame out of order has an index past the end, and its
placeholder stays in the list. -/
theorem addFrames_outOfOrder {elements : List Json} {added : List α}
    (frames : ∀ element ∈ elements, element = .null ∨ ∃ frame, element = .obj frame)
    (permuted : (indices org elements).Perm (indicesFrom added.length elements))
    (disordered : indices org elements ≠ indicesFrom added.length elements) :
    ∃ frame later, (addFrames org asElement elements).run added = .ok () later ∧
      asElement (newNativeStackFrame (org.print (.obj frame))) ∈ later := by
  induction elements generalizing added with
  | nil => exact absurd rfl disordered
  | cons element rest ih =>
    obtain ⟨head, tail⟩ := List.forall_mem_cons.mp frames
    rcases head with rfl | ⟨frame, rfl⟩
    · obtain ⟨frame, later, ran, placed⟩ := ih tail permuted disordered
      exact ⟨frame, later, (run_bind_ok (addFrame_null org asElement added) _).trans ran, placed⟩
    · have among : org.getInt frame "index" ∈ indicesFrom added.length (.obj frame :: rest) :=
        permuted.subset List.mem_cons_self
      obtain ⟨k, range, index⟩ := List.mem_map.mp among
      have lower : added.length ≤ k := (List.mem_range'_1.mp range).1
      by_cases here : k = added.length
      · subst here
        have inserted := addFrame_inside org asElement index.symm (Nat.le_refl _)
        rw [List.insertIdx_length_self] at inserted
        rw [indices_frame, indicesFrom_frame, ← index] at permuted disordered
        have length : (added ++ [asElement (stackFrameFromJson org frame)]).length = added.length + 1 :=
          List.length_append
        have permutedRest : (indices org rest).Perm
            (indicesFrom (added ++ [asElement (stackFrameFromJson org frame)]).length rest) :=
          length ▸ permuted.cons_inv
        obtain ⟨frame, later, ran, placed⟩ := ih tail permutedRest
          fun same => disordered (congrArg _ (length ▸ same))
        exact ⟨frame, later, (run_bind_ok inserted _).trans ran, placed⟩
      · have outside : added.length < k := Nat.lt_of_le_of_ne lower fun same => here same.symm
        have appended := addFrame_outside org asElement index.symm outside
        obtain ⟨later, ran, kept⟩ := addFrames_keeps org asElement rest
          (added ++ [asElement (newNativeStackFrame (org.print (.obj frame)))])
        exact ⟨frame, later, (run_bind_ok appended _).trans ran, kept.subset (by simp)⟩

theorem framesOf_inOrder {elements : List Json} (indexed : Indexed org elements)
    (ordered : indices org elements = indicesFrom 0 elements) :
    framesOf org asElement (some elements) =
      (frameObjects elements).map fun frame => asElement (stackFrameFromJson org frame) :=
  after_of_ok (addFrames_inOrder org asElement indexed.frames
    (show indices org elements = indicesFrom ([] : List α).length elements from ordered))

theorem byIndex_inOrder {elements : List Json} (indexed : Indexed org elements)
    (ordered : indices org elements = indicesFrom 0 elements) :
    ByIndex org asElement elements (framesOf org asElement (some elements)) := by
  rw [framesOf_inOrder org asElement indexed ordered]
  refine ⟨List.length_map _, ?_⟩
  intro frame member k index
  obtain ⟨i, bound, rfl⟩ := List.getElem_of_mem member
  have here := congrArg (·[i]?) ordered
  simp only [indices, indicesFrom, List.getElem?_map, List.getElem?_range' bound,
    List.getElem?_eq_getElem bound, Option.map_some] at here
  rw [index] at here
  have same : k = i := by simpa using here
  subst same
  rw [List.getElem?_map, List.getElem?_eq_getElem bound, Option.map_some]

end

/-- What the two functions return for an array: the frames by their indices,
and for an array in order without nulls the frames by their positions. -/
def ListsFrames (org : OrgJson) (elements : List Json) : Prop :=
  ByIndex org (·.delegate) elements (allFrames org (some elements)) ∧
    ByIndex org id elements (allNativeFrames org (some elements)) ∧
    (indices org elements = indicesFrom 0 elements → (∀ element ∈ elements, isNull element = false) →
      stackTraceFromJson org (some elements) = (allFrames org (some elements)).map some ∧
      stackTraceFromJson org (some elements) =
        (allNativeFrames org (some elements)).map fun frame => some frame.delegate)

theorem stackTraceFromJson_noNulls {org : OrgJson} {elements : List Json} (indexed : Indexed org elements)
    (noNulls : ∀ element ∈ elements, isNull element = false) :
    stackTraceFromJson org (some elements) =
      (frameObjects elements).map fun frame => some (stackFrameFromJson org frame).delegate := by
  have frames := indexed.frames
  rw [stackTraceFromJson_eq]
  unfold AgentNDK.stackTraceFromJson
  dsimp only
  clear indexed
  induction elements with
  | nil => rfl
  | cons element rest ih =>
    obtain ⟨head, tail⟩ := List.forall_mem_cons.mp frames
    obtain ⟨present, later⟩ := List.forall_mem_cons.mp noNulls
    rcases head with rfl | ⟨frame, rfl⟩
    · cases present
    · rw [List.map_cons, ih later tail]
      rfl

/-- The frames are listed by their indices exactly when the array has them in
this order: an index past the end of the list so far throws, and the frame is
replaced by its text. -/
theorem listsFrames_iff {org : OrgJson} (prints : ∀ frame, ∃ rest, org.print (.obj frame) = '\x7b' :: rest)
    {elements : List Json} (indexed : Indexed org elements) :
    ListsFrames org elements ↔ indices org elements = indicesFrom 0 elements := by
  constructor
  · rintro ⟨⟨length, byIndex⟩, _⟩
    by_contra disordered
    obtain ⟨frame, later, ran, placed⟩ := addFrames_outOfOrder org (·.delegate) indexed.frames
      (show (indices org elements).Perm (indicesFrom ([] : List StackTraceElement).length elements)
        from indexed.permuted) disordered
    have listed : allFrames org (some elements) = later := after_of_ok ran
    rw [listed] at length byIndex
    obtain ⟨k, bound, here⟩ := List.getElem_of_mem placed
    have among : some (k : Int) ∈ indices org elements :=
      indexed.permuted.symm.subset (List.mem_map.mpr ⟨k, by simp; omega, rfl⟩)
    obtain ⟨shown, member, index⟩ := List.mem_map.mp among
    have same := byIndex shown member k index
    rw [List.getElem?_eq_getElem bound, here] at same
    obtain ⟨rest, text⟩ := prints frame
    have name : org.print (.obj frame) = "0x" ++ _ :=
      congrArg StackTraceElement.declaringClass (Option.some.inj same)
    rw [text] at name
    exact absurd (List.cons.inj name).1 (by decide)
  · intro ordered
    refine ⟨byIndex_inOrder org _ indexed ordered, byIndex_inOrder org _ indexed ordered, ?_⟩
    intro _ noNulls
    rw [stackTraceFromJson_noNulls indexed noNulls, allFrames, allNativeFrames,
      framesOf_inOrder org _ indexed ordered, framesOf_inOrder org _ indexed ordered, List.map_map,
      List.map_map]
    exact ⟨rfl, rfl⟩

/-- A null between two frames in order. -/
def orderedFrames : List Json :=
  [.obj [("index", .num "0"), ("address", .num "1")], .null,
    .obj [("index", .num "1"), ("address", .num "2")]]

theorem verbatim_prints (frame : JSONObject) :
    ∃ rest, OrgJson.verbatim.print (.obj frame) = '\x7b' :: rest := ⟨_, rfl⟩

theorem orderedFrames_indexed : Indexed OrgJson.verbatim orderedFrames where
  frames := by simp [orderedFrames]
  permuted := List.Perm.of_eq (by decide)

theorem ordered_listsFrames : ListsFrames OrgJson.verbatim orderedFrames :=
  (listsFrames_iff verbatim_prints orderedFrames_indexed).mpr (by decide)

/-- The frames of indices 1 and 0, in this order: the first becomes its text. -/
def swappedFrames : List Json :=
  [.obj [("index", .num "1"), ("address", .num "2")],
    .obj [("index", .num "0"), ("address", .num "1")]]

theorem swapped_not_listsFrames :
    Indexed OrgJson.verbatim swappedFrames ∧ ¬ ListsFrames OrgJson.verbatim swappedFrames := by
  refine ⟨⟨by simp [swappedFrames], ?_⟩, ?_⟩
  · have same : indices OrgJson.verbatim swappedFrames = [some 1, some 0] := by decide
    rw [same]
    exact List.Perm.swap _ _ _
  · rintro ⟨⟨_, byIndex⟩, _⟩
    have misplaced := byIndex _ (show _ ∈ frameObjects swappedFrames from List.mem_cons_self) 1 (by decide)
    revert misplaced
    decide

end AgentNDK.Calls
