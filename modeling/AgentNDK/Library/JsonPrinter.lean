import AgentNDK.Library.JsonContainers

namespace JsonText
open CText Runs

mutual

/-- The compact text of a value, nothing escaped. -/
def Json.print : Json → Text
  | .null => ['n', 'u', 'l', 'l']
  | .bool true => ['t', 'r', 'u', 'e']
  | .bool false => ['f', 'a', 'l', 's', 'e']
  | .num literal => literal
  | .str s => '"' :: s ++ ['"']
  | .arr vs => '[' :: (printElements vs).dropLast ++ [']']
  | .obj ms => '{' :: (printMembers ms).dropLast ++ ['}']

def printElements : List Json → Text
  | [] => []
  | v :: vs => v.print ++ ',' :: printElements vs

def printMembers : List (Text × Json) → Text
  | [] => []
  | (key, v) :: ms => '"' :: key ++ '"' :: ':' :: v.print ++ ',' :: printMembers ms

end

/-- A value that printing leaves as it is: 64-bit integers, strings with
nothing to escape, objects without repeated keys. -/
inductive Printable : Json → Prop
  | bool (b : Bool) : Printable (.bool b)
  | num {i : Int} : i.natAbs < 2 ^ 64 → Printable (.num (signedDecimal i))
  | str {s : Text} : Bare s → controlFree s = true → Printable (.str s)
  | arr {vs : List Json} : (∀ v ∈ vs, Printable v) → Printable (.arr vs)
  | obj {ms : List (Text × Json)} : (ms.map (·.1)).Nodup → (∀ m ∈ ms, Plain m.1) →
      (∀ m ∈ ms, Printable m.2) → Printable (.obj ms)

/-- An element that reads as the value it is printed from. -/
def printedElement (v : Json) : Element :=
  ⟨v.print, some v, Utf8 v.print⟩

def printedField (m : Text × Json) : Field :=
  ⟨m.1, m.2.print, some m.2, Utf8 m.2.print⟩

theorem printElements_eq (vs : List Json) :
    printElements vs = elementsText (vs.map printedElement) := by
  induction vs with
  | nil => rfl
  | cons v vs ih =>
    rw [printElements, ih]
    simp [elementsText, printedElement]

theorem printMembers_eq (ms : List (Text × Json)) :
    printMembers ms = fieldsText (ms.map printedField) := by
  induction ms with
  | nil => rfl
  | cons m ms ih =>
    rw [printMembers, ih]
    simp [fieldsText, printedField, Field.render]

theorem Printable.piece {v : Json} (printable : Printable v) :
    Piece v.print (some v) (Utf8 v.print) := by
  induction printable with
  | bool b =>
    refine ⟨?_, fun _ => Iff.rfl⟩
    cases b <;> exact fun fresh stack => by rw [Json.print]; rfl
  | @num i _ =>
    rw [Json.print]
    exact ⟨readsAs_number (number_signedDecimal i), fun _ => Iff.rfl⟩
  | @str s bare control =>
    have quoted := readsAs_quoted bare
    rw [if_pos control] at quoted
    rw [Json.print]
    exact ⟨quoted, fun _ => Iff.rfl⟩
  | @arr vs _ ih =>
    have written : ∀ e ∈ vs.map printedElement, e.Written := List.forall_mem_map.mpr ih
    have values : allSome ((vs.map printedElement).map Element.value) = some vs :=
      allSome_eq_some.mpr (by simp [printedElement, Function.comp_def])
    have piece := readsAs_arr written
    rw [values, ← printElements_eq] at piece
    rw [Json.print]
    exact ⟨piece, fun _ => Iff.rfl⟩
  | @obj ms _ keys _ ih =>
    have written : ∀ f ∈ ms.map printedField, f.Written :=
      List.forall_mem_map.mpr fun m member => ⟨keys m member, ih m member⟩
    have values : allSome ((ms.map printedField).map Field.member) = some ms :=
      allSome_eq_some.mpr (by simp [printedField, Field.member, Function.comp_def])
    have piece := (Piece.obj written).reads
    rw [values, objectText, ← printMembers_eq] at piece
    rw [Json.print]
    exact ⟨piece, fun _ => Iff.rfl⟩

/-- What is printed reads back. -/
theorem parse_print {v : Json} (printable : Printable v) : parse v.print = some v :=
  parse_of_readsAs printable.piece.reads

end JsonText
