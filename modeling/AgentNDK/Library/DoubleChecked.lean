import Mathlib.Data.List.Basic
import AgentNDK.Library.Threads

/-! An instance that a getter makes when there is none: it looks before it
takes a monitor, and again when it has it. Setters take no monitor. -/

namespace DoubleChecked
open Runs Threads
universe u v
variable {τ : Type u} {α : Type v}

inductive Place
  | outside
  /-- the getter has found nothing -/
  | waiting
  /-- it has the monitor, before the second look -/
  | rechecking
  /-- it has found nothing again -/
  | creating
  | assigning (object : Nat)
  /-- it has its result, and still the monitor -/
  | leaving (object : Nat)
  /-- a setter has made an object -/
  | publishing (object : Nat)
  /-- and has assigned it, before it calls the getter -/
  | published
  deriving DecidableEq

/-- The getter has the monitor. -/
def Place.inside : Place → Bool
  | .rechecking | .creating | .assigning _ | .leaving _ => true
  | _ => false

/-- The getter has found nothing under the monitor, and has not assigned yet. -/
def Place.undecided : Place → Bool
  | .creating | .assigning _ => true
  | _ => false

structure Shared (τ : Type u) (α : Type v) where
  /-- the objects made so far, with what a setter has made them from -/
  objects : List (Option α)
  /-- the position of the object that the field refers to -/
  field : Option Nat
  monitor : Option τ
  /-- what the calls have returned -/
  returned : List (τ × Nat)

def Shared.start : Shared τ α :=
  ⟨[], none, none, []⟩

/-- How many objects the getters have made. -/
def Shared.lazily (s : Shared τ α) : Nat :=
  s.objects.countP Option.isNone

/-- The object is made by a setter. -/
def Shared.Given (s : Shared τ α) (object : Nat) : Prop :=
  ∃ given, s.objects[object]? = some (some given)

inductive Move (α : Type v)
  | get
  | set (given : α)
  | advance
  /-- the constructor throws -/
  | throws

/-- The first look of the getter. -/
def look (t : τ) (s : Shared τ α) : Place × Shared τ α :=
  match s.field with
  | some object => (.outside, { s with returned := (t, object) :: s.returned })
  | none => (.waiting, s)

/-- The next step of a thread; `none` while it waits for the monitor. -/
def act (t : τ) (place : Place) (s : Shared τ α) : Move α → Option (Place × Shared τ α)
  | .get => if place = .outside then some (look t s) else none
  | .set given =>
    if place = .outside then
      some (.publishing s.objects.length, { s with objects := s.objects ++ [some given] })
    else none
  | .throws => if place = .creating then some (.outside, { s with monitor := none }) else none
  | .advance =>
    match place with
    | .outside => none
    | .waiting => if s.monitor.isNone then some (.rechecking, { s with monitor := some t }) else none
    | .rechecking =>
      match s.field with
      | some object => some (.leaving object, s)
      | none => some (.creating, s)
    | .creating => some (.assigning s.objects.length, { s with objects := s.objects ++ [none] })
    | .assigning object => some (.leaving object, { s with field := some object })
    | .leaving object =>
      some (.outside, { s with monitor := none, returned := (t, object) :: s.returned })
    | .publishing object => some (.published, { s with field := some object })
    | .published => some (look t s)

abbrev Instance (τ : Type u) (α : Type v) := Pool τ Place (Shared τ α)

def Instance.start : Instance τ α :=
  ⟨fun _ => .outside, .start⟩

def Instance.step [DecidableEq τ] (s : Instance τ α) (turn : τ × Move α) : Option (Instance τ α) :=
  Pool.step act s turn

/-- At most one object is made lazily, and with the monitor free it is no
longer missing from the field. -/
structure Sound (s : Shared τ α) : Prop where
  single : s.lazily ≤ 1
  made : ∀ object, s.field = some object → object < s.objects.length
  returned : ∀ result ∈ s.returned, result.2 < s.objects.length
  settled : s.monitor = none → s.lazily = 0 ∨ s.field ≠ none

/-- What a thread knows at its place. -/
def Place.Knows (s : Shared τ α) : Place → Prop
  | .rechecking => s.lazily = 0 ∨ s.field ≠ none
  | .creating => s.lazily = 0
  | .assigning object => s.objects[object]? = some none
  | .leaving object => s.field ≠ none ∧ object < s.objects.length
  | .publishing object => s.Given object
  | .published => s.field ≠ none
  | .outside | .waiting => True

/-- The monitor is held by the one thread inside. -/
def outline : Outline τ Place (Shared τ α) where
  always := Sound
  relies := fun t place s => (s.monitor = some t ↔ place.inside = true) ∧ place.Knows s
  apart := fun _ _ => True

section Steps
variable {t u : τ} {place next : Place} {s s' : Shared τ α} {move : Move α}

theorem lazily_snoc (s : Shared τ α) (object : Option α) :
    Shared.lazily { s with objects := s.objects ++ [object] } =
      s.lazily + if object.isNone then 1 else 0 := by
  simp [Shared.lazily, List.countP_append, List.countP_singleton]

/-- What a step of another thread may do to the shared state: objects are only
added, the field is not nulled, and one is made lazily only with the monitor. -/
structure Leaves (t : τ) (s s' : Shared τ α) : Prop where
  objects : s.objects <+: s'.objects
  field : s.field ≠ none → s'.field ≠ none
  monitor : s'.monitor = s.monitor ∨ s.monitor = none ∧ s'.monitor = some t ∨
    s.monitor = some t ∧ s'.monitor = none
  lazily : s'.lazily = s.lazily ∨ s.monitor = some t

theorem look_cases (t : τ) (s : Shared τ α) :
    (∃ object, s.field = some object ∧
      look t s = (.outside, { s with returned := (t, object) :: s.returned })) ∨
    s.field = none ∧ look t s = (.waiting, s) := by
  unfold look
  cases s.field with
  | none => exact Or.inr ⟨rfl, rfl⟩
  | some object => exact Or.inl ⟨object, rfl, rfl⟩

/-- What a step establishes for its own thread, and what it leaves to the others. -/
structure Advances (t : τ) (s : Shared τ α) (next : Place) (s' : Shared τ α) : Prop where
  sound : Sound s'
  monitor : s'.monitor = some t ↔ next.inside = true
  knows : next.Knows s'
  leaves : Leaves t s s'

theorem advances_look (sound : Sound s) (outside : s.monitor ≠ some t) :
    Advances t s (look t s).1 (look t s).2 := by
  rcases look_cases t s with ⟨object, found, looked⟩ | ⟨missing, looked⟩ <;> rw [looked]
  · exact
      { sound := { sound with
          returned := List.forall_mem_cons.mpr ⟨sound.made object found, sound.returned⟩ }
        monitor := iff_of_false outside Bool.noConfusion
        knows := trivial
        leaves := ⟨List.prefix_rfl, id, Or.inl rfl, Or.inl rfl⟩ }
  · exact
      { sound := sound
        monitor := iff_of_false outside Bool.noConfusion
        knows := trivial
        leaves := ⟨List.prefix_rfl, id, Or.inl rfl, Or.inl rfl⟩ }

theorem advances_make (sound : Sound s) (knows : s.lazily = 0) (held : s.monitor = some t) :
    Advances t s (.assigning s.objects.length) { s with objects := s.objects ++ [none] } where
  sound :=
    { single := by rw [lazily_snoc, knows]; exact Nat.le_refl 1
      made := fun object assigned => by
        have before := sound.made object assigned
        simp only [List.length_append, List.length_singleton]
        omega
      returned := fun result member => by
        have before := sound.returned result member
        simp only [List.length_append, List.length_singleton]
        omega
      settled := fun free => nomatch held.symm.trans free }
  monitor := iff_of_true held rfl
  knows := List.getElem?_concat_length
  leaves := ⟨List.prefix_append .., id, Or.inl rfl, Or.inr held⟩

theorem advances_give (sound : Sound s) (given : α) (outside : s.monitor ≠ some t) :
    Advances t s (.publishing s.objects.length) { s with objects := s.objects ++ [some given] } where
  sound :=
    { single := by rw [lazily_snoc]; exact sound.single
      made := fun object assigned => by
        have before := sound.made object assigned
        simp only [List.length_append, List.length_singleton]
        omega
      returned := fun result member => by
        have before := sound.returned result member
        simp only [List.length_append, List.length_singleton]
        omega
      settled := fun free => by rw [lazily_snoc]; exact sound.settled free }
  monitor := iff_of_false outside Bool.noConfusion
  knows := ⟨given, List.getElem?_concat_length⟩
  leaves := ⟨List.prefix_append .., id, Or.inl rfl, Or.inl (by rw [lazily_snoc]; rfl)⟩

/-- An object that has been made is assigned. -/
theorem sound_assign (sound : Sound s) {object : Nat} (made : object < s.objects.length) :
    Sound { s with field := some object } :=
  { sound with
    made := fun _ assigned => Option.some.inj assigned ▸ made
    settled := fun _ => Or.inr (Option.some_ne_none object) }

theorem leaves_assign (t : τ) (s : Shared τ α) (object : Nat) :
    Leaves t s { s with field := some object } :=
  ⟨List.prefix_rfl, fun _ => Option.some_ne_none object, Or.inl rfl, Or.inl rfl⟩

theorem lt_of_given {object : Nat} (given : s.Given object) : object < s.objects.length := by
  obtain ⟨given, found⟩ := given
  exact (List.getElem?_eq_some_iff.mp found).1

theorem act_advances (sound : Sound s) (monitor : s.monitor = some t ↔ place.inside = true)
    (knows : place.Knows s) (acted : act t place s move = some (next, s')) :
    Advances t s next s' := by
  cases move with
  | get =>
    simp only [act] at acted
    split at acted
    · rename_i outside
      subst outside
      have looked := advances_look sound fun held => Bool.noConfusion (monitor.mp held)
      rwa [Option.some.inj acted] at looked
    · cases acted
  | set given =>
    simp only [act] at acted
    split at acted
    · rename_i outside
      subst outside
      cases acted
      exact advances_give sound given fun held => Bool.noConfusion (monitor.mp held)
    · cases acted
  | throws =>
    simp only [act] at acted
    split at acted
    · rename_i creating
      subst creating
      cases acted
      exact
        { sound := { sound with settled := fun _ => Or.inl knows }
          monitor := iff_of_false (Option.some_ne_none t ·.symm) Bool.noConfusion
          knows := trivial
          leaves := ⟨List.prefix_rfl, id, Or.inr (Or.inr ⟨monitor.mpr rfl, rfl⟩), Or.inl rfl⟩ }
    · cases acted
  | advance =>
    cases place with
    | outside => cases acted
    | waiting =>
      simp only [act] at acted
      split at acted
      · rename_i free
        have free := Option.isNone_iff_eq_none.mp free
        cases acted
        exact
          { sound := { sound with settled := fun held => nomatch held }
            monitor := iff_of_true rfl rfl
            knows := sound.settled free
            leaves := ⟨List.prefix_rfl, id, Or.inr (Or.inl ⟨free, rfl⟩), Or.inl rfl⟩ }
      · cases acted
    | rechecking =>
      simp only [act] at acted
      split at acted <;> cases acted
      · rename_i object found
        exact
          { sound := sound
            monitor := iff_of_true (monitor.mpr rfl) rfl
            knows := ⟨found.trans_ne (Option.some_ne_none object), sound.made object found⟩
            leaves := ⟨List.prefix_rfl, id, Or.inl rfl, Or.inl rfl⟩ }
      · rename_i missing
        exact
          { sound := sound
            monitor := iff_of_true (monitor.mpr rfl) rfl
            knows := knows.resolve_right (not_not_intro missing)
            leaves := ⟨List.prefix_rfl, id, Or.inl rfl, Or.inl rfl⟩ }
    | creating =>
      cases acted
      exact advances_make sound knows (monitor.mpr rfl)
    | assigning object =>
      cases acted
      have made := (List.getElem?_eq_some_iff.mp knows).1
      exact ⟨sound_assign sound made, iff_of_true (monitor.mpr rfl) rfl,
        ⟨Option.some_ne_none object, made⟩, leaves_assign t s object⟩
    | leaving object =>
      cases acted
      exact
        { sound :=
            { sound with
              returned := List.forall_mem_cons.mpr ⟨knows.2, sound.returned⟩
              settled := fun _ => Or.inr knows.1 }
          monitor := iff_of_false (Option.some_ne_none t ·.symm) Bool.noConfusion
          knows := trivial
          leaves := ⟨List.prefix_rfl, id, Or.inr (Or.inr ⟨monitor.mpr rfl, rfl⟩), Or.inl rfl⟩ }
    | publishing object =>
      cases acted
      exact ⟨sound_assign sound (lt_of_given knows), iff_of_false
        (fun held => Bool.noConfusion (monitor.mp held)) Bool.noConfusion,
        Option.some_ne_none object, leaves_assign t s object⟩
    | published =>
      have looked := advances_look sound fun held => Bool.noConfusion (monitor.mp held)
      simp only [act] at acted
      rwa [Option.some.inj acted] at looked

/-- A step without the monitor, or one under it while this thread is not inside,
leaves a thread what it knows. -/
theorem Place.Knows.later (leaves : Leaves t s s') (apart : place.inside = true → s.monitor ≠ some t)
    (knows : place.Knows s) : place.Knows s' := by
  have kept : ∀ {object : Nat} {value}, s.objects[object]? = some value → s'.objects[object]? = some value :=
    fun {object value} found => by
      obtain ⟨more, whole⟩ := leaves.objects
      rw [← whole]
      exact (List.getElem?_append_left (List.getElem?_eq_some_iff.mp found).1).trans found
  have lazily : place.inside = true → s'.lazily = s.lazily := fun inside =>
    leaves.lazily.resolve_right (apart inside)
  cases place with
  | outside | waiting => trivial
  | rechecking => exact knows.imp (lazily rfl).trans leaves.field
  | creating => exact (lazily rfl).trans knows
  | assigning object => exact kept knows
  | leaving object => exact ⟨leaves.field knows.1, Nat.lt_of_lt_of_le knows.2 leaves.objects.length_le⟩
  | publishing object => exact knows.imp fun _ found => kept found
  | published => exact leaves.field knows

theorem keeps : (outline : Outline τ Place (Shared τ α)).Keeps act where
  own := by
    intro t place s move next sound relies acted
    have advances := act_advances sound relies.1 relies.2 acted
    exact ⟨advances.sound, advances.monitor, advances.knows⟩
  others := by
    intro t place s move next u other different sound mine theirs _ acted
    have leaves := (act_advances sound mine.1 mine.2 acted).leaves
    refine ⟨⟨?_, ?_⟩, trivial, trivial⟩
    · rw [← theirs.1]
      rcases leaves.monitor with same | ⟨free, taken⟩ | ⟨held, free⟩
      · rw [same]
      · rw [taken, free]
        exact iff_of_false (fun same => different (Option.some.inj same).symm) (nomatch ·)
      · rw [held, free]
        exact iff_of_false (nomatch ·) fun same => different (Option.some.inj same).symm
    · refine theirs.2.later leaves fun inside held => different ?_
      exact Option.some.inj ((theirs.1.mpr inside).symm.trans held)

end Steps

theorem start_holds : outline.Holds (Instance.start : Instance τ α) where
  always :=
    { single := Nat.zero_le 1
      made := nofun
      returned := nofun
      settled := fun _ => Or.inl rfl }
  relies := fun _ => ⟨iff_of_false nofun Bool.noConfusion, trivial⟩
  apart := fun _ _ _ => trivial

section Places
variable {s : Instance τ α}

theorem inside_unique (holds : outline.Holds s) {t u : τ} (first : (s.place t).inside = true)
    (second : (s.place u).inside = true) : t = u :=
  Option.some.inj (((holds.relies t).1.mpr first).symm.trans ((holds.relies u).1.mpr second))

theorem act_advance_isSome (t : τ) {place : Place} {s : Shared τ α} (called : place ≠ .outside)
    (free : place = .waiting → s.monitor = none) : (act t place s .advance).isSome = true := by
  cases place with
  | outside => exact absurd rfl called
  | waiting =>
    rw [act, if_pos (Option.isNone_iff_eq_none.mpr (free rfl))]
    rfl
  | rechecking =>
    simp only [act]
    split <;> rfl
  | creating | assigning object | leaving object | publishing object | published => rfl

/-- Where no object is given, there is one for all calls. -/
theorem returned_same (holds : outline.Holds s) (lazily : ∀ object, ¬ s.shared.Given object)
    {first second : τ × Nat} (one : first ∈ s.shared.returned) (other : second ∈ s.shared.returned) :
    first.2 = second.2 := by
  have each : ∀ object ∈ s.shared.objects, object.isNone = true := by
    intro object member
    obtain ⟨i, found⟩ := List.mem_iff_getElem?.mp member
    cases object with
    | none => rfl
    | some given => exact absurd ⟨given, found⟩ (lazily i)
  have count : s.shared.lazily = s.shared.objects.length := List.countP_eq_length.mpr each
  have single := holds.always.single
  have before := holds.always.returned first one
  have after := holds.always.returned second other
  omega

/-- The field refers to a given object, and no getter is about to assign another. -/
def Installed (s : Instance τ α) : Prop :=
  (∃ object, s.shared.field = some object ∧ s.shared.Given object) ∧ ∀ t, (s.place t).undecided = false

/-- A getter becomes undecided only when it finds nothing, and only then does
it assign; any other object in the field is given. -/
theorem act_decided {t : τ} {place : Place} {next : Place × Shared τ α} {s : Shared τ α} {move : Move α}
    (decided : place.undecided = false) (assigned : s.field ≠ none)
    (acted : act t place s move = some next) : next.1.undecided = false ∧
      (next.2.field = s.field ∨ ∃ object, place = .publishing object ∧ next.2.field = some object) := by
  have looked : (look t s).1.undecided = false ∧ (look t s).2.field = s.field := by
    rcases look_cases t s with ⟨object, _, looked⟩ | ⟨_, looked⟩ <;> rw [looked] <;> exact ⟨rfl, rfl⟩
  cases move with
  | get =>
    simp only [act] at acted
    split at acted <;> cases acted
    exact ⟨looked.1, Or.inl looked.2⟩
  | set given =>
    simp only [act] at acted
    split at acted <;> cases acted
    exact ⟨rfl, Or.inl rfl⟩
  | throws =>
    simp only [act] at acted
    split at acted <;> cases acted
    exact ⟨rfl, Or.inl rfl⟩
  | advance =>
    cases place with
    | outside => cases acted
    | waiting =>
      simp only [act] at acted
      split at acted <;> cases acted
      exact ⟨rfl, Or.inl rfl⟩
    | rechecking =>
      simp only [act] at acted
      split at acted <;> cases acted
      · exact ⟨rfl, Or.inl rfl⟩
      · rename_i missing
        exact absurd missing assigned
    | creating | assigning object => cases decided
    | leaving object =>
      cases acted
      exact ⟨rfl, Or.inl rfl⟩
    | publishing object =>
      cases acted
      exact ⟨rfl, Or.inr ⟨object, rfl, rfl⟩⟩
    | published =>
      cases acted
      exact ⟨looked.1, Or.inl looked.2⟩

end Places

section Runs
variable [DecidableEq τ] {s s' : Instance τ α} {turns : List (τ × Move α)}

theorem run_holds (reach : run Instance.step .start turns = some s) : outline.Holds s :=
  start_holds.run keeps reach

/-- Whoever waits, the thread that has the monitor goes on. -/
theorem some_advances (holds : outline.Holds s) {t : τ} (called : s.place t ≠ .outside) :
    ∃ u, (s.step (u, .advance)).isSome = true := by
  by_cases free : s.shared.monitor = none
  · exact ⟨t, step_isSome_iff.mpr (act_advance_isSome t called fun _ => free)⟩
  · obtain ⟨u, held⟩ := Option.ne_none_iff_exists'.mp free
    have inside := (holds.relies u).1.mp held
    refine ⟨u, step_isSome_iff.mpr (act_advance_isSome u ?_ ?_)⟩
    · rintro outside
      rw [outside] at inside
      cases inside
    · rintro waiting
      rw [waiting] at inside
      cases inside

theorem Installed.step (holds : outline.Holds s) (installed : Installed s) {turn : τ × Move α}
    (taken : s.step turn = some s') : Installed s' := by
  obtain ⟨next, acted, rfl⟩ := step_eq_some.mp taken
  obtain ⟨t, move⟩ := turn
  obtain ⟨⟨object, field, given⟩, decided⟩ := installed
  have leaves := (act_advances holds.always (holds.relies t).1 (holds.relies t).2 acted).leaves
  have kept : ∀ {o}, s.shared.Given o → next.2.Given o := fun {o} known =>
    (show (Place.publishing o).Knows s.shared from known).later leaves Bool.noConfusion
  obtain ⟨still, source⟩ := act_decided (decided t) (field.trans_ne (Option.some_ne_none object)) acted
  constructor
  · rcases source with same | ⟨published, publishing, assigned⟩
    · exact ⟨object, same.trans field, kept given⟩
    · have known := (holds.relies t).2
      rw [publishing] at known
      exact ⟨published, assigned, kept known⟩
  · intro u
    dsimp only
    by_cases same : u = t
    · rw [same, Function.update_self]
      exact still
    · rw [Function.update_of_ne same]
      exact decided u

/-- An undecided getter goes on to assign the object that it has made. -/
theorem undecided_assigns (holds : outline.Holds s) {t : τ} (undecided : (s.place t).undecided = true) :
    ∃ turns s' object, run Instance.step s turns = some s' ∧ s'.shared.field = some object ∧
      s'.shared.objects[object]? = some none := by
  have assigns : ∀ (s : Instance τ α) object, s.place t = .assigning object →
      s.shared.objects[object]? = some none → ∃ s', s.step (t, .advance) = some s' ∧
        s'.shared.field = some object ∧ s'.shared.objects[object]? = some none := by
    intro s object assigning made
    have acted : act t (s.place t) s.shared .advance =
        some (.leaving object, { s.shared with field := some object }) := by
      rw [assigning]
      rfl
    exact ⟨_, step_of_act acted, rfl, made⟩
  cases at_place : s.place t with
  | creating =>
    have acted : act t (s.place t) s.shared .advance = some (.assigning s.shared.objects.length,
        { s.shared with objects := s.shared.objects ++ [none] }) := by
      rw [at_place]
      rfl
    obtain ⟨s', second, assigned⟩ := assigns
      ⟨Function.update s.place t (.assigning s.shared.objects.length),
        { s.shared with objects := s.shared.objects ++ [none] }⟩
      s.shared.objects.length (Function.update_self ..) List.getElem?_concat_length
    refine ⟨[(t, .advance), (t, .advance)], s', _, ?_, assigned⟩
    rw [run_cons, Instance.step, step_of_act acted, Option.bind_some, run_cons, second]
    rfl
  | assigning object =>
    have known := (holds.relies t).2
    rw [at_place] at known
    obtain ⟨s', taken, assigned⟩ := assigns s object at_place known
    refine ⟨[(t, .advance)], s', object, ?_, assigned⟩
    rw [run_cons, taken]
    rfl
  | outside | waiting | rechecking | leaving _ | publishing _ | published =>
    rw [at_place] at undecided
    cases undecided

/-- A given object in the field is replaced by given ones only, whatever the
threads go on to do, exactly when no getter is undecided. -/
theorem stays_given_iff (holds : outline.Holds s) {object : Nat} (field : s.shared.field = some object)
    (given : s.shared.Given object) : (∀ turns s', run Instance.step s turns = some s' →
      ∃ object, s'.shared.field = some object ∧ s'.shared.Given object) ↔
    ∀ t, (s.place t).undecided = false := by
  constructor
  · intro stays t
    by_contra undecided
    obtain ⟨turns, s', own, reach, assigned, made⟩ :=
      undecided_assigns holds (by simpa using undecided)
    obtain ⟨other, same, given, found⟩ := stays turns s' reach
    rw [Option.some.inj (same.symm.trans assigned), made] at found
    cases found
  · intro decided turns s' reach
    have kept : outline.Holds s' ∧ Installed s' := by
      refine run_invariant (I := fun s => outline.Holds s ∧ Installed s) ?_
        ⟨holds, ⟨object, field, given⟩, decided⟩ reach
      exact fun _ _ _ inv taken => ⟨inv.1.step keeps taken, inv.2.step inv.1 taken⟩
    exact kept.2.1

end Runs
end DoubleChecked
