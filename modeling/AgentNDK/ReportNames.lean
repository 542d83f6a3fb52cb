import AgentNDK.Library.Calendar
import AgentNDK.Serializer

namespace AgentNDK
open CText JsonText Calendar
variable {tgt : Target}

/-- The seconds by which local time is ahead of UTC at a time in seconds since
1970; nowhere is that a day and an hour. -/
structure TimeZone where
  utcOffset : Nat → Int
  bounded : ∀ time, (utcOffset time).natAbs < 90000

/-- `std::tm`, with the year and the month as a date has them. -/
structure Tm where
  date : Date
  hour : Nat
  min : Nat
  sec : Nat

/-- The time since the calendar begins, in seconds. -/
def TimeZone.localSeconds (zone : TimeZone) (timer : Nat) : Nat :=
  ((unixEpoch * 86400 + timer : Nat) + zone.utcOffset timer).toNat

/-- `std::localtime`. -/
def localtime (zone : TimeZone) (timer : Nat) : Tm :=
  let seconds := zone.localSeconds timer
  ⟨dateOf (seconds / 86400), seconds % 86400 / 3600, seconds % 3600 / 60, seconds % 60⟩

/-- `std::put_time` with `%Y%m%d%H%M%S`. -/
def putTime (tm : Tm) : Text :=
  zeroPad 4 (decimal tm.date.year) ++ zeroPad 2 (decimal tm.date.month) ++
    zeroPad 2 (decimal tm.date.day) ++ zeroPad 2 (decimal tm.hour) ++ zeroPad 2 (decimal tm.min) ++
    zeroPad 2 (decimal tm.sec)

/-- The three kinds of reports. -/
inductive ReportKind
  | crash
  | exception
  | anr
  deriving DecidableEq

def ReportKind.filePrefix : ReportKind → Text
  | .crash => "crash-"
  | .exception => "ex-"
  | .anr => "anr-"

/-- A call of `to_storage`: where the reports go, what the clock reads in
microseconds since 1970, and what becomes of the file. -/
structure StoreCall (tgt : Target) where
  native_context : NativeContext tgt
  kind : ReportKind
  zone : TimeZone
  now : Nat
  opens : Text → Bool
  kept : Text → Text
  payload : Text
  payload_size : tgt.Word

namespace StoreCall
variable (call : StoreCall tgt)

def storage : Storage where
  wallTime := putTime (localtime call.zone (call.now / 1000000))
  millis := call.now / 1000 % 1000
  opens := call.opens
  kept := call.kept

def name : Text :=
  generateTmpFilename call.storage call.native_context call.kind.filePrefix

def stored : Option Stored :=
  (toStorage call.storage call.native_context call.kind.filePrefix call.payload call.payload_size).2

/-- The directory of the reports. -/
def dir : Text :=
  call.native_context.reportPathAbsolute.text

/-- What the clock on the wall shows, in milliseconds since 1970. -/
def localMillis : Int :=
  (call.now / 1000 : Nat) + 1000 * call.zone.utcOffset (call.now / 1000000)

end StoreCall

theorem localSeconds_eq (zone : TimeZone) (timer : Nat) :
    (zone.localSeconds timer : Int) = unixEpoch * 86400 + timer + zone.utcOffset timer := by
  have bounded := zone.bounded timer
  unfold TimeZone.localSeconds unixEpoch
  omega

theorem localtime_eq_iff {zone zone' : TimeZone} {timer timer' : Nat} :
    localtime zone timer = localtime zone' timer' ↔
      zone.localSeconds timer = zone'.localSeconds timer' := by
  constructor
  · intro same
    have days := dateOf_injective (congrArg Tm.date same)
    have hours := congrArg Tm.hour same
    have minutes := congrArg Tm.min same
    have seconds := congrArg Tm.sec same
    simp only [localtime] at hours minutes seconds
    omega
  · intro same
    rw [localtime, localtime, same]

/-- Every field but the year has two digits. -/
structure Tm.Short (tm : Tm) : Prop where
  month : tm.date.month < 100
  day : tm.date.day < 100
  hour : tm.hour < 100
  min : tm.min < 100
  sec : tm.sec < 100

theorem localtime_short (zone : TimeZone) (timer : Nat) : (localtime zone timer).Short := by
  obtain ⟨month, day⟩ := dateOf_bounds (zone.localSeconds timer / 86400)
  refine ⟨month, day, ?_, ?_, ?_⟩ <;> simp only [localtime] <;> omega

theorem digits_append {s t : Text} (left : Digits s) (right : Digits t) : Digits (s ++ t) :=
  fun c member => (List.mem_append.mp member).elim (left c) (right c)

theorem digits_putTime (tm : Tm) : Digits (putTime tm) :=
  digits_append (digits_append (digits_append (digits_append (digits_append (digits_zeroPad _ _)
    (digits_zeroPad _ _)) (digits_zeroPad _ _)) (digits_zeroPad _ _)) (digits_zeroPad _ _))
    (digits_zeroPad _ _)

theorem padded_inj {width m n : Nat} {s t : Text} (positive : 0 < width) (left : m < 10 ^ width)
    (right : n < 10 ^ width)
    (same : s ++ zeroPad width (decimal m) = t ++ zeroPad width (decimal n)) : s = t ∧ m = n := by
  have lengths := (zeroPad_length positive left).trans (zeroPad_length positive right).symm
  obtain ⟨before, padded⟩ := List.append_inj' same lengths
  exact ⟨before, zeroPad_decimal_inj padded⟩

theorem putTime_inj {tm tm' : Tm} (short : tm.Short) (short' : tm'.Short)
    (same : putTime tm = putTime tm') : tm = tm' := by
  obtain ⟨⟨year, month, day⟩, hour, min, sec⟩ := tm
  obtain ⟨⟨year', month', day'⟩, hour', min', sec'⟩ := tm'
  obtain ⟨same, rfl⟩ := padded_inj Nat.two_pos short.sec short'.sec same
  obtain ⟨same, rfl⟩ := padded_inj Nat.two_pos short.min short'.min same
  obtain ⟨same, rfl⟩ := padded_inj Nat.two_pos short.hour short'.hour same
  obtain ⟨same, rfl⟩ := padded_inj Nat.two_pos short.day short'.day same
  obtain ⟨same, rfl⟩ := padded_inj Nat.two_pos short.month short'.month same
  obtain rfl := zeroPad_decimal_inj same
  rfl

/-- A text is split at its last dash in one way. -/
theorem lastDash_inj {s t ds es : Text} (left : Digits ds) (right : Digits es)
    (same : s ++ '-' :: ds = t ++ '-' :: es) : s = t ∧ ds = es := by
  have noDash : ∀ {ds : Text}, Digits ds → '-' ∉ ds := fun digits member =>
    absurd (digits '-' member) (by decide)
  rcases List.append_eq_append_iff.mp same with ⟨between, rfl, rest⟩ | ⟨between, rfl, rest⟩
  · cases between with
    | nil => exact ⟨(List.append_nil s).symm, (List.cons.inj rest).2⟩
    | cons c between =>
      have dash : '-' ∈ ds := (List.cons.inj rest).2 ▸ List.mem_append_right _ List.mem_cons_self
      exact absurd dash (noDash left)
  · cases between with
    | nil => exact ⟨List.append_nil t, (List.cons.inj rest).2.symm⟩
    | cons c between =>
      have dash : '-' ∈ es := (List.cons.inj rest).2 ▸ List.mem_append_right _ List.mem_cons_self
      exact absurd dash (noDash right)

/-- The prefix of a kind without its dash. -/
def ReportKind.stem : ReportKind → Text
  | .crash => "crash"
  | .exception => "ex"
  | .anr => "anr"

/-- The kinds end in different letters. -/
theorem stem_inj {kind kind' : ReportKind} {s t : Text}
    (same : s ++ kind.stem = t ++ kind'.stem) : s = t ∧ kind = kind' := by
  have last := congrArg List.getLast? same
  have kinds : kind = kind' := by
    cases kind <;> cases kind' <;> simp [ReportKind.stem] at last ⊢
  subst kinds
  exact ⟨List.append_cancel_right same, rfl⟩

section Names
variable {a b : StoreCall tgt}

theorem StoreCall.name_eq (call : StoreCall tgt) : call.name =
    (call.dir ++ "/" ++ call.kind.stem) ++ '-' :: (putTime (localtime call.zone (call.now / 1000000)) ++
      zeroPad 3 (decimal (call.now / 1000 % 1000))) := by
  have dashed : call.kind.filePrefix = call.kind.stem ++ ['-'] := by
    cases call.kind <;> rfl
  unfold StoreCall.name generateTmpFilename
  rw [dashed]
  simp [StoreCall.storage, StoreCall.dir]

theorem localMillis_eq_iff : a.localMillis = b.localMillis ↔
    a.zone.localSeconds (a.now / 1000000) = b.zone.localSeconds (b.now / 1000000) ∧
      a.now / 1000 % 1000 = b.now / 1000 % 1000 := by
  have seconds := localSeconds_eq a.zone (a.now / 1000000)
  have seconds' := localSeconds_eq b.zone (b.now / 1000000)
  unfold StoreCall.localMillis
  omega

/-- Two names are equal exactly when the kind, the directory and the clock on
the wall are. -/
theorem name_eq_iff : a.name = b.name ↔
    a.kind = b.kind ∧ a.dir = b.dir ∧ a.localMillis = b.localMillis := by
  rw [localMillis_eq_iff, ← localtime_eq_iff, StoreCall.name_eq, StoreCall.name_eq]
  constructor
  · intro same
    obtain ⟨path, time⟩ := lastDash_inj (digits_append (digits_putTime _) (digits_zeroPad _ _))
      (digits_append (digits_putTime _) (digits_zeroPad _ _)) same
    obtain ⟨dir, kind⟩ := stem_inj path
    obtain ⟨wall, millis⟩ := padded_inj (by decide) (Nat.mod_lt _ (by decide))
      (Nat.mod_lt _ (by decide)) time
    exact ⟨kind, List.append_cancel_right dir,
      putTime_inj (localtime_short _ _) (localtime_short _ _) wall, millis⟩
  · rintro ⟨kind, dir, wall, millis⟩
    rw [kind, dir, wall, millis]

theorem stored_path {call : StoreCall tgt} {stored : Stored} (written : call.stored = some stored) :
    stored.path = call.name := by
  unfold StoreCall.stored toStorage at written
  dsimp only at written
  split at written <;> cases written
  rfl

end Names

/-- The files after a call: one that opens is truncated and written. -/
def StoreCall.store (files : Text → Option Text) (call : StoreCall tgt) : Text → Option Text :=
  match call.stored with
  | none => files
  | some stored => Function.update files stored.path (some stored.content)

/-- The names of two calls for one kind differ, and every report that was
stored is still there after the last call. -/
structure ReportsKept (calls : List (StoreCall tgt)) : Prop where
  distinct : calls.Pairwise fun a b => a.kind = b.kind → a.name ≠ b.name
  intact : ∀ files, ∀ call ∈ calls, ∀ stored, call.stored = some stored →
    calls.foldl StoreCall.store files stored.path = some stored.content

section Store
variable {calls : List (StoreCall tgt)}

theorem store_self {call : StoreCall tgt} {stored : Stored} (written : call.stored = some stored)
    (files : Text → Option Text) : call.store files stored.path = some stored.content := by
  rw [StoreCall.store, written]
  exact Function.update_self ..

theorem store_other {call : StoreCall tgt} {path : Text} (other : call.name ≠ path)
    (files : Text → Option Text) : call.store files path = files path := by
  unfold StoreCall.store
  cases written : call.stored with
  | none => rfl
  | some stored =>
    refine Function.update_of_ne ?_ _ _
    rw [stored_path written]
    exact other.symm

theorem foldl_store_other {path : Text} (others : ∀ call ∈ calls, call.name ≠ path)
    (files : Text → Option Text) : calls.foldl StoreCall.store files path = files path := by
  induction calls generalizing files with
  | nil => rfl
  | cons call calls ih =>
    obtain ⟨first, rest⟩ := List.forall_mem_cons.mp others
    rw [List.foldl_cons, ih rest, store_other first]

theorem intact_of_distinct (distinct : calls.Pairwise fun a b => a.name ≠ b.name)
    (files : Text → Option Text) : ∀ call ∈ calls, ∀ stored, call.stored = some stored →
      calls.foldl StoreCall.store files stored.path = some stored.content := by
  induction calls generalizing files with
  | nil => exact fun _ member => absurd member List.not_mem_nil
  | cons first calls ih =>
    obtain ⟨apart, later⟩ := List.pairwise_cons.mp distinct
    intro call member stored written
    rw [List.foldl_cons]
    rcases List.mem_cons.mp member with rfl | member
    · rw [foldl_store_other fun other inside same =>
        apart other inside ((stored_path written).symm.trans same.symm)]
      exact store_self written files
    · exact ih later (first.store files) call member stored written

end Store

/-- The reports of a run are kept apart exactly when no two calls for one kind,
into one directory, come at the same millisecond of the clock on the wall. -/
theorem reports_kept_iff (calls : List (StoreCall tgt)) : ReportsKept calls ↔
    calls.Pairwise fun a b => a.kind = b.kind → a.dir = b.dir → a.localMillis ≠ b.localMillis := by
  constructor
  · intro kept
    refine kept.distinct.imp fun apart kind dir millis => apart kind ?_
    exact name_eq_iff.mpr ⟨kind, dir, millis⟩
  · intro apart
    have distinct : calls.Pairwise fun a b => a.name ≠ b.name := by
      refine apart.imp fun differ same => ?_
      obtain ⟨kind, dir, millis⟩ := name_eq_iff.mp same
      exact differ kind dir millis
    refine ⟨distinct.imp ?_, intact_of_distinct distinct⟩
    exact fun differ _ => differ

def TimeZone.utc : TimeZone :=
  ⟨fun _ => 0, fun _ => by decide⟩

/-- The zone of Central Europe around the end of the summer time of 2025. -/
def TimeZone.centralEurope : TimeZone where
  utcOffset := fun time => if time < 1761440400 then 7200 else 3600
  bounded := by
    intro time
    split <;> decide

/-- An exception is reported at a time in microseconds. -/
def StoreCall.exceptionAt (zone : TimeZone) (now : Nat) (payload : Text) : StoreCall .x86Build where
  native_context := NativeContext.zeroed _
  kind := .exception
  zone := zone
  now := now
  opens := fun _ => true
  kept := id
  payload := payload
  payload_size := 4096

/-- Two reports within a millisecond have one name, and so have two that are
an hour apart when the clocks go back; the second one replaces the first. -/
theorem reports_collide :
    ((StoreCall.exceptionAt .utc 1761440400000100 "first").name =
        (StoreCall.exceptionAt .utc 1761440400000900 "second").name ∧
      [StoreCall.exceptionAt .utc 1761440400000100 "first",
        StoreCall.exceptionAt .utc 1761440400000900 "second"].foldl StoreCall.store (fun _ => none)
          (StoreCall.exceptionAt .utc 1761440400000100 "first").name = some "second".toList) ∧
    (StoreCall.exceptionAt .centralEurope 1761438600000000 "first").name =
        (StoreCall.exceptionAt .centralEurope 1761442200000000 "second").name ∧
    ¬ ReportsKept [StoreCall.exceptionAt .utc 1761440400000100 "first",
        StoreCall.exceptionAt .utc 1761440400000900 "second"] ∧
    ¬ ReportsKept [StoreCall.exceptionAt .centralEurope 1761438600000000 "first",
        StoreCall.exceptionAt .centralEurope 1761442200000000 "second"] := by
  have within : (StoreCall.exceptionAt .utc 1761440400000100 "first").name =
      (StoreCall.exceptionAt .utc 1761440400000900 "second").name :=
    name_eq_iff.mpr ⟨rfl, rfl, rfl⟩
  have autumn : (StoreCall.exceptionAt .centralEurope 1761438600000000 "first").name =
      (StoreCall.exceptionAt .centralEurope 1761442200000000 "second").name :=
    name_eq_iff.mpr ⟨rfl, rfl, rfl⟩
  refine ⟨⟨within, ?_⟩, autumn, fun kept => ?_, fun kept => ?_⟩
  · have written : (StoreCall.exceptionAt .utc 1761440400000900 "second").stored =
        some ⟨(StoreCall.exceptionAt .utc 1761440400000900 "second").name, "second", "second"⟩ := rfl
    rw [within]
    exact store_self written
      ((StoreCall.exceptionAt .utc 1761440400000100 "first").store fun _ => none)
  · exact (List.pairwise_cons.mp kept.distinct).1 _ (List.mem_singleton_self _) rfl within
  · exact (List.pairwise_cons.mp kept.distinct).1 _ (List.mem_singleton_self _) rfl autumn

end AgentNDK
