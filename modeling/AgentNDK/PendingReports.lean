import Mathlib.Data.List.Nodup
import AgentNDK.Serializer

namespace AgentNDK
open CText
variable {tgt : Target}

/-- The methods of `AgentNDKListener`. -/
inductive ListenerMethod
  | onNativeCrash
  | onNativeException
  | onApplicationNotResponding
  deriving DecidableEq

structure Callback where
  method : ListenerMethod
  text : Text
  deriving DecidableEq

inductive Response
  | returned (consumed : Bool)
  /-- the callback threw an Exception -/
  | thrown
  deriving DecidableEq

/-- What a listener answers a callback, after the callbacks it has had. -/
abbrev AgentNDKListener := List Callback → Callback → Response

/-- A file of the report directory. -/
structure ReportFile where
  name : Text
  /-- what `readText` returns; `none` when it throws -/
  text : Option Text
  lastModified : Int

/-- The report directory at the time of the flush. -/
structure ReportsDir where
  isThere : Bool
  canRead : Bool
  /-- `listFiles`, which may return null -/
  listFiles : Option (List ReportFile)
  distinct : ∀ files, listFiles = some files → (files.map ReportFile.name).Nodup

/-- What `flushPendingReports` reads of the managed context. -/
structure FlushContext where
  reportsDir : Option ReportsDir
  nativeReportListener : Option AgentNDKListener
  /-- in seconds -/
  expirationPeriod : Int

/-- What the system answers about a file: the clock when its turn comes, and
whether it can be deleted. -/
structure Platform where
  /-- milliseconds since the epoch -/
  currentTimeMillis : Text → Int
  delete : Text → Bool
  sinceEpoch : ∀ name, 0 ≤ currentTimeMillis name ∧ currentTimeMillis name < 2 ^ 63

/-- What a flush has done so far. -/
structure Flush where
  /-- the callbacks, each with the file it was for -/
  calls : List (Text × Callback)
  deleted : List Text
  deleteOnExit : List Text
  /-- the hold count of the lock -/
  lock : Nat

/-- `File.exists` of a listed file. Nothing but the flush deletes any. -/
def Flush.finds (s : Flush) (report : ReportFile) : Bool :=
  report.name ∉ s.deleted

/-- `Character.toLowerCase(Character.toUpperCase(c))`, where that is an ASCII
character of the prefixes: the long s folds to s. -/
def foldCase (c : Char) : Char :=
  if c = '\u017f' then 's' else c.toLower

/-- `startsWith(start, true)`. -/
def startsWithIgnoreCase (name start : Text) : Bool :=
  (start.map foldCase).isPrefixOf (name.map foldCase)

/-- The `when` over the name of a report. -/
def callbackFor (name : Text) : Option ListenerMethod :=
  if startsWithIgnoreCase name "crash-" then some .onNativeCrash
  else if startsWithIgnoreCase name "ex-" then some .onNativeException
  else if startsWithIgnoreCase name "anr-" then some .onApplicationNotResponding
  else none

/-- The result and what is done; no result when an Exception leaves the function. -/
def postReport (listener : Option AgentNDKListener) (platform : Platform) (report : ReportFile)
    (s : Flush) : Option Bool × Flush :=
  if s.finds report then
    match listener with
    | none => (some (!s.finds report), s)
    | some listener =>
      match callbackFor report.name with
      | none => (some (!s.finds report), s)
      | some method =>
        match report.text with
        | none => (none, s)
        | some text =>
          let called := { s with calls := s.calls ++ [(report.name, ⟨method, text⟩)] }
          match listener (s.calls.map Prod.snd) ⟨method, text⟩ with
          | .thrown => (none, called)
          | .returned consumed =>
            if consumed ∧ platform.delete report.name then
              let removed := { called with deleted := called.deleted ++ [report.name] }
              (some (!removed.finds report), removed)
            else (some (!called.finds report), called)
  else (some false, s)

/-- `TimeUnit.MILLISECONDS.convert(duration, TimeUnit.SECONDS)`, which saturates. -/
def secondsToMillis (duration : Int) : Int :=
  max (-2 ^ 63) (min (1000 * duration) (2 ^ 63 - 1))

/-- The expiry test of a listed file, in the arithmetic of `Long`. -/
def isExpired (context : FlushContext) (platform : Platform) (report : ReportFile) : Bool :=
  let expirationTimeMs := Int.bmod
    (platform.currentTimeMillis report.name - secondsToMillis context.expirationPeriod) (2 ^ 64)
  report.lastModified < expirationTimeMs

/-- The body of the loop over the listed files. -/
def flushReport (context : FlushContext) (platform : Platform) (s : Flush) (report : ReportFile) :
    Flush :=
  let (posted, s) := postReport context.nativeReportListener platform report s
  if posted = some true then s
  else if s.finds report ∧ isExpired context platform report then
    { s with deleteOnExit := s.deleteOnExit ++ [report.name] }
  else s

/-- Every Exception of the loop is caught in it, so that the `finally` is
reached by its end. -/
def flushPendingReports (managedContext : Option FlushContext) (platform : Platform) (s : Flush) :
    Flush :=
  let s := { s with lock := s.lock + 1 }
  let s := match managedContext with
    | none => s
    | some context =>
      match context.reportsDir with
      | none => s
      | some dir =>
        if dir.isThere && dir.canRead then
          match dir.listFiles with
          | none => s
          | some files => files.foldl (flushReport context platform) s
        else s
  { s with lock := s.lock - 1 }

/-- The callback that a file is offered with: its name has one of the prefixes
and its text can be read. -/
def ReportFile.offer (report : ReportFile) : Option Callback := do
  let method ← callbackFor report.name
  let text ← report.text
  return ⟨method, text⟩

/-- What becomes of a file. -/
structure Outcome where
  offered : Option Callback
  deleted : Bool
  scheduled : Bool

/-- The outcome of a file by itself: by its name, text and age, the answer of
the listener to it, and whether it can be deleted. -/
def ReportFile.outcome (context : FlushContext) (platform : Platform) (report : ReportFile)
    (answer : Callback → Response) : Outcome :=
  let offered := if context.nativeReportListener.isSome then report.offer else none
  let deleted := offered.map answer = some (.returned true) ∧ platform.delete report.name
  ⟨offered, deleted, ¬ deleted ∧ isExpired context platform report⟩

/-- What the listener answers next. -/
def FlushContext.answer (context : FlushContext) (calls : List (Text × Callback)) (call : Callback) :
    Response :=
  match context.nativeReportListener with
  | some listener => listener (calls.map Prod.snd) call
  | none => .thrown

/-- The state with the outcome of a file added. -/
def Flush.add (s : Flush) (report : ReportFile) (outcome : Outcome) : Flush :=
  { s with
    calls := s.calls ++ (outcome.offered.map fun call => (report.name, call)).toList
    deleted := if outcome.deleted then s.deleted ++ [report.name] else s.deleted
    deleteOnExit := if outcome.scheduled then s.deleteOnExit ++ [report.name] else s.deleteOnExit }

/-- A file that is not offered stays, and the loop goes on to its expiry. -/
theorem postReport_unoffered {context : FlushContext} {platform : Platform} {s : Flush}
    {report : ReportFile} {answer : Callback → Response} (there : s.finds report = true)
    (unoffered : (report.outcome context platform answer).offered = none) :
    ∃ posted, postReport context.nativeReportListener platform report s = (posted, s) ∧
      posted ≠ some true := by
  unfold postReport
  rw [if_pos there]
  cases listening : context.nativeReportListener with
  | none => exact ⟨_, rfl, by simp [there]⟩
  | some listener =>
    simp only [ReportFile.outcome, listening, Option.isSome_some, if_true] at unoffered
    unfold ReportFile.offer at unoffered
    dsimp only
    cases method : callbackFor report.name with
    | none => exact ⟨_, rfl, by simp [there]⟩
    | some method =>
      cases text : report.text with
      | none => exact ⟨none, rfl, nofun⟩
      | some text => simp [method, text] at unoffered

/-- A file that is offered is called for once, and deleted if the listener and
the system agree. -/
theorem postReport_offered {context : FlushContext} {platform : Platform} {s : Flush}
    {report : ReportFile} {call : Callback} {answer : Callback → Response}
    (there : s.finds report = true)
    (offered : (report.outcome context platform answer).offered = some call) :
    if context.answer s.calls call = .returned true ∧ platform.delete report.name then
      postReport context.nativeReportListener platform report s = (some true,
        { s with
          calls := s.calls ++ [(report.name, call)]
          deleted := s.deleted ++ [report.name] })
    else ∃ posted, postReport context.nativeReportListener platform report s =
      (posted, { s with calls := s.calls ++ [(report.name, call)] }) ∧ posted ≠ some true := by
  unfold postReport
  rw [if_pos there]
  cases listening : context.nativeReportListener with
  | none => simp [ReportFile.outcome, listening] at offered
  | some listener =>
    simp only [ReportFile.outcome, listening, Option.isSome_some, if_true] at offered
    obtain ⟨method, named, offered⟩ := Option.bind_eq_some_iff.mp offered
    obtain ⟨text, read, offered⟩ := Option.bind_eq_some_iff.mp offered
    cases offered
    have stays : report.name ∉ s.deleted := by simpa [Flush.finds] using there
    simp only [named, read, FlushContext.answer, listening]
    cases answered : listener (s.calls.map Prod.snd) ⟨method, text⟩ with
    | thrown =>
      rw [if_neg (by simp)]
      exact ⟨none, rfl, nofun⟩
    | returned consumed =>
      by_cases agreed : consumed = true ∧ platform.delete report.name = true
      · simp [agreed, Flush.finds]
      · have kept : ¬ (Response.returned consumed = .returned true ∧
            platform.delete report.name = true) := by
          simpa using agreed
        rw [if_neg kept]
        simp only [if_neg agreed]
        exact ⟨_, rfl, by simp [Flush.finds, stays]⟩

theorem flushReport_eq {context : FlushContext} {platform : Platform} {s : Flush}
    {report : ReportFile} (there : report.name ∉ s.deleted) :
    flushReport context platform s report =
      s.add report (report.outcome context platform (context.answer s.calls)) := by
  have finds : s.finds report = true := by simpa [Flush.finds] using there
  unfold flushReport
  cases offered : (report.outcome context platform (context.answer s.calls)).offered with
  | none =>
    obtain ⟨posted, result, undone⟩ := postReport_unoffered finds offered
    rw [result]
    dsimp only
    rw [if_neg undone]
    simp only [ReportFile.outcome] at offered ⊢
    simp only [Flush.add, offered, finds]
    by_cases expired : isExpired context platform report = true <;> simp [expired]
  | some call =>
    have result := postReport_offered finds offered
    simp only [ReportFile.outcome] at offered ⊢
    split at result
    · rename_i agreed
      rw [result]
      dsimp only
      rw [if_pos rfl]
      simp [Flush.add, offered, agreed]
    · rename_i refused
      obtain ⟨posted, result, undone⟩ := result
      rw [result]
      dsimp only
      rw [if_neg undone]
      have still : ({ s with calls := s.calls ++ [(report.name, call)] } : Flush).finds report = true :=
        finds
      by_cases expired : isExpired context platform report = true <;>
        simp [Flush.add, offered, refused, still, expired]

/-- The callbacks that a listing is offered with. -/
def offers (context : FlushContext) (files : List ReportFile) : List (Text × Callback) :=
  if context.nativeReportListener.isSome then
    files.filterMap fun report => report.offer.map fun call => (report.name, call)
  else []

theorem offers_cons (context : FlushContext) (platform : Platform) (report : ReportFile)
    (files : List ReportFile) (answer : Callback → Response) :
    offers context (report :: files) =
      ((report.outcome context platform answer).offered.map fun call => (report.name, call)).toList ++
        offers context files := by
  unfold offers
  simp only [ReportFile.outcome]
  split
  · cases offered : report.offer <;> simp [offered]
  · rfl

theorem mem_add_deleted {s : Flush} {report : ReportFile} {outcome : Outcome} {name : Text} :
    name ∈ (s.add report outcome).deleted ↔
      name ∈ s.deleted ∨ name = report.name ∧ outcome.deleted = true := by
  simp only [Flush.add]
  split
  · rename_i deleted
    simp [deleted]
  · rename_i kept
    simp [kept]

theorem mem_add_deleteOnExit {s : Flush} {report : ReportFile} {outcome : Outcome} {name : Text} :
    name ∈ (s.add report outcome).deleteOnExit ↔
      name ∈ s.deleteOnExit ∨ name = report.name ∧ outcome.scheduled = true := by
  simp only [Flush.add]
  split
  · rename_i scheduled
    simp [scheduled]
  · rename_i kept
    simp [kept]

/-- What a loop over these files leaves, each with the outcome it has by itself. -/
structure Flushed (context : FlushContext) (platform : Platform) (files : List ReportFile)
    (before after : Flush) : Prop where
  calls : after.calls = before.calls ++ offers context files
  /-- what is deleted or scheduled is listed, or was so before -/
  deleted : ∀ name, name ∈ after.deleted → name ∈ before.deleted ∨ name ∈ files.map ReportFile.name
  scheduled : ∀ name, name ∈ after.deleteOnExit →
    name ∈ before.deleteOnExit ∨ name ∈ files.map ReportFile.name
  kept : ∀ name, (name ∈ before.deleted → name ∈ after.deleted) ∧
    (name ∈ before.deleteOnExit → name ∈ after.deleteOnExit)
  each : ∀ earlier report later, files = earlier ++ report :: later →
    let outcome := report.outcome context platform
      (context.answer (before.calls ++ offers context earlier))
    (report.name ∈ after.deleted ↔ report.name ∈ before.deleted ∨ outcome.deleted = true) ∧
      (report.name ∈ after.deleteOnExit ↔
        report.name ∈ before.deleteOnExit ∨ outcome.scheduled = true)
  lock : after.lock = before.lock

theorem flushed_loop {context : FlushContext} {platform : Platform} {files : List ReportFile}
    {before : Flush} (distinct : (files.map ReportFile.name).Nodup)
    (there : ∀ report ∈ files, report.name ∉ before.deleted) :
    Flushed context platform files before (files.foldl (flushReport context platform) before) := by
  induction files generalizing before with
  | nil =>
    exact
      { calls := by simp [offers]
        deleted := fun _ => Or.inl
        scheduled := fun _ => Or.inl
        kept := fun _ => ⟨id, id⟩
        each := fun earlier report later same => by simp at same
        lock := rfl }
  | cons report rest ih =>
    obtain ⟨new, distinct⟩ := List.nodup_cons.mp distinct
    rw [List.foldl_cons, flushReport_eq (there report List.mem_cons_self)]
    generalize outcome_eq : report.outcome context platform (context.answer before.calls) = outcome
    have apart : ∀ other ∈ rest, other.name ≠ report.name := fun other member same =>
      new (same ▸ List.mem_map_of_mem member)
    have still : ∀ other ∈ rest, other.name ∉ (before.add report outcome).deleted := by
      intro other member
      rw [mem_add_deleted]
      rintro (old | ⟨same, _⟩)
      · exact there other (List.mem_cons_of_mem _ member) old
      · exact apart other member same
    have next := ih distinct still
    have calls : ∀ files, (before.add report outcome).calls ++ offers context files =
        before.calls ++ offers context (report :: files) := by
      intro files
      rw [offers_cons context platform report files (context.answer before.calls), outcome_eq,
        ← List.append_assoc]
      rfl
    refine
      { calls := next.calls.trans (calls rest)
        deleted := fun name after => ?_
        scheduled := fun name after => ?_
        kept := fun name => ⟨fun old => (next.kept name).1 (mem_add_deleted.mpr (Or.inl old)),
          fun old => (next.kept name).2 (mem_add_deleteOnExit.mpr (Or.inl old))⟩
        each := fun earlier other later same => ?_
        lock := next.lock }
    · rcases next.deleted name after with added | later
      · rcases mem_add_deleted.mp added with old | ⟨same, _⟩
        · exact Or.inl old
        · exact Or.inr (same ▸ List.mem_cons_self)
      · exact Or.inr (List.mem_cons_of_mem _ later)
    · rcases next.scheduled name after with added | later
      · rcases mem_add_deleteOnExit.mp added with old | ⟨same, _⟩
        · exact Or.inl old
        · exact Or.inr (same ▸ List.mem_cons_self)
      · exact Or.inr (List.mem_cons_of_mem _ later)
    · cases earlier with
      | nil =>
        obtain ⟨rfl, rfl⟩ := List.cons.inj same
        have none : offers context [] = [] := by simp [offers]
        have added : report.name ∈ (before.add report outcome).deleted ↔ _ := mem_add_deleted
        have scheduled : report.name ∈ (before.add report outcome).deleteOnExit ↔ _ :=
          mem_add_deleteOnExit
        rw [none, List.append_nil, outcome_eq]
        constructor
        · constructor
          · intro after
            have before := added.mp ((next.deleted _ after).resolve_right new)
            exact before.imp_right And.right
          · intro before
            exact (next.kept _).1 (added.mpr (before.imp_right fun deleted => ⟨rfl, deleted⟩))
        · constructor
          · intro after
            have before := scheduled.mp ((next.scheduled _ after).resolve_right new)
            exact before.imp_right And.right
          · intro before
            exact (next.kept _).2 (scheduled.mpr (before.imp_right fun scheduled => ⟨rfl, scheduled⟩))
      | cons first earlier =>
        obtain ⟨rfl, rfl⟩ := List.cons.inj same
        have apart := apart other (by simp)
        have each := next.each earlier other later rfl
        rw [calls earlier] at each
        simpa [mem_add_deleted, mem_add_deleteOnExit, apart] using each

/-- The files that the loop of a flush goes over. -/
def FlushContext.listed (context : FlushContext) : List ReportFile :=
  match context.reportsDir with
  | none => []
  | some dir => if dir.isThere && dir.canRead then dir.listFiles.getD [] else []

theorem FlushContext.listed_distinct (context : FlushContext) :
    (context.listed.map ReportFile.name).Nodup := by
  unfold FlushContext.listed
  split
  · exact List.nodup_nil
  · rename_i dir _
    split
    · cases listing : dir.listFiles with
      | none => exact List.nodup_nil
      | some files => exact dir.distinct files listing
    · exact List.nodup_nil

theorem flush_flushed (context : FlushContext) (platform : Platform) (lock : Nat) :
    Flushed context platform context.listed ⟨[], [], [], lock⟩
      (flushPendingReports (some context) platform ⟨[], [], [], lock⟩) := by
  have loop : Flushed context platform context.listed ⟨[], [], [], lock + 1⟩ _ :=
    flushed_loop context.listed_distinct fun _ _ => List.not_mem_nil
  have whole : flushPendingReports (some context) platform ⟨[], [], [], lock⟩ =
      { context.listed.foldl (flushReport context platform) ⟨[], [], [], lock + 1⟩ with
        lock := (context.listed.foldl (flushReport context platform) ⟨[], [], [], lock + 1⟩).lock - 1 } := by
    unfold flushPendingReports FlushContext.listed
    dsimp only
    cases context.reportsDir with
    | none => rfl
    | some dir =>
      dsimp only
      split
      · cases dir.listFiles <;> rfl
      · rfl
  rw [whole]
  exact
    { calls := loop.calls
      deleted := loop.deleted
      scheduled := loop.scheduled
      kept := loop.kept
      each := loop.each
      lock := by rw [loop.lock]; rfl }

/-- The start of the names that a method gets. -/
def ListenerMethod.namesStart : ListenerMethod → Text
  | .onNativeCrash => "crash-"
  | .onNativeException => "ex-"
  | .onApplicationNotResponding => "anr-"

/-- The first letter tells the names of the methods apart. -/
theorem startsWith_unique {name : Text} {method other : ListenerMethod}
    (one : startsWithIgnoreCase name method.namesStart = true)
    (another : startsWithIgnoreCase name other.namesStart = true) : method = other := by
  have head : ∀ m : ListenerMethod, startsWithIgnoreCase name m.namesStart = true →
      (name.map foldCase).head? = (m.namesStart.map foldCase).head? := by
    intro m starts
    obtain ⟨rest, whole⟩ := List.isPrefixOf_iff_prefix.mp starts
    rw [← whole]
    cases m <;> rfl
  have same := (head method one).symm.trans (head other another)
  revert same
  cases method <;> cases other <;> decide

theorem callbackFor_eq_some {name : Text} {method : ListenerMethod} :
    callbackFor name = some method ↔ startsWithIgnoreCase name method.namesStart = true := by
  unfold callbackFor
  constructor
  · intro found
    split at found
    · cases found
      assumption
    · split at found
      · cases found
        assumption
      · split at found <;> cases found
        assumption
  · intro starts
    have only : ∀ other : ListenerMethod,
        startsWithIgnoreCase name other.namesStart = true → method = other :=
      fun other => startsWith_unique starts
    split
    · rename_i named
      rw [only .onNativeCrash named]
    · rename_i uncrashed
      split
      · rename_i named
        rw [only .onNativeException named]
      · rename_i unexceptional
        split
        · rename_i named
          rw [only .onApplicationNotResponding named]
        · rename_i unnamed
          cases method with
          | onNativeCrash => exact absurd starts uncrashed
          | onNativeException => exact absurd starts unexceptional
          | onApplicationNotResponding => exact absurd starts unnamed

/-- Every name that begins with the start of a method is one of its names. -/
theorem startsWith_append (start rest : Text) : startsWithIgnoreCase (start ++ rest) start = true := by
  unfold startsWithIgnoreCase
  rw [List.map_append]
  exact List.isPrefixOf_iff_prefix.mpr (List.prefix_append _ _)

/-- The writers of `serializer.cpp`, each with the method for its reports. -/
def writers (storage : Storage) (native_context : NativeContext tgt) (buffer : Text)
    (buffsz : tgt.Word) : List (ListenerMethod × Option Stored) :=
  [(.onNativeCrash, fromCrash storage native_context buffer buffsz),
    (.onNativeException, fromException storage native_context buffer buffsz),
    (.onApplicationNotResponding, fromAnr storage native_context buffer buffsz)]

/-- A file in the directory that the writers know is named for its method. -/
theorem written_name {storage : Storage} {native_context : NativeContext tgt} {buffer name : Text}
    {buffsz : tgt.Word} {method : ListenerMethod} {stored : Stored}
    (written : (method, some stored) ∈ writers storage native_context buffer buffsz)
    (located : native_context.reportPathAbsolute.text ++ "/" ++ name = stored.path) :
    callbackFor name = some method := by
  have path : ∃ rest, stored.path =
      native_context.reportPathAbsolute.text ++ "/" ++ (method.namesStart ++ rest) := by
    have stored_path : ∀ {start : Text}, (toStorage storage native_context start buffer buffsz).2 =
        some stored → ∃ rest, stored.path =
          native_context.reportPathAbsolute.text ++ "/" ++ (start ++ rest) := by
      intro start written
      unfold toStorage at written
      dsimp only at written
      split at written <;> cases written
      exact ⟨storage.wallTime ++ zeroPad 3 (decimal storage.millis), by
        simp only [generateTmpFilename, List.append_assoc]⟩
    simp only [writers, List.mem_cons, Prod.mk.injEq, List.not_mem_nil, or_false] at written
    rcases written with ⟨rfl, written⟩ | ⟨rfl, written⟩ | ⟨rfl, written⟩ <;>
      exact stored_path written.symm
  obtain ⟨rest, path⟩ := path
  have same : name = method.namesStart ++ rest := List.append_cancel_left (located.trans path)
  rw [callbackFor_eq_some, same]
  exact startsWith_append _ _

/-- What a flush with a listener is for. -/
structure OffersEach (context : FlushContext) (listener : AgentNDKListener) (platform : Platform)
    (lock : Nat) (after : Flush) : Prop where
  /-- one callback for each listed file that has one, in the order of the listing -/
  calls : after.calls =
    context.listed.filterMap fun report => report.offer.map fun call => (report.name, call)
  /-- it is the one for the name of the file, and has its whole text -/
  offer : ∀ (report : ReportFile) (call : Callback), report.offer = some call ↔
    startsWithIgnoreCase report.name call.method.namesStart = true ∧ report.text = some call.text
  /-- only listed files are deleted, -/
  deleted : ∀ name ∈ after.deleted, name ∈ context.listed.map ReportFile.name
  /-- and a file is deleted or scheduled by its own outcome, given what the
  listener answers to it -/
  each : ∀ earlier report later, context.listed = earlier ++ report :: later →
    let answer := listener (earlier.filterMap ReportFile.offer)
    (report.name ∈ after.deleted ↔ ∃ call, report.offer = some call ∧
      answer call = .returned true ∧ platform.delete report.name = true) ∧
    (report.name ∈ after.deleteOnExit ↔ (report.outcome context platform answer).scheduled = true)
  /-- so the rest of the listing does not matter to it, unless the listener has
  the answer depend on its earlier callbacks -/
  apart : ∀ (other : FlushContext) (report : ReportFile), other.nativeReportListener = some listener →
    other.expirationPeriod = context.expirationPeriod → report ∈ context.listed →
    report ∈ other.listed → (∀ calls, listener calls = listener []) →
    let others := flushPendingReports (some other) platform ⟨[], [], [], lock⟩
    (report.name ∈ after.deleted ↔ report.name ∈ others.deleted) ∧
      (report.name ∈ after.deleteOnExit ↔ report.name ∈ others.deleteOnExit)
  lock : after.lock = lock
  /-- what a writer of `serializer.cpp` has stored gets to its method -/
  written : ∀ (tgt : Target) (storage : Storage) (native_context : NativeContext tgt) (buffer : Text)
    (buffsz : tgt.Word) (method : ListenerMethod) (stored : Stored) (report : ReportFile) (text : Text),
    (method, some stored) ∈ writers storage native_context buffer buffsz → report ∈ context.listed →
    native_context.reportPathAbsolute.text ++ "/" ++ report.name = stored.path →
    report.text = some text → (report.name, ⟨method, text⟩) ∈ after.calls

theorem ReportFile.offer_eq_some (report : ReportFile) (call : Callback) : report.offer = some call ↔
    startsWithIgnoreCase report.name call.method.namesStart = true ∧ report.text = some call.text := by
  rw [← callbackFor_eq_some]
  constructor
  · intro offered
    obtain ⟨method, named, offered⟩ := Option.bind_eq_some_iff.mp offered
    obtain ⟨text, read, offered⟩ := Option.bind_eq_some_iff.mp offered
    cases offered
    exact ⟨named, read⟩
  · rintro ⟨named, read⟩
    simp [ReportFile.offer, named, read]

theorem heard_before {context : FlushContext} {listener : AgentNDKListener}
    (listening : context.nativeReportListener = some listener) (earlier : List ReportFile) :
    context.answer ([] ++ offers context earlier) = listener (earlier.filterMap ReportFile.offer) := by
  have heard : (offers context earlier).map Prod.snd = earlier.filterMap ReportFile.offer := by
    simp only [offers, listening, Option.isSome_some, if_true, List.map_filterMap]
    congr 1
    funext report
    cases report.offer <;> rfl
  funext call
  simp only [FlushContext.answer, listening, List.nil_append, heard]

/-- What becomes of a file in the flush is its own outcome. -/
theorem flush_outcome {context : FlushContext} {listener : AgentNDKListener}
    (listening : context.nativeReportListener = some listener) (platform : Platform) (lock : Nat)
    {earlier later : List ReportFile} {report : ReportFile}
    (split : context.listed = earlier ++ report :: later) :
    let after := flushPendingReports (some context) platform ⟨[], [], [], lock⟩
    let outcome := report.outcome context platform (listener (earlier.filterMap ReportFile.offer))
    (report.name ∈ after.deleted ↔ outcome.deleted = true) ∧
      (report.name ∈ after.deleteOnExit ↔ outcome.scheduled = true) := by
  have each := (flush_flushed context platform lock).each earlier report later split
  rw [heard_before listening] at each
  simpa only [List.not_mem_nil, false_or] using each

/-- A flush offers every report to the listener once, deletes those it has
consumed, and releases the lock. -/
theorem flush_offers_each {context : FlushContext} {listener : AgentNDKListener}
    (listening : context.nativeReportListener = some listener) (platform : Platform) (lock : Nat) :
    OffersEach context listener platform lock
      (flushPendingReports (some context) platform ⟨[], [], [], lock⟩) := by
  have flushed := flush_flushed context platform lock
  have calls := flushed.calls
  simp only [offers, listening, Option.isSome_some, if_true, List.nil_append] at calls
  refine
    { calls := calls
      offer := ReportFile.offer_eq_some
      deleted := fun name deleted => (flushed.deleted name deleted).resolve_left List.not_mem_nil
      each := fun earlier report later split => ?_
      apart := fun other report same period listed others constant => ?_
      lock := flushed.lock
      written := fun tgt storage native_context buffer buffsz method stored report text written listed
        located read => ?_ }
  · obtain ⟨deleted, scheduled⟩ := flush_outcome listening platform lock split
    refine ⟨deleted.trans ?_, scheduled⟩
    simp only [ReportFile.outcome, listening, Option.isSome_some, if_true, decide_eq_true_eq,
      Option.map_eq_some_iff]
    constructor
    · rintro ⟨⟨call, offered, answered⟩, removable⟩
      exact ⟨call, offered, answered, removable⟩
    · rintro ⟨call, offered, answered, removable⟩
      exact ⟨⟨call, offered, answered⟩, removable⟩
  · obtain ⟨earlier, later, split⟩ := List.append_of_mem listed
    obtain ⟨before, behind, divide⟩ := List.append_of_mem others
    have here := flush_outcome listening platform lock split
    have there := flush_outcome same platform lock divide
    have outcome : report.outcome other platform (listener []) =
        report.outcome context platform (listener []) := by
      simp only [ReportFile.outcome, isExpired, same, listening, period]
    rw [constant, ← outcome] at here
    rw [constant] at there
    exact ⟨here.1.trans there.1.symm, here.2.trans there.2.symm⟩
  · have named := callbackFor_eq_some.mp (written_name written located)
    have offer := (ReportFile.offer_eq_some report ⟨method, text⟩).mpr ⟨named, read⟩
    rw [calls]
    exact List.mem_filterMap.mpr ⟨report, listed, by rw [offer]; rfl⟩

/-- Three reports and another file. -/
def mixedDir : ReportsDir where
  isThere := true
  canRead := true
  listFiles := some [⟨"crash-1", some "a", 0⟩, ⟨"EX-2", some "b", 0⟩, ⟨"notes", none, 0⟩,
    ⟨"anr-3", some "c", 0⟩]
  distinct := by
    rintro files ⟨⟩
    decide

/-- A crash is consumed, an exception is not, and the callback for an ANR throws. -/
def mixedListener : AgentNDKListener := fun _ call =>
  match call.method with
  | .onNativeCrash => .returned true
  | .onNativeException => .returned false
  | .onApplicationNotResponding => .thrown

theorem flush_offers_each_mixed :
    let context : FlushContext := ⟨some mixedDir, some mixedListener, 60⟩
    let platform : Platform := ⟨fun _ => 0, fun _ => true, fun _ => by omega⟩
    let after := flushPendingReports (some context) platform ⟨[], [], [], 0⟩
    OffersEach context mixedListener platform 0 after ∧ after.deleted = ["crash-1"] :=
  ⟨flush_offers_each rfl _ 0, by decide⟩

end AgentNDK
