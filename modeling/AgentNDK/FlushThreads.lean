import AgentNDK.PendingReports
import AgentNDK.Library.Threads

namespace AgentNDK
open CText Runs Threads
variable {τ : Type}

/-- What a call of `flushPendingReports` goes by. -/
structure FlushSession where
  nativeReportListener : Option AgentNDKListener
  expirationPeriod : Int
  platform : Platform

/-- The context that the expiry test reads. -/
def FlushSession.context (session : FlushSession) (reportsDir : Option ReportsDir) : FlushContext :=
  ⟨reportsDir, session.nativeReportListener, session.expirationPeriod⟩

/-- Where a thread is in `flushPendingReports`, or in `to_storage`. -/
inductive FlushPlace
  | idle
  /-- before `lock.lock()` -/
  | waiting (session : FlushSession)
  | listing (session : FlushSession)
  /-- in the loop, with the names that are left; at the end the lock is released -/
  | testing (session : FlushSession) (rest : List Text)
  /-- before `readText` and the callback -/
  | reading (session : FlushSession) (listener : AgentNDKListener) (method : ListenerMethod) (name : Text)
      (rest : List Text)
  | deleting (session : FlushSession) (name : Text) (rest : List Text)
  /-- before the last `exists` of `postReport` -/
  | posted (session : FlushSession) (name : Text) (rest : List Text)
  | expiring (session : FlushSession) (name : Text) (rest : List Text)
  /-- a report is being written, with what is left of it -/
  | writing (name left : Text)

/-- Between `lock` and `unlock`. -/
def FlushPlace.inside : FlushPlace → Bool
  | .idle | .waiting _ | .writing _ _ => false
  | _ => true

/-- The file that the thread has open for writing. -/
def FlushPlace.writes : FlushPlace → Option Text
  | .writing name _ => some name
  | _ => none

structure ReportStore (τ : Type) where
  /-- the report directory -/
  files : List ReportFile
  /-- the reports stored so far, by name -/
  payloads : List (Text × Text)
  /-- the files that are open for writing, and those closed before their end -/
  writers : List Text
  cut : List Text
  flush : Flush
  /-- the callbacks that returned true, each with the file it was for -/
  consumed : List (Text × Callback)
  /-- the flushes, as they took the lock -/
  sessions : List FlushSession
  /-- the thread that has the lock -/
  owner : Option τ

inductive FlushMove
  | flush (session : FlushSession)
  /-- what `exists`, `canRead` and `listFiles` answer, in whatever order -/
  | list (names : Option (List Text))
  | advance
  /-- `to_storage` opens a file, at this time -/
  | store (name payload : Text) (now : Int)
  /-- so many more characters are in the file -/
  | write (count : Nat) (now : Int)
  | close

namespace ReportStore

/-- A directory with these files, before the first flush. -/
def start (files : List ReportFile) : ReportStore τ where
  files := files
  payloads := files.map fun file => (file.name, file.text.getD [])
  writers := []
  cut := []
  flush := ⟨[], [], [], 0⟩
  consumed := []
  sessions := []
  owner := none

def find (s : ReportStore τ) (name : Text) : Option ReportFile :=
  s.files.find? (·.name = name)

/-- The file, if it is still there, gets this text and time. -/
def rewrite (s : ReportStore τ) (name : Text) (added : Text) (now : Int) : ReportStore τ :=
  { s with
    files := s.files.map fun file =>
      if file.name = name then ⟨name, some (file.text.getD [] ++ added), now⟩ else file }

/-- The callback, with what the listener makes of it. -/
def call (s : ReportStore τ) (listener : AgentNDKListener) (name : Text) (callback : Callback) :
    Response × ReportStore τ :=
  let response := listener (s.flush.calls.map Prod.snd) callback
  (response,
    { s with
      flush := { s.flush with calls := s.flush.calls ++ [(name, callback)] }
      consumed := if response = .returned true then s.consumed ++ [(name, callback)] else s.consumed })

def delete (s : ReportStore τ) (name : Text) : ReportStore τ :=
  { s with
    files := s.files.filter (·.name ≠ name)
    flush := { s.flush with deleted := s.flush.deleted ++ [name] } }

def deleteOnExit (s : ReportStore τ) (name : Text) : ReportStore τ :=
  { s with flush := { s.flush with deleteOnExit := s.flush.deleteOnExit ++ [name] } }

end ReportStore

/-- The next step of a thread; `none` while it waits for the lock. A report is
stored under a name that none has had before. -/
def flushAct (t : τ) (place : FlushPlace) (s : ReportStore τ) (move : FlushMove) :
    Option (FlushPlace × ReportStore τ) :=
  match place, move with
  | .idle, .flush session => some (.waiting session, s)
  | .waiting session, .advance =>
    if s.owner.isNone then
      some (.listing session,
        { s with
          owner := some t
          sessions := s.sessions ++ [session]
          flush := { s.flush with lock := s.flush.lock + 1 } })
    else none
  | .listing session, .list none => some (.testing session [], s)
  | .listing session, .list (some names) =>
    if names.Perm (s.files.map (·.name)) then some (.testing session names, s) else none
  | .testing _ [], .advance =>
    some (.idle, { s with owner := none, flush := { s.flush with lock := s.flush.lock - 1 } })
  | .testing session (name :: rest), .advance =>
    if (s.find name).isSome then
      match session.nativeReportListener, callbackFor name with
      | some listener, some method => some (.reading session listener method name rest, s)
      | _, _ => some (.posted session name rest, s)
    else some (.expiring session name rest, s)
  | .reading session listener method name rest, .advance =>
    match (s.find name).bind (·.text) with
    | none => some (.expiring session name rest, s)
    | some text =>
      match s.call listener name ⟨method, text⟩ with
      | (.thrown, s) => some (.expiring session name rest, s)
      | (.returned true, s) => some (.deleting session name rest, s)
      | (.returned false, s) => some (.posted session name rest, s)
  | .deleting session name rest, .advance =>
    some (.posted session name rest,
      if (s.find name).isSome ∧ session.platform.delete name then s.delete name else s)
  | .posted session name rest, .advance =>
    some (if (s.find name).isSome then .expiring session name rest else .testing session rest, s)
  | .expiring session name rest, .advance =>
    some (.testing session rest,
      if (s.find name).any (isExpired (session.context none) session.platform) then s.deleteOnExit name
      else s)
  | .idle, .store name payload now =>
    if s.payloads.any (·.1 = name) then none
    else
      some (.writing name payload,
        { s with
          files := s.files ++ [⟨name, some [], now⟩]
          payloads := s.payloads ++ [(name, payload)]
          writers := s.writers ++ [name] })
  | .writing name left, .write count now =>
    some (.writing name (left.drop count), s.rewrite name (left.take count) now)
  | .writing name left, .close =>
    some (.idle,
      { s with
        writers := s.writers.filter (· ≠ name)
        cut := if left = [] then s.cut else s.cut ++ [name] })
  | _, _ => none

abbrev FlushThreads (τ : Type) := Pool τ FlushPlace (ReportStore τ)

def FlushThreads.start (files : List ReportFile) : FlushThreads τ :=
  ⟨fun _ => .idle, .start files⟩

def FlushThreads.step [DecidableEq τ] (s : FlushThreads τ) (turn : τ × FlushMove) : Option (FlushThreads τ) :=
  Pool.step flushAct s turn

namespace ReportStore
variable {s s' : ReportStore τ} {name text : Text}

/-- The names that are taken. -/
def names (s : ReportStore τ) : List Text :=
  s.payloads.map Prod.fst

/-- The names in the directory. -/
def fileNames (s : ReportStore τ) : List Text :=
  s.files.map (·.name)

/-- A text that the file of this name can have: what is written of its report,
and all of it once the file is closed after its end. -/
def Holds (s : ReportStore τ) (name text : Text) : Prop :=
  ∃ payload, (name, payload) ∈ s.payloads ∧ text <+: payload ∧
    (text = payload ∨ name ∈ s.writers ∨ name ∈ s.cut)

structure Sound (s : ReportStore τ) : Prop where
  files : s.fileNames.Nodup
  payloads : s.names.Nodup
  stored : ∀ file ∈ s.files, ∀ text, file.text = some text → s.Holds file.name text
  /-- a report is there or deleted, -/
  kept : ∀ name, name ∈ s.names ↔ name ∈ s.fileNames ∨ name ∈ s.flush.deleted
  gone : ∀ name ∈ s.flush.deleted, name ∉ s.fileNames
  once : s.flush.deleted.Nodup
  /-- and deleted for a callback that returned true -/
  consumed : ∀ name ∈ s.flush.deleted, name ∈ s.consumed.map Prod.fst

/-- What is in the file, if it is there, and what is left to write make up the report. -/
def Writing (s : ReportStore τ) (name left : Text) : Prop :=
  name ∈ s.writers ∧ ∃ payload, (name, payload) ∈ s.payloads ∧
    ∀ file ∈ s.files, file.name = name → ∃ text, file.text = some text ∧ text ++ left = payload

/-- A file as a flush can see it while the report of its name is written. -/
def Saw (s : ReportStore τ) (file : ReportFile) : Prop :=
  ∃ payload, (file.name, payload) ∈ s.payloads ∧ ∀ text, file.text = some text → text <+: payload

end ReportStore

/-- A flush that is over, with the files as it saw them one after the other. -/
structure SeenFlush where
  session : FlushSession
  files : List ReportFile
  distinct : (files.map ReportFile.name).Nodup

/-- The directory that would have been seen at once. -/
def SeenFlush.context (seen : SeenFlush) : FlushContext :=
  seen.session.context (some
    { isThere := true
      canRead := true
      listFiles := some seen.files
      distinct := by
        rintro files ⟨⟩
        exact seen.distinct })

/-- The flushes, each as one call of `flushPendingReports`. -/
def serial (past : List SeenFlush) : Flush :=
  past.foldl (fun s seen => flushPendingReports (some seen.context) seen.session.platform s) ⟨[], [], [], 0⟩

/-- After the files so far of a flush, with the lock held. -/
def underLock (session : FlushSession) (past : List SeenFlush) (done : List ReportFile) : Flush :=
  done.foldl (flushReport (session.context none) session.platform)
    { serial past with lock := (serial past).lock + 1 }

/-- What is seen by the flushes, and is left to the one under way. -/
structure ReportStore.Underway (s : ReportStore τ) (session : FlushSession) (past : List SeenFlush)
    (done : List ReportFile) (rest : List Text) : Prop where
  sessions : s.sessions = past.map SeenFlush.session ++ [session]
  earlier : ∀ seen ∈ past, ∀ file ∈ seen.files, s.Saw file
  now : ∀ file ∈ done, s.Saw file
  distinct : (done.map ReportFile.name ++ rest).Nodup
  stored : ∀ name ∈ rest, name ∈ s.names

/-- What a thread knows of the state at its place: how far `postReport` has come
with the file. -/
def FlushPlace.Knows : FlushPlace → ReportStore τ → Prop
  | .idle, _ | .waiting _, _ => True
  | .writing name left, s => s.Writing name left
  | .listing session, s => ∃ past, s.Underway session past [] [] ∧ s.flush = underLock session past []
  | .testing session rest, s =>
    ∃ past done, s.Underway session past done rest ∧ s.flush = underLock session past done
  | .reading session listener method name rest, s =>
    ∃ past done, s.Underway session past done (name :: rest) ∧ s.flush = underLock session past done ∧
      session.nativeReportListener = some listener ∧ callbackFor name = some method ∧ name ∉ s.flush.deleted
  | .deleting session name rest, s =>
    ∃ past done text, s.Underway session past done (name :: rest) ∧ s.Saw ⟨name, text, 0⟩ ∧
      name ∉ s.flush.deleted ∧ name ∈ s.consumed.map Prod.fst ∧
      postReport session.nativeReportListener session.platform ⟨name, text, 0⟩ (underLock session past done) =
        let after := if session.platform.delete name then
          { s.flush with deleted := s.flush.deleted ++ [name] } else s.flush
        (some (!after.finds ⟨name, text, 0⟩), after)
  | .posted session name rest, s =>
    ∃ past done text, s.Underway session past done (name :: rest) ∧ s.Saw ⟨name, text, 0⟩ ∧
      postReport session.nativeReportListener session.platform ⟨name, text, 0⟩ (underLock session past done) =
        (some (!s.flush.finds ⟨name, text, 0⟩), s.flush)
  | .expiring session name rest, s =>
    ∃ past done text posted, s.Underway session past done (name :: rest) ∧ s.Saw ⟨name, text, 0⟩ ∧
      posted ≠ some true ∧
      postReport session.nativeReportListener session.platform ⟨name, text, 0⟩ (underLock session past done) =
        (posted, s.flush)

structure FlushPlace.Relies (t : τ) (place : FlushPlace) (s : ReportStore τ) : Prop where
  owner : s.owner = some t ↔ place.inside = true
  knows : place.Knows s

/-- While no thread has the lock, the flushes so far come to serial ones. -/
def ReportStore.Settled (s : ReportStore τ) : Prop :=
  s.owner = none → ∃ past, s.sessions = past.map SeenFlush.session ∧ s.flush = serial past ∧
    ∀ seen ∈ past, ∀ file ∈ seen.files, s.Saw file

/-- No two threads write one file. -/
def flushOutline : Outline τ FlushPlace (ReportStore τ) where
  always := fun s => s.Sound ∧ s.Settled
  relies := FlushPlace.Relies
  apart := fun place other => ∀ name, place.writes = some name → other.writes ≠ some name

end AgentNDK
