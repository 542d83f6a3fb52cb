import AgentNDK.FlushThreads

namespace AgentNDK
open CText Runs Threads
variable {τ : Type}

namespace ReportStore
variable {s s' : ReportStore τ} {name text : Text}

theorem mem_names {payload : Text} (stored : (name, payload) ∈ s.payloads) : name ∈ s.names :=
  List.mem_map_of_mem stored

theorem find_eq_some {file : ReportFile} (found : s.find name = some file) : file ∈ s.files ∧ file.name = name :=
  ⟨List.mem_of_find?_eq_some found, by simpa using List.find?_some found⟩

theorem find_isSome : (s.find name).isSome = true ↔ name ∈ s.fileNames := by
  simp [find, fileNames]

/-- A stored report is there until a flush deletes it. -/
theorem Sound.find_isSome_iff (sound : s.Sound) (stored : name ∈ s.names) :
    (s.find name).isSome = true ↔ name ∉ s.flush.deleted := by
  rw [find_isSome]
  exact ⟨fun there deleted => sound.gone name deleted there, ((sound.kept name).mp stored).resolve_right⟩

theorem Holds.imp (holds : s.Holds name text) (payloads : ∀ entry ∈ s.payloads, entry ∈ s'.payloads)
    (opened : name ∈ s.writers → name ∈ s'.writers) (cut : name ∈ s.cut → name ∈ s'.cut) :
    s'.Holds name text := by
  obtain ⟨payload, stored, start, whole⟩ := holds
  exact ⟨payload, payloads _ stored, start, whole.imp_right (Or.imp opened cut)⟩

/-- The lock, the callbacks and the exit hooks do not touch the files. -/
theorem Sound.same (sound : s.Sound) (files : s'.files = s.files) (payloads : s'.payloads = s.payloads)
    (writers : s'.writers = s.writers) (cut : s'.cut = s.cut) (deleted : s'.flush.deleted = s.flush.deleted)
    (consumed : ∀ entry ∈ s.consumed, entry ∈ s'.consumed) : s'.Sound where
  files := by rw [fileNames, files]; exact sound.files
  payloads := by rw [names, payloads]; exact sound.payloads
  stored := by
    rw [files]
    intro file member text read
    exact (sound.stored file member text read).imp (by rw [payloads]; exact fun _ => id)
      (by rw [writers]; exact id) (by rw [cut]; exact id)
  kept := by rw [names, fileNames, files, payloads, deleted]; exact sound.kept
  gone := by rw [fileNames, files, deleted]; exact sound.gone
  once := deleted ▸ sound.once
  consumed := by
    rw [deleted]
    intro name gone
    obtain ⟨entry, member, same⟩ := List.mem_map.mp (sound.consumed name gone)
    exact List.mem_map.mpr ⟨entry, consumed entry member, same⟩

theorem mem_delete {other : Text} : other ∈ (s.delete name).fileNames ↔ other ∈ s.fileNames ∧ other ≠ name := by
  simp only [delete, fileNames, List.mem_map, List.mem_filter, decide_eq_true_eq]
  constructor
  · rintro ⟨file, ⟨member, different⟩, rfl⟩
    exact ⟨⟨file, member, rfl⟩, different⟩
  · rintro ⟨⟨file, member, rfl⟩, different⟩
    exact ⟨file, ⟨member, different⟩, rfl⟩

theorem sound_delete (sound : s.Sound) (there : name ∈ s.fileNames)
    (consumed : name ∈ s.consumed.map Prod.fst) : (s.delete name).Sound where
  files := sound.files.sublist (List.filter_sublist.map _)
  payloads := sound.payloads
  stored := fun file member => sound.stored file (List.mem_of_mem_filter member)
  kept := by
    intro other
    rw [mem_delete]
    change other ∈ s.names ↔ _ ∨ other ∈ s.flush.deleted ++ [name]
    rw [List.mem_append, List.mem_singleton, sound.kept other]
    by_cases same : other = name
    · subst same
      simp [there]
    · simp [same]
  gone := by
    intro other deleted member
    obtain ⟨member, different⟩ := mem_delete.mp member
    rcases List.mem_append.mp deleted with before | now
    · exact sound.gone other before member
    · exact different (List.mem_singleton.mp now)
  once := sound.once.append (List.nodup_singleton _)
    (List.disjoint_singleton.mpr fun deleted => sound.gone name deleted there)
  consumed := by
    intro other deleted
    rcases List.mem_append.mp deleted with before | now
    · exact sound.consumed other before
    · rw [List.mem_singleton.mp now]
      exact consumed

/-- A report is stored under a name of its own. -/
theorem sound_store (sound : s.Sound) (new : name ∉ s.names) (payload : Text) (now : Int) :
    Sound { s with
      files := s.files ++ [⟨name, some [], now⟩]
      payloads := s.payloads ++ [(name, payload)]
      writers := s.writers ++ [name] } where
  files := by
    rw [fileNames, List.map_append]
    exact sound.files.append (List.nodup_singleton _)
      (List.disjoint_singleton.mpr fun there => new ((sound.kept name).mpr (Or.inl there)))
  payloads := by
    rw [names, List.map_append]
    exact sound.payloads.append (List.nodup_singleton _) (List.disjoint_singleton.mpr new)
  stored := by
    intro file member text read
    rcases List.mem_append.mp member with before | now
    · exact (sound.stored file before text read).imp (fun _ => List.mem_append_left _)
        (List.mem_append_left _) id
    · cases List.mem_singleton.mp now
      cases read
      exact ⟨payload, List.mem_append_right _ (List.mem_singleton_self _), List.nil_prefix,
        Or.inr (Or.inl (List.mem_append_right _ (List.mem_singleton_self _)))⟩
  kept := by
    intro other
    rw [names, fileNames, List.map_append, List.map_append, List.mem_append, List.mem_append]
    change _ ∨ other ∈ [name] ↔ (_ ∨ other ∈ [name]) ∨ _
    rw [or_right_comm]
    exact or_congr_left (sound.kept other)
  gone := by
    intro other deleted member
    rw [fileNames, List.map_append, List.mem_append, List.map_singleton, List.mem_singleton] at member
    rcases member with before | rfl
    · exact sound.gone other deleted before
    · exact new ((sound.kept _).mpr (Or.inr deleted))
  once := sound.once
  consumed := sound.consumed

theorem fileNames_rewrite (s : ReportStore τ) (name added : Text) (now : Int) :
    (s.rewrite name added now).fileNames = s.fileNames := by
  simp only [rewrite, fileNames, List.map_map]
  refine List.map_congr_left fun file _ => ?_
  simp only [Function.comp]
  split
  · symm
    assumption
  · rfl

/-- What a file is after a rewrite: another one as it was, or this one with more. -/
theorem mem_rewrite {file : ReportFile} {added : Text} {now : Int}
    (member : file ∈ (s.rewrite name added now).files) :
    (file.name ≠ name ∧ file ∈ s.files) ∨
      (file.name = name ∧ ∃ before ∈ s.files, before.name = name ∧
        file.text = some (before.text.getD [] ++ added)) := by
  obtain ⟨before, was, same⟩ := List.mem_map.mp member
  split at same <;> subst same
  · exact Or.inr ⟨rfl, before, was, ‹_›, rfl⟩
  · exact Or.inl ⟨‹_›, was⟩

/-- What is written is the next of the report. -/
theorem sound_rewrite {left : Text} (sound : s.Sound) (writing : s.Writing name left) (count : Nat) (now : Int) :
    (s.rewrite name (left.take count) now).Sound where
  files := by
    rw [fileNames_rewrite]
    exact sound.files
  payloads := sound.payloads
  stored := by
    intro file member text read
    rcases mem_rewrite member with ⟨_, before⟩ | ⟨rfl, before, member, named, written⟩
    · exact sound.stored file before text read
    · obtain ⟨opened, payload, stored, parts⟩ := writing
      obtain ⟨prior, had, whole⟩ := parts before member named
      rw [written, had] at read
      cases read
      refine ⟨payload, stored, ?_, Or.inr (Or.inl opened)⟩
      rw [← whole]
      exact List.prefix_append_right_inj _ |>.mpr (List.take_prefix ..)
  kept := by
    rw [fileNames_rewrite]
    exact sound.kept
  gone := by
    rw [fileNames_rewrite]
    exact sound.gone
  once := sound.once
  consumed := sound.consumed

theorem Writing.rewrite {left : Text} (writing : s.Writing name left) (count : Nat) (now : Int) :
    (s.rewrite name (left.take count) now).Writing name (left.drop count) := by
  obtain ⟨opened, payload, stored, parts⟩ := writing
  refine ⟨opened, payload, stored, fun file member named => ?_⟩
  rcases mem_rewrite member with ⟨different, _⟩ | ⟨_, before, member, named, written⟩
  · exact absurd named different
  · obtain ⟨prior, had, whole⟩ := parts before member named
    refine ⟨_, written, ?_⟩
    rw [had, Option.getD_some, List.append_assoc, List.take_append_drop, whole]

/-- A file that is closed has its whole report, or is cut. -/
theorem sound_close {left : Text} (sound : s.Sound) (writing : s.Writing name left) :
    Sound { s with
      writers := s.writers.filter (· ≠ name)
      cut := if left = [] then s.cut else s.cut ++ [name] } where
  files := sound.files
  payloads := sound.payloads
  stored := by
    intro file member text read
    by_cases named : file.name = name
    · obtain ⟨_, payload, stored, parts⟩ := writing
      obtain ⟨prior, had, whole⟩ := parts file member named
      cases had.symm.trans read
      rw [named]
      refine ⟨payload, stored, ⟨left, whole⟩, ?_⟩
      by_cases ended : left = []
      · rw [ended, List.append_nil] at whole
        exact Or.inl whole
      · rw [if_neg ended]
        exact Or.inr (Or.inr (List.mem_append_right _ (List.mem_singleton_self _)))
    · refine (sound.stored file member text read).imp (fun _ => id) (fun opened => ?_) fun cut => ?_
      · exact List.mem_filter.mpr ⟨opened, by simpa using named⟩
      · split
        · exact cut
        · exact List.mem_append_left _ cut
  kept := sound.kept
  gone := sound.gone
  once := sound.once
  consumed := sound.consumed

/-- What a step leaves alone: the flush under way of another thread, and the
files that this one does not write. -/
structure Spares (t : τ) (own : Option Text) (s s' : ReportStore τ) : Prop where
  payloads : ∀ entry ∈ s.payloads, entry ∈ s'.payloads
  owner : ∀ u, u ≠ t → (s'.owner = some u ↔ s.owner = some u)
  flush : ∀ u, u ≠ t → s.owner = some u →
    s'.flush = s.flush ∧ s'.sessions = s.sessions ∧ s'.consumed = s.consumed
  files : ∀ file ∈ s'.files, own ≠ some file.name → file ∈ s.files ∨ file.name ∉ s.names
  writers : ∀ name ∈ s.writers, own ≠ some name → name ∈ s'.writers

section Spared
variable {t u : τ} {own : Option Text}

theorem Saw.mono {file : ReportFile} (saw : s.Saw file) (payloads : ∀ entry ∈ s.payloads, entry ∈ s'.payloads) :
    s'.Saw file := by
  obtain ⟨payload, stored, start⟩ := saw
  exact ⟨payload, payloads _ stored, start⟩

theorem names_mono (payloads : ∀ entry ∈ s.payloads, entry ∈ s'.payloads) (stored : name ∈ s.names) :
    name ∈ s'.names := by
  obtain ⟨entry, member, rfl⟩ := List.mem_map.mp stored
  exact mem_names (payloads entry member)

theorem Underway.mono {session : FlushSession} {past : List SeenFlush} {done : List ReportFile}
    {rest : List Text} (underway : s.Underway session past done rest)
    (payloads : ∀ entry ∈ s.payloads, entry ∈ s'.payloads) (sessions : s'.sessions = s.sessions) :
    s'.Underway session past done rest where
  sessions := sessions.trans underway.sessions
  earlier := fun seen member file seen_file => (underway.earlier seen member file seen_file).mono payloads
  now := fun file member => (underway.now file member).mono payloads
  distinct := underway.distinct
  stored := fun name member => names_mono payloads (underway.stored name member)

theorem Settled.mono (settled : s.Settled) (payloads : ∀ entry ∈ s.payloads, entry ∈ s'.payloads)
    (sessions : s'.sessions = s.sessions) (flush : s'.flush = s.flush)
    (free : s'.owner = none → s.owner = none) : s'.Settled := by
  intro unowned
  obtain ⟨past, same, whole, saw⟩ := settled (free unowned)
  exact ⟨past, sessions.trans same, flush.trans whole, fun seen member file listed =>
    (saw seen member file listed).mono payloads⟩

theorem Spares.knows {place : FlushPlace} (spares : Spares t own s s') (different : u ≠ t)
    (owner : s.owner = some u ↔ place.inside = true) (apart : ∀ name, place.writes = some name → own ≠ some name)
    (knows : place.Knows s) : place.Knows s' := by
  have kept : place.inside = true →
      s'.flush = s.flush ∧ s'.sessions = s.sessions ∧ s'.consumed = s.consumed :=
    fun inside => spares.flush u different (owner.mpr inside)
  cases place with
  | idle | waiting _ => trivial
  | writing name left =>
    obtain ⟨opened, payload, stored, parts⟩ := knows
    refine ⟨spares.writers name opened (apart name rfl), payload, spares.payloads _ stored, ?_⟩
    intro file member named
    rcases spares.files file member (named ▸ apart name rfl) with before | new
    · exact parts file before named
    · exact absurd (named ▸ mem_names stored) new
  | listing session =>
    obtain ⟨flush, sessions, _⟩ := kept rfl
    obtain ⟨past, underway, reached⟩ := knows
    exact ⟨past, underway.mono spares.payloads sessions, flush.trans reached⟩
  | testing session rest =>
    obtain ⟨flush, sessions, _⟩ := kept rfl
    obtain ⟨past, done, underway, reached⟩ := knows
    exact ⟨past, done, underway.mono spares.payloads sessions, flush.trans reached⟩
  | reading session listener method name rest =>
    obtain ⟨flush, sessions, _⟩ := kept rfl
    obtain ⟨past, done, underway, reached, offers⟩ := knows
    exact ⟨past, done, underway.mono spares.payloads sessions, flush.trans reached, flush ▸ offers⟩
  | deleting session name rest =>
    obtain ⟨flush, sessions, consumed⟩ := kept rfl
    obtain ⟨past, done, text, underway, saw, there, called, reached⟩ := knows
    exact ⟨past, done, text, underway.mono spares.payloads sessions, saw.mono spares.payloads,
      flush ▸ there, consumed ▸ called, flush ▸ reached⟩
  | posted session name rest =>
    obtain ⟨flush, sessions, _⟩ := kept rfl
    obtain ⟨past, done, text, underway, saw, reached⟩ := knows
    exact ⟨past, done, text, underway.mono spares.payloads sessions, saw.mono spares.payloads, flush ▸ reached⟩
  | expiring session name rest =>
    obtain ⟨flush, sessions, _⟩ := kept rfl
    obtain ⟨past, done, text, posted, underway, saw, reached⟩ := knows
    exact ⟨past, done, text, posted, underway.mono spares.payloads sessions, saw.mono spares.payloads,
      flush ▸ reached⟩

end Spared

end ReportStore

section Posting
variable {listener : Option AgentNDKListener} {platform : Platform} {report : ReportFile} {flush : Flush}

theorem postReport_gone (gone : report.name ∈ flush.deleted) :
    postReport listener platform report flush = (some false, flush) := by
  unfold postReport
  rw [if_neg (by simpa [Flush.finds] using gone)]

theorem postReport_uncalled (there : report.name ∉ flush.deleted)
    (uncalled : listener = none ∨ callbackFor report.name = none) :
    postReport listener platform report flush = (some (!flush.finds report), flush) := by
  unfold postReport
  rw [if_pos (by simpa [Flush.finds] using there)]
  rcases uncalled with rfl | unnamed
  · rfl
  · cases listener with
    | none => rfl
    | some listener => rw [unnamed]

theorem postReport_unread {answer : AgentNDKListener} {method : ListenerMethod}
    (listening : listener = some answer) (named : callbackFor report.name = some method)
    (there : report.name ∉ flush.deleted) (unread : report.text = none) :
    postReport listener platform report flush = (none, flush) := by
  subst listening
  unfold postReport
  rw [if_pos (by simpa [Flush.finds] using there)]
  dsimp only
  rw [named, unread]

/-- What comes of the callback by its answer. -/
theorem postReport_called {answer : AgentNDKListener} {method : ListenerMethod} {text : Text} {called : Flush}
    (listening : listener = some answer) (named : callbackFor report.name = some method)
    (there : report.name ∉ flush.deleted) (read : report.text = some text)
    (call : called = { flush with calls := flush.calls ++ [(report.name, ⟨method, text⟩)] }) :
    postReport listener platform report flush =
      match answer (flush.calls.map Prod.snd) ⟨method, text⟩ with
      | .thrown => (none, called)
      | .returned false => (some (!called.finds report), called)
      | .returned true =>
        let after := if platform.delete report.name then
          { called with deleted := called.deleted ++ [report.name] } else called
        (some (!after.finds report), after) := by
  subst listening call
  unfold postReport
  rw [if_pos (by simpa [Flush.finds] using there)]
  dsimp only
  rw [named, read]
  dsimp only
  cases answer (flush.calls.map Prod.snd) ⟨method, text⟩ with
  | thrown => rfl
  | returned consumed =>
    cases consumed with
    | false => rfl
    | true => cases platform.delete report.name <;> rfl

theorem flushReport_of_post {context : FlushContext} {posted : Option Bool} {after : Flush}
    (post : postReport context.nativeReportListener platform report flush = (posted, after)) :
    flushReport context platform flush report =
      if posted = some true then after
      else if after.finds report ∧ isExpired context platform report then
        { after with deleteOnExit := after.deleteOnExit ++ [report.name] }
      else after := by
  rw [flushReport, post]

end Posting

end AgentNDK
