import AgentNDK.FlushSafety

namespace AgentNDK
open CText Runs Threads ReportStore
variable {τ : Type}

/-- What a step of a thread comes to. -/
structure FlushAdvance (t : τ) (own : Option Text) (s : ReportStore τ) (next : FlushPlace × ReportStore τ) :
    Prop where
  sound : next.2.Sound
  settled : next.2.Settled
  relies : next.1.Relies t next.2
  spares : Spares t own s next.2
  writes : ∀ name, next.1.writes = some name → own = some name ∨ name ∉ s.names

section Advances
variable {t : τ} {s s' : ReportStore τ} {session : FlushSession} {past : List SeenFlush}
  {done : List ReportFile} {name : Text} {rest : List Text}

/-- A step under the lock, which keeps it. -/
theorem advance_inside {next : FlushPlace} (held : s.owner = some t) (sound : s'.Sound)
    (owner : s'.owner = s.owner) (payloads : s'.payloads = s.payloads) (writers : s'.writers = s.writers)
    (files : ∀ file ∈ s'.files, file ∈ s.files) (inside : next.inside = true) (knows : next.Knows s') :
    FlushAdvance t none s (next, s') where
  sound := sound
  settled := fun free => absurd ((owner.trans held).symm.trans free) (Option.some_ne_none t)
  relies := ⟨iff_of_true (owner.trans held) inside, knows⟩
  spares :=
    { payloads := by
        rw [payloads]
        exact fun _ => id
      owner := fun u _ => by rw [owner]
      flush := fun u different other => absurd (Option.some.inj (held.symm.trans other)).symm different
      files := fun file member _ => Or.inl (files file member)
      writers := fun _ opened _ => writers ▸ opened }
  writes := by
    intro other writes
    cases next with
    | writing => cases inside
    | _ => cases writes

/-- A step under the lock that leaves the store as it is. -/
theorem advance_stay {next : FlushPlace} (held : s.owner = some t) (sound : s.Sound)
    (inside : next.inside = true) (knows : next.Knows s) : FlushAdvance t none s (next, s) :=
  advance_inside held sound rfl rfl rfl (fun _ => id) inside knows

theorem saw_of_stored (stored : name ∈ s.names) : s.Saw ⟨name, none, 0⟩ := by
  obtain ⟨entry, member, rfl⟩ := List.mem_map.mp stored
  exact ⟨entry.2, member, nofun⟩

/-- The next name of the listing. -/
theorem advance_test (held : s.owner = some t) (sound : s.Sound)
    (underway : s.Underway session past done (name :: rest)) (reached : s.flush = underLock session past done)
    {next : FlushPlace × ReportStore τ}
    (acted : flushAct t (.testing session (name :: rest)) s .advance = some next) : FlushAdvance t none s next := by
  have stored := underway.stored name (List.mem_cons_self ..)
  simp only [flushAct] at acted
  split at acted
  · rename_i found
    have there := (sound.find_isSome_iff stored).mp found
    have uncalled : session.nativeReportListener = none ∨ callbackFor name = none →
        (FlushPlace.posted session name rest).Knows s := by
      intro uncalled
      refine ⟨past, done, none, underway, saw_of_stored stored, ?_⟩
      rw [← reached]
      exact postReport_uncalled there uncalled
    split at acted
    · rename_i listening named
      cases acted
      exact advance_stay held sound rfl ⟨past, done, underway, reached, listening, named, there⟩
    · rename_i unanswered
      cases acted
      refine advance_stay held sound rfl (uncalled ?_)
      cases listening : session.nativeReportListener with
      | none => exact Or.inl rfl
      | some listener =>
        cases named : callbackFor name with
        | none => exact Or.inr rfl
        | some method => exact absurd named (unanswered listener method listening)
  · rename_i missing
    cases acted
    refine advance_stay held sound rfl ⟨past, done, none, some false, underway, saw_of_stored stored, nofun, ?_⟩
    rw [← reached]
    refine postReport_gone ?_
    by_contra there
    exact missing ((sound.find_isSome_iff stored).mpr there)

theorem call_goes (held : s.owner = some t) (sound : s.Sound) (listener : AgentNDKListener) (name : Text)
    (callback : Callback) :
    let out := s.call listener name callback
    out.1 = listener (s.flush.calls.map Prod.snd) callback ∧
    out.2.flush = { s.flush with calls := s.flush.calls ++ [(name, callback)] } ∧
    (out.1 = .returned true → name ∈ out.2.consumed.map Prod.fst) ∧
    (∀ session past done rest, s.Underway session past done rest → out.2.Underway session past done rest) ∧
    (∀ file, s.Saw file → out.2.Saw file) ∧
    ∀ next : FlushPlace, next.inside = true → next.Knows out.2 → FlushAdvance t none s (next, out.2) := by
  have after : (s.call listener name callback).2.Sound := by
    refine sound.same rfl rfl rfl rfl rfl fun entry member => ?_
    dsimp only [ReportStore.call]
    split
    · exact List.mem_append_left _ member
    · exact member
  refine ⟨rfl, rfl, fun agreed => ?_, fun _ _ _ _ underway => underway.mono (fun _ => id) rfl, fun _ => id,
    fun next => advance_inside held after rfl rfl rfl fun _ => id⟩
  dsimp only [ReportStore.call] at agreed ⊢
  rw [if_pos agreed, List.map_append]
  exact List.mem_append_right _ (List.mem_singleton_self _)

/-- The report is read, and the listener called with it. -/
theorem advance_read {listener : AgentNDKListener} {method : ListenerMethod} (held : s.owner = some t)
    (sound : s.Sound) (knows : (FlushPlace.reading session listener method name rest).Knows s)
    {next : FlushPlace × ReportStore τ}
    (acted : flushAct t (.reading session listener method name rest) s .advance = some next) :
    FlushAdvance t none s next := by
  obtain ⟨past, done, underway, reached, listening, named, there⟩ := knows
  have stored := underway.stored name (List.mem_cons_self ..)
  obtain ⟨file, found⟩ := Option.isSome_iff_exists.mp ((sound.find_isSome_iff stored).mpr there)
  obtain ⟨member, same⟩ := find_eq_some found
  cases read : file.text with
  | none =>
    simp only [flushAct, found, Option.bind_some, read, Option.some.injEq] at acted
    cases acted
    refine advance_stay held sound rfl
      ⟨past, done, none, none, underway, saw_of_stored stored, nofun, ?_⟩
    rw [← reached]
    exact postReport_unread listening named there rfl
  | some text =>
    have saw : s.Saw ⟨name, some text, 0⟩ := by
      obtain ⟨payload, stored, start, _⟩ := sound.stored file member text read
      rw [same] at stored
      refine ⟨payload, stored, ?_⟩
      rintro _ ⟨⟩
      exact start
    simp only [flushAct, found, Option.bind_some, read] at acted
    obtain ⟨answered, flush, consumed, underways, saws, goes⟩ :=
      call_goes held sound listener name ⟨method, text⟩
    have post : postReport session.nativeReportListener session.platform ⟨name, some text, 0⟩ s.flush = _ :=
      postReport_called listening named there rfl flush
    rw [← answered, reached] at post
    generalize s.call listener name ⟨method, text⟩ = out at *
    obtain ⟨response, after⟩ := out
    have underway := underways _ _ _ _ underway
    have saw := saws _ saw
    cases response with
    | thrown =>
      cases acted
      exact goes (.expiring session name rest) rfl
        ⟨past, done, some text, none, underway, saw, nofun, post⟩
    | returned agreed =>
      cases agreed with
      | false =>
        cases acted
        exact goes (.posted session name rest) rfl ⟨past, done, some text, underway, saw, post⟩
      | true =>
        cases acted
        refine goes (.deleting session name rest) rfl
          ⟨past, done, some text, underway, saw, ?_, consumed rfl, post⟩
        rw [flush]
        exact there

theorem advance_delete (held : s.owner = some t) (sound : s.Sound)
    (knows : (FlushPlace.deleting session name rest).Knows s) {next : FlushPlace × ReportStore τ}
    (acted : flushAct t (.deleting session name rest) s .advance = some next) : FlushAdvance t none s next := by
  obtain ⟨past, done, text, underway, saw, there, consumed, post⟩ := knows
  have found := (sound.find_isSome_iff (underway.stored name (List.mem_cons_self ..))).mpr there
  simp only [flushAct, found, true_and] at acted
  cases acted
  split
  · rename_i removed
    rw [if_pos removed] at post
    have present := find_isSome.mp found
    exact advance_inside held (sound_delete sound present consumed) rfl rfl rfl
      (fun file member => List.mem_of_mem_filter member) rfl
      ⟨past, done, text, underway.mono (fun _ => id) rfl, saw, post⟩
  · rename_i stays
    rw [if_neg stays] at post
    exact advance_stay held sound rfl ⟨past, done, text, underway, saw, post⟩

theorem underLock_append (session : FlushSession) (past : List SeenFlush) (done : List ReportFile)
    (file : ReportFile) : underLock session past (done ++ [file]) =
      flushReport (session.context none) session.platform (underLock session past done) file := by
  rw [underLock, List.foldl_append]
  rfl

/-- A file of the listing is done. -/
theorem testing_next {text : Option Text} (modified : Int) (underway : s.Underway session past done (name :: rest))
    (saw : s.Saw ⟨name, text, 0⟩)
    (reached : s.flush = flushReport (session.context none) session.platform (underLock session past done)
      ⟨name, text, modified⟩) : (FlushPlace.testing session rest).Knows s := by
  refine ⟨past, done ++ [⟨name, text, modified⟩], ?_, reached.trans (underLock_append ..).symm⟩
  exact
    { sessions := underway.sessions
      earlier := underway.earlier
      now := fun file member => by
        rcases List.mem_append.mp member with before | this
        · exact underway.now file before
        · rw [List.mem_singleton.mp this]
          exact saw
      distinct := by
        rw [List.map_append, List.append_assoc]
        exact underway.distinct
      stored := fun other member => underway.stored other (List.mem_cons_of_mem _ member) }

theorem advance_post (held : s.owner = some t) (sound : s.Sound)
    (knows : (FlushPlace.posted session name rest).Knows s) {next : FlushPlace × ReportStore τ}
    (acted : flushAct t (.posted session name rest) s .advance = some next) : FlushAdvance t none s next := by
  obtain ⟨past, done, text, underway, saw, post⟩ := knows
  have exists_iff := sound.find_isSome_iff (underway.stored name (List.mem_cons_self ..))
  cases acted
  by_cases there : name ∈ s.flush.deleted
  · rw [if_neg fun found => exists_iff.mp found there]
    refine advance_stay held sound rfl (testing_next 0 underway saw ?_)
    rw [flushReport_of_post post, if_pos (by simpa [Flush.finds] using there)]
  · rw [if_pos (exists_iff.mpr there)]
    refine advance_stay held sound rfl ⟨past, done, text, _, underway, saw, ?_, post⟩
    simpa [Flush.finds] using there

theorem advance_expire (held : s.owner = some t) (sound : s.Sound)
    (knows : (FlushPlace.expiring session name rest).Knows s) {next : FlushPlace × ReportStore τ}
    (acted : flushAct t (.expiring session name rest) s .advance = some next) : FlushAdvance t none s next := by
  obtain ⟨past, done, text, posted, underway, saw, undone, post⟩ := knows
  have exists_iff := sound.find_isSome_iff (underway.stored name (List.mem_cons_self ..))
  cases acted
  cases found : s.find name with
  | none =>
    have gone : name ∈ s.flush.deleted := by
      by_contra there
      rw [found] at exists_iff
      exact Bool.noConfusion (exists_iff.mpr there)
    rw [Option.any_none, if_neg Bool.false_ne_true]
    refine advance_stay held sound rfl (testing_next 0 underway saw ?_)
    rw [flushReport_of_post post, if_neg undone, if_neg]
    simp [Flush.finds, gone]
  | some file =>
    have there : name ∉ s.flush.deleted := exists_iff.mp (by rw [found]; rfl)
    obtain ⟨_, same⟩ := find_eq_some found
    have expired : isExpired (session.context none) session.platform ⟨name, text, file.lastModified⟩ =
        isExpired (session.context none) session.platform file := by
      rw [isExpired, isExpired, same]
    have finds : s.flush.finds ⟨name, text, file.lastModified⟩ = true := by
      simpa [Flush.finds] using there
    rw [Option.any_some]
    split
    · rename_i old
      refine advance_inside held (sound.same rfl rfl rfl rfl rfl fun _ => id) rfl rfl rfl (fun _ => id) rfl
        (testing_next file.lastModified (underway.mono (fun _ => id) rfl) saw ?_)
      rw [flushReport_of_post post, if_neg undone, if_pos ⟨finds, expired.trans old⟩]
      rfl
    · rename_i young
      refine advance_stay held sound rfl (testing_next file.lastModified underway saw ?_)
      rw [flushReport_of_post post, if_neg undone, if_neg fun both => young (expired.symm.trans both.2)]

theorem advance_list (held : s.owner = some t) (sound : s.Sound)
    (knows : (FlushPlace.listing session).Knows s) {answer : Option (List Text)}
    {next : FlushPlace × ReportStore τ} (acted : flushAct t (.listing session) s (.list answer) = some next) :
    FlushAdvance t none s next := by
  obtain ⟨past, underway, reached⟩ := knows
  cases answer with
  | none =>
    cases acted
    exact advance_stay held sound rfl ⟨past, [], underway, reached⟩
  | some names =>
    simp only [flushAct] at acted
    split at acted
    · rename_i listed
      cases acted
      refine advance_stay held sound rfl ⟨past, [], ?_, reached⟩
      exact
        { underway with
          distinct := listed.nodup_iff.mpr sound.files
          stored := fun name member => (sound.kept name).mpr (Or.inl (listed.mem_iff.mp member)) }
    · cases acted

theorem advance_lock (sound : s.Sound) (settled : s.Settled) {next : FlushPlace × ReportStore τ}
    (acted : flushAct t (.waiting session) s .advance = some next) : FlushAdvance t none s next := by
  simp only [flushAct] at acted
  split at acted
  · rename_i free
    rw [Option.isNone_iff_eq_none] at free
    cases acted
    obtain ⟨past, sessions, flush, saw⟩ := settled free
    refine
      { sound := sound.same rfl rfl rfl rfl rfl fun _ => id
        settled := fun unowned => absurd unowned (Option.some_ne_none t)
        relies := ⟨iff_of_true rfl rfl, past, ?_, ?_⟩
        spares := ?_
        writes := nofun }
    · exact
        { sessions := congrArg (· ++ [session]) sessions
          earlier := saw
          now := nofun
          distinct := List.nodup_nil
          stored := nofun }
    · rw [flush]
      rfl
    · exact
        { payloads := fun _ => id
          owner := fun u different => iff_of_false (fun same => different (Option.some.inj same).symm)
            fun other => Option.some_ne_none u (other.symm.trans free)
          flush := fun u _ other => absurd (other.symm.trans free) (Option.some_ne_none u)
          files := fun _ member _ => Or.inl member
          writers := fun _ opened _ => opened }
  · cases acted

theorem advance_unlock (held : s.owner = some t) (sound : s.Sound)
    (knows : (FlushPlace.testing session []).Knows s) {next : FlushPlace × ReportStore τ}
    (acted : flushAct t (.testing session []) s .advance = some next) : FlushAdvance t none s next := by
  obtain ⟨past, done, underway, reached⟩ := knows
  cases acted
  refine
    { sound := sound.same rfl rfl rfl rfl rfl fun _ => id
      settled := fun _ => ?_
      relies := ⟨iff_of_false (fun none => Option.some_ne_none t none.symm) Bool.noConfusion, trivial⟩
      spares := ?_
      writes := nofun }
  · have distinct := underway.distinct
    rw [List.append_nil] at distinct
    refine ⟨past ++ [⟨session, done, distinct⟩], ?_, ?_, fun seen member => ?_⟩
    · rw [List.map_append]
      exact underway.sessions
    · rw [serial, List.foldl_append]
      change { s.flush with lock := s.flush.lock - 1 } = _
      rw [reached]
      rfl
    · rcases List.mem_append.mp member with before | this
      · exact underway.earlier seen before
      · rw [List.mem_singleton.mp this]
        exact underway.now
  · exact
      { payloads := fun _ => id
        owner := fun u different => iff_of_false (fun none => Option.some_ne_none u none.symm)
          fun other => different (Option.some.inj (held.symm.trans other)).symm
        flush := fun u different other => absurd (Option.some.inj (held.symm.trans other)).symm different
        files := fun _ member _ => Or.inl member
        writers := fun _ opened _ => opened }

/-- A step of a thread that is not in a flush. -/
theorem advance_outside {own : Option Text} {next : FlushPlace} (free : s.owner ≠ some t) (sound : s'.Sound)
    (settled : s.Settled) (owner : s'.owner = s.owner) (flush : s'.flush = s.flush)
    (sessions : s'.sessions = s.sessions) (consumed : s'.consumed = s.consumed)
    (payloads : ∀ entry ∈ s.payloads, entry ∈ s'.payloads)
    (files : ∀ file ∈ s'.files, own ≠ some file.name → file ∈ s.files ∨ file.name ∉ s.names)
    (writers : ∀ name ∈ s.writers, own ≠ some name → name ∈ s'.writers)
    (outside : next.inside = false) (knows : next.Knows s')
    (writes : ∀ name, next.writes = some name → own = some name ∨ name ∉ s.names) :
    FlushAdvance t own s (next, s') where
  sound := sound
  settled := settled.mono payloads sessions flush fun unowned => owner.symm.trans unowned
  relies := by
    refine ⟨?_, knows⟩
    dsimp only
    rw [owner, outside]
    exact iff_of_false free Bool.false_ne_true
  spares :=
    { payloads := payloads
      owner := fun u _ => by rw [owner]
      flush := fun u _ _ => ⟨flush, sessions, consumed⟩
      files := files
      writers := writers }
  writes := writes

theorem advance_store {payload : Text} {now : Int} (free : s.owner ≠ some t) (sound : s.Sound)
    (settled : s.Settled) {next : FlushPlace × ReportStore τ}
    (acted : flushAct t .idle s (.store name payload now) = some next) : FlushAdvance t none s next := by
  simp only [flushAct] at acted
  split at acted
  · cases acted
  · rename_i unused
    cases acted
    have new : name ∉ s.names := by simpa [names] using unused
    have opened : ∀ {names : List Text}, name ∈ names ++ [name] :=
      List.mem_append_right _ (List.mem_singleton_self _)
    refine advance_outside free (sound_store sound new payload now) settled rfl rfl rfl rfl
      (fun _ => List.mem_append_left _) (fun file member _ => ?_) (fun _ member _ => List.mem_append_left _ member)
      rfl ⟨opened, payload, List.mem_append_right _ (List.mem_singleton_self _), fun file member named => ?_⟩
      fun other writes => Or.inr (Option.some.inj writes ▸ new)
    · refine (List.mem_append.mp member).imp_right fun this => ?_
      rw [List.mem_singleton.mp this]
      exact new
    · rcases List.mem_append.mp member with before | this
      · exact absurd ((sound.kept name).mpr (Or.inl (named ▸ List.mem_map_of_mem before))) new
      · rw [List.mem_singleton.mp this]
        exact ⟨[], rfl, rfl⟩

theorem advance_write {left : Text} (free : s.owner ≠ some t) (sound : s.Sound) (settled : s.Settled)
    (writing : s.Writing name left) (count : Nat) (now : Int) :
    FlushAdvance t (some name) s (.writing name (left.drop count), s.rewrite name (left.take count) now) := by
  refine advance_outside free (sound_rewrite sound writing count now) settled rfl rfl rfl rfl (fun _ => id)
    (fun file member other => ?_) (fun _ opened _ => opened) rfl (writing.rewrite count now) fun _ => Or.inl
  rcases mem_rewrite member with ⟨_, before⟩ | ⟨same, _⟩
  · exact Or.inl before
  · exact absurd (congrArg some same.symm) other

theorem advance_close {left : Text} (free : s.owner ≠ some t) (sound : s.Sound) (settled : s.Settled)
    (writing : s.Writing name left) {next : FlushPlace × ReportStore τ}
    (acted : flushAct t (.writing name left) s .close = some next) : FlushAdvance t (some name) s next := by
  cases acted
  refine advance_outside free (sound_close sound writing) settled rfl rfl rfl rfl (fun _ => id)
    (fun file member _ => Or.inl member) (fun other opened different => ?_) rfl trivial nofun
  refine List.mem_filter.mpr ⟨opened, ?_⟩
  rw [decide_eq_true_eq]
  exact fun same => different (congrArg some same.symm)

theorem flushAct_advances {place : FlushPlace} {move : FlushMove} {next : FlushPlace × ReportStore τ}
    (sound : s.Sound) (settled : s.Settled) (relies : place.Relies t s)
    (acted : flushAct t place s move = some next) : FlushAdvance t place.writes s next := by
  obtain ⟨owner, knows⟩ := relies
  cases place with
  | idle =>
    have free : s.owner ≠ some t := fun held => Bool.noConfusion (owner.mp held)
    cases move with
    | flush session =>
      cases acted
      exact advance_outside free sound settled rfl rfl rfl rfl (fun _ => id) (fun _ member _ => Or.inl member)
        (fun _ opened _ => opened) rfl trivial nofun
    | store name payload now => exact advance_store free sound settled acted
    | _ => cases acted
  | waiting session =>
    cases move with
    | advance => exact advance_lock sound settled acted
    | _ => cases acted
  | listing session =>
    cases move with
    | list names => exact advance_list (owner.mpr rfl) sound knows acted
    | _ => cases acted
  | testing session rest =>
    cases move with
    | advance =>
      cases rest with
      | nil => exact advance_unlock (owner.mpr rfl) sound knows acted
      | cons name rest =>
        obtain ⟨past, done, underway, reached⟩ := knows
        exact advance_test (owner.mpr rfl) sound underway reached acted
    | _ => cases rest <;> cases acted
  | reading session listener method name rest =>
    cases move with
    | advance => exact advance_read (owner.mpr rfl) sound knows acted
    | _ => cases acted
  | deleting session name rest =>
    cases move with
    | advance => exact advance_delete (owner.mpr rfl) sound knows acted
    | _ => cases acted
  | posted session name rest =>
    cases move with
    | advance => exact advance_post (owner.mpr rfl) sound knows acted
    | _ => cases acted
  | expiring session name rest =>
    cases move with
    | advance => exact advance_expire (owner.mpr rfl) sound knows acted
    | _ => cases acted
  | writing name left =>
    have free : s.owner ≠ some t := fun held => Bool.noConfusion (owner.mp held)
    cases move with
    | write count now =>
      cases acted
      exact advance_write free sound settled knows count now
    | close => exact advance_close free sound settled knows acted
    | _ => cases acted

end Advances

theorem flush_keeps : (flushOutline : Outline τ FlushPlace (ReportStore τ)).Keeps flushAct where
  own := by
    intro t place s move next sound relies acted
    have advance := flushAct_advances sound.1 sound.2 relies acted
    exact ⟨⟨advance.sound, advance.settled⟩, advance.relies⟩
  others := by
    intro t place s move next u other different sound mine theirs apart acted
    have advance := flushAct_advances sound.1 sound.2 mine acted
    have foreign : ∀ name, other.writes = some name → place.writes ≠ some name :=
      fun name writes mine => apart name mine writes
    have distinct : ∀ name, next.1.writes = some name → other.writes ≠ some name := by
      intro name writes written
      rcases advance.writes name writes with before | new
      · exact apart name before written
      · cases other with
        | writing other left =>
          cases written
          obtain ⟨_, payload, stored, _⟩ := theirs.knows
          exact new (mem_names stored)
        | _ => cases written
    refine ⟨⟨(advance.spares.owner u different).trans theirs.owner, ?_⟩, distinct,
      fun name written writes => distinct name writes written⟩
    exact advance.spares.knows different theirs.owner foreign theirs.knows

theorem flush_start_holds {files : List ReportFile} (distinct : (files.map ReportFile.name).Nodup) :
    flushOutline.Holds (FlushThreads.start files : FlushThreads τ) where
  always := by
    have named : (ReportStore.start files : ReportStore τ).names = files.map ReportFile.name := by
      rw [names, ReportStore.start, List.map_map]
      rfl
    constructor
    · exact
        { files := distinct
          payloads := named ▸ distinct
          stored := fun file member text read =>
            ⟨text, List.mem_map.mpr ⟨file, member, by rw [read]; rfl⟩, List.prefix_rfl, Or.inl rfl⟩
          kept := fun name => by
            change name ∈ (ReportStore.start files : ReportStore τ).names ↔ _ ∨ name ∈ []
            rw [named]
            simp [FlushThreads.start, ReportStore.start, fileNames]
          gone := fun _ deleted => absurd deleted List.not_mem_nil
          once := List.nodup_nil
          consumed := fun _ deleted => absurd deleted List.not_mem_nil }
    · exact fun _ => ⟨[], rfl, rfl, fun _ seen => absurd seen List.not_mem_nil⟩
  relies := fun _ => ⟨iff_of_false (fun none => Option.some_ne_none _ none.symm) Bool.noConfusion, trivial⟩
  apart := fun _ _ _ name writes => absurd writes.symm (Option.some_ne_none name)

/-- Under the lock there is always a next step. -/
theorem inside_advances {place : FlushPlace} (t : τ) (s : ReportStore τ) (inside : place.inside = true) :
    ∃ move, (flushAct t place s move).isSome = true := by
  cases place with
  | idle | waiting | writing => cases inside
  | listing session => exact ⟨.list none, rfl⟩
  | testing session rest =>
    refine ⟨.advance, ?_⟩
    cases rest with
    | nil => rfl
    | cons name rest =>
      simp only [flushAct]
      split
      · split <;> rfl
      · rfl
  | reading session listener method name rest =>
    refine ⟨.advance, ?_⟩
    simp only [flushAct]
    split
    · rfl
    · split <;> rfl
  | deleting | posted | expiring => exact ⟨.advance, rfl⟩

/-- Only the step that reads a report calls the listener, with the text of the
file as it is then, and only `to_storage` adds a report. -/
theorem flushAct_records {t : τ} {place : FlushPlace} {s : ReportStore τ} {move : FlushMove}
    {next : FlushPlace × ReportStore τ} (acted : flushAct t place s move = some next) :
    next.2.flush.calls = s.flush.calls ∧ next.2.payloads = s.payloads ∨
    (∃ session listener method name rest file text,
      place = .reading session listener method name rest ∧ s.find name = some file ∧ file.text = some text ∧
      next.2.flush.calls = s.flush.calls ++ [(name, ⟨method, text⟩)] ∧ next.2.payloads = s.payloads) ∨
    ∃ name payload now, move = .store name payload now ∧ next.2.flush.calls = s.flush.calls ∧
      next.2.payloads = s.payloads ++ [(name, payload)] := by
  unfold flushAct at acted
  split at acted
  case h_7 session listener method name rest =>
    cases found : s.find name with
    | none =>
      rw [found] at acted
      cases acted
      exact Or.inl ⟨rfl, rfl⟩
    | some file =>
      cases read : file.text with
      | none =>
        simp only [found, Option.bind_some, read, Option.some.injEq] at acted
        cases acted
        exact Or.inl ⟨rfl, rfl⟩
      | some text =>
        refine Or.inr (Or.inl ⟨session, listener, method, name, rest, file, text, rfl, found, read, ?_⟩)
        simp only [found, Option.bind_some, read] at acted
        split at acted <;> rename_i called
        all_goals
          cases acted
          exact ⟨(congrArg (fun out => out.2.flush.calls) called).symm,
            (congrArg (fun out => out.2.payloads) called).symm⟩
  case h_6 =>
    split at acted
    · split at acted <;> cases acted <;> exact Or.inl ⟨rfl, rfl⟩
    · cases acted
      exact Or.inl ⟨rfl, rfl⟩
  case h_8 =>
    cases acted
    dsimp only
    split <;> exact Or.inl ⟨rfl, rfl⟩
  case h_10 =>
    cases acted
    dsimp only
    split <;> exact Or.inl ⟨rfl, rfl⟩
  case h_2 | h_4 =>
    split at acted <;> cases acted
    all_goals exact Or.inl ⟨rfl, rfl⟩
  case h_11 name payload now =>
    split at acted <;> cases acted
    exact Or.inr (Or.inr ⟨name, payload, now, rfl, rfl, rfl⟩)
  case h_14 => cases acted
  all_goals cases acted; exact Or.inl ⟨rfl, rfl⟩

/-- What flushes and writers can rely on at any moment. -/
structure FlushSafe [DecidableEq τ] (s : FlushThreads τ) : Prop where
  /-- One thread at a time is in a flush, -/
  exclusive : ∀ t u, (s.place t).inside = true → (s.place u).inside = true → t = u
  /-- and the first of those that wait can go on, or the one inside can. -/
  progress : ∀ t session, s.place t = .waiting session →
    ∃ u move, (u = t ∨ (s.place u).inside = true) ∧ (s.step (u, move)).isSome = true
  /-- The next callback, if any, is for a file not deleted so far, by its name,
  and has the text of the report: all of it but for a file that is open or cut. -/
  offers : ∀ turn next, s.step turn = some next →
    next.shared.flush.calls = s.shared.flush.calls ∨ ∃ name method text,
      next.shared.flush.calls = s.shared.flush.calls ++ [(name, ⟨method, text⟩)] ∧
      name ∉ s.shared.flush.deleted ∧ callbackFor name = some method ∧ s.shared.Holds name text
  /-- A report is in the directory until it is deleted, -/
  kept : ∀ name ∈ s.shared.names, (name ∈ s.shared.fileNames ↔ name ∉ s.shared.flush.deleted)
  /-- once, for a callback that returned true. -/
  once : s.shared.flush.deleted.Nodup
  consumed : ∀ name ∈ s.shared.flush.deleted, ∃ callback, (name, callback) ∈ s.shared.consumed

section Runs
variable [DecidableEq τ] {files : List ReportFile} {s : FlushThreads τ} {turns : List (τ × FlushMove)}

/-- A new callback is for a file that holds its text. -/
theorem new_call {t : FlushThreads τ} (holds : flushOutline.Holds s) {turn : τ × FlushMove} (taken : s.step turn = some t) :
    t.shared.flush.calls = s.shared.flush.calls ∨ ∃ name method text,
      t.shared.flush.calls = s.shared.flush.calls ++ [(name, ⟨method, text⟩)] ∧
      name ∉ s.shared.flush.deleted ∧ callbackFor name = some method ∧ s.shared.Holds name text := by
  obtain ⟨after, acted, rfl⟩ := step_eq_some.mp taken
  rcases flushAct_records acted with ⟨same, _⟩ |
    ⟨session, listener, method, name, rest, file, text, place, found, read, calls, _⟩ | ⟨_, _, _, _, same, _⟩
  · exact Or.inl same
  · right
    have knows := (holds.relies turn.1).knows
    rw [place] at knows
    obtain ⟨_, _, _, _, _, named, there⟩ := knows
    obtain ⟨member, same⟩ := find_eq_some found
    exact ⟨name, method, text, calls, there, named, same ▸ holds.always.1.stored file member text read⟩
  · exact Or.inl same

/-- However flushes by any threads and the writing of reports interleave. -/
theorem flush_threads_safe (distinct : (files.map ReportFile.name).Nodup)
    (reach : run FlushThreads.step (.start files) turns = some s) : FlushSafe s := by
  have holds := (flush_start_holds distinct).run flush_keeps reach
  have sound := holds.always.1
  have owner := fun t => (holds.relies t).owner
  refine
    { exclusive := fun t u inside other =>
        Option.some.inj (((owner t).mpr inside).symm.trans ((owner u).mpr other))
      progress := fun t session waits => ?_
      offers := fun turn next taken => ?_
      kept := fun name stored => ⟨fun there deleted => sound.gone name deleted there,
        ((sound.kept name).mp stored).resolve_right⟩
      once := sound.once
      consumed := fun name deleted => ?_ }
  · cases free : s.shared.owner with
    | none =>
      refine ⟨t, .advance, Or.inl rfl, step_isSome_iff.mpr ?_⟩
      simp only [waits, flushAct, free, Option.isNone_none, if_true, Option.isSome_some]
    | some u =>
      have inside := (owner u).mp free
      obtain ⟨move, moves⟩ := inside_advances u s.shared inside
      exact ⟨u, move, Or.inr inside, step_isSome_iff.mpr moves⟩
  · exact new_call holds taken
  · obtain ⟨entry, member, rfl⟩ := List.mem_map.mp (sound.consumed name deleted)
    exact ⟨entry.2, member⟩

/-- The listener takes every report, and every file can be deleted. -/
def takesAll : FlushSession :=
  ⟨some fun _ _ => .returned true, 60, ⟨fun _ => 1, fun _ => true, fun _ => ⟨Int.one_nonneg, by decide⟩⟩⟩

/-- A flush comes while a crash is written. -/
def tornFlush : List (Bool × FlushMove) :=
  [(true, .store "crash-1" "ab" 0), (true, .write 1 0), (false, .flush takesAll), (false, .advance),
    (false, .list (some ["crash-1"])), (false, .advance), (false, .advance), (false, .advance),
    (false, .advance), (true, .write 1 0), (false, .advance), (true, .close)]

/-- Half of a crash is taken for all of it, and the other half is lost. -/
theorem flush_threads_safe_torn : ∃ s : FlushThreads Bool,
    run FlushThreads.step (.start []) tornFlush = some s ∧ FlushSafe s ∧
      s.shared.consumed = [(("crash-1" : Text), ⟨.onNativeCrash, "a"⟩)] ∧ s.shared.fileNames = [] := by
  obtain ⟨s, reach, consumed, gone⟩ : ∃ s : FlushThreads Bool,
      run FlushThreads.step (.start []) tornFlush = some s ∧
        s.shared.consumed = [(("crash-1" : Text), ⟨.onNativeCrash, "a"⟩)] ∧ s.shared.fileNames = [] :=
    ⟨_, rfl, by decide, by decide⟩
  exact ⟨s, reach, flush_threads_safe (show (List.map ReportFile.name []).Nodup from List.nodup_nil) reach, consumed, gone⟩

end Runs

end AgentNDK
