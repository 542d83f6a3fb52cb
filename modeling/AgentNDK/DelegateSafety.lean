import AgentNDK.DelegateThreads

namespace AgentNDK
open CText Runs Threads
variable {τ : Type}

/-- What a step of a thread comes to: it keeps what holds of the shared state,
it knows where it goes, and it leaves alone what other threads own. -/
structure DelegateAdvance (t : τ) (own : Option Nat) (s : DelegateShared τ)
    (next : DelegatePlace × DelegateShared τ) : Prop where
  sound : next.2.Sound
  relies : next.1.Relies t next.2
  spares : DelegateShared.Spares t own s next.2
  owns : ∀ block, next.1.owns = some block → own = some block ∨ block ∈ s.ready ∨ s.blocks.length ≤ block

section Transitions
open DelegateShared
variable {t : τ} {s : DelegateShared τ} {block : Nat} {jniAttached : Bool}

theorem spares_same (t : τ) (own : Option Nat) (s : DelegateShared τ) {context : DelegateContext}
    {attached : τ → Bool} (grows : ∀ delegate ∈ s.context.globalRefs, delegate ∈ context.globalRefs)
    (others : ∀ u, u ≠ t → attached u = s.attached u) :
    Spares t own s { s with context := context, attached := attached } where
  blocks := fun _ _ _ => rfl
  requests := List.prefix_rfl
  refs := fun _ _ _ => rfl
  globalRefs := grows
  delivered := fun _ => Or.inl
  ready := fun _ => Or.inl
  attached := others

/-- The context and what is attached may change, if references stay live. -/
theorem sound_same (sound : s.Sound) {context : DelegateContext} {attached : τ → Bool}
    (grows : ∀ delegate ∈ s.context.globalRefs, delegate ∈ context.globalRefs)
    (bound : context.RefHeld) : Sound { s with context := context, attached := attached } where
  aligned := sound.aligned
  ready := fun block member => by
    obtain ⟨⟨args, request, found, known, method, delegate, refs⟩, undelivered⟩ := sound.ready block member
    exact ⟨⟨args, request, found, known, method, fun g held => grows g (delegate g held), refs⟩, undelivered⟩
  distinct := sound.distinct
  fresh := sound.fresh
  held := sound.held
  bound := bound
  readyOnce := sound.readyOnce
  once := sound.once
  faithful := fun delivery member => by
    obtain ⟨request, known, method, backtrace, delegate⟩ := sound.faithful delivery member
    exact ⟨request, known, method, backtrace, grows _ delegate⟩

/-- A step that changes nothing shared, and goes on with the same block or none. -/
theorem advance_same (sound : s.Sound) (own : Option Nat) {next : DelegatePlace} (relies : next.Relies t s)
    (owned : ∀ block, next.owns = some block → own = some block) : DelegateAdvance t own s (next, s) where
  sound := sound
  relies := relies
  spares := spares_same t own s (fun _ => id) fun _ _ => rfl
  owns := fun block owns => Or.inl (owned block owns)

theorem relies_nothing {place : DelegatePlace} (knows : place.Knows s) (owns : place.owns = none)
    (attached : place.jniAttached = true → s.attached t = true) : place.Relies t s where
  knows := knows
  apart := fun _ owned => nomatch owns.symm.trans owned
  attached := attached
  detached := by
    rintro block rfl
    cases owns

/-- What is ready stays loaded while a thread has a block that is not. -/
theorem ready_spared {s' : DelegateShared τ} {own : Option Nat} (sound : s.Sound) (spares : Spares t own s s')
    (apart : ∀ b, own = some b → b ∉ s.ready) {b : Nat} (member : b ∈ s.ready) :
    s'.Loaded b ∧ s'.Undelivered b := by
  obtain ⟨loaded, undelivered⟩ := sound.ready b member
  have other : own ≠ some b := fun owned => apart b owned member
  exact ⟨loaded.spared sound spares other, undelivered.spared spares other⟩

theorem advance_allocate (sound : s.Sound) (request : DelegateRequest)
    (attached : jniAttached = true → s.attached t = true) :
    DelegateAdvance t none s (.allocated request jniAttached s.blocks.length,
      { s with blocks := s.blocks.alloc ⟨none, none, none⟩, requests := s.requests ++ [request] }) := by
  have old : ∀ {i a}, s.blocks.get i = some a → (s.blocks.alloc ⟨none, none, none⟩).get i = some a := by
    intro i a found
    have inside := Slots.lt_of_get found
    rw [Slots.get_alloc, if_neg (by omega)]
    exact found
  have refers : ∀ {i a ref}, (s.blocks.alloc ⟨none, none, none⟩).get i = some a →
      a.backtrace = some ref → s.blocks.get i = some a := by
    intro i a ref found some_ref
    rw [Slots.get_alloc] at found
    split at found
    · cases found
      cases some_ref
    · exact found
  have spares : Spares t none s
      { s with blocks := s.blocks.alloc ⟨none, none, none⟩, requests := s.requests ++ [request] } :=
    { blocks := fun b _ inside => by
        rw [Slots.get_alloc, if_neg (by omega)]
      requests := List.prefix_append ..
      refs := fun _ _ _ => rfl
      globalRefs := fun _ => id
      delivered := fun _ => Or.inl
      ready := fun _ => Or.inl
      attached := fun _ _ => rfl }
  have free : s.Undelivered s.blocks.length := by
    intro delivery member same
    obtain ⟨_, known, _⟩ := sound.faithful delivery member
    have inside := (List.getElem?_eq_some_iff.mp known).1
    rw [sound.aligned] at inside
    omega
  refine ⟨?_, ?_, spares, fun b owns => Or.inr (Or.inr (Option.some.inj owns ▸ Nat.le_refl _))⟩
  · exact
      { aligned := by simp [sound.aligned]
        ready := fun _ => ready_spared sound spares fun _ => nofun
        distinct := fun i j a b ref first second one other =>
          sound.distinct i j a b ref (refers first one) (refers second other) one other
        fresh := fun i a ref found some_ref => sound.fresh i a ref (refers found some_ref) some_ref
        held := fun ref text live => by
          obtain ⟨i, a, found, some_ref⟩ := sound.held ref text live
          exact ⟨i, a, old found, some_ref⟩
        bound := sound.bound
        readyOnce := sound.readyOnce
        once := sound.once
        faithful := fun delivery member => (sound.faithful delivery member).spared spares }
  · exact
      { knows := ⟨by rw [Slots.get_alloc, if_pos rfl], by rw [← sound.aligned]; exact List.getElem?_concat_length,
          free⟩
        apart := by
          rintro b ⟨⟩ member
          obtain ⟨args, _, found, _⟩ := (sound.ready _ member).1
          have inside := Slots.lt_of_get found
          omega
        attached := attached
        detached := fun _ => DelegatePlace.noConfusion }

section Fill
variable {args : DelegateThreadArgs} {refs : Slots Text}

theorem get_reference (made : Bool) {text : Text} {ref : Nat} (inside : ref < s.refs.length) :
    (if made then s.refs.alloc text else s.refs).get ref = s.refs.get ref := by
  cases made with
  | false => rfl
  | true => exact Slots.get_alloc.trans (if_neg (by omega))

theorem spares_fill {before : DelegateThreadArgs} (live : s.blocks.get block = some before)
    (old : ∀ ref, ref < s.refs.length → refs.get ref = s.refs.get ref) :
    Spares t (some block) s { s with refs := refs, blocks := s.blocks.put block args } where
  blocks := fun _ other _ => (Slots.get_put live).trans (if_neg fun same => other (by rw [same]))
  requests := List.prefix_rfl
  refs := fun ref inside _ => old ref inside
  globalRefs := fun _ => id
  delivered := fun _ => Or.inl
  ready := fun _ => Or.inl
  attached := fun _ _ => rfl

/-- An empty block may get the reference made last, and must get it if it is live. -/
theorem sound_fill (t : τ) (sound : s.Sound) (live : s.blocks.get block = some ⟨none, none, none⟩)
    (apart : block ∉ s.ready) (old : ∀ ref, ref < s.refs.length → refs.get ref = s.refs.get ref)
    (grows : s.refs.length ≤ refs.length)
    (mine : ∀ ref, args.backtrace = some ref → ref = s.refs.length ∧ ref < refs.length)
    (given : ∀ ref, s.refs.length ≤ ref → ref < refs.length → args.backtrace = some ref) :
    Sound { s with refs := refs, blocks := s.blocks.put block args } := by
  have get : ∀ i, (s.blocks.put block args).get i = if i = block then some args else s.blocks.get i :=
    fun i => Slots.get_put live
  have spares : Spares t (some block) s { s with refs := refs, blocks := s.blocks.put block args } :=
    spares_fill live old
  refine
    { aligned := by simp [sound.aligned]
      ready := fun _ => ready_spared sound spares fun _ same => Option.some.inj same ▸ apart
      distinct := fun i j a b ref first second one other => ?_
      fresh := fun i a ref found some_ref => ?_
      held := fun ref text found => ?_
      bound := sound.bound
      readyOnce := sound.readyOnce
      once := sound.once
      faithful := fun delivery member => (sound.faithful delivery member).spared spares }
  · dsimp only at first second
    rw [get] at first second
    split at first <;> split at second
    · rename_i here there
      exact here.trans there.symm
    · cases first
      have inside := sound.fresh j b ref second other
      have new := (mine ref one).1
      omega
    · cases second
      have inside := sound.fresh i a ref first one
      have new := (mine ref other).1
      omega
    · exact sound.distinct i j a b ref first second one other
  · dsimp only at found ⊢
    rw [get] at found
    split at found
    · cases found
      exact (mine ref some_ref).2
    · exact Nat.lt_of_lt_of_le (sound.fresh i a ref found some_ref) grows
  · dsimp only at found ⊢
    by_cases inside : ref < s.refs.length
    · rw [old ref inside] at found
      obtain ⟨i, a, before, some_ref⟩ := sound.held ref text found
      refine ⟨i, a, ?_, some_ref⟩
      rw [get, if_neg]
      · exact before
      · rintro rfl
        rw [live] at before
        cases before
        cases some_ref
    · exact ⟨block, args, (get block).trans (if_pos rfl),
        given ref (Nat.le_of_not_lt inside) (Slots.lt_of_get found)⟩

/-- The block is filled in with a reference of its own, or with null. -/
theorem advance_fill (sound : s.Sound) {request : DelegateRequest} (made : Bool)
    (relies : (DelegatePlace.allocated request jniAttached block).Relies t s) :
    DelegateAdvance t (some block) s
      (.filled jniAttached block (if made then some s.refs.length else none),
        { s with
          refs := if made then s.refs.alloc (cstr request.backtrace) else s.refs
          blocks := s.blocks.put block ⟨s.context.jniDelegateObject, request.method,
            if made then some s.refs.length else none⟩ }) := by
  obtain ⟨live, known, undelivered⟩ := relies.knows
  generalize filled : (⟨s.context.jniDelegateObject, request.method,
    if made then some s.refs.length else none⟩ : DelegateThreadArgs) = args
  have refers : args.backtrace = if made then some s.refs.length else none := filled ▸ rfl
  have refsLength : (if made then s.refs.alloc (cstr request.backtrace) else s.refs).length =
      s.refs.length + made.toNat := by
    cases made <;> simp
  have mine : ∀ ref, args.backtrace = some ref → made = true ∧ ref = s.refs.length := by
    intro ref some_ref
    rw [refers] at some_ref
    cases made with
    | false => cases some_ref
    | true => exact ⟨rfl, (Option.some.inj some_ref).symm⟩
  have found : (s.blocks.put block args).get block = some args := (Slots.get_put live).trans (if_pos rfl)
  refine ⟨sound_fill t sound live (relies.apart block rfl) (fun _ => get_reference made) ?_ ?_ ?_, ?_,
    spares_fill live fun _ => get_reference made, fun b owns => Or.inl owns⟩
  · rw [refsLength]
    exact Nat.le_add_right ..
  · intro ref some_ref
    obtain ⟨rfl, rfl⟩ := mine ref some_ref
    rw [refsLength]
    exact ⟨rfl, Nat.lt_succ_self _⟩
  · intro ref above below
    rw [refsLength] at below
    rw [refers]
    cases made with
    | false => exact absurd below (Nat.not_lt_of_le above)
    | true => exact congrArg some (Nat.le_antisymm above (Nat.le_of_lt_succ below))
  · refine
      { knows := ⟨⟨args, request, found, known, filled ▸ rfl, ?_, ?_⟩, undelivered, ?_⟩
        apart := relies.apart
        attached := relies.attached
        detached := fun _ => DelegatePlace.noConfusion }
    · intro delegate bound
      exact sound.bound delegate (by rw [← bound, ← filled])
    · intro ref some_ref
      obtain ⟨rfl, rfl⟩ := mine ref some_ref
      exact Slots.get_alloc.trans (if_pos rfl)
    · intro a other
      rw [Option.some.inj (other.symm.trans found)]
      exact refers

end Fill

theorem advance_create (sound : s.Sound) {ref : Option Nat}
    (relies : (DelegatePlace.filled jniAttached block ref).Relies t s) :
    DelegateAdvance t (some block) s (.joining jniAttached, { s with ready := s.ready ++ [block] }) := by
  have spares : Spares t (some block) s { s with ready := s.ready ++ [block] } :=
    { blocks := fun _ _ _ => rfl
      requests := List.prefix_rfl
      refs := fun _ _ _ => rfl
      globalRefs := fun _ => id
      delivered := fun _ => Or.inl
      ready := fun b member => (List.mem_append.mp member).imp_right fun here =>
        congrArg some (List.mem_singleton.mp here).symm
      attached := fun _ _ => rfl }
  refine ⟨{ sound with ready := ?_, readyOnce := ?_ }, ?_, spares, fun _ => nofun⟩
  · intro b member
    rcases List.mem_append.mp member with before | here
    · exact sound.ready b before
    · rw [List.mem_singleton.mp here]
      exact ⟨relies.knows.1, relies.knows.2.1⟩
  · exact List.nodup_append.mpr ⟨sound.readyOnce, List.nodup_singleton block, fun b member c here same =>
      relies.apart block rfl (by rwa [same, List.mem_singleton.mp here] at member)⟩
  · exact relies_nothing trivial rfl relies.attached

/-- The one reference in an owned block is released, which leaves it cleared. -/
theorem deleteRef_clears (sound : s.Sound) (loaded : s.Loaded block) (apart : block ∉ s.ready)
    {args : DelegateThreadArgs} (found : s.blocks.get block = some args) :
    ∃ s', s.deleteRef args.backtrace = some s' ∧ s'.Sound ∧ s'.Cleared block ∧ s'.ready = s.ready ∧
      s'.attached = s.attached ∧ Spares t (some block) s s' := by
  obtain ⟨own, request, atOwn, _, _, _, live⟩ := loaded
  obtain rfl := Option.some.inj (atOwn.symm.trans found)
  cases refers : own.backtrace with
  | none =>
    exact ⟨s, rfl, sound, ⟨own, found, fun ref other => nomatch refers.symm.trans other⟩, rfl, rfl,
      spares_same t _ s (fun _ => id) fun _ _ => rfl⟩
  | some ref =>
    have text := live ref refers
    have get : ∀ r, (s.refs.release ref).get r = if r = ref then none else s.refs.get r :=
      fun r => Slots.get_release text
    have spares : Spares t (some block) s { s with refs := s.refs.release ref } :=
      { blocks := fun _ _ _ => rfl
        requests := List.prefix_rfl
        refs := fun r _ other => (get r).trans (if_neg fun same =>
          other block own rfl found (refers.trans (congrArg some same.symm)))
        globalRefs := fun _ => id
        delivered := fun _ => Or.inl
        ready := fun _ => Or.inl
        attached := fun _ _ => rfl }
    refine ⟨{ s with refs := s.refs.release ref }, ?_, ?_, ⟨own, found, fun r other => ?_⟩, rfl, rfl, spares⟩
    · rw [deleteRef, text]
      rfl
    · exact
        { sound with
          ready := fun _ => ready_spared sound spares fun _ same => Option.some.inj same ▸ apart
          fresh := fun i a r at_i some_r => by
            rw [Slots.length_release]
            exact sound.fresh i a r at_i some_r
          held := fun r text' alive => by
            dsimp only at alive
            rw [get] at alive
            split at alive
            · cases alive
            · exact sound.held r text' alive }
    · rw [← Option.some.inj (refers.symm.trans other)]
      exact (get ref).trans (if_pos rfl)

/-- A cleared block is deleted by the thread that owns it. -/
theorem advance_release (sound : s.Sound) (cleared : s.Cleared block) (apart : block ∉ s.ready)
    {next : DelegatePlace} (knows : ∀ s : DelegateShared τ, next.Knows s) (owns : next.owns = none)
    (attached : next.jniAttached = true → s.attached t = true) :
    DelegateAdvance t (some block) s (next, { s with blocks := s.blocks.release block }) := by
  obtain ⟨args, found, released⟩ := cleared
  have get : ∀ i, (s.blocks.release block).get i = if i = block then none else s.blocks.get i :=
    fun i => Slots.get_release found
  have before : ∀ {i a}, (s.blocks.release block).get i = some a → s.blocks.get i = some a := by
    intro i a live
    rw [get] at live
    split at live
    · cases live
    · exact live
  have spares : Spares t (some block) s { s with blocks := s.blocks.release block } :=
    { blocks := fun b other _ => (get b).trans (if_neg fun same => other (by rw [same]))
      requests := List.prefix_rfl
      refs := fun _ _ _ => rfl
      globalRefs := fun _ => id
      delivered := fun _ => Or.inl
      ready := fun _ => Or.inl
      attached := fun _ _ => rfl }
  refine ⟨?_, relies_nothing (knows _) owns attached, spares, fun b owned => nomatch owns.symm.trans owned⟩
  exact
    { sound with
      aligned := sound.aligned.trans Slots.length_release.symm
      ready := fun _ => ready_spared sound spares fun _ same => Option.some.inj same ▸ apart
      distinct := fun i j a b ref first second => sound.distinct i j a b ref (before first) (before second)
      fresh := fun i a ref live => sound.fresh i a ref (before live)
      held := fun ref text alive => by
        obtain ⟨i, a, live, refers⟩ := sound.held ref text alive
        refine ⟨i, a, (get i).trans (if_neg ?_ |>.trans live), refers⟩
        rintro rfl
        obtain rfl := Option.some.inj (found.symm.trans live)
        exact nomatch alive.symm.trans (released ref refers)
      faithful := fun delivery member => (sound.faithful delivery member).spared spares }

/-- A thread begins with a block that is ready, which then no other can take. -/
theorem advance_begin (sound : s.Sound) {rest : List Nat} (ready : s.ready = block :: rest)
    (detached : s.attached t = false) :
    DelegateAdvance t none s (.begun block, { s with ready := rest }) := by
  have inside : ∀ b ∈ rest, b ∈ s.ready := fun b member => ready ▸ List.mem_cons_of_mem block member
  have once : (block :: rest).Nodup := ready ▸ sound.readyOnce
  have mine := sound.ready block (ready ▸ List.mem_cons_self)
  refine ⟨{ sound with ready := fun b member => sound.ready b (inside b member), readyOnce := ?_ }, ?_, ?_, ?_⟩
  · exact (List.nodup_cons.mp once).2
  · exact
      { knows := mine
        apart := by
          rintro b ⟨⟩
          exact (List.nodup_cons.mp once).1
        attached := Bool.noConfusion
        detached := fun _ _ => detached }
  · exact
      { blocks := fun _ _ _ => rfl
        requests := List.prefix_rfl
        refs := fun _ _ _ => rfl
        globalRefs := fun _ => id
        delivered := fun _ => Or.inl
        ready := fun b member => Or.inl (inside b member)
        attached := fun _ _ => rfl }
  · rintro b ⟨⟩
    exact Or.inr (Or.inl (ready ▸ List.mem_cons_self))

/-- The delegate method is called with live references, or not at all. -/
theorem callVoidMethod_delivers (sound : s.Sound) (loaded : s.Loaded block) (undelivered : s.Undelivered block)
    (apart : block ∉ s.ready) {args : DelegateThreadArgs} (found : s.blocks.get block = some args) :
    ∃ s', s.callVoidMethod block args = some s' ∧ s'.Sound ∧ s'.Loaded block ∧ s'.ready = s.ready ∧
      s'.attached = s.attached ∧ Spares t (some block) s s' := by
  obtain ⟨own, request, atOwn, known, method, delegate, live⟩ := id loaded
  obtain rfl := Option.some.inj (atOwn.symm.trans found)
  have skipped : ∃ s', some s = some s' ∧ s'.Sound ∧ s'.Loaded block ∧ s'.ready = s.ready ∧
      s'.attached = s.attached ∧ Spares t (some block) s s' :=
    ⟨s, rfl, sound, loaded, rfl, rfl, spares_same t _ s (fun _ => id) fun _ _ => rfl⟩
  unfold callVoidMethod
  split
  · rename_i object methodId bound called
    have text : ∃ backtrace, s.readRef own.backtrace = some backtrace ∧
        ∀ text, backtrace = some text → text = cstr request.backtrace := by
      cases refers : own.backtrace with
      | none => exact ⟨none, rfl, nofun⟩
      | some ref =>
        refine ⟨some (cstr request.backtrace), ?_, fun text same => (Option.some.inj same).symm⟩
        rw [readRef, live ref refers]
        rfl
    obtain ⟨backtrace, read, same⟩ := text
    rw [if_pos (delegate object bound), read]
    have delivered : ∀ d ∈ (⟨block, object, methodId, backtrace⟩ :: s.delivered : List Delivery),
        d ∈ s.delivered ∨ some block = some d.block := by
      intro d member
      rcases List.mem_cons.mp member with rfl | before
      · exact Or.inr rfl
      · exact Or.inl before
    have spares : Spares t (some block) s
        { s with delivered := ⟨block, object, methodId, backtrace⟩ :: s.delivered } :=
      { blocks := fun _ _ _ => rfl
        requests := List.prefix_rfl
        refs := fun _ _ _ => rfl
        globalRefs := fun _ => id
        delivered := delivered
        ready := fun _ => Or.inl
        attached := fun _ _ => rfl }
    refine ⟨_, rfl, ?_, loaded, rfl, rfl, spares⟩
    exact
      { sound with
        ready := fun _ => ready_spared sound spares fun _ same => Option.some.inj same ▸ apart
        once := by
          rw [List.map_cons, List.nodup_cons]
          refine ⟨fun member => ?_, sound.once⟩
          obtain ⟨d, before, same⟩ := List.mem_map.mp member
          exact undelivered d before same
        faithful := List.forall_mem_cons.mpr ⟨⟨request, known, method.symm.trans called, same,
          delegate object bound⟩, sound.faithful⟩ }
  · exact skipped

/-- A thread goes on with its block. -/
theorem advance_kept {s' : DelegateShared τ} {next : DelegatePlace} (sound : s'.Sound)
    (knows : next.Knows s') (owns : next.owns = some block) (apart : block ∉ s.ready)
    (ready : s'.ready = s.ready) (attached : next.jniAttached = true → s'.attached t = true)
    (begun : ∀ b, next ≠ .begun b) (spares : Spares t (some block) s s') :
    DelegateAdvance t (some block) s (next, s') where
  sound := sound
  relies :=
    { knows := knows
      apart := fun b owned => by
        rw [ready, ← Option.some.inj (owns.symm.trans owned)]
        exact apart
      attached := attached
      detached := fun b here => absurd here (begun b) }
  spares := spares
  owns := fun b owned => Or.inl (owns.symm.trans owned)

theorem owned_lt {place : DelegatePlace} (knows : place.Knows s) (owns : place.owns = some block) :
    block < s.blocks.length := by
  cases place with
  | idle | calling _ | entered _ _ | joining _ | leaving _ | faulted => cases owns
  | allocated request _ b =>
    cases owns
    exact Slots.lt_of_get knows.1
  | filled _ b ref | refused _ b ref | begun b | working b _ =>
    cases owns
    obtain ⟨_, _, found, _⟩ := knows.1
    exact Slots.lt_of_get found
  | called b _ | discarding _ b | cleared b _ =>
    cases owns
    first
      | obtain ⟨_, _, found, _⟩ := knows
        exact Slots.lt_of_get found
      | obtain ⟨_, found, _⟩ := knows
        exact Slots.lt_of_get found

section Attach
variable [DecidableEq τ]

/-- A thread that gets an environment is attached, and so are all that were. -/
theorem getEnv_cases (s : DelegateShared τ) (t : τ) (answer : EnvAnswer) :
    s.getEnv t answer = none ∨ s.attached t = true ∧ s.getEnv t answer = some (false, s) ∨
      s.attached t = false ∧ s.getEnv t answer = some (true, s.attach t) := by
  unfold getEnv
  split
  · exact Or.inl rfl
  split
  · rename_i attached
    exact Or.inr (Or.inl ⟨attached, rfl⟩)
  split
  · rename_i detached _
    exact Or.inr (Or.inr ⟨by simpa using detached, rfl⟩)
  · exact Or.inl rfl

/-- Attaching and detaching the thread itself leaves everything else alone. -/
theorem advance_attached (sound : s.Sound) (own : Option Nat) {next : DelegatePlace} (value : Bool)
    (knows : next.Knows s) (apart : ∀ b, next.owns = some b → b ∉ s.ready)
    (attached : next.jniAttached = true → value = true) (begun : ∀ b, next ≠ .begun b)
    (owned : ∀ b, next.owns = some b → own = some b) :
    DelegateAdvance t own s (next, { s with attached := Function.update s.attached t value }) where
  sound := sound_same sound (fun _ => id) sound.bound
  relies :=
    { knows := by
        have spares : Spares t none s { s with attached := Function.update s.attached t value } :=
          spares_same t none s (fun _ => id) fun _ other => Function.update_of_ne other ..
        exact knows.spared sound spares fun b _ => (Option.some_ne_none b).symm
      apart := apart
      attached := fun flag => (Function.update_self ..).trans (attached flag)
      detached := fun b here => absurd here (begun b) }
  spares := spares_same t own s (fun _ => id) fun _ other => Function.update_of_ne other ..
  owns := fun b owns => Or.inl (owned b owns)

/-- No step uses what was released, and none interferes with another thread. -/
theorem delegateAct_advances {place : DelegatePlace} {move : DelegateMove}
    {next : DelegatePlace × DelegateShared τ} (sound : s.Sound) (relies : place.Relies t s)
    (acted : delegateAct t place s move = some next) : DelegateAdvance t place.owns s next := by
  have free : ∀ {p : DelegatePlace}, p = .idle ∨ (∃ r, p = .calling r) → p.Relies t s := by
    rintro p (rfl | ⟨r, rfl⟩) <;> exact relies_nothing trivial rfl Bool.noConfusion
  unfold delegateAct at acted
  split at acted
  case h_1 call =>
    cases acted
    have grows : ∀ g ∈ s.context.globalRefs, g ∈ (call.perform s.context).globalRefs := by
      intro g member
      obtain ⟨added, whole, _⟩ := perform_globalRefs call s.context
      rw [whole]
      exact List.mem_append_right added member
    exact
      { sound := sound_same sound grows (refHeld_perform sound.bound call)
        relies := relies_nothing trivial rfl Bool.noConfusion
        spares := spares_same t none s grows fun _ _ => rfl
        owns := nofun }
  case h_2 kind backtrace =>
    split at acted <;> cases acted
    · exact advance_same sound none (free (Or.inl rfl)) nofun
    · exact advance_same sound none (free (Or.inr ⟨_, rfl⟩)) nofun
  case h_3 request answer =>
    split at acted
    · cases acted
      exact advance_same sound none (free (Or.inl rfl)) nofun
    · rcases getEnv_cases s t answer with missing | ⟨attached, given⟩ | ⟨_, given⟩
      · rw [missing] at acted
        cases acted
        exact advance_same sound none (free (Or.inl rfl)) nofun
      · rw [given] at acted
        cases acted
        exact advance_same sound none (relies_nothing trivial rfl Bool.noConfusion) nofun
      · rw [given] at acted
        cases acted
        exact advance_attached sound none true trivial nofun (fun _ => rfl)
          (fun _ => DelegatePlace.noConfusion) nofun
  case h_4 request jniAttached succeeds =>
    split at acted <;> cases acted
    · exact advance_allocate sound request relies.attached
    · exact advance_same sound none (free (Or.inl rfl)) nofun
  case h_5 request jniAttached block made =>
    rw [relies.knows.1] at acted
    cases acted
    exact advance_fill sound made relies
  case h_6 jniAttached block ref succeeds =>
    split at acted <;> cases acted
    · exact advance_create sound relies
    · exact advance_same sound (some block) ⟨relies.knows, relies.apart, relies.attached,
        fun _ => DelegatePlace.noConfusion⟩ fun _ => id
  case h_7 jniAttached block ref =>
    obtain ⟨args, _, found, _⟩ := id relies.knows.1
    obtain ⟨s', deleted, sound', cleared, ready, attached, spares⟩ :=
      deleteRef_clears (t := t) sound relies.knows.1 (relies.apart block rfl) found
    rw [relies.knows.2.2 args found] at deleted
    rw [deleted] at acted
    cases acted
    exact advance_kept sound' cleared rfl (relies.apart block rfl) ready
      (fun flag => (congrFun attached t).trans (relies.attached flag)) (fun _ => DelegatePlace.noConfusion)
      spares
  case h_8 jniAttached block =>
    obtain ⟨args, found, _⟩ := id relies.knows
    rw [found] at acted
    cases acted
    exact advance_release sound relies.knows (relies.apart block rfl) (fun _ => trivial) rfl Bool.noConfusion
  case h_9 jniAttached =>
    cases acted
    exact advance_same sound none (relies_nothing trivial rfl relies.attached) nofun
  case h_10 =>
    split at acted
    · rename_i block rest ready
      split at acted <;> cases acted
      rename_i detached
      exact advance_begin sound ready (by simpa using detached)
    · cases acted
  case h_11 block answer =>
    rcases getEnv_cases s t answer with missing | ⟨attached, given⟩ | ⟨_, given⟩
    · rw [missing] at acted
      cases acted
      exact advance_same sound (some block) (free (Or.inl rfl)) nofun
    · exact absurd (attached.symm.trans (relies.detached block rfl)) Bool.noConfusion
    · rw [given] at acted
      cases acted
      exact advance_attached sound (some block) true relies.knows relies.apart (fun _ => rfl)
        (fun _ => DelegatePlace.noConfusion) fun _ => id
  case h_12 block jniAttached =>
    obtain ⟨args, _, found, _⟩ := id relies.knows.1
    obtain ⟨s', called, sound', loaded, ready, attached, spares⟩ := callVoidMethod_delivers (t := t) sound
      relies.knows.1 relies.knows.2 (relies.apart block rfl) found
    rw [found, Option.bind_some, called] at acted
    cases acted
    exact advance_kept sound' loaded rfl (relies.apart block rfl) ready
      (fun flag => (congrFun attached t).trans (relies.attached flag)) (fun _ => DelegatePlace.noConfusion)
      spares
  case h_13 block jniAttached =>
    obtain ⟨args, _, found, _⟩ := id relies.knows
    obtain ⟨s', deleted, sound', cleared, ready, attached, spares⟩ :=
      deleteRef_clears (t := t) sound relies.knows (relies.apart block rfl) found
    rw [found, Option.bind_some, deleted] at acted
    cases acted
    exact advance_kept sound' cleared rfl (relies.apart block rfl) ready
      (fun flag => (congrFun attached t).trans (relies.attached flag)) (fun _ => DelegatePlace.noConfusion)
      spares
  case h_14 block jniAttached =>
    obtain ⟨args, found, _⟩ := id relies.knows
    rw [found] at acted
    cases acted
    exact advance_release sound relies.knows (relies.apart block rfl) (fun _ => trivial) rfl relies.attached
  case h_15 jniAttached =>
    cases acted
    cases jniAttached with
    | false => exact advance_same sound none (free (Or.inl rfl)) nofun
    | true =>
      exact advance_attached sound none false trivial nofun Bool.noConfusion
        (fun _ => DelegatePlace.noConfusion) nofun
  case h_16 => cases acted

theorem delegate_keeps : (delegateOutline : Outline τ DelegatePlace (DelegateShared τ)).Keeps delegateAct where
  own := by
    intro t place s move next sound relies acted
    have advance := delegateAct_advances sound relies acted
    exact ⟨advance.sound, advance.relies⟩
  others := by
    intro t place s move next u other different sound mine theirs apart acted
    have advance := delegateAct_advances sound mine acted
    have foreign : ∀ b, other.owns = some b → place.owns ≠ some b := fun b owned mine => apart b mine owned
    have distinct : ∀ b, next.1.owns = some b → other.owns ≠ some b := by
      intro b owns owned
      rcases advance.owns b owns with before | ready | new
      · exact apart b before owned
      · exact theirs.apart b owned ready
      · have inside := owned_lt theirs.knows owned
        omega
    refine ⟨?_, distinct, fun b owned owns => distinct b owns owned⟩
    have attached := advance.spares.attached u different
    exact
      { knows := theirs.knows.spared sound advance.spares foreign
        apart := fun b owned ready => (advance.spares.ready b ready).elim (theirs.apart b owned)
          (foreign b owned)
        attached := fun flag => attached.trans (theirs.attached flag)
        detached := fun b here => attached.trans (theirs.detached b here) }

end Attach

end Transitions

theorem delegate_start_holds (java : τ → Bool) : delegateOutline.Holds (DelegateThreads.start java) where
  always :=
    { aligned := rfl
      ready := nofun
      distinct := nofun
      fresh := nofun
      held := nofun
      bound := nofun
      readyOnce := List.nodup_nil
      once := List.nodup_nil
      faithful := nofun }
  relies := fun _ => relies_nothing trivial rfl Bool.noConfusion
  apart := fun _ _ _ => nofun

/-- No thread uses an argument block or a reference that is released, or
releases one twice, and every report is delivered at most once, as it is. -/
structure DelegateSafe (s : DelegateThreads τ) : Prop where
  live : ∀ t, s.place t ≠ .faulted
  once : (s.shared.delivered.map (·.block)).Nodup
  faithful : ∀ delivery ∈ s.shared.delivered, s.shared.Faithful delivery

end AgentNDK
