import AgentNDK.Library.Interrupts
import AgentNDK.SignalHandler

/-! The signal masks of the threads that call the library or are interrupted by its handlers. -/

namespace AgentNDK
open Runs Interrupts

/-- `sigset_t`; signal n is bit n - 1. -/
abbrev Sigset := BitVec 64

/-- A signal that the library has a handler for. -/
inductive HandledSignal
  | observed (signal : ObservedSignal)
  | sigquit
  deriving DecidableEq

def HandledSignal.signo : HandledSignal → Nat
  | .sigquit => 3
  | .observed .sigill => 4
  | .observed .sigtrap => 5
  | .observed .sigabrt => 6
  | .observed .sigbus => 7
  | .observed .sigfpe => 8
  | .observed .sigsegv => 11

def HandledSignal.bit (signal : HandledSignal) : Nat :=
  signal.signo - 1

theorem HandledSignal.bit_lt (signal : HandledSignal) : signal.bit < 64 := by
  cases signal with
  | sigquit => decide
  | observed signal => cases signal <;> decide

/-- What the system answers a change of the mask. -/
structure SigmaskAnswers where
  sigemptyset : Bool
  sigaddset : Bool
  pthreadSigmask : Bool
  deriving DecidableEq

def SigmaskAnswers.success : SigmaskAnswers :=
  ⟨true, true, true⟩

/-- What `block_signal` and `unblock_signal` do; they ask `pthread_sigmask` for
different things. -/
def sigmask (how : Sigset → Sigset → Sigset) (answers : SigmaskAnswers) (signo : Nat) (mask : Sigset) :
    Bool × Sigset :=
  if answers.sigemptyset then
    let set : Sigset := 0
    if answers.sigaddset then
      let set := masked set (signo - 1)
      if answers.pthreadSigmask then (true, how mask set) else (false, mask)
    else (false, mask)
  else (false, mask)

/-- With `SIG_BLOCK`. -/
def blockSignal : SigmaskAnswers → Nat → Sigset → Bool × Sigset :=
  sigmask fun mask set => mask ||| set

/-- With `SIG_UNBLOCK`. -/
def unblockSignal : SigmaskAnswers → Nat → Sigset → Bool × Sigset :=
  sigmask fun mask set => mask &&& ~~~ set

theorem sigmask_eq (how : Sigset → Sigset → Sigset) (answers : SigmaskAnswers) (signo : Nat) (mask : Sigset) :
    sigmask how answers signo mask = (false, mask) ∨
      sigmask how answers signo mask = (true, how mask (BitVec.twoPow 64 (signo - 1))) := by
  unfold sigmask
  split
  · dsimp only
    split
    · split
      · have single : masked (0 : Sigset) (signo - 1) = BitVec.twoPow 64 (signo - 1) := BitVec.zero_or
        exact Or.inr (by rw [single])
      · exact Or.inl rfl
    · exact Or.inl rfl
  · exact Or.inl rfl

theorem blockSignal_eq (answers : SigmaskAnswers) (signo : Nat) (mask : Sigset) :
    blockSignal answers signo mask = (false, mask) ∨
      blockSignal answers signo mask = (true, masked mask (signo - 1)) :=
  sigmask_eq ..

theorem unblockSignal_eq (answers : SigmaskAnswers) (signo : Nat) (mask : Sigset) :
    unblockSignal answers signo mask = (false, mask) ∨
      unblockSignal answers signo mask = (true, unmasked mask (signo - 1)) :=
  sigmask_eq ..

/-- A change of the mask that the library asks for leaves the other signals. -/
theorem blockSignal_others (answers : SigmaskAnswers) {signal : HandledSignal} {n : Nat} (other : n ≠ signal.bit)
    (mask : Sigset) : (blockSignal answers signal.signo mask).2.getLsbD n = mask.getLsbD n := by
  rcases blockSignal_eq answers signal.signo mask with same | same
  · rw [same]
  · rw [same]
    exact getLsbD_masked_of_ne other mask

theorem unblockSignal_others (answers : SigmaskAnswers) {signal : HandledSignal} {n : Nat}
    (other : n ≠ signal.bit) (mask : Sigset) :
    (unblockSignal answers signal.signo mask).2.getLsbD n = mask.getLsbD n := by
  rcases unblockSignal_eq answers signal.signo mask with same | same
  · rw [same]
  · rw [same]
    exact getLsbD_unmasked_of_ne other mask

/-- Where a thread is with its mask. -/
inductive SignalPlace
  /-- in code of the application -/
  | application
  /-- in `signal_handler_initialize`, before `block_signal` -/
  | blocking
  /-- before its `pthread_create` -/
  | creatingInstaller
  /-- in `anr_handler_initialize`, before its `pthread_create` -/
  | creatingWatchdog
  /-- in either, before `unblock_signal` -/
  | unblocking
  /-- in `install_signal_observers` -/
  | installing
  /-- in `anr_monitor_thread`, before the test of `enabled` -/
  | looping
  /-- before the `unblock_signal` of a round -/
  | watching
  | ended
  deriving DecidableEq

/-- A `block_signal` has come before, or the thread inherits what it did. -/
def SignalPlace.quiet : SignalPlace → Bool
  | .creatingInstaller | .installing => true
  | _ => false

structure SignalThread where
  mask : Sigset
  /-- the activations of the handlers, the innermost first -/
  frames : List (Frame HandledSignal 64)
  place : SignalPlace
  /-- what the mask would be without the library -/
  own : Sigset
  /-- whether it, or a thread it descends from, has called the library -/
  involved : Bool

inductive ThreadAction
  /-- the application creates a thread, or changes the mask -/
  | create
  | change (block unblock : Sigset)
  | signalHandlerInitialize
  | anrHandlerInitialize
  /-- the next statement; `pthread_create` succeeds, or `enabled` is set, or not -/
  | advance (answers : SigmaskAnswers) (succeeds : Bool)
  /-- a signal is delivered to its handler -/
  | deliver (signal : HandledSignal)
  /-- the `block_signal` of `anr_interceptor` -/
  | blockQuit (answers : SigmaskAnswers)
  | handled

namespace SignalThread

/-- A thread of the application. -/
def start (mask : Sigset) : SignalThread :=
  ⟨mask, [], .application, mask, false⟩

/-- A thread that this one creates for the library has its mask. -/
def creates (t : SignalThread) (place : SignalPlace) : SignalThread :=
  ⟨t.mask, [], place, t.own, true⟩

/-- The next statement of the library, and the thread it creates. -/
def advance (t : SignalThread) (answers : SigmaskAnswers) (succeeds : Bool) :
    Option (SignalThread × Option SignalThread) :=
  match t.place with
  | .application | .ended => none
  | .blocking =>
    let (blocked, mask) := blockSignal answers HandledSignal.sigquit.signo t.mask
    some ({ t with mask := mask, place := if blocked then .creatingInstaller else .application }, none)
  | .creatingInstaller =>
    some ({ t with place := .unblocking }, if succeeds then some (t.creates .installing) else none)
  | .creatingWatchdog =>
    if succeeds then some ({ t with place := .unblocking }, some (t.creates .looping))
    else some ({ t with place := .application }, none)
  | .unblocking =>
    let (_, mask) := unblockSignal answers HandledSignal.sigquit.signo t.mask
    some ({ t with mask := mask, place := .application }, none)
  | .installing => some ({ t with place := .ended }, none)
  | .looping => some ({ t with place := if succeeds then .watching else .ended }, none)
  | .watching =>
    let (_, mask) := unblockSignal answers HandledSignal.sigquit.signo t.mask
    some ({ t with mask := mask, place := .looping }, none)

/-- Inside a handler the thread does nothing else. No handler of the library
has `SA_NODEFER` or a mask of its own. -/
def step (t : SignalThread) (action : ThreadAction) : Option (SignalThread × Option SignalThread) :=
  match t.frames, action with
  | frames, .deliver signal =>
    if t.place = .ended ∨ t.mask.getLsbD signal.bit then none
    else some ({ t with mask := masked t.mask signal.bit, frames := ⟨signal, t.mask⟩ :: frames }, none)
  | frame :: _, .blockQuit answers =>
    if frame.source = .sigquit then
      some ({ t with mask := (blockSignal answers HandledSignal.sigquit.signo t.mask).2 }, none)
    else none
  | frame :: outer, .handled => some ({ t with mask := frame.saved, frames := outer }, none)
  | [], .advance answers succeeds => t.advance answers succeeds
  | [], .create =>
    if t.place = .application then some (t, some { start t.mask with own := t.own, involved := t.involved })
    else none
  | [], .change block unblock =>
    if t.place = .application then
      some ({ t with
        mask := (t.mask ||| block) &&& ~~~ unblock
        own := (t.own ||| block) &&& ~~~ unblock }, none)
    else none
  | [], .signalHandlerInitialize =>
    if t.place = .application then some ({ t with place := .blocking, involved := true }, none) else none
  | [], .anrHandlerInitialize =>
    if t.place = .application then some ({ t with place := .creatingWatchdog, involved := true }, none)
    else none
  | _, _ => none

/-- The mask outside of the handlers. -/
def base (t : SignalThread) : Sigset :=
  Interrupts.base t.frames t.mask

/-- What holds of the mask of a thread. -/
structure MaskInv (t : SignalThread) : Prop where
  nested : Nested HandledSignal.bit t.frames t.mask
  /-- the library changes one signal at most, -/
  others : ∀ n, n ≠ HandledSignal.sigquit.bit → t.base.getLsbD n = t.own.getLsbD n
  /-- and none of a thread that has nothing to do with it -/
  uninvolved : t.involved = false → t.base = t.own ∧ t.place = .application
  quiet : t.place.quiet = true → t.base.getLsbD HandledSignal.sigquit.bit = true

section Steps
variable {t next fresh : SignalThread}

theorem base_eq (outside : t.frames = []) : t.base = t.mask := by
  rw [base, outside, Interrupts.base]

theorem start_maskInv (mask : Sigset) : (start mask).MaskInv where
  nested := trivial
  others := fun _ _ => rfl
  uninvolved := fun _ => ⟨rfl, rfl⟩
  quiet := Bool.noConfusion

/-- Outside of the handlers a thread of the library goes on with all but SIGQUIT as it was. -/
theorem MaskInv.moves (inv : t.MaskInv) (outside : t.frames = []) (alone : next.frames = [])
    (own : next.own = t.own) (involved : next.involved = true)
    (others : ∀ n, n ≠ HandledSignal.sigquit.bit → next.mask.getLsbD n = t.mask.getLsbD n)
    (quiet : next.place.quiet = true → next.mask.getLsbD HandledSignal.sigquit.bit = true) :
    next.MaskInv := by
  have here := base_eq outside
  have there := base_eq alone
  refine ⟨?_, fun n other => ?_, fun uninvolved => ?_, ?_⟩
  · rw [alone]
    trivial
  · rw [there, others n other, own, ← inv.others n other, here]
  · exact absurd involved (Bool.eq_false_iff.mp uninvolved)
  · rw [there]
    exact quiet

theorem MaskInv.involved (inv : t.MaskInv) (place : t.place ≠ .application) : t.involved = true := by
  by_contra uninvolved
  exact place (inv.uninvolved (Bool.eq_false_iff.mpr uninvolved)).2

theorem advance_maskInv {answers : SigmaskAnswers} {succeeds : Bool} {created : Option SignalThread}
    (inv : t.MaskInv) (outside : t.frames = [])
    (taken : t.advance answers succeeds = some (next, created)) :
    next.MaskInv ∧ ∀ fresh, created = some fresh → fresh.MaskInv := by
  have kept : ∀ n, n ≠ HandledSignal.sigquit.bit → t.mask.getLsbD n = t.mask.getLsbD n := fun _ _ => rfl
  have involved := inv.involved
  unfold advance at taken
  cases place : t.place with
  | application | ended => simp only [place, reduceCtorEq] at taken
  | blocking =>
    rw [place] at involved
    simp only [place] at taken
    cases taken
    refine ⟨inv.moves outside outside rfl (involved SignalPlace.noConfusion)
      (fun _ other => blockSignal_others answers other _) ?_, nofun⟩
    rcases blockSignal_eq answers HandledSignal.sigquit.signo t.mask with same | same
    · rw [same]
      exact Bool.noConfusion
    · rw [same]
      exact fun _ => getLsbD_masked_self (HandledSignal.bit_lt .sigquit) t.mask
  | creatingInstaller =>
    rw [place] at involved
    have blocked := inv.quiet (congrArg SignalPlace.quiet place)
    rw [base_eq outside] at blocked
    simp only [place] at taken
    cases taken
    refine ⟨inv.moves outside outside rfl (involved SignalPlace.noConfusion) kept Bool.noConfusion,
      fun fresh created => ?_⟩
    split at created <;> cases created
    exact inv.moves outside rfl rfl rfl kept fun _ => blocked
  | creatingWatchdog =>
    rw [place] at involved
    simp only [place] at taken
    split at taken <;> cases taken
    · refine ⟨inv.moves outside outside rfl (involved SignalPlace.noConfusion) kept Bool.noConfusion,
        fun fresh created => ?_⟩
      cases created
      exact inv.moves outside rfl rfl rfl kept Bool.noConfusion
    · exact ⟨inv.moves outside outside rfl (involved SignalPlace.noConfusion) kept Bool.noConfusion, nofun⟩
  | unblocking | watching =>
    rw [place] at involved
    simp only [place] at taken
    cases taken
    exact ⟨inv.moves outside outside rfl (involved SignalPlace.noConfusion)
      (fun _ other => unblockSignal_others answers other _) Bool.noConfusion, nofun⟩
  | installing =>
    rw [place] at involved
    simp only [place] at taken
    cases taken
    exact ⟨inv.moves outside outside rfl (involved SignalPlace.noConfusion) kept Bool.noConfusion, nofun⟩
  | looping =>
    rw [place] at involved
    simp only [place] at taken
    cases taken
    refine ⟨inv.moves outside outside rfl (involved SignalPlace.noConfusion) kept ?_, nofun⟩
    cases succeeds <;> exact Bool.noConfusion

/-- A handler comes in or returns; nothing changes outside of it. -/
theorem MaskInv.handles (inv : t.MaskInv) {mask : Sigset} {frames : List (Frame HandledSignal 64)}
    (nested : Nested HandledSignal.bit frames mask) (same : Interrupts.base frames mask = t.base) :
    ({ t with mask := mask, frames := frames } : SignalThread).MaskInv where
  nested := nested
  others := fun n other => by
    rw [← inv.others n other, ← same]
    rfl
  uninvolved := fun uninvolved => ⟨same.trans (inv.uninvolved uninvolved).1, (inv.uninvolved uninvolved).2⟩
  quiet := fun place => by
    rw [← inv.quiet place, ← same]
    rfl

theorem change_maskInv (inv : t.MaskInv) (outside : t.frames = []) (place : t.place = .application)
    (block unblock : Sigset) : ({ t with
      mask := (t.mask ||| block) &&& ~~~ unblock
      own := (t.own ||| block) &&& ~~~ unblock } : SignalThread).MaskInv := by
  have here := base_eq outside
  have there : ∀ mask own, ({ t with mask := mask, own := own } : SignalThread).base = mask := fun mask own => by
    rw [base]
    dsimp only
    rw [outside, Interrupts.base]
  refine ⟨?_, fun n other => ?_, fun uninvolved => ⟨?_, place⟩, ?_⟩
  · dsimp only
    rw [outside]
    trivial
  · have same := inv.others n other
    rw [here] at same
    rw [there]
    simp only [BitVec.getLsbD_and, BitVec.getLsbD_or, same]
  · rw [there, ← here, (inv.uninvolved uninvolved).1]
  · dsimp only
    rw [place]
    exact Bool.noConfusion

/-- Everything a step of a thread can be. -/
theorem step_taken {action : ThreadAction} {created : Option SignalThread}
    (nested : Nested HandledSignal.bit t.frames t.mask) (taken : t.step action = some (next, created)) :
    (∃ mask frames, next = { t with mask := mask, frames := frames } ∧ created = none ∧
      Nested HandledSignal.bit frames mask ∧ Interrupts.base frames mask = t.base) ∨
    t.frames = [] ∧ ((∃ answers succeeds, action = .advance answers succeeds ∧
      t.advance answers succeeds = some (next, created)) ∨
      t.place = .application ∧ ((next = t ∧
        created = some { start t.mask with own := t.own, involved := t.involved }) ∨
        (∃ block unblock, action = .change block unblock ∧ created = none ∧ next = { t with
          mask := (t.mask ||| block) &&& ~~~ unblock
          own := (t.own ||| block) &&& ~~~ unblock }) ∨
        (∃ place : SignalPlace, place ≠ .application ∧ place.quiet = false ∧ created = none ∧
          next = { t with place := place, involved := true }))) := by
  unfold step at taken
  split at taken
  case h_1 signal =>
    split at taken <;> cases taken
    rename_i opened
    rw [not_or, Bool.not_eq_true] at opened
    exact Or.inl ⟨_, _, rfl, rfl, nested.enter opened.2, rfl⟩
  case h_2 frame outer answers inside =>
    split at taken <;> cases taken
    rename_i quit
    have again := nested
    rw [inside] at again
    have again := again.again
    rw [quit] at again
    have same : (blockSignal answers HandledSignal.sigquit.signo t.mask).2 = t.mask := by
      rcases blockSignal_eq answers HandledSignal.sigquit.signo t.mask with same | same
      · rw [same]
      · rw [same]
        exact again
    rw [same]
    exact Or.inl ⟨t.mask, t.frames, rfl, rfl, nested, rfl⟩
  case h_3 frame outer inside =>
    cases taken
    rw [inside] at nested
    refine Or.inl ⟨_, _, rfl, rfl, nested.2.2, ?_⟩
    rw [base, inside, Interrupts.base]
  case h_4 answers succeeds outside => exact Or.inr ⟨outside, Or.inl ⟨answers, succeeds, rfl, taken⟩⟩
  case h_5 outside =>
    split at taken <;> cases taken
    rename_i place
    exact Or.inr ⟨outside, Or.inr ⟨place, Or.inl ⟨rfl, rfl⟩⟩⟩
  case h_6 block unblock outside =>
    split at taken <;> cases taken
    rename_i place
    exact Or.inr ⟨outside, Or.inr ⟨place, Or.inr (Or.inl ⟨block, unblock, rfl, rfl, rfl⟩)⟩⟩
  case h_7 outside | h_8 outside =>
    split at taken <;> cases taken
    rename_i place
    exact Or.inr ⟨outside, Or.inr ⟨place, Or.inr (Or.inr ⟨_, SignalPlace.noConfusion, rfl, rfl, rfl⟩)⟩⟩
  case h_9 => cases taken

theorem step_maskInv {action : ThreadAction} {created : Option SignalThread} (inv : t.MaskInv)
    (taken : t.step action = some (next, created)) :
    next.MaskInv ∧ ∀ fresh, created = some fresh → fresh.MaskInv := by
  rcases step_taken inv.nested taken with ⟨mask, frames, rfl, rfl, nested, same⟩ | ⟨outside, rest⟩
  · exact ⟨inv.handles nested same, nofun⟩
  rcases rest with ⟨answers, succeeds, _, advanced⟩ | ⟨place, created | changed | called⟩
  · exact advance_maskInv inv outside advanced
  · obtain ⟨rfl, rfl⟩ := created
    refine ⟨inv, fun fresh same => ?_⟩
    cases same
    have here := base_eq outside
    exact
      { nested := trivial
        others := fun n other => by
          rw [← inv.others n other, here]
          rfl
        uninvolved := fun uninvolved => ⟨here.symm.trans (inv.uninvolved uninvolved).1, rfl⟩
        quiet := Bool.noConfusion }
  · obtain ⟨block, unblock, _, rfl, rfl⟩ := changed
    exact ⟨change_maskInv inv outside place block unblock, nofun⟩
  · obtain ⟨place, _, loud, rfl, rfl⟩ := called
    exact ⟨inv.moves outside outside rfl rfl (fun _ _ => rfl) fun quiet => absurd quiet
      (Bool.eq_false_iff.mp loud), nofun⟩

end Steps

end SignalThread

/-- The threads of the process, in the order of their creation. -/
def signalStep (threads : List SignalThread) (turn : Nat × ThreadAction) : Option (List SignalThread) := do
  let t ← threads[turn.1]?
  let (next, created) ← t.step turn.2
  return threads.set turn.1 next ++ created.toList

/-- What a step keeps of the thread that takes it and of the one it creates. -/
theorem signalStep_taken {threads next : List SignalThread} {turn : Nat × ThreadAction} {I : SignalThread → Prop}
    (inv : ∀ t ∈ threads, I t) (pres : ∀ t moved created, threads[turn.1]? = some t →
      t.step turn.2 = some (moved, created) → I moved ∧ ∀ fresh, created = some fresh → I fresh)
    (taken : signalStep threads turn = some next) : ∀ t ∈ next, I t := by
  obtain ⟨t, found, taken⟩ := Option.bind_eq_some_iff.mp taken
  obtain ⟨⟨moved, created⟩, stepped, taken⟩ := Option.bind_eq_some_iff.mp taken
  cases taken
  obtain ⟨moves, creates⟩ := pres t moved created found stepped
  refine List.forall_mem_append.mpr ⟨fun other member => ?_, fun fresh member => ?_⟩
  · rcases List.mem_or_eq_of_mem_set member with old | rfl
    · exact inv other old
    · exact moves
  · exact creates fresh (Option.mem_toList.mp member)

theorem signalStep_maskInv {threads next : List SignalThread} {turn : Nat × ThreadAction}
    (inv : ∀ t ∈ threads, t.MaskInv) (taken : signalStep threads turn = some next) :
    ∀ t ∈ next, t.MaskInv :=
  signalStep_taken inv (fun t _ _ found stepped =>
    SignalThread.step_maskInv (inv t (List.mem_of_getElem? found)) stepped) taken

/-- What the library does to the mask of a thread. -/
structure MasksKept (t : SignalThread) : Prop where
  /-- Outside of the handlers it is what it would be without the library, but for SIGQUIT, -/
  others : ∀ n, n ≠ HandledSignal.sigquit.bit → t.base.getLsbD n = t.own.getLsbD n
  uninvolved : t.involved = false → t.base = t.own
  /-- and in them it has the signals that are being handled besides, -/
  inside : ∀ n, t.mask.getLsbD n = true ↔ t.base.getLsbD n = true ∨ ∃ frame ∈ t.frames, frame.source.bit = n
  /-- which are all different. -/
  distinct : (t.frames.map Frame.source).Nodup
  free : ∀ frame ∈ t.frames, t.base.getLsbD frame.source.bit = false
  /-- The installer, and a thread that has SIGQUIT blocked and nothing to do with the library,
  are never interrupted by `anr_interceptor`. -/
  quiet : t.place = .installing ∨ t.involved = false ∧ t.own.getLsbD HandledSignal.sigquit.bit = true →
    ∀ frame ∈ t.frames, frame.source ≠ .sigquit

/-- In every run, whatever signals come in at any point and whichever of the calls fail. -/
theorem masks_kept {masks : List Sigset} {threads : List SignalThread} {turns : List (Nat × ThreadAction)}
    (reach : run signalStep (masks.map SignalThread.start) turns = some threads) :
    ∀ t ∈ threads, MasksKept t := by
  have initial : ∀ t ∈ masks.map SignalThread.start, t.MaskInv := by
    intro t member
    obtain ⟨mask, _, rfl⟩ := List.mem_map.mp member
    exact SignalThread.start_maskInv mask
  intro t member
  have inv : t.MaskInv := run_invariant (fun _ _ _ => signalStep_maskInv) initial reach t member
  have free := inv.nested.free HandledSignal.bit_lt
  refine
    { others := inv.others
      uninvolved := fun uninvolved => (inv.uninvolved uninvolved).1
      inside := inv.nested.getLsbD HandledSignal.bit_lt
      distinct := ?_
      free := free
      quiet := fun quiet frame member same => ?_ }
  · have bits := inv.nested.distinct HandledSignal.bit_lt
    exact List.Nodup.of_map HandledSignal.bit (by rwa [List.map_map])
  · have opened := free frame member
    rw [same] at opened
    refine Bool.eq_false_iff.mp opened ?_
    rcases quiet with installing | ⟨uninvolved, blocked⟩
    · exact inv.quiet (congrArg SignalPlace.quiet installing)
    · exact (congrArg (·.getLsbD HandledSignal.sigquit.bit) (inv.uninvolved uninvolved).1).trans blocked

/-- A thread is interrupted on its way through `signal_handler_initialize`, and later by
SIGQUIT and there again. -/
theorem masks_kept_nested : ∃ threads, run signalStep (([0x4, 0] : List Sigset).map SignalThread.start)
    (([.signalHandlerInitialize, .advance .success true, .deliver (.observed .sigsegv),
        .deliver (.observed .sigabrt), .handled, .handled, .advance .success true, .advance .success true,
        .anrHandlerInitialize, .advance .success true, .advance .success true, .deliver .sigquit,
        .blockQuit .success, .deliver (.observed .sigsegv)] : List ThreadAction).map fun action => (1, action)) =
      some threads ∧ threads.map (fun t => (t.mask, t.base)) = [(0x4, 0x4), (0x404, 0), (0x4, 0x4), (0, 0)] ∧
      ∀ t ∈ threads, MasksKept t := by
  obtain ⟨threads, reach, masks⟩ : ∃ threads,
      run signalStep (([0x4, 0] : List Sigset).map SignalThread.start)
        (([.signalHandlerInitialize, .advance .success true, .deliver (.observed .sigsegv),
            .deliver (.observed .sigabrt), .handled, .handled, .advance .success true, .advance .success true,
            .anrHandlerInitialize, .advance .success true, .advance .success true, .deliver .sigquit,
            .blockQuit .success, .deliver (.observed .sigsegv)] : List ThreadAction).map
          fun action => (1, action)) = some threads ∧
        threads.map (fun t => (t.mask, t.base)) = [(0x4, 0x4), (0x404, 0), (0x4, 0x4), (0, 0)] :=
    ⟨_, rfl, rfl⟩
  exact ⟨threads, reach, masks, masks_kept reach⟩

/-- The changes of the mask succeed, a watchdog can be created, and the application does not
block SIGQUIT. -/
def SignalThread.letsIn (t : SignalThread) : ThreadAction → Bool
  | .advance answers succeeds => decide (answers = .success) && (t.place != .creatingWatchdog || succeeds)
  | .change block _ => !block.getLsbD HandledSignal.sigquit.bit
  | _ => true

def LetsIn (threads : List SignalThread) (turn : Nat × ThreadAction) : Prop :=
  threads[turn.1]?.all (·.letsIn turn.2) = true

instance (threads : List SignalThread) (turn : Nat × ThreadAction) : Decidable (LetsIn threads turn) :=
  inferInstanceAs (Decidable (_ = _))

namespace SignalThread
variable {t next : SignalThread}

/-- The thread has come back from the library, or descends from one that has, and takes SIGQUIT. -/
structure OpenInv (t : SignalThread) : Prop where
  mask : t.MaskInv
  returned : t.involved = true → t.place = .application →
    t.base.getLsbD HandledSignal.sigquit.bit = false

theorem advance_open {answers : SigmaskAnswers} {succeeds : Bool} {created : Option SignalThread}
    (outside : t.frames = []) (lets : t.letsIn (.advance answers succeeds) = true)
    (taken : t.advance answers succeeds = some (next, created)) :
    (next.involved = true → next.place = .application →
      next.base.getLsbD HandledSignal.sigquit.bit = false) ∧
      ∀ fresh, created = some fresh → fresh.place ≠ .application := by
  rw [letsIn, Bool.and_eq_true, decide_eq_true_eq] at lets
  obtain ⟨rfl, lets⟩ := lets
  unfold advance at taken
  cases place : t.place with
  | application | ended => simp only [place, reduceCtorEq] at taken
  | blocking =>
    simp only [place] at taken
    cases taken
    exact ⟨fun _ => SignalPlace.noConfusion, nofun⟩
  | creatingInstaller =>
    simp only [place] at taken
    cases taken
    refine ⟨fun _ => SignalPlace.noConfusion, fun fresh created => ?_⟩
    split at created <;> cases created
    exact SignalPlace.noConfusion
  | creatingWatchdog =>
    rw [place] at lets
    obtain rfl : succeeds = true := lets
    simp only [place] at taken
    cases taken
    refine ⟨fun _ => SignalPlace.noConfusion, fun fresh created => ?_⟩
    cases created
    exact SignalPlace.noConfusion
  | unblocking =>
    simp only [place] at taken
    cases taken
    refine ⟨fun _ _ => ?_, nofun⟩
    rw [base, outside]
    exact getLsbD_unmasked_self HandledSignal.sigquit.bit t.mask
  | installing | watching =>
    simp only [place] at taken
    cases taken
    exact ⟨fun _ => SignalPlace.noConfusion, nofun⟩
  | looping =>
    simp only [place] at taken
    cases taken
    refine ⟨fun _ => ?_, nofun⟩
    cases succeeds <;> exact SignalPlace.noConfusion

theorem step_open {action : ThreadAction} {created : Option SignalThread} (inv : t.OpenInv)
    (lets : t.letsIn action = true) (taken : t.step action = some (next, created)) :
    next.OpenInv ∧ ∀ fresh, created = some fresh → fresh.OpenInv := by
  obtain ⟨moves, creates⟩ := step_maskInv inv.mask taken
  suffices opens : (next.involved = true → next.place = .application →
      next.base.getLsbD HandledSignal.sigquit.bit = false) ∧ ∀ fresh, created = some fresh →
      fresh.involved = true → fresh.place = .application →
        fresh.base.getLsbD HandledSignal.sigquit.bit = false from
    ⟨⟨moves, opens.1⟩, fun fresh same => ⟨creates fresh same, opens.2 fresh same⟩⟩
  rcases step_taken inv.mask.nested taken with ⟨mask, frames, rfl, rfl, _, same⟩ | ⟨outside, rest⟩
  · refine ⟨fun involved place => ?_, nofun⟩
    rw [← inv.returned involved place, ← same]
    rfl
  rcases rest with ⟨answers, succeeds, rfl, advanced⟩ | ⟨_, created | changed | called⟩
  · obtain ⟨opened, elsewhere⟩ := advance_open outside lets advanced
    exact ⟨opened, fun fresh same _ place => absurd place (elsewhere fresh same)⟩
  · obtain ⟨rfl, rfl⟩ := created
    refine ⟨inv.returned, fun fresh same involved place => ?_⟩
    cases same
    rw [← inv.returned involved ‹_›, base_eq outside]
    rfl
  · obtain ⟨block, unblock, rfl, rfl, rfl⟩ := changed
    refine ⟨fun involved place => ?_, nofun⟩
    have opened := inv.returned involved place
    rw [base_eq outside] at opened
    have unblocked : block.getLsbD HandledSignal.sigquit.bit = false := Bool.not_eq_true' _ ▸ lets
    rw [base]
    dsimp only
    rw [outside, Interrupts.base, BitVec.getLsbD_and, BitVec.getLsbD_or, opened, unblocked]
    rfl
  · obtain ⟨place, away, _, rfl, rfl⟩ := called
    exact ⟨fun _ at_place => absurd at_place away, nofun⟩

end SignalThread

end AgentNDK
