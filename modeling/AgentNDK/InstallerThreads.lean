import AgentNDK.SignalHandler

namespace AgentNDK
open Runs

/-- Where the holder of the module mutex is in `uninstall_handler`. -/
inductive Shutdown
  | idle
  | restoring (rest : List ObservedSignal)
  deriving DecidableEq

/-- The module with its installer threads, which are never joined. -/
structure Installation where
  observers : Observers
  /-- the installers that have not yet incremented `initialized` -/
  starting : Nat
  /-- what the installers in their loop have left to install -/
  looping : List (List ObservedSignal)
  shutdown : Shutdown
  /-- whether a shutdown has returned since the last initialize -/
  quiet : Bool

def Installation.start (disposition : ObservedSignal → Sigaction) : Installation :=
  ⟨.start disposition, 0, [], .idle, false⟩

inductive InstallAction
  /-- `signal_handler_initialize` creates an installer -/
  | create
  /-- an installer increments `initialized` and names itself -/
  | enter (setname : Bool)
  /-- one `sigaction` of an installer -/
  | install (thread : Nat) (succeeds : Bool)
  /-- `signal_handler_shutdown` tests `initialized` -/
  | shutdown
  /-- one `sigaction` of `uninstall_handler`, or its decrement -/
  | restore
  deriving DecidableEq

/-- An installer that has installed the last handler resets `intercepting` and ends. -/
def Installation.install (s : Installation) (thread : Nat) (succeeds : Bool) : Option Installation :=
  match s.looping[thread]? with
  | some (signal :: rest) =>
    let installed := if succeeds then installHandler s.observers signal else s.observers
    if rest = [] then
      some { s with
        observers := { installed with intercepting := 0 }
        looping := s.looping.eraseIdx thread }
    else some { s with observers := installed, looping := s.looping.set thread rest }
  | _ => none

/-- One step of an installer or of the thread that holds the mutex. -/
def Installation.step (s : Installation) : InstallAction → Option Installation
  | .create =>
    if s.shutdown = .idle then some { s with starting := s.starting + 1, quiet := false } else none
  | .enter setname =>
    if s.starting = 0 then none
    else
      some { s with
        observers := { s.observers with initialized := s.observers.initialized + 1 }
        starting := s.starting - 1
        looping := if s.observers.initialized = 0 ∧ setname then s.looping ++ [observedSignals]
          else s.looping }
  | .install thread succeeds => s.install thread succeeds
  | .shutdown =>
    if s.shutdown = .idle then
      if 0 < s.observers.initialized then some { s with shutdown := .restoring observedSignals }
      else some { s with quiet := true }
    else none
  | .restore =>
    match s.shutdown with
    | .idle => none
    | .restoring (signal :: rest) =>
      some { s with observers := restoreHandler s.observers signal, shutdown := .restoring rest }
    | .restoring [] =>
      some { s with
        observers := { s.observers with initialized := s.observers.initialized - 1 }
        shutdown := .idle
        quiet := true }

/-- The interceptor was never saved, and once everything has come to rest after
a shutdown it is installed for no signal. -/
def Installation.Safe (s : Installation) : Prop :=
  (∀ signal, (s.observers.saPrevious signal).saHandler ≠ .interceptor) ∧
    (s.quiet = true → s.starting = 0 → s.looping = [] →
      ∀ signal, (s.observers.disposition signal).saHandler ≠ .interceptor)

/-- A shutdown begins only while no installer is in its loop and, unless the
counter is at least two, none has yet to increment it. -/
def Settled (s : Installation) : InstallAction → Prop
  | .shutdown => s.looping = [] ∧ (s.starting = 0 ∨ 2 ≤ s.observers.initialized)
  | _ => True

instance : (s : Installation) → (action : InstallAction) → Decidable (Settled s action)
  | _, .shutdown => inferInstanceAs (Decidable (_ ∧ _))
  | _, .create | _, .enter _ | _, .install _ _ | _, .restore => instDecidableTrue

/-- No disposition in the set is the interceptor. -/
def Observers.Free (o : Observers) (signals : ObservedSignal → Prop) : Prop :=
  ∀ signal, signals signal → (o.disposition signal).saHandler ≠ .interceptor

/-- What holds as long as shutdowns begin only in settled states. -/
structure Installation.Inv (s : Installation) : Prop where
  saved : ∀ signal, (s.observers.saPrevious signal).saHandler ≠ .interceptor
  counter : 0 ≤ s.observers.initialized
  /-- at zero nothing is installed and nobody installs -/
  zero : s.observers.initialized = 0 →
    s.looping = [] ∧ s.shutdown = .idle ∧ s.observers.Free fun _ => True
  /-- at most one installer loops, over signals it has not installed -/
  single : s.looping = [] ∨
    ∃ rest : List ObservedSignal, s.looping = [rest] ∧ rest.Nodup ∧ s.observers.Free (· ∈ rest)
  /-- a shutdown has removed what it has restored -/
  restored : ∀ rest, s.shutdown = .restoring rest → s.looping = [] ∧
    (s.starting = 0 ∨ 2 ≤ s.observers.initialized) ∧ s.observers.Free (· ∉ rest)
  atRest : s.quiet = true → s.looping = [] ∧
    (s.starting = 0 ∨ 1 ≤ s.observers.initialized) ∧ s.observers.Free fun _ => True

theorem start_inv {disposition : ObservedSignal → Sigaction}
    (fresh : ∀ signal, (disposition signal).saHandler ≠ .interceptor) :
    (Installation.start disposition).Inv where
  saved := fun _ => Handler.noConfusion
  counter := Int.le_refl 0
  zero := fun _ => ⟨rfl, rfl, fun signal _ => fresh signal⟩
  single := Or.inl rfl
  restored := fun _ => Shutdown.noConfusion
  atRest := Bool.noConfusion

section Steps
variable {s t : Installation}

/-- The counter is still positive while a shutdown restores. -/
theorem Installation.Inv.restoring_ne_zero (inv : s.Inv) {rest : List ObservedSignal}
    (restoring : s.shutdown = .restoring rest) : s.observers.initialized ≠ 0 := fun zero =>
  absurd ((inv.zero zero).2.1.symm.trans restoring) Shutdown.noConfusion

theorem inv_create (inv : s.Inv) (taken : s.step .create = some t) : t.Inv := by
  simp only [Installation.step] at taken
  split at taken
  · rename_i idle
    cases taken
    exact { inv with
      restored := fun rest restoring => absurd (idle.symm.trans restoring) Shutdown.noConfusion
      atRest := Bool.noConfusion }
  · cases taken

theorem inv_enter {setname : Bool} (inv : s.Inv) (taken : s.step (.enter setname) = some t) :
    t.Inv := by
  simp only [Installation.step] at taken
  split at taken
  · cases taken
  rename_i waiting
  cases taken
  have counter := inv.counter
  -- whoever enters while the counter is positive does not loop
  have passes : 1 ≤ s.observers.initialized → ¬ (s.observers.initialized = 0 ∧ setname = true) := by
    omega
  refine
    { saved := inv.saved
      counter := by dsimp only; omega
      zero := fun zero => by dsimp only at zero; omega
      single := ?_
      restored := fun rest restoring => ?_
      atRest := fun quiet => ?_ }
  · dsimp only
    split
    · rename_i first
      obtain ⟨nobody, _, free⟩ := inv.zero first.1
      refine Or.inr ⟨observedSignals, by rw [nobody]; rfl, by decide, ?_⟩
      exact fun signal _ => free signal trivial
    · exact inv.single
  · obtain ⟨nobody, counted, free⟩ := inv.restored rest restoring
    dsimp only
    rw [if_neg (passes (by omega))]
    exact ⟨nobody, Or.inr (by omega), free⟩
  · obtain ⟨nobody, counted, free⟩ := inv.atRest quiet
    dsimp only
    rw [if_neg (passes (by omega))]
    exact ⟨nobody, Or.inr (by omega), free⟩

theorem inv_shutdown (inv : s.Inv) (settled : Settled s .shutdown)
    (taken : s.step .shutdown = some t) : t.Inv := by
  obtain ⟨nobody, counted⟩ := settled
  simp only [Installation.step] at taken
  split at taken
  · split at taken
    · rename_i positive
      cases taken
      exact { inv with
        zero := fun zero => absurd zero (by dsimp only; omega)
        restored := fun rest restoring => by
          cases restoring
          exact ⟨nobody, counted, fun signal other => absurd (mem_observedSignals signal) other⟩ }
    · rename_i zero
      cases taken
      have counter := inv.counter
      have waiting : s.starting = 0 := by omega
      exact { inv with atRest := fun _ => ⟨nobody, Or.inl waiting, (inv.zero (by omega)).2.2⟩ }
  · cases taken

/-- Restoring a signal removes the interceptor from it and installs it nowhere. -/
theorem restoreHandler_free {o : Observers} {signal : ObservedSignal} {signals : ObservedSignal → Prop}
    (saved : ∀ s, (o.saPrevious s).saHandler ≠ .interceptor)
    (free : o.Free fun s => signals s ∧ s ≠ signal) : (restoreHandler o signal).Free signals := by
  intro other member
  by_cases same : other = signal
  · rw [same, restoreHandler_self]
    exact saved signal
  · rw [restoreHandler_other o signal same]
    exact free other ⟨member, same⟩

theorem inv_restore (inv : s.Inv) (taken : s.step .restore = some t) : t.Inv := by
  simp only [Installation.step] at taken
  split at taken
  · cases taken
  · rename_i signal rest restoring
    cases taken
    obtain ⟨nobody, counted, free⟩ := inv.restored _ restoring
    have positive := inv.restoring_ne_zero restoring
    refine
      { saved := inv.saved
        counter := inv.counter
        zero := fun zero => absurd zero positive
        single := Or.inl nobody
        restored := fun later same => ?_
        atRest := fun quiet => ?_ }
    · cases same
      exact ⟨nobody, counted, restoreHandler_free inv.saved fun other member =>
        free other (by simp [member.1, member.2])⟩
    · obtain ⟨_, started, all⟩ := inv.atRest quiet
      exact ⟨nobody, started, restoreHandler_free inv.saved fun other _ => all other trivial⟩
  · rename_i restoring
    cases taken
    obtain ⟨nobody, counted, free⟩ := inv.restored _ restoring
    have positive := inv.restoring_ne_zero restoring
    have counter := inv.counter
    have all : s.observers.Free fun _ => True := fun signal _ => free signal (by simp)
    exact
      { saved := inv.saved
        counter := by dsimp only; omega
        zero := fun _ => ⟨nobody, rfl, all⟩
        single := Or.inl nobody
        restored := fun _ => Shutdown.noConfusion
        atRest := fun _ => ⟨nobody, by dsimp only; omega, all⟩ }

/-- Installing a signal that is free saves no interceptor. -/
theorem installHandler_free {o : Observers} {signal : ObservedSignal} {rest : List ObservedSignal}
    (saved : ∀ s, (o.saPrevious s).saHandler ≠ .interceptor) (free : o.Free (· ∈ signal :: rest))
    (new : signal ∉ rest) :
    (∀ s, ((installHandler o signal).saPrevious s).saHandler ≠ .interceptor) ∧
      (installHandler o signal).Free (· ∈ rest) := by
  constructor
  · intro other
    by_cases same : other = signal
    · rw [same, installHandler_saves]
      exact free signal List.mem_cons_self
    · rw [installHandler_keeps o signal same]
      exact saved other
  · intro other member
    have ne : other ≠ signal := fun same => new (same ▸ member)
    rw [installHandler_other o signal ne]
    exact free other (List.mem_cons_of_mem signal member)

theorem inv_install {thread : Nat} {succeeds : Bool} (inv : s.Inv)
    (taken : s.step (.install thread succeeds) = some t) : t.Inv := by
  simp only [Installation.step, Installation.install] at taken
  split at taken
  · rename_i signal rest found
    -- the installer is the only one, so no other has the signal still to install
    obtain ⟨only, distinct, free, first⟩ : s.looping = [signal :: rest] ∧ (signal :: rest).Nodup ∧
        s.observers.Free (· ∈ signal :: rest) ∧ thread = 0 := by
      rcases inv.single with nobody | ⟨loop, only, distinct, free⟩
      · rw [nobody] at found
        cases found
      · rw [only] at found
        obtain ⟨bound, same⟩ := List.getElem?_eq_some_iff.mp found
        rw [List.getElem_singleton] at same
        exact ⟨same ▸ only, same ▸ distinct, same ▸ free, Nat.lt_one_iff.mp bound⟩
    obtain ⟨new, later⟩ := List.nodup_cons.mp distinct
    have busy : s.looping ≠ [] := by simp [only]
    have positive : s.observers.initialized ≠ 0 := fun zero => busy (inv.zero zero).1
    have settle : ∀ {o : Observers} {looping : List (List ObservedSignal)},
        o.initialized = s.observers.initialized → (∀ s, (o.saPrevious s).saHandler ≠ .interceptor) →
        o.Free (· ∈ rest) → looping = [] ∨ looping = [rest] →
        { s with observers := o, looping := looping }.Inv := by
      intro o looping counted saved freed loops
      exact
        { saved := saved
          counter := by dsimp only; rw [counted]; exact inv.counter
          zero := fun zero => absurd (counted.symm.trans zero) positive
          single := loops.imp id fun one => ⟨rest, one, later, freed⟩
          restored := fun _ restoring => absurd (inv.restored _ restoring).1 busy
          atRest := fun quiet => absurd (inv.atRest quiet).1 busy }
    have freed := installHandler_free inv.saved free new
    have kept : s.observers.Free (· ∈ rest) := fun other member =>
      free other (List.mem_cons_of_mem signal member)
    rw [only, first] at taken
    split at taken <;> cases taken <;> cases succeeds
    · exact settle rfl inv.saved kept (Or.inl rfl)
    · exact settle rfl freed.1 freed.2 (Or.inl rfl)
    · exact settle rfl inv.saved kept (Or.inr rfl)
    · exact settle rfl freed.1 freed.2 (Or.inr rfl)
  · cases taken

theorem inv_step {action : InstallAction} (inv : s.Inv) (settled : Settled s action)
    (taken : s.step action = some t) : t.Inv := by
  cases action with
  | create => exact inv_create inv taken
  | enter setname => exact inv_enter inv taken
  | install thread succeeds => exact inv_install inv taken
  | shutdown => exact inv_shutdown inv settled taken
  | restore => exact inv_restore inv taken

theorem Installation.Inv.safe (inv : s.Inv) : s.Safe :=
  ⟨inv.saved, fun quiet _ _ signal => (inv.atRest quiet).2.2 signal trivial⟩

end Steps

/-- Every run whose shutdowns begin in settled states is safe. -/
theorem installation_safe {disposition : ObservedSignal → Sigaction}
    (fresh : ∀ signal, (disposition signal).saHandler ≠ .interceptor) {s : Installation}
    {actions : List InstallAction}
    (reach : run (restrict Settled Installation.step) (.start disposition) actions = some s) :
    s.Safe := by
  have inv : s.Inv := run_restrict_invariant (fun _ _ _ => inv_step) (start_inv fresh) reach
  exact inv.safe

/-- A start, its installer and a stop, step by step. -/
def oneRound : List InstallAction :=
  [.create, .enter true] ++ List.replicate 6 (.install 0 true) ++ [.shutdown] ++
    List.replicate 7 .restore

theorem installation_safe_twice : ∃ s, run (restrict Settled Installation.step)
    (.start fun _ => ⟨.sigDfl, 0, 0⟩) (oneRound ++ oneRound) = some s ∧ s.Safe := by
  have reach : ∃ s, run (restrict Settled Installation.step) (.start fun _ => ⟨.sigDfl, 0, 0⟩)
      (oneRound ++ oneRound) = some s := ⟨_, rfl⟩
  obtain ⟨s, reach⟩ := reach
  exact ⟨s, reach, installation_safe (fun _ => Handler.noConfusion) reach⟩

/-- A stop overtakes the installer after its first signal. -/
def overtakenInstaller : List InstallAction :=
  [.create, .enter true, .install 0 true, .shutdown] ++ List.replicate 7 .restore ++
    List.replicate 5 (.install 0 true)

/-- The installer it overtook leaves the interceptor installed for good, and
the next one saves it as what it replaced. -/
theorem installation_unsafe : ∃ s t,
    run Installation.step (.start fun _ => ⟨.sigDfl, 0, 0⟩) overtakenInstaller = some s ∧
      (s.quiet = true ∧ s.starting = 0 ∧ s.looping = [] ∧
        (s.observers.disposition .sigsegv).saHandler = .interceptor) ∧
      run Installation.step s ([.create, .enter true] ++ List.replicate 6 (.install 0 true)) = some t ∧
      (t.observers.saPrevious .sigsegv).saHandler = .interceptor ∧ ¬ s.Safe ∧ ¬ t.Safe := by
  refine ⟨_, _, rfl, ⟨rfl, rfl, rfl, rfl⟩, rfl, rfl, fun safe => ?_, fun safe => ?_⟩
  · exact safe.2 rfl rfl rfl .sigsegv rfl
  · exact safe.1 .sigsegv rfl

end AgentNDK
