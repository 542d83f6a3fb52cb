import AgentNDK.FlushSerial
import AgentNDK.StoredReport

namespace AgentNDK
open CText Runs Threads ReportStore
variable {tgt : Target} {τ : Type}

/-- A call of `collect_backtrace`, with what its site has for it. -/
structure SiteCall (tgt : Target) where
  site : CallSite
  os : Os tgt
  nativeContext : NativeContext tgt
  buffer : Text
  siginfo : Siginfo tgt
  ucontext : Ucontext tgt
  zeroed : Ucontext tgt
  storage : Storage

namespace SiteCall

/-- The result; the process dies where there is none. -/
def collects (call : SiteCall tgt) : Except Fault (Bool × Text) :=
  collectBacktrace call.os call.nativeContext call.buffer (BitVec.ofNat _ backtraceSzMax)
    (call.site.siginfo call.siginfo) (call.site.ucontext call.ucontext call.zeroed)

/-- What the site does with the buffer; the stack dump returns it. -/
def stores (call : SiteCall tgt) : Option (ListenerMethod × Stored) :=
  match call.collects with
  | .ok (true, cells) =>
    let length := BitVec.ofNat _ (strlen cells)
    match call.site with
    | .interceptor =>
      (fromCrash call.storage call.nativeContext cells length).map (.onNativeCrash, ·)
    | .anrInterceptor =>
      (fromAnr call.storage call.nativeContext cells (BitVec.ofNat _ backtraceSzMax)).map
        (.onApplicationNotResponding, ·)
    | .dumpStack => none
    | .terminateHandler | .terminateHandlerException | .terminateHandlerUnknown | .unexpectedHandler =>
      (fromException call.storage call.nativeContext cells length).map (.onNativeException, ·)
  | _ => none

/-- The document of the signal. -/
def report (call : SiteCall tgt) : Text :=
  emitBacktrace call.os call.nativeContext (collected call.os call.siginfo (some call.ucontext))

/-- The call stores this text under the name, in the directory of the reports. -/
def Stores (call : SiteCall tgt) (name payload : Text) : Prop :=
  ∃ method stored, call.stores = some (method, stored) ∧
    call.nativeContext.reportPathAbsolute.text ++ "/" ++ name = stored.path ∧ payload = stored.handed

/-- A site of a signal handler, and the method for its reports. -/
inductive Signals : CallSite → ListenerMethod → Prop
  | crash : Signals .interceptor .onNativeCrash
  | anr : Signals .anrInterceptor .onApplicationNotResponding

theorem Signals.not_exception {site : CallSite} {method : ListenerMethod} (signals : Signals site method) :
    method ≠ .onNativeException := by
  cases signals <;> exact ListenerMethod.noConfusion

/-- A complete buffer is handed over whole. -/
theorem handed_of_complete {call : SiteCall tgt} {cells filepath : Text} {size : tgt.Word} {stored : Stored}
    {signal : Siginfo tgt} {context : Option (Ucontext tgt)}
    (complete : collectBacktrace call.os call.nativeContext call.buffer (BitVec.ofNat _ backtraceSzMax)
      (some signal) context = .ok (true, cells))
    (sized : size = BitVec.ofNat _ (strlen cells) ∨ size = BitVec.ofNat _ backtraceSzMax)
    (written : (toStorage call.storage call.nativeContext filepath cells size).2 = some stored) :
    stored.handed = emitBacktrace call.os call.nativeContext (collected call.os signal context) := by
  have free := emitBacktrace_nulFree call.os call.nativeContext (collected call.os signal context)
  rw [collectBacktrace_some] at complete
  dsimp only at complete
  rw [cstr_of_nulFree free, szMax_sub_two] at complete
  generalize emitBacktrace call.os call.nativeContext (collected call.os signal context) = report at *
  simp only [Except.ok.injEq, Prod.mk.injEq, beq_iff_eq] at complete
  obtain ⟨whole, rfl⟩ := complete
  have short : report.length ≤ backtraceSzMax - 2 := by omega
  rw [whole, List.take_length] at sized written
  refine toStorage_handed free ?_ written
  rcases sized with rfl | rfl
  · rw [strlen_append_nul free, BitVec.toNat_ofNat, Nat.mod_eq_of_lt]
    exact short.trans_lt ((Nat.sub_le ..).trans_lt tgt.szMax_lt)
  · rw [szMax_toNat]
    exact short.trans (Nat.sub_le ..)

/-- Only a signal has a report stored, and all of it: the handlers of exceptions
read through the null siginfo that they pass. -/
theorem stores_spec {call : SiteCall tgt} {method : ListenerMethod} {stored : Stored}
    (stores : call.stores = some (method, stored)) :
    Signals call.site method ∧ stored.handed = call.report ∧
      ∃ buffer size, (method, some stored) ∈ writers call.storage call.nativeContext buffer size := by
  unfold SiteCall.stores at stores
  split at stores
  · rename_i cells complete
    unfold collects at complete
    dsimp only at stores
    split at stores
    · rename_i site
      obtain ⟨written, saved, pair⟩ := Option.map_eq_some_iff.mp stores
      cases pair
      rw [site] at complete
      exact ⟨site ▸ .crash, handed_of_complete complete (Or.inl rfl) saved, _, _, by
        rw [← saved]
        exact List.mem_cons_self⟩
    · rename_i site
      obtain ⟨written, saved, pair⟩ := Option.map_eq_some_iff.mp stores
      cases pair
      rw [site] at complete
      exact ⟨site ▸ .anr, handed_of_complete complete (Or.inr rfl) saved, _, _, by
        rw [← saved]
        exact List.mem_cons_of_mem _ (List.mem_cons_of_mem _ List.mem_cons_self)⟩
    · cases stores
    all_goals
      rename_i site
      rw [site] at complete
      cases (collectBacktrace_none ..).symm.trans complete
  · cases stores

/-- What is stored under a name is the document of a signal that the name is for. -/
theorem Stores.signals {call : SiteCall tgt} {name payload : Text} (stores : call.Stores name payload)
    {method : ListenerMethod} (named : callbackFor name = some method) :
    Signals call.site method ∧ payload = call.report := by
  obtain ⟨writer, stored, stores, located, rfl⟩ := stores
  obtain ⟨signals, whole, buffer, size, written⟩ := stores_spec stores
  have same : writer = method := Option.some.inj ((written_name written located).symm.trans named)
  exact ⟨same ▸ signals, whole⟩

/-- A crash is stored whole, where the file can be opened and no thread is listed twice. -/
theorem crash_stores {call : SiteCall tgt} (site : call.site = .interceptor)
    (distinct : ((collected call.os call.siginfo (some call.ucontext)).threads.map (·.tid)).Nodup)
    (opens : ∀ path, call.storage.opens path = true) :
    call.Stores ("crash-" ++ call.storage.wallTime ++ zeroPad 3 (decimal call.storage.millis)) call.report := by
  have free : nul ∉ call.report := emitBacktrace_nulFree _ _ _
  have short : call.report.length ≤ backtraceSzMax - 2 := emitBacktrace_length _ _ (collected_bounded distinct)
  have complete : call.collects = .ok (true, holding call.report call.buffer) := by
    unfold collects
    rw [site]
    change collectBacktrace _ _ _ _ (some call.siginfo) (some call.ucontext) = _
    have emitted : cstr (emitBacktrace call.os call.nativeContext
        (collected call.os call.siginfo (some call.ucontext))) = call.report := cstr_of_nulFree free
    rw [collectBacktrace_some, emitted]
    dsimp only
    rw [szMax_sub_two, min_eq_left short, List.take_length, beq_self_eq_true]
    rfl
  have stored : ∃ stored, fromCrash call.storage call.nativeContext (holding call.report call.buffer)
      (BitVec.ofNat _ (strlen (holding call.report call.buffer))) = some stored ∧
      stored.path = generateTmpFilename call.storage call.nativeContext "crash-" := by
    unfold fromCrash toStorage
    dsimp only
    rw [if_pos (opens _)]
    exact ⟨_, rfl, rfl⟩
  obtain ⟨stored, written, path⟩ := stored
  have stores : call.stores = some (.onNativeCrash, stored) := by
    unfold SiteCall.stores
    rw [complete]
    dsimp only
    rw [site]
    dsimp only
    rw [written]
    rfl
  refine ⟨_, stored, stores, ?_, (stores_spec stores).2.1.symm⟩
  rw [path, generateTmpFilename]
  simp only [List.append_assoc]

end SiteCall

/-- A text that a call has stored under the name: all of it, or what an earlier
process has left of it. -/
def Originates (tgt : Target) (old : List ReportFile) (name text : Text) : Prop :=
  ∃ (call : SiteCall tgt) (payload : Text), call.Stores name payload ∧ text <+: payload ∧
    (text = payload ∨ name ∈ old.map ReportFile.name)

/-- What holds of the callbacks while only the sites store reports. -/
structure HeardInv (tgt : Target) (old : List ReportFile) (s : FlushThreads τ) : Prop where
  holds : flushOutline.Holds s
  payloads : ∀ entry ∈ s.shared.payloads, Originates tgt old entry.1 entry.2
  calls : ∀ entry ∈ s.shared.flush.calls, callbackFor entry.1 = some entry.2.method ∧
    ∃ payload, (entry.1, payload) ∈ s.shared.payloads ∧ entry.2.text <+: payload

section Runs
variable [DecidableEq τ] {old : List ReportFile} {s s' : FlushThreads τ}

theorem mem_payloads {turn : τ × FlushMove} (taken : s.step turn = some s') :
    ∀ entry ∈ s'.shared.payloads, entry ∈ s.shared.payloads ∨
      ∃ now, turn.2 = .store entry.1 entry.2 now := by
  obtain ⟨next, acted, rfl⟩ := step_eq_some.mp taken
  intro entry member
  rcases flushAct_records acted with ⟨_, same⟩ | ⟨_, _, _, _, _, _, _, _, _, _, _, same⟩ |
    ⟨name, payload, now, stores, _, added⟩
  · exact Or.inl (same ▸ member)
  · exact Or.inl (same ▸ member)
  · rw [added] at member
    rcases List.mem_append.mp member with before | this
    · exact Or.inl before
    · rw [List.mem_singleton.mp this]
      exact Or.inr ⟨now, stores⟩

theorem heard_step {turn : τ × FlushMove} (inv : HeardInv tgt old s)
    (sites : ∀ name payload now, turn.2 = .store name payload now → Originates tgt old name payload)
    (taken : s.step turn = some s') : HeardInv tgt old s' where
  holds := inv.holds.step flush_keeps taken
  payloads := fun entry member => (mem_payloads taken entry member).elim (inv.payloads entry)
    fun ⟨now, stores⟩ => sites entry.1 entry.2 now stores
  calls := by
    have grows : ∀ entry ∈ s.shared.payloads, entry ∈ s'.shared.payloads := by
      obtain ⟨next, acted, rfl⟩ := step_eq_some.mp taken
      exact (flushAct_advances inv.holds.always.1 inv.holds.always.2 (inv.holds.relies _) acted).spares.payloads
    have before : ∀ entry ∈ s.shared.flush.calls, callbackFor entry.1 = some entry.2.method ∧
        ∃ payload, (entry.1, payload) ∈ s'.shared.payloads ∧ entry.2.text <+: payload := by
      intro entry member
      obtain ⟨named, payload, stored, start⟩ := inv.calls entry member
      exact ⟨named, payload, grows _ stored, start⟩
    rcases new_call inv.holds taken with same | ⟨name, method, text, added, _, named, holds⟩
    · rw [same]
      exact before
    · rw [added]
      obtain ⟨payload, stored, start, _⟩ := holds
      exact List.forall_mem_append.mpr
        ⟨before, List.forall_mem_singleton.mpr ⟨named, payload, grows _ stored, start⟩⟩

/-- What the listener hears of. -/
structure SignalsHeard (tgt : Target) (old : List ReportFile) (s : FlushThreads τ) : Prop where
  /-- Every callback is for a signal, with its document or the start of it, -/
  heard : ∀ entry ∈ s.shared.flush.calls, ∃ (call : SiteCall tgt) (payload : Text),
    call.Stores entry.1 payload ∧ SiteCall.Signals call.site entry.2.method ∧ entry.2.text <+: call.report
  /-- which it has whole unless the file is open, or was cut or left by an earlier process. -/
  whole : ∀ turn next name callback, s.step turn = some next →
    next.shared.flush.calls = s.shared.flush.calls ++ [(name, callback)] →
    name ∉ s.shared.writers → name ∉ s.shared.cut → name ∉ old.map ReportFile.name →
    ∃ (call : SiteCall tgt) (payload : Text), call.Stores name payload ∧ callback.text = call.report
  /-- No exception is ever heard of. -/
  exceptions : ∀ entry ∈ s.shared.flush.calls, entry.2.method ≠ .onNativeException

end Runs

/-- A signal in a process of two threads. -/
def segfault : SiteCall .x86Build where
  site := .interceptor
  os := Os.running [6, 7] 7
  nativeContext := NativeContext.zeroed _
  buffer := []
  siginfo := ⟨11, 1, 0⟩
  ucontext := Ucontext.running
  zeroed := Ucontext.running
  storage := ⟨"20240229235959", 7, fun _ => true, id⟩

end AgentNDK
