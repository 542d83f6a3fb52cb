import AgentNDK.Library.Encoding

namespace AgentNDK
open CText

/-- `SI_TKILL`, the code of a signal sent to one thread. -/
def siTkill : Int32 := -6

def getSubcodeDescription (code : Int32) (defaultDescription : Text) : Text :=
  if code = siTkill then "SIG_TKILL" else defaultDescription

/-- One outer case of the switch in `get_signal_description`: the literal of
the signal, the codes it tells apart, and its default. -/
structure SignalCase where
  signo : Int32
  literal : Text
  codes : List (Int32 × Text)
  fallback : Text

def SignalCase.describe (c : SignalCase) (code : Int32) : Text :=
  if code = -1 then c.literal
  else (c.codes.lookup code).getD (getSubcodeDescription code c.fallback)

/-- The signals and codes with their values in the kernel's headers. -/
def signalCases : List SignalCase :=
  [ ⟨4, "SIGILL",
      [(1, "Illegal opcode"), (2, "Illegal operand"), (3, "Illegal addressing mode"),
        (4, "Illegal trap"), (5, "Privileged opcode"), (6, "Privileged register"),
        (7, "Coprocessor error"), (8, "Internal stack error")], "Illegal operation"⟩,
    ⟨5, "SIGTRAP", [(1, "Process breakpoint"), (2, "Process trace trap")], "Trap"⟩,
    ⟨6, "SIGABRT", [], "Process abort signal"⟩,
    ⟨11, "SIGSEGV",
      [(1, "Address not mapped to object"), (2, "Invalid permissions for mapped object")],
      "Segmentation violation"⟩,
    ⟨8, "SIGFPE",
      [(1, "Integer divide by zero"), (2, "Integer overflow"), (3, "Floating-point divide by zero"),
        (4, "Floating-point overflow"), (5, "Floating-point underflow"),
        (6, "Floating-point inexact result"), (7, "Invalid floating-point operation"),
        (8, "Subscript out of range")], "Floating-point"⟩,
    ⟨7, "SIGBUS",
      [(1, "Invalid address alignment"), (2, "Nonexistent physical address"),
        (3, "Object-specific hardware error")], "Bus error"⟩,
    ⟨2, "SIGINT", [], "Terminal interrupt signal"⟩,
    ⟨9, "SIGKILL", [], "Killed"⟩,
    ⟨3, "SIGQUIT", [], "Terminal quit signal (ANR)"⟩ ]

/-- The description of a signal; code -1 asks for the literal of its number. -/
def getSignalDescription (signo code : Int32) : Text :=
  match signalCases.find? (·.signo == signo) with
  | some c => c.describe code
  | none => "UNKNOWN"

/-- What holds of every text of the switch holds of every description. -/
theorem getSignalDescription_of_all (P : Text → Prop) (unknown : P "UNKNOWN")
    (tkill : P "SIG_TKILL") (cases : ∀ c ∈ signalCases, P c.literal ∧ P c.fallback ∧
      ∀ e ∈ c.codes, P e.2) (signo code : Int32) : P (getSignalDescription signo code) := by
  unfold getSignalDescription
  split
  · rename_i c found
    obtain ⟨literal, fallback, codes⟩ := cases c (List.mem_of_find?_eq_some found)
    unfold SignalCase.describe
    split
    · exact literal
    · cases entry : c.codes.lookup code with
      | some d =>
        obtain ⟨_, _, split, _⟩ := List.lookup_eq_some_iff.mp entry
        exact codes (code, d) (by rw [split]; simp)
      | none =>
        rw [Option.getD_none, getSubcodeDescription]
        split
        · exact tkill
        · exact fallback
  · exact unknown

/-- The descriptions are plain texts that fit their array. -/
theorem getSignalDescription_text (signo code : Int32) :
    Plain (getSignalDescription signo code) ∧ (getSignalDescription signo code).length ≤ 38 := by
  have texts : ∀ c ∈ signalCases, (Plain c.literal ∧ c.literal.length ≤ 38) ∧
      (Plain c.fallback ∧ c.fallback.length ≤ 38) ∧ ∀ e ∈ c.codes, Plain e.2 ∧ e.2.length ≤ 38 := by
    decide +kernel
  exact getSignalDescription_of_all (fun text => Plain text ∧ text.length ≤ 38) (by decide) (by decide)
    texts signo code

theorem getSignalDescription_plain (signo code : Int32) : Plain (getSignalDescription signo code) :=
  (getSignalDescription_text signo code).1

theorem getSignalDescription_length (signo code : Int32) :
    (getSignalDescription signo code).length ≤ 38 :=
  (getSignalDescription_text signo code).2

example : getSignalDescription 11 1 = "Address not mapped to object" := by decide

end AgentNDK
