import AgentNDK.DecodedReport
import AgentNDK.Library.Doubles

namespace AgentNDK
open CText JsonText Doubles
variable {tgt : Target}

/-- An unsigned literal is read as the Long it fits, or by way of a Double. -/
def OrgJson.ReadsLiterals (org : OrgJson) (held : Json → Json) : Prop :=
  ∀ n < 2 ^ 64, org.toLong (held (.num (decimal n))) = some (literalLong n)

theorem readSignedHexadecimal_signedHexadecimal (i : Int) :
    readSignedHexadecimal (signedHexadecimal i) = i := by
  cases i with
  | ofNat n =>
    rw [signedHexadecimal]
    unfold readSignedHexadecimal
    split
    · rename_i digits same
      have sign : '-' ∈ hexadecimal n := same ▸ List.mem_cons_self
      exact absurd sign (minus_not_mem_hexadecimal n)
    · exact congrArg Int.ofNat (readHexadecimal_hexadecimal n)
  | negSucc n =>
    rw [signedHexadecimal, readSignedHexadecimal, readHexadecimal_hexadecimal]
    rfl

/-- The text ends in a hexadecimal number that denotes the address. -/
def ShowsAddress (text before : Text) (address : Nat) : Prop :=
  ∃ shown, text = before ++ shown ∧ readSignedHexadecimal shown = address

/-- A literal shows as itself exactly below 2^63. -/
theorem showsAddress_iff (before : Text) (address : Nat) :
    ShowsAddress (before ++ signedHexadecimal (literalLong address)) before address ↔ address < 2 ^ 63 := by
  have shows : ShowsAddress (before ++ signedHexadecimal (literalLong address)) before address ↔
      literalLong address = address := by
    constructor
    · rintro ⟨shown, same, denotes⟩
      rw [← List.append_cancel_left same, readSignedHexadecimal_signedHexadecimal] at denotes
      exact denotes
    · intro same
      exact ⟨_, rfl, (readSignedHexadecimal_signedHexadecimal _).trans same⟩
  rw [shows]
  by_cases small : address < 2 ^ 63
  · exact iff_of_true (literalLong_of_fits (by omega) (by omega)) small
  · have large := literalLong_of_large (Nat.le_of_not_lt small)
    exact iff_of_false (by omega) small

section
variable {org : OrgJson} {held : Json → Json} (literals : org.ReadsLiterals held)
include literals

theorem getLong_literal {ms : JSONObject} {name : Text} {value : tgt.Word}
    (found : OrgJson.opt ms name = some (.num (fmtZu value))) :
    org.getLong (ms.map fun m => (m.1, held m.2)) name = some (literalLong value.toNat) := by
  rw [OrgJson.getLong, opt_held, found]
  exact literals value.toNat (tgt.word_lt value)

theorem frame_className (frame : Stackframe tgt) :
    (NativeStackFrame.fromJson org ((frameMembers frame).map fun m => (m.1, held m.2))).declaringClass =
      "0x" ++ signedHexadecimal (literalLong frame.address.toNat) := by
  have address := getLong_literal literals
    ((opt_frameMembers_common frame "address" (by decide) (by decide)).trans rfl)
  unfold NativeStackFrame.fromJson OrgJson.optLong
  rw [address, Option.getD_some]

end

/-- The message and the class name of a frame, which goes through its text once
more, denote the addresses the report was emitted for exactly when both fit a Long. -/
theorem addresses_shown_iff {org : OrgJson} (lawful : org.Lawful) (literals : org.ReadsLiterals org.held)
    (reliterals : org.ReadsLiterals org.reheld) {siginfo : Siginfo tgt} {backtrace : JSONObject}
    (found : OrgJson.opt backtrace "exception" = some (.obj (exceptionMembers siginfo)))
    (frame : Stackframe tgt) :
    (ShowsAddress (decodeException org (backtrace.map fun m => (m.1, org.held m.2)) "Native exception")
        (messageBeforeAddress siginfo) siginfo.siAddr.toNat ∧
      ShowsAddress (NativeStackFrame.fromJson org
        ((frameMembers frame).map fun m => (m.1, org.reheld m.2))).declaringClass "0x"
        frame.address.toNat) ↔
      siginfo.siAddr.toNat < 2 ^ 63 ∧ frame.address.toNat < 2 ^ 63 := by
  have faultAddress : OrgJson.opt (signalInfoMembers siginfo) "faultAddress" =
    some (.num (fmtZu siginfo.siAddr)) := rfl
  rw [exception_message lawful.holding (getLong_literal literals faultAddress) found,
    frame_className reliterals frame, showsAddress_iff, showsAddress_iff]

/-- A reader that holds every value as it stands and converts the numbers that
do not fit. -/
def OrgJson.rounding : OrgJson :=
  { OrgJson.verbatim with
    toLong := fun v => if let .num literal := v then some (literalLong (readDecimal literal)) else none }

theorem OrgJson.rounding_lawful : OrgJson.rounding.Lawful := by
  have before := OrgJson.verbatim_lawful
  have toLong : ∀ i : Int, -2 ^ 63 ≤ i → i < 2 ^ 63 →
      OrgJson.rounding.toLong (.num (signedDecimal i)) = some i := by
    intro i lower upper
    rw [OrgJson.rounding]
    dsimp only
    rw [readDecimal_signedDecimal, literalLong_of_fits lower upper]
  have holding : OrgJson.rounding.Holding id :=
    ⟨before.holding.obj, before.holding.arr, before.holding.toStr_str, before.holding.toBoolean_bool,
      before.holding.toInt_num, toLong⟩
  exact ⟨before.parse_document, before.reparse, holding, holding⟩

theorem OrgJson.rounding_literals : OrgJson.rounding.ReadsLiterals id := by
  intro n _
  show some (literalLong (readDecimal (signedDecimal n))) = _
  rw [readDecimal_signedDecimal]

/-- SIGSEGV at this address, on arm64. -/
def faultAt (siAddr : BitVec 64) : Siginfo .arm64Build :=
  ⟨11, 1, siAddr⟩

def faultMembers (siAddr : BitVec 64) : JSONObject :=
  [("exception", .obj (exceptionMembers (faultAt siAddr)))]

theorem symName_room : 0 < 255 :=
  Nat.succ_pos 254

/-- An unresolved frame with this address. -/
def frameAt (address : BitVec 64) : Stackframe .arm64Build where
  index := 0
  address := address
  pc := 0
  soPath := CharArray.empty Target.arm64Build.pathMaxPos
  symName := CharArray.empty symName_room
  soBase := 0
  symAddr := 0
  symAddrOffset := 0

/-- A fault and a frame in the lower half of the address space. -/
theorem low_addresses_shown :
    ShowsAddress (decodeException OrgJson.rounding
        ((faultMembers 0x1000).map fun m => (m.1, OrgJson.rounding.held m.2)) "Native exception")
        (messageBeforeAddress (faultAt 0x1000)) (faultAt 0x1000).siAddr.toNat ∧
      ShowsAddress (NativeStackFrame.fromJson OrgJson.rounding
        ((frameMembers (frameAt 0x2000)).map fun m => (m.1, OrgJson.rounding.reheld m.2))).declaringClass
        "0x" (frameAt 0x2000).address.toNat :=
  (addresses_shown_iff OrgJson.rounding_lawful OrgJson.rounding_literals OrgJson.rounding_literals
    (show OrgJson.opt (faultMembers 0x1000) "exception" =
      some (.obj (exceptionMembers (faultAt 0x1000))) from rfl) (frameAt 0x2000)).mpr (by decide)

/-- A fault 16 bytes below the null pointer shows the greatest Long. -/
theorem high_address_misshown : ¬ ShowsAddress (decodeException OrgJson.rounding
    ((faultMembers (-16)).map fun m => (m.1, OrgJson.rounding.held m.2)) "Native exception")
    (messageBeforeAddress (faultAt (-16))) (faultAt (-16)).siAddr.toNat := by
  have faultAddress : OrgJson.opt (signalInfoMembers (faultAt (-16))) "faultAddress" =
    some (.num (fmtZu (faultAt (-16)).siAddr)) := rfl
  have exception : OrgJson.opt (faultMembers (-16)) "exception" =
    some (.obj (exceptionMembers (faultAt (-16)))) := rfl
  rw [exception_message OrgJson.rounding_lawful.holding
    (getLong_literal OrgJson.rounding_literals faultAddress) exception, showsAddress_iff]
  decide

end AgentNDK
