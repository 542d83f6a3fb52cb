import AgentNDK.Report

namespace AgentNDK
open CText JsonText

/-- A member of the registers object: how it prints a word, which word it is
handed, and the register its key names. -/
structure RegisterMember (abi : Abi) where
  key : Text
  quotes : Bool
  conversion : BitVec abi.wordBits → Text
  printed : Mcontext abi → BitVec abi.wordBits
  named : Mcontext abi → BitVec abi.wordBits

namespace RegisterMember
variable {abi : Abi}

/-- A member that is handed the register it names. -/
def of (abi : Abi) (key : Text) (quotes : Bool) (conversion : BitVec abi.wordBits → Text)
    (register : Mcontext abi → BitVec abi.wordBits) : RegisterMember abi :=
  ⟨key, quotes, conversion, register, register⟩

/-- The text of the member. -/
def line (r : RegisterMember abi) (m : Mcontext abi) : Text :=
  if r.quotes then quoted r.key (r.conversion (r.printed m)) else bare r.key (r.conversion (r.printed m))

/-- Two contexts have the same text for the member exactly when they agree in
the register it names. -/
def Determines (r : RegisterMember abi) : Prop :=
  ∀ m m' : Mcontext abi, r.line m = r.line m' ↔ r.named m = r.named m'

theorem line_eq_iff (r : RegisterMember abi) (m m' : Mcontext abi) :
    r.line m = r.line m' ↔ r.conversion (r.printed m) = r.conversion (r.printed m') := by
  constructor
  · intro same
    unfold line at same
    split at same
    · exact List.append_cancel_left (List.append_cancel_right same)
    · exact List.append_cancel_left same
  · intro same
    rw [line, line, same]

theorem of_determines {conversion : BitVec abi.wordBits → Text}
    (injective : ∀ a b, conversion a = conversion b → a = b) (key : Text) (quotes : Bool)
    (register : Mcontext abi → BitVec abi.wordBits) : (of abi key quotes conversion register).Determines := by
  intro m m'
  rw [line_eq_iff]
  exact ⟨injective _ _, congrArg conversion⟩

/-- Two contexts that differ in the register but not in the text. -/
theorem not_determines {r : RegisterMember abi} (m m' : Mcontext abi)
    (same : r.conversion (r.printed m) = r.conversion (r.printed m')) (differ : r.named m ≠ r.named m') :
    ¬ r.Determines :=
  fun determines => differ ((determines m m').mp ((line_eq_iff r m m').mpr same))

theorem of_determines_iff (abi : Abi) {conversion : BitVec abi.wordBits → Text}
    (injective : ∀ a b, conversion a = conversion b → a = b) {key : Text} {quotes : Bool}
    {register : Mcontext abi → BitVec abi.wordBits} {lost : List Text} (kept : key ∉ lost) :
    (of abi key quotes conversion register).Determines ↔ key ∉ lost :=
  iff_of_true (of_determines injective key quotes register) kept

theorem lost_determines_iff (abi : Abi) {r : RegisterMember abi} (m m' : Mcontext abi)
    (same : r.conversion (r.printed m) = r.conversion (r.printed m')) (differ : r.named m ≠ r.named m')
    {lost : List Text} (among : r.key ∈ lost) : r.Determines ↔ r.key ∉ lost :=
  iff_of_false (not_determines m m' same differ) (not_not.mpr among)

end RegisterMember

open RegisterMember

/-- The members of the registers object, in order. The registers of x86 are
elements of the array, so the members `r0` to `r33` of x86_64 name those. -/
def registerMembers : (abi : Abi) → List (RegisterMember abi)
  | .i386 =>
    let member := of .i386
    let gregs (i : Nat) (m : McontextX86 32) : BitVec 32 := m.gregs i
    [ member "eax" true (fmtLu 8) (gregs 11), member "ebx" true (fmtLu 8) (gregs 8),
      member "ecx" true (fmtLu 8) (gregs 10), ⟨"edx", true, fmtLu 8, gregs 11, gregs 9⟩,
      member "edi" true (fmtLu 8) (gregs 4), member "esi" true (fmtLu 8) (gregs 5),
      member "ebp" true (fmtLu 8) (gregs 6), member "esp" true (fmtX 8) (gregs 7),
      member "eip" true (fmtX 8) (gregs 14), member "trapno" false fmtD (gregs 12),
      member "error_code" false fmtD (gregs 13) ]
  | .x86_64 =>
    let member := of .x86_64
    let gregs (i : Nat) (m : McontextX86 64) : BitVec 64 := m.gregs i
    (List.range 34).map (fun i => member ('r' :: decimal i) true (fmtLd 16) (gregs i)) ++
      [ member "rip" true (fmtX 16) (gregs 16), member "rsp" true (fmtX 16) (gregs 15),
        member "trapno" false fmtD (gregs 20), member "error_code" false fmtD (gregs 19) ]
  | .arm thumb neon =>
    let member := of (.arm thumb neon)
    (List.range 11).map (fun i =>
      ⟨'r' :: decimal i, true, fmtX 8, fun _ => BitVec.ofNat 32 i, fun m => McontextArm.armR m i⟩) ++
      [ member "fp" true (fmtX 8) McontextArm.armFp, member "ip" true (fmtX 8) McontextArm.armIp,
        member "sp" true (fmtX 8) McontextArm.armSp, member "lr" true (fmtX 8) McontextArm.armLr,
        member "pc" true (fmtX 8) McontextArm.armPc, member "cpsr" true (fmtX 8) McontextArm.armCpsr,
        member "trapno" false fmtD McontextArm.trapNo, member "error_code" false fmtD McontextArm.errorCode,
        member "fault_address" true (fmtP 0) McontextArm.faultAddress ]
  | .aarch64 =>
    let member := of .aarch64
    (List.range 30).map (fun i =>
      member ('x' :: decimal i) true (fmtX 16) fun m => McontextArm64.regs m i) ++
      [ member "lr" true (fmtX 16) (fun m => McontextArm64.regs m 30),
        member "sp" true (fmtX 16) McontextArm64.sp, member "pc" true (fmtX 16) McontextArm64.pc,
        member "pst" true (fmtX 16) McontextArm64.pstate,
        member "fault_address" true (fmtP 16) McontextArm64.faultAddress ]

/-- These are the lines `emit_registers` formats. -/
theorem registerLines_members (abi : Abi) (m : Mcontext abi) :
    (registerLines abi m).1 ++ [(registerLines abi m).2] = (registerMembers abi).map (·.line m) := by
  cases abi with
  | i386 => rfl
  | x86_64 =>
    rw [registerMembers, List.map_append, List.map_map]
    exact List.append_assoc _ _ _
  | arm thumb neon =>
    rw [registerMembers, List.map_append, List.map_map]
    exact List.append_assoc _ _ _
  | aarch64 =>
    rw [registerMembers, List.map_append, List.map_map]
    exact List.append_assoc _ _ _

/-- No line is cut: the object has the members whole, joined by commas. -/
theorem emitRegisters_members {tgt : Target} (sa_ucontext : Ucontext tgt) :
    emitRegisters (some sa_ucontext) [] = some ("'registers':\x7b" ++
      List.intercalate [','] ((registerMembers tgt.abi).map (·.line sa_ucontext.ucMcontext)) ++ ['\x7d']) := by
  have members := registerLines_members tgt.abi sa_ucontext.ucMcontext
  obtain ⟨each, last⟩ := registerLines_shown tgt.abi sa_ucontext.ucMcontext
  have short : ∀ {line : Text}, ShowsRegister line → line.length ≤ 2046 := by
    rintro line ⟨_, f, shows, _⟩
    exact shows.short
  unfold emitRegisters emitE emitGroup
  dsimp only [untilNull]
  generalize registerLines tgt.abi sa_ucontext.ucMcontext = lines at members each last ⊢
  have fits : ∀ line ∈ lines.1.map (· ++ [',']) ++ [lines.2], line.length < 2048 := by
    refine List.forall_mem_append.mpr ⟨List.forall_mem_map.mpr fun line member => ?_,
      List.forall_mem_singleton.mpr (Nat.lt_succ_of_le (Nat.le_succ_of_le (short last)))⟩
    rw [List.length_append, List.length_singleton]
    exact Nat.succ_lt_succ (Nat.lt_succ_of_le (short (each line member)))
  have joined := joined_dropLast (fun line : Text => line) lines.1 lines.2
  rw [emitLines_complete fits, ← members, emitF_fit (by decide), List.intercalate_singleton,
    intercalate_dropLast, joined, List.flatten_append, List.flatten_singleton]
  simp

/-! Which conversions keep their word apart from every other one. -/

theorem fmtLu_inj {width w : Nat} (a b : BitVec w) (same : fmtLu width a = fmtLu width b) : a = b :=
  BitVec.eq_of_toNat_eq (zeroPad_decimal_inj same)

theorem readHexadecimal_zeroPad (width n : Nat) :
    readHexadecimal (zeroPad width (hexadecimal n)) = n := by
  have zeros : ∀ k, (List.replicate k '0').foldl (fun n c => 16 * n + (hexValue c).getD 0) 0 = 0 := by
    intro k
    induction k with
    | zero => rfl
    | succ k ih => rw [List.replicate_succ', List.foldl_append, ih]; rfl
  rw [zeroPad, readHexadecimal, List.foldl_append, zeros]
  exact readHexadecimal_hexadecimal n

theorem zeroPad_hexadecimal_inj {width m n : Nat}
    (same : zeroPad width (hexadecimal m) = zeroPad width (hexadecimal n)) : m = n := by
  rw [← readHexadecimal_zeroPad width m, same, readHexadecimal_zeroPad]

theorem fmtX_inj {width : Nat} (a b : BitVec 32) (same : fmtX width a = fmtX width b) : a = b := by
  have low := zeroPad_hexadecimal_inj same
  rw [Nat.mod_eq_of_lt a.isLt, Nat.mod_eq_of_lt b.isLt] at low
  exact BitVec.eq_of_toNat_eq low

theorem fmtP_inj {width w : Nat} (a b : BitVec w) (same : fmtP width a = fmtP width b) : a = b :=
  BitVec.eq_of_toNat_eq (zeroPad_hexadecimal_inj (List.cons.inj (List.cons.inj same).2).2)

theorem fmtD_inj (a b : BitVec 32) (same : fmtD a = fmtD b) : a = b := by
  have value := congrArg readDecimal same
  rw [fmtD, fmtD, readDecimal_signedDecimal, readDecimal_signedDecimal, BitVec.setWidth_eq,
    BitVec.setWidth_eq] at value
  exact BitVec.eq_of_toInt_eq value

theorem zeroPadSigned_inj {width : Nat} {i j : Int}
    (same : zeroPadSigned width i = zeroPadSigned width j) : i = j := by
  have sign : ∀ m t, zeroPad width (decimal m) ≠ '-' :: t := by
    intro m t padded
    have member : '-' ∈ zeroPad width (decimal m) := padded ▸ List.mem_cons_self
    exact absurd (digits_zeroPad width m '-' member) (by decide)
  cases i with
  | ofNat m =>
    cases j with
    | ofNat n => exact congrArg Int.ofNat (zeroPad_decimal_inj same)
    | negSucc n => exact absurd same (sign m _)
  | negSucc m =>
    cases j with
    | ofNat n => exact absurd same.symm (sign n _)
    | negSucc n =>
      have digits := zeroPad_decimal_inj (List.cons.inj same).2
      rw [Nat.succ.inj digits]

theorem fmtLd_inj {width w : Nat} (a b : BitVec w) (same : fmtLd width a = fmtLd width b) : a = b :=
  BitVec.eq_of_toInt_eq (zeroPadSigned_inj same)

/-- The upper half of a 64-bit word is not printed. -/
theorem fmtX_upper (width : Nat) : fmtX width (0 : BitVec 64) = fmtX width (0x100000000 : BitVec 64) := rfl

theorem fmtD_upper : fmtD (0 : BitVec 64) = fmtD (0x100000000 : BitVec 64) := by decide

/-- The members that do not determine the register they name. -/
def lostKeys : Abi → List Text
  | .i386 => ["edx"]
  | .x86_64 => ["rip", "rsp", "trapno", "error_code"]
  | .arm _ _ => (List.range 11).map fun i => 'r' :: decimal i
  | .aarch64 => (["lr", "sp", "pc", "pst"] : List Text) ++ (List.range 30).map fun i => 'x' :: decimal i

/-- The edx member prints REG_EAX, whatever REG_EDX is. -/
theorem determines_i386 :
    ∀ r ∈ registerMembers .i386, (r.Determines ↔ r.key ∉ lostKeys .i386) := by
  simp only [registerMembers, List.forall_mem_cons]
  exact ⟨of_determines_iff .i386 fmtLu_inj (by decide), of_determines_iff .i386 fmtLu_inj (by decide),
    of_determines_iff .i386 fmtLu_inj (by decide),
    lost_determines_iff .i386 (⟨fun _ => 0⟩ : McontextX86 32)
      (⟨fun i => if i = 9 then 1 else 0⟩ : McontextX86 32) rfl (by decide) (by decide),
    of_determines_iff .i386 fmtLu_inj (by decide), of_determines_iff .i386 fmtLu_inj (by decide),
    of_determines_iff .i386 fmtLu_inj (by decide), of_determines_iff .i386 fmtX_inj (by decide),
    of_determines_iff .i386 fmtX_inj (by decide), of_determines_iff .i386 fmtD_inj (by decide),
    of_determines_iff .i386 fmtD_inj (by decide), by simp⟩

/-- A context with the same word in every register. -/
def filled86 (word : BitVec 64) : McontextX86 64 :=
  ⟨fun _ => word⟩

def filledArm (word : BitVec 32) : McontextArm :=
  ⟨fun _ => word, word, word, word, word, word, word, word, word, word⟩

def filledArm64 (word : BitVec 64) : McontextArm64 :=
  ⟨fun _ => word, word, word, word, word⟩

/-- Four members print the lower half of their register. -/
theorem determines_x86_64 :
    ∀ r ∈ registerMembers .x86_64, (r.Determines ↔ r.key ∉ lostKeys .x86_64) := by
  have names : ∀ i < 34, ('r' :: decimal i : Text) ∉ lostKeys .x86_64 := by decide
  have differ : ∀ i, McontextX86.gregs (filled86 0) i ≠ McontextX86.gregs (filled86 0x100000000) i :=
    fun _ => show (0 : BitVec 64) ≠ 0x100000000 by decide
  simp only [registerMembers, List.forall_mem_append, List.forall_mem_map, List.forall_mem_cons]
  exact ⟨fun i member => of_determines_iff .x86_64 fmtLd_inj (names i (List.mem_range.mp member)),
    lost_determines_iff .x86_64 (filled86 0) (filled86 0x100000000) (fmtX_upper 16) (differ 16) (by decide),
    lost_determines_iff .x86_64 (filled86 0) (filled86 0x100000000) (fmtX_upper 16) (differ 15) (by decide),
    lost_determines_iff .x86_64 (filled86 0) (filled86 0x100000000) fmtD_upper (differ 20) (by decide),
    lost_determines_iff .x86_64 (filled86 0) (filled86 0x100000000) fmtD_upper (differ 19) (by decide),
    by simp⟩

/-- The members of r0 to r10 print the index of the register. -/
theorem determines_arm (thumb neon : Bool) :
    ∀ r ∈ registerMembers (.arm thumb neon), (r.Determines ↔ r.key ∉ lostKeys (.arm thumb neon)) := by
  have kept : ∀ key ∈ (["fp", "ip", "sp", "lr", "pc", "cpsr", "trapno", "error_code", "fault_address"] :
      List Text), key ∉ lostKeys (.arm thumb neon) := by
    show ∀ key ∈ _, key ∉ (List.range 11).map fun i => 'r' :: decimal i
    decide
  simp only [List.forall_mem_cons] at kept
  obtain ⟨fp, ip, sp, lr, pc, cpsr, trapno, errorCode, faultAddress, _⟩ := kept
  simp only [registerMembers, List.forall_mem_append, List.forall_mem_map, List.forall_mem_cons]
  have low : (0 : BitVec 32) ≠ 1 := by decide
  exact ⟨fun i member => lost_determines_iff (.arm thumb neon) (filledArm 0) (filledArm 1) rfl low
      (List.mem_map.mpr ⟨i, member, rfl⟩),
    of_determines_iff (.arm thumb neon) fmtX_inj fp, of_determines_iff (.arm thumb neon) fmtX_inj ip,
    of_determines_iff (.arm thumb neon) fmtX_inj sp, of_determines_iff (.arm thumb neon) fmtX_inj lr,
    of_determines_iff (.arm thumb neon) fmtX_inj pc, of_determines_iff (.arm thumb neon) fmtX_inj cpsr,
    of_determines_iff (.arm thumb neon) fmtD_inj trapno,
    of_determines_iff (.arm thumb neon) fmtD_inj errorCode,
    of_determines_iff (.arm thumb neon) fmtP_inj faultAddress, by simp⟩

/-- Only the fault address is printed whole. -/
theorem determines_aarch64 :
    ∀ r ∈ registerMembers .aarch64, (r.Determines ↔ r.key ∉ lostKeys .aarch64) := by
  have upper : ∀ (r : RegisterMember .aarch64) (register : McontextArm64 → BitVec 64),
      register (filledArm64 0) = 0 → register (filledArm64 0x100000000) = 0x100000000 →
      r.conversion = fmtX 16 → r.printed = register → r.named = register → r.key ∈ lostKeys .aarch64 →
      (r.Determines ↔ r.key ∉ lostKeys .aarch64) := by
    intro r register zero high conversion printed named among
    refine lost_determines_iff .aarch64 (filledArm64 0) (filledArm64 0x100000000) ?_ ?_ among
    · rw [conversion, printed, zero, high]
      exact fmtX_upper 16
    · rw [named, zero, high]
      exact show (0 : BitVec 64) ≠ 0x100000000 by decide
  simp only [registerMembers, List.forall_mem_append, List.forall_mem_map, List.forall_mem_cons]
  refine ⟨fun i member => ?_, upper _ _ rfl rfl rfl rfl rfl (by decide),
    upper _ _ rfl rfl rfl rfl rfl (by decide), upper _ _ rfl rfl rfl rfl rfl (by decide),
    upper _ _ rfl rfl rfl rfl rfl (by decide), of_determines_iff .aarch64 fmtP_inj (by decide), by simp⟩
  exact upper _ _ rfl rfl rfl rfl rfl (List.mem_append_right _ (List.mem_map.mpr ⟨i, member, rfl⟩))

/-- On every ABI, the members that determine the register they name. -/
theorem determines_iff {abi : Abi} {r : RegisterMember abi} (member : r ∈ registerMembers abi) :
    r.Determines ↔ r.key ∉ lostKeys abi := by
  cases abi with
  | i386 => exact determines_i386 r member
  | x86_64 => exact determines_x86_64 r member
  | arm thumb neon => exact determines_arm thumb neon r member
  | aarch64 => exact determines_aarch64 r member

/-- The frame pointer of arm is shown whole. -/
theorem fp_determines : (of (.arm false false) "fp" true (fmtX 8) McontextArm.armFp).Determines :=
  (determines_iff (show of (.arm false false) "fp" true (fmtX 8) McontextArm.armFp ∈
    registerMembers (.arm false false) from List.mem_append_right _ List.mem_cons_self)).mpr (by decide)

/-- The edx member of i386 does not tell two values of REG_EDX apart. -/
theorem edx_not_determined : ∃ r ∈ registerMembers .i386, r.key = "edx" ∧ ¬ r.Determines := by
  refine ⟨_, List.mem_cons_of_mem _ (List.mem_cons_of_mem _ (List.mem_cons_of_mem _ List.mem_cons_self)),
    rfl, ?_⟩
  exact not_determines (⟨fun _ => 0⟩ : McontextX86 32)
    (⟨fun i => if i = 9 then 1 else 0⟩ : McontextX86 32) rfl (by decide)

end AgentNDK
