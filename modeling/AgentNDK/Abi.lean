import Mathlib.Algebra.Group.Nat.Defs
import AgentNDK.Library.CText

namespace AgentNDK
open CText

/-- The supported ABIs. For arm, `thumb` stands for `__thumb__` and `neon` for
`ANDROID_ARM_NEON` in the build. -/
inductive Abi
  | i386
  | x86_64
  | arm (thumb neon : Bool)
  | aarch64
  deriving DecidableEq

def Abi.wordBits : Abi → Nat
  | .i386 | .arm _ _ => 32
  | .x86_64 | .aarch64 => 64

theorem Abi.wordBits_le (abi : Abi) : abi.wordBits ≤ 64 := by
  cases abi <;> simp [Abi.wordBits]

/-- What the sources leave to the build: the ABI and `PATH_MAX`, which is 4096
in Android's limits.h and falls back to 1024. -/
structure Target where
  abi : Abi
  pathMax : Nat
  pathMaxPos : 0 < pathMax

/-- Two builds of the agent. -/
def Target.x86Build : Target :=
  ⟨.i386, 4096, Nat.succ_pos 4095⟩

def Target.arm64Build : Target :=
  ⟨.aarch64, 4096, Nat.succ_pos 4095⟩

/-- `uintptr_t`, `size_t` and the unsigned image of `long`. -/
abbrev Target.Word (tgt : Target) : Type :=
  BitVec tgt.abi.wordBits

theorem Target.word_lt (tgt : Target) (w : tgt.Word) : w.toNat < 2 ^ 64 :=
  w.isLt.trans_le (Nat.pow_le_pow_right (by decide) tgt.abi.wordBits_le)

/-- What ends a function other than its return. -/
inductive Fault
  | nullDereference
  deriving DecidableEq

/-- Access through a pointer. -/
def deref {α : Type} : Option α → Except Fault α
  | some a => .ok a
  | none => .error .nullDereference

/-- What goes on after an access had something to access. -/
theorem deref_bind_eq_ok {α β : Type} {pointer : Option α} {next : α → Except Fault β} {b : β} :
    (deref pointer >>= next) = .ok b ↔ ∃ a, pointer = some a ∧ next a = .ok b := by
  cases pointer with
  | none => exact iff_of_false nofun nofun
  | some a => exact ⟨fun same => ⟨a, rfl, same⟩, fun ⟨_, found, same⟩ => Option.some.inj found ▸ same⟩

/-- Limit backtrace to 100 frames. -/
def backtraceFramesMax : Nat := 100

/-- Limit backtrace to 100 threads. -/
def backtraceThreadsMax : Nat := 100

/-- Limit backtrace to 1Mb. -/
def backtraceSzMax : Nat := 0x100000

def getArch : Abi → Text
  | .arm _ true => "armabi-v7a NEON"
  | .arm _ false => "armabi-v7a"
  | .aarch64 => "arm64-v8a"
  | .i386 => "x86"
  | .x86_64 => "x86_64"

end AgentNDK
