import AgentNDK.Library.OutputStream
import AgentNDK.Serializer

/-! `to_storage` call by call on a disk that may be full, or gone, at any of
the calls. -/

namespace AgentNDK
open CText OutputStream
variable {tgt : Target}

/-- What the disk makes of the stream of a report. -/
structure Disk where
  opens : Bool
  outcomes : Outcomes

/-- The file system with this disk. -/
def Storage.on (storage : Storage) (disk : Disk) : Storage :=
  { storage with
    opens := fun _ => disk.opens
    kept := disk.outcomes.file disk.opens }

namespace Calls

/-- What `to_storage` returns, and the bytes of the file once the stream is
closed. Of the stream no more than its opening is tested. -/
def toStorage (disk : Disk) (payload : Text) (payload_size : tgt.Word) : Bool × Option Text :=
  let os : Stream Char := Stream.opened disk.opens
  let payload_len := strlen payload
  let payload_size := if payload_size.toNat < payload_len then payload_size.toNat else payload_len
  if !os.good then (false, none)
  else
    let os := os.write disk.outcomes.write (payload.take payload_size)
    let os := os.flush disk.outcomes.flush
    let os := os.close disk.outcomes.close
    (true, some os.file)

/-- The calls return and store what `toStorage` of the serializer does on that
disk. -/
theorem toStorage_eq (storage : Storage) (native_context : NativeContext tgt) (disk : Disk)
    (filepath payload : Text) (payload_size : tgt.Word) : toStorage disk payload payload_size =
      ((AgentNDK.toStorage (storage.on disk) native_context filepath payload payload_size).1,
        (AgentNDK.toStorage (storage.on disk) native_context filepath payload payload_size).2.map
          (·.content)) := by
  obtain ⟨opens, outcomes⟩ := disk
  cases opens <;> rfl

theorem toStorage_run (disk : Disk) (payload : Text) (payload_size : tgt.Word) :
    toStorage disk payload payload_size =
      if disk.opens then
        (true, some (disk.outcomes.file true (payload.take (min payload_size.toNat (strlen payload)))))
      else (false, none) := by
  have size : (if payload_size.toNat < strlen payload then payload_size.toNat else strlen payload) =
      min payload_size.toNat (strlen payload) := by split <;> omega
  obtain ⟨opens, outcomes⟩ := disk
  cases opens with
  | false => rfl
  | true =>
    simp only [toStorage, size]
    rfl

/-- The return value tells whether the file holds the payload on exactly the
disks that take all of it. On the others it is true for a file that is short. -/
theorem returned_iff_stored_iff (disk : Disk) (payload : Text) (payload_size : tgt.Word) :
    ((toStorage disk payload payload_size).1 = true ↔
      (toStorage disk payload payload_size).2 =
        some (payload.take (min payload_size.toNat (strlen payload)))) ↔
      disk.opens = false ∨ disk.outcomes.Lossless (min payload_size.toNat (strlen payload)) := by
  rw [toStorage_run]
  have length : (payload.take (min payload_size.toNat (strlen payload))).length =
      min payload_size.toNat (strlen payload) := by
    have within := strlen_le_length payload
    rw [List.length_take]
    omega
  cases disk.opens with
  | false => simp
  | true =>
    have stored := disk.outcomes.file_eq_iff true (payload.take (min payload_size.toNat (strlen payload)))
    rw [length] at stored
    simp only [if_true, true_iff, Option.some_inj, stored, Bool.true_eq_false, false_or]

/-- The disk is full once the file is open: neither the flush nor the close
gets a byte to it, and the empty file counts as a report. -/
theorem full_disk_returned :
    ¬ ((toStorage ⟨true, .completes, .fails 0, .fails 0⟩ "\x7b\x7d" (2 : Target.x86Build.Word)).1 = true ↔
      (toStorage ⟨true, .completes, .fails 0, .fails 0⟩ "\x7b\x7d" (2 : Target.x86Build.Word)).2 =
        some "\x7b\x7d".toList) := by
  decide

end Calls

end AgentNDK
