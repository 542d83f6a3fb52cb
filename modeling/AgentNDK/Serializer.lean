import AgentNDK.CollectBacktrace

namespace AgentNDK
open CText
variable {tgt : Target}

/-- What the clock and the file system answer while a report is stored. -/
structure Storage where
  /-- the local time as `%Y%m%d%H%M%S` -/
  wallTime : Text
  millis : Nat
  /-- whether the output stream opens the file -/
  opens : Text → Bool
  /-- the bytes that reach the file when these are written to the stream -/
  kept : Text → Text

/-- The stored file and what `os.write` was handed for it. -/
structure Stored where
  path : Text
  handed : Text
  content : Text

def generateTmpFilename (storage : Storage) (native_context : NativeContext tgt) (filePrefix : Text) :
    Text :=
  native_context.reportPathAbsolute.text ++ "/" ++ filePrefix ++ storage.wallTime ++
    zeroPad 3 (decimal storage.millis)

/-- Write the payload locally. Only the opening of the stream is tested. -/
def toStorage (storage : Storage) (native_context : NativeContext tgt) (filepath payload : Text)
    (payload_size : tgt.Word) : Bool × Option Stored :=
  let storagePath := generateTmpFilename storage native_context filepath
  let payload_len := strlen payload
  let payload_size := if payload_size.toNat < payload_len then payload_size.toNat else payload_len
  if storage.opens storagePath then
    let handed := payload.take payload_size
    (true, some ⟨storagePath, handed, storage.kept handed⟩)
  else (false, none)

def fromCrash (storage : Storage) (native_context : NativeContext tgt) (buffer : Text)
    (buffsz : tgt.Word) : Option Stored :=
  (toStorage storage native_context "crash-" buffer buffsz).2

def fromException (storage : Storage) (native_context : NativeContext tgt) (buffer : Text)
    (buffsz : tgt.Word) : Option Stored :=
  (toStorage storage native_context "ex-" buffer buffsz).2

def fromAnr (storage : Storage) (native_context : NativeContext tgt) (buffer : Text)
    (buffsz : tgt.Word) : Option Stored :=
  (toStorage storage native_context "anr-" buffer buffsz).2

/-- A size that is at least the length of the C string hands over all of it. -/
theorem toStorage_handed {storage : Storage} {native_context : NativeContext tgt}
    {filepath report rest : Text} {payload_size : tgt.Word} {stored : Stored} (free : nul ∉ report)
    (room : report.length ≤ payload_size.toNat)
    (written : (toStorage storage native_context filepath (report ++ nul :: rest) payload_size).2 =
      some stored) : stored.handed = report := by
  have whole : ¬ payload_size.toNat < report.length := by omega
  unfold toStorage at written
  dsimp only at written
  rw [strlen_append_nul free, if_neg whole] at written
  split at written
  · cases Option.some.inj written
    exact List.take_left' rfl
  · cases written

end AgentNDK
