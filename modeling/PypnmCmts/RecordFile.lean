import Mathlib.Data.Rat.Defs
import Mathlib.Algebra.Order.Ring.Rat

/-! The JSON record files of the coordination state directory, and what the file
system answers while one locked operation works on them. -/
namespace PypnmCmts

/-- What a record path holds. `unreadable` stands for every content from which no
record can be decoded. -/
inductive RecordFile (ρ : Type)
  | missing
  | unreadable
  | record (r : ρ)
deriving DecidableEq

/-- How `os.open(path, O_CREAT | O_EXCL)` and the write behind it end on a free path. An `open` that
fails otherwise than with `FileExistsError` raises out of the operation, on any path, and is not
among the outcomes. -/
inductive CreateOutcome
  | written
  | removed
  | leftover
deriving DecidableEq

/-- The answers of the file system during one operation. -/
structure FileIo where
  lockFree : Bool
  readOk : Bool
  create : CreateOutcome
  replaceOk : Bool
  unlinkOk : Bool
deriving DecidableEq

def FileIo.ok : FileIo := ⟨true, true, .written, true, true⟩

/-- A record that is written gets to its path. -/
structure FileIo.WritesOk (io : FileIo) : Prop where
  create : io.create = .written
  replaceOk : io.replaceOk = true

/-- Nothing fails but possibly the lock, which may be busy. -/
structure FileIo.Works (io : FileIo) : Prop extends io.WritesOk where
  readOk : io.readOk = true
  unlinkOk : io.unlinkOk = true

theorem FileIo.works_iff {io : FileIo} :
    io.Works ↔ io.create = .written ∧ io.replaceOk = true ∧ io.readOk = true ∧ io.unlinkOk = true :=
  ⟨fun h => ⟨h.create, h.replaceOk, h.readOk, h.unlinkOk⟩, fun ⟨hc, hr, hd, hu⟩ =>
    ⟨⟨hc, hr⟩, hd, hu⟩⟩

instance (io : FileIo) : Decidable io.Works := decidable_of_iff' _ FileIo.works_iff

@[simp] theorem FileIo.lockFree_ok : FileIo.ok.lockFree = true := rfl
@[simp] theorem FileIo.replaceOk_ok : FileIo.ok.replaceOk = true := rfl

theorem FileIo.works_ok : FileIo.ok.Works := ⟨⟨rfl, rfl⟩, rfl, rfl⟩

namespace RecordFile
variable {ρ : Type}

def writeRecordAtomic (io : FileIo) (r : ρ) : RecordFile ρ → Bool × RecordFile ρ
  | .missing =>
    match io.create with
    | .written => (true, .record r)
    | .removed => (false, .missing)
    | .leftover => (false, .unreadable)
  | file => (false, file)

/-- The temporary file is written and moved over `path`; on failure `path` stays as it is. -/
def writeRecordReplace (io : FileIo) (r : ρ) (file : RecordFile ρ) : RecordFile ρ :=
  if io.replaceOk then .record r else file

/-- The write of `try_acquire`: a valid record is replaced, otherwise the file is created
exclusively first and replaced when that did not work. -/
def writeAcquired (io : FileIo) (valid : Bool) (r : ρ) (file : RecordFile ρ) : RecordFile ρ :=
  if valid then writeRecordReplace io r file
  else
    let (acquired, file') := writeRecordAtomic io r file
    if acquired then file' else writeRecordReplace io r file'

/-- Whether the write of `try_acquire` went through. -/
def acquiredWritten (io : FileIo) (valid : Bool) (r : ρ) (file : RecordFile ρ) : Bool :=
  (!valid && (writeRecordAtomic io r file).1) || io.replaceOk

def isExpired (expiresAt now : ℚ) : Bool := expiresAt ≤ now

def remainingSeconds (expiresAt now : ℚ) : ℚ :=
  if expiresAt-now < 0 then 0 else expiresAt-now

theorem writeAcquired_ok (io : FileIo) (h : io.WritesOk) (valid : Bool) (r : ρ)
    (file : RecordFile ρ) : writeAcquired io valid r file = .record r := by
  obtain ⟨hc, hr⟩ := h
  cases valid <;> cases file <;> simp [writeAcquired, writeRecordAtomic, writeRecordReplace, hc, hr]

theorem writeRecordReplace_record (io : FileIo) (new r : ρ) (file : RecordFile ρ)
    (h : writeRecordReplace io new file = .record r) : r = new ∨ file = .record r := by
  simp only [writeRecordReplace] at h
  split at h
  · exact Or.inl (RecordFile.record.inj h).symm
  · exact Or.inr h

theorem writeRecordAtomic_record (io : FileIo) (new r : ρ) (file : RecordFile ρ)
    (h : (writeRecordAtomic io new file).2 = .record r) : r = new ∨ file = .record r := by
  cases file with
  | missing => cases hc : io.create <;> simp_all [writeRecordAtomic]
  | unreadable => exact Or.inr h
  | record r' => exact Or.inr h

/-- Whatever fails, a record found after the write is the new one or the one before. -/
theorem writeAcquired_record (io : FileIo) (valid : Bool) (new r : ρ) (file : RecordFile ρ)
    (h : writeAcquired io valid new file = .record r) : r = new ∨ file = .record r := by
  simp only [writeAcquired] at h
  split at h
  · exact writeRecordReplace_record io new r file h
  · split at h
    · exact writeRecordAtomic_record io new r file h
    · rcases writeRecordReplace_record io new r _ h with h | h
      · exact Or.inl h
      · exact writeRecordAtomic_record io new r file h

end RecordFile
end PypnmCmts
