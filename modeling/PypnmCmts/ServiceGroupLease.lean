import PypnmCmts.PyText
import PypnmCmts.RecordFile
import PypnmCmts.TtlLease

/-! `coordination/service_group_lease.py`: one lease per service group, kept as a JSON
record with a time to live. -/
namespace PypnmCmts

abbrev ServiceGroupId := ℕ
abbrev OwnerId := String
abbrev CoordinationElectionName := String

structure ServiceGroupLeaseRecordModel where
  electionName : CoordinationElectionName
  sgId : ServiceGroupId
  ownerId : OwnerId
  acquiredAt : ℚ
  expiresAt : ℚ
deriving DecidableEq

structure ServiceGroupLeaseAcquireResultModel where
  acquired : Bool
  isOwner : Bool
  sgId : ServiceGroupId
  ownerId : OwnerId
  acquiredAt : ℚ
  expiresAt : ℚ
  remainingSeconds : ℚ
  message : String
deriving DecidableEq

structure ServiceGroupLeaseRenewResultModel where
  renewed : Bool
  isOwner : Bool
  sgId : ServiceGroupId
  ownerId : OwnerId
  acquiredAt : ℚ
  expiresAt : ℚ
  remainingSeconds : ℚ
  message : String
deriving DecidableEq

structure ServiceGroupLeaseReleaseResultModel where
  released : Bool
  isOwner : Bool
  sgId : ServiceGroupId
  ownerId : OwnerId
  message : String
deriving DecidableEq

structure ServiceGroupLeaseStatusModel where
  electionName : CoordinationElectionName
  sgId : ServiceGroupId
  isOwner : Bool
  ownerId : OwnerId
  acquiredAt : ℚ
  expiresAt : ℚ
  remainingSeconds : ℚ
  statePath : String
  message : String
deriving DecidableEq

/-- A lease object as `__init__` leaves it, with what `__init__` has checked. -/
structure FileServiceGroupLease where
  stateDir : String
  electionName : CoordinationElectionName
  sgId : ServiceGroupId
  ownerId : OwnerId
  ttlSeconds : ℕ
  electionName_nonempty : electionName ≠ ""
  ownerId_nonempty : ownerId ≠ ""
  ttlSeconds_pos : 1 ≤ ttlSeconds

abbrev LeaseFile := RecordFile ServiceGroupLeaseRecordModel

namespace FileServiceGroupLease

def lockSuffix : String := ".lock"
def minTtlSeconds : ℤ := 1
def minSgId : ℤ := 0
def staleLockMultiplier : ℚ := 2
def messageBusy : String := "Service group lease is busy."
def messageNoActive : String := "No active lease."
def messageNotOwner : String := "Lease held by another owner."
def messageNotHeld : String := "Lease not held by caller."
def messageAcquired : String := "Lease acquired."
def messageAlreadyOwner : String := "Already lease owner."
def messageRenewed : String := "Lease renewed."
def messageReleased : String := "Lease released."
def messageReleaseFailed : String := "Failed to release lease record."
def messagePresent : String := "Lease record present."

def init (stateDir : String) (electionName : String) (sgId : ℤ) (ownerId : String)
    (ttlSeconds : ℤ) : Except String FileServiceGroupLease :=
  if he : PyText.strip electionName = "" then .error "election_name must be non-empty."
  else if ho : PyText.strip ownerId = "" then .error "owner_id must be non-empty."
  else if sgId < minSgId then .error "sg_id must be non-negative."
  else if ht : ttlSeconds < minTtlSeconds then .error "ttl_seconds must be greater than zero."
  else .ok
    { stateDir := stateDir
      electionName := PyText.strip electionName
      sgId := sgId.toNat
      ownerId := PyText.strip ownerId
      ttlSeconds := ttlSeconds.toNat
      electionName_nonempty := he
      ownerId_nonempty := ho
      ttlSeconds_pos := by simp only [minTtlSeconds] at ht; omega }

variable (lease : FileServiceGroupLease)

def lockPath : String :=
  lease.stateDir ++ "/" ++ lease.electionName ++ ".sg-" ++ toString lease.sgId ++ lockSuffix

def stateFile : String :=
  lease.stateDir ++ "/" ++ lease.electionName ++ ".sg-" ++ toString lease.sgId ++ ".json"

def emptyRecord : ServiceGroupLeaseRecordModel := ⟨lease.electionName, lease.sgId, "", 0, 0⟩

def newRecord (now : ℚ) : ServiceGroupLeaseRecordModel :=
  ⟨lease.electionName, lease.sgId, lease.ownerId, now, now+lease.ttlSeconds⟩

def isExpired (record : ServiceGroupLeaseRecordModel) (now : ℚ) : Bool :=
  RecordFile.isExpired record.expiresAt now

def remainingSeconds (record : ServiceGroupLeaseRecordModel) (now : ℚ) : ℚ :=
  RecordFile.remainingSeconds record.expiresAt now

/-- The record on disk and whether it is valid: a record of another election or of another
service group counts as missing. -/
def readRecord (io : FileIo) : LeaseFile → ServiceGroupLeaseRecordModel × Bool
  | .missing => (lease.emptyRecord, false)
  | .unreadable => (lease.emptyRecord, false)
  | .record r =>
    -- `read_text` raises an `OSError`, and the record counts as missing
    if !io.readOk then (lease.emptyRecord, false)
    else if r.electionName ≠ lease.electionName then (lease.emptyRecord, false)
    else if r.sgId ≠ lease.sgId then (lease.emptyRecord, false)
    else (r, true)

/-- The operation as a whole, its lock taken at the start and given back at the end. -/
def tryAcquire (io : FileIo) (now : ℚ) (file : LeaseFile) :
    ServiceGroupLeaseAcquireResultModel × LeaseFile :=
  if !io.lockFree then
    ({ acquired := false, isOwner := false, sgId := lease.sgId, ownerId := "", acquiredAt := 0,
       expiresAt := 0, remainingSeconds := 0, message := messageBusy }, file)
  else
    let record := (lease.readRecord io file).1
    let valid := (lease.readRecord io file).2
    let newRecord := lease.newRecord now
    if valid && !isExpired record now then
      -- the owner is told of the old grant: nothing is written and nothing prolonged
      if record.ownerId = lease.ownerId then
        ({ acquired := true, isOwner := true, sgId := record.sgId, ownerId := record.ownerId,
           acquiredAt := record.acquiredAt, expiresAt := record.expiresAt,
           remainingSeconds := remainingSeconds record now, message := messageAlreadyOwner }, file)
      else
        ({ acquired := false, isOwner := false, sgId := record.sgId, ownerId := record.ownerId,
           acquiredAt := record.acquiredAt, expiresAt := record.expiresAt,
           remainingSeconds := remainingSeconds record now, message := messageNotOwner }, file)
    else
      ({ acquired := true, isOwner := true, sgId := newRecord.sgId, ownerId := newRecord.ownerId,
         acquiredAt := newRecord.acquiredAt, expiresAt := newRecord.expiresAt,
         remainingSeconds := remainingSeconds newRecord now, message := messageAcquired },
       RecordFile.writeAcquired io valid newRecord file)

def renew (io : FileIo) (now : ℚ) (file : LeaseFile) :
    ServiceGroupLeaseRenewResultModel × LeaseFile :=
  if !io.lockFree then
    ({ renewed := false, isOwner := false, sgId := lease.sgId, ownerId := "", acquiredAt := 0,
       expiresAt := 0, remainingSeconds := 0, message := messageBusy }, file)
  else
    let record := (lease.readRecord io file).1
    let valid := (lease.readRecord io file).2
    let refused (message : String) : ServiceGroupLeaseRenewResultModel :=
      { renewed := false, isOwner := false, sgId := record.sgId, ownerId := record.ownerId,
        acquiredAt := record.acquiredAt, expiresAt := record.expiresAt,
        remainingSeconds := remainingSeconds record now, message := message }
    if !valid || isExpired record now then (refused messageNoActive, file)
    else if record.ownerId ≠ lease.ownerId then (refused messageNotOwner, file)
    else
      -- the time of the first acquisition is kept
      let renewed := { record with expiresAt := now+lease.ttlSeconds }
      ({ renewed := true, isOwner := true, sgId := renewed.sgId, ownerId := renewed.ownerId,
         acquiredAt := renewed.acquiredAt, expiresAt := renewed.expiresAt,
         remainingSeconds := remainingSeconds renewed now, message := messageRenewed },
       RecordFile.writeRecordReplace io renewed file)

/-- No clock is read: an expired record of the caller is removed as well. -/
def release (io : FileIo) (file : LeaseFile) : ServiceGroupLeaseReleaseResultModel × LeaseFile :=
  if !io.lockFree then
    ({ released := false, isOwner := false, sgId := lease.sgId, ownerId := "",
       message := messageBusy }, file)
  else
    let record := (lease.readRecord io file).1
    let valid := (lease.readRecord io file).2
    if !valid || record.ownerId ≠ lease.ownerId then
      ({ released := false, isOwner := false, sgId := record.sgId, ownerId := record.ownerId,
         message := messageNotHeld }, file)
    -- the file could not be removed: the caller stays the owner
    else if !io.unlinkOk then
      ({ released := false, isOwner := true, sgId := record.sgId, ownerId := record.ownerId,
         message := messageReleaseFailed }, file)
    else
      ({ released := true, isOwner := false, sgId := lease.sgId, ownerId := "",
         message := messageReleased }, .missing)

/-- Reads without taking the lock. -/
def status (io : FileIo) (now : ℚ) (file : LeaseFile) : ServiceGroupLeaseStatusModel :=
  let record := (lease.readRecord io file).1
  let valid := (lease.readRecord io file).2
  if !valid || isExpired record now then
    { electionName := lease.electionName, sgId := lease.sgId, isOwner := false, ownerId := "",
      acquiredAt := 0, expiresAt := 0, remainingSeconds := 0, statePath := lease.stateFile,
      message := messageNoActive }
  else
    { electionName := record.electionName, sgId := record.sgId,
      isOwner := record.ownerId = lease.ownerId, ownerId := record.ownerId,
      acquiredAt := record.acquiredAt, expiresAt := record.expiresAt,
      remainingSeconds := remainingSeconds record now, statePath := lease.stateFile,
      message := messagePresent }

end FileServiceGroupLease

/-- What one of the three locked operations returns. -/
inductive LeaseResult
  | acquire (result : ServiceGroupLeaseAcquireResultModel)
  | renew (result : ServiceGroupLeaseRenewResultModel)
  | release (result : ServiceGroupLeaseReleaseResultModel)
deriving DecidableEq

namespace LeaseResult

/-- Whether the caller is told that it holds the lease, and until when. -/
def reply : LeaseResult → TtlLease.Reply ℚ
  | acquire r => if r.acquired then .told r.expiresAt else .refused
  | renew r => if r.renewed then .told r.expiresAt else .refused
  | release r => if r.released then .released else .refused

end LeaseResult

namespace LeaseFile

/-- The grant that the file holds for a service group of an election. -/
def grant (electionName : CoordinationElectionName) (sgId : ServiceGroupId) :
    LeaseFile → Option (TtlLease.Grant OwnerId ℚ)
  | .missing => none
  | .unreadable => none
  | .record r =>
    if r.electionName = electionName ∧ r.sgId = sgId then some ⟨r.ownerId, r.expiresAt⟩ else none

end LeaseFile

namespace FileServiceGroupLease
open TtlLease
variable (lease : FileServiceGroupLease)

def perform (op : Op) (io : FileIo) (now : ℚ) (file : LeaseFile) : LeaseResult × LeaseFile :=
  match op with
  | .acquire => (.acquire (lease.tryAcquire io now file).1, (lease.tryAcquire io now file).2)
  | .renew => (.renew (lease.renew io now file).1, (lease.renew io now file).2)
  | .release => (.release (lease.release io file).1, (lease.release io file).2)

theorem readRecord_of_grant_none {io : FileIo} (file : LeaseFile)
    (h : file.grant lease.electionName lease.sgId = none) :
    lease.readRecord io file = (lease.emptyRecord, false) := by
  cases file with
  | missing => rfl
  | unreadable => rfl
  | record r =>
    simp only [LeaseFile.grant, ite_eq_right_iff, reduceCtorEq, imp_false, not_and_or] at h
    by_cases he : r.electionName = lease.electionName
    · simp [readRecord, he, h.resolve_left (not_not_intro he)]
    · simp [readRecord, he]

/-- A record that cannot be read is as good as none. -/
theorem readRecord_of_readFails {io : FileIo} (hio : io.readOk = false) (file : LeaseFile) :
    lease.readRecord io file = (lease.emptyRecord, false) := by
  cases file <;> simp [readRecord, hio]

theorem record_of_grant_some (file : LeaseFile) (g : Grant OwnerId ℚ)
    (h : file.grant lease.electionName lease.sgId = some g) :
    ∃ r, file = .record r ∧ r.electionName = lease.electionName ∧ r.sgId = lease.sgId ∧
      g = ⟨r.ownerId, r.expiresAt⟩ := by
  cases file with
  | missing => simp [LeaseFile.grant] at h
  | unreadable => simp [LeaseFile.grant] at h
  | record r =>
    simp only [LeaseFile.grant, Option.ite_none_right_eq_some, Option.some.injEq] at h
    obtain ⟨⟨he, hs⟩, rfl⟩ := h
    exact ⟨r, rfl, he, hs, rfl⟩

theorem readRecord_of_grant_some {io : FileIo} (hio : io.readOk = true) (file : LeaseFile)
    (g : Grant OwnerId ℚ) (h : file.grant lease.electionName lease.sgId = some g) :
    ∃ r, file = .record r ∧ r.electionName = lease.electionName ∧ r.sgId = lease.sgId ∧
      g = ⟨r.ownerId, r.expiresAt⟩ ∧ lease.readRecord io file = (r, true) := by
  obtain ⟨r, rfl, he, hs, rfl⟩ := lease.record_of_grant_some file g h
  exact ⟨r, rfl, he, hs, rfl, by simp [readRecord, hio, he, hs]⟩

theorem grant_newRecord (now : ℚ) :
    LeaseFile.grant lease.electionName lease.sgId (.record (lease.newRecord now)) =
      some ⟨lease.ownerId, now+lease.ttlSeconds⟩ := by
  simp [LeaseFile.grant, newRecord]

theorem perform_busy (op : Op) (io : FileIo) (now : ℚ) (file : LeaseFile)
    (h : io.lockFree = false) :
    (lease.perform op io now file).1.reply = .refused ∧
    (lease.perform op io now file).2 = file := by
  cases op <;> simp [perform, tryAcquire, renew, release, LeaseResult.reply, h]

/-- What is not in force is no record, or one that has run out. -/
theorem isExpired_of_not_inForce {io : FileIo} {file : LeaseFile} {now : ℚ}
    (hf : inForce (file.grant lease.electionName lease.sgId) now = none)
    (hvalid : (lease.readRecord io file).2 = true) :
    isExpired (lease.readRecord io file).1 now = true := by
  cases hd : io.readOk with
  | false => simp [lease.readRecord_of_readFails hd] at hvalid
  | true =>
    cases hg : file.grant lease.electionName lease.sgId with
    | none => simp [lease.readRecord_of_grant_none file hg] at hvalid
    | some g =>
      obtain ⟨r, -, -, -, rfl, hr⟩ := lease.readRecord_of_grant_some hd file g hg
      simpa [hr, isExpired, RecordFile.isExpired] using inForce_eq_none.mp hf _ hg

/-- Without a record that is read, or with one that has run out, the caller's own is written. -/
theorem perform_acquire_writes {io : FileIo} (hw : io.WritesOk) (hl : io.lockFree = true)
    (now : ℚ) (file : LeaseFile)
    (h : (lease.readRecord io file).2 = true → isExpired (lease.readRecord io file).1 now = true) :
    (lease.perform .acquire io now file).1.reply = .told (now+lease.ttlSeconds) ∧
      (lease.perform .acquire io now file).2.grant lease.electionName lease.sgId =
        some ⟨lease.ownerId, now+lease.ttlSeconds⟩ := by
  have hcond : ((lease.readRecord io file).2 && !isExpired (lease.readRecord io file).1
      now) = false := by
    cases hv : (lease.readRecord io file).2 with
    | false => rfl
    | true => simp [h hv]
  simp only [perform, tryAcquire, hl, hcond, RecordFile.writeAcquired_ok io hw, LeaseResult.reply,
    Bool.not_true, Bool.false_eq_true, if_false, if_true]
  exact ⟨rfl, lease.grant_newRecord now⟩

section Refinement
variable {io : FileIo} (hl : io.lockFree = true) (hd : io.readOk = true) (now : ℚ)
  (file : LeaseFile)
include hl hd

theorem tryAcquire_refines (hw : io.WritesOk) :
    ((lease.perform .acquire io now file).1.reply,
      (lease.perform .acquire io now file).2.grant lease.electionName lease.sgId) =
    TtlLease.perform lease.ownerId (lease.ttlSeconds : ℚ) .acquire now
      (file.grant lease.electionName lease.sgId) := by
  cases hf : inForce (file.grant lease.electionName lease.sgId) now with
  | none =>
    obtain ⟨hreply, hgrant⟩ := lease.perform_acquire_writes hw hl now file
      (lease.isExpired_of_not_inForce hf)
    rw [perform_acquire_none hf, hreply, hgrant]
  | some g =>
    obtain ⟨hg, hlive⟩ := inForce_eq_some.mp hf
    obtain ⟨r, rfl, -, -, rfl, hr⟩ := lease.readRecord_of_grant_some hd file g hg
    have hx : isExpired r now = false := by simpa [isExpired, RecordFile.isExpired] using hlive
    by_cases ho : r.ownerId = lease.ownerId
    · rw [perform_acquire_own hf ho]
      simp [perform, tryAcquire, hl, hr, hx, ho, LeaseResult.reply]
    · rw [perform_acquire_other hf ho]
      simp [perform, tryAcquire, hl, hr, hx, ho, LeaseResult.reply]

theorem renew_refines (hrep : io.replaceOk = true) :
    ((lease.perform .renew io now file).1.reply,
      (lease.perform .renew io now file).2.grant lease.electionName lease.sgId) =
    TtlLease.perform lease.ownerId (lease.ttlSeconds : ℚ) .renew now
      (file.grant lease.electionName lease.sgId) := by
  cases hf : inForce (file.grant lease.electionName lease.sgId) now with
  | none =>
    have hcond : (!(lease.readRecord io file).2 || isExpired (lease.readRecord io file).1
        now) = true := by
      have hread (hvalid : (lease.readRecord io file).2 = true) :
          isExpired (lease.readRecord io file).1 now = true :=
            lease.isExpired_of_not_inForce hf hvalid
      cases hv : (lease.readRecord io file).2 <;> simp [hread, hv]
    rw [perform_renew_none hf]
    simp only [perform, renew, hl, hcond, LeaseResult.reply, Bool.not_true, Bool.false_eq_true,
      if_false, if_true]
  | some g =>
    obtain ⟨hg, hlive⟩ := inForce_eq_some.mp hf
    obtain ⟨r, rfl, he, hs, rfl, hr⟩ := lease.readRecord_of_grant_some hd file g hg
    have hx : isExpired r now = false := by simpa [isExpired, RecordFile.isExpired] using hlive
    by_cases ho : r.ownerId = lease.ownerId
    · rw [perform_renew_own hf ho]
      simp [perform, renew, hl, hr, hx, ho, LeaseResult.reply, RecordFile.writeRecordReplace,
        hrep, LeaseFile.grant, he, hs]
    · rw [perform_renew_other hf ho]
      simp [perform, renew, hl, hr, hx, ho, LeaseResult.reply]

theorem release_refines (hu : io.unlinkOk = true) :
    ((lease.perform .release io now file).1.reply,
      (lease.perform .release io now file).2.grant lease.electionName lease.sgId) =
    TtlLease.perform lease.ownerId (lease.ttlSeconds : ℚ) .release now
      (file.grant lease.electionName lease.sgId) := by
  cases hg : file.grant lease.electionName lease.sgId with
  | none =>
    rw [perform_release_none]
    simp [perform, release, hl, lease.readRecord_of_grant_none file hg, LeaseResult.reply, hg]
  | some g =>
    obtain ⟨r, rfl, -, -, rfl, hr⟩ := lease.readRecord_of_grant_some hd file g hg
    by_cases ho : r.ownerId = lease.ownerId
    · rw [perform_release_own ho]
      simp [perform, release, hl, hr, ho, hu, LeaseResult.reply, LeaseFile.grant]
    · rw [perform_release_other ho]
      simp [perform, release, hl, hr, ho, LeaseResult.reply, hg]

end Refinement

/-- The locked operations on the record file are the operations of the abstract lease on
the grant that the file holds. -/
theorem perform_refines {io : FileIo} (hl : io.lockFree = true) (hw : io.Works) (op : Op) (now : ℚ)
    (file : LeaseFile) :
    ((lease.perform op io now file).1.reply,
      (lease.perform op io now file).2.grant lease.electionName lease.sgId) =
    TtlLease.perform lease.ownerId (lease.ttlSeconds : ℚ) op now
      (file.grant lease.electionName lease.sgId) := by
  cases op with
  | acquire => exact lease.tryAcquire_refines hl hw.readOk now file hw.toWritesOk
  | renew => exact lease.renew_refines hl hw.readOk now file hw.replaceOk
  | release => exact lease.release_refines hl hw.readOk now file hw.unlinkOk

/-- A refused operation leaves the file as it is, whatever fails. -/
theorem perform_refused (op : Op) (io : FileIo) (now : ℚ) (file : LeaseFile)
    (h : (lease.perform op io now file).1.reply = .refused) :
    (lease.perform op io now file).2 = file := by
  cases op with
  | acquire =>
    simp only [perform, tryAcquire, LeaseResult.reply] at h ⊢
    split_ifs at h ⊢ <;> simp_all
  | renew =>
    simp only [perform, renew, LeaseResult.reply] at h ⊢
    split_ifs at h ⊢ <;> simp_all
  | release =>
    simp only [perform, release, LeaseResult.reply] at h ⊢
    split_ifs at h ⊢ <;> simp_all

theorem perform_released (op : Op) (io : FileIo) (now : ℚ) (file : LeaseFile)
    (h : (lease.perform op io now file).1.reply = .released) :
    (lease.perform op io now file).2 = .missing := by
  cases op with
  | acquire =>
    simp only [perform, LeaseResult.reply] at h
    split_ifs at h
  | renew =>
    simp only [perform, LeaseResult.reply] at h
    split_ifs at h
  | release =>
    simp only [perform, release, LeaseResult.reply] at h ⊢
    split_ifs at h ⊢ <;> simp_all

/-- A record that an operation leaves behind was there before or names its caller. -/
theorem perform_record (op : Op) (io : FileIo) (now : ℚ) (file : LeaseFile)
    (r : ServiceGroupLeaseRecordModel) (h : (lease.perform op io now file).2 = .record r) :
    r.ownerId = lease.ownerId ∨ file = .record r := by
  cases op with
  | acquire =>
    simp only [perform, tryAcquire] at h
    split_ifs at h
    · exact Or.inr h
    · exact Or.inr h
    · exact Or.inr h
    · rcases RecordFile.writeAcquired_record _ _ _ _ _ h with h | h
      · exact Or.inl (by rw [h, newRecord])
      · exact Or.inr h
  | renew =>
    simp only [perform, renew] at h
    split_ifs at h with hl hv ho
    · exact Or.inr h
    · exact Or.inr h
    · exact Or.inr h
    · rcases RecordFile.writeRecordReplace_record _ _ _ _ h with h | h
      · exact Or.inl (by rw [h]; exact not_not.mp ho)
      · exact Or.inr h
  | release =>
    simp only [perform, release] at h
    split_ifs at h
    · exact Or.inr h
    · exact Or.inr h
    · exact Or.inr h

/-- With the lock free and a record that can be read, `renew` is refused only where no unexpired
record names the caller. -/
theorem renew_refused {io : FileIo} (hl : io.lockFree = true) (hd : io.readOk = true) (now : ℚ)
    (file : LeaseFile) (h : (lease.perform .renew io now file).1.reply = .refused)
    (g : Grant OwnerId ℚ)
    (hg : inForce (file.grant lease.electionName lease.sgId) now = some g) :
    g.owner ≠ lease.ownerId := by
  obtain ⟨hg', hlive⟩ := inForce_eq_some.mp hg
  obtain ⟨r, rfl, -, -, rfl, hread⟩ := lease.readRecord_of_grant_some hd file g hg'
  intro ho
  have hx : isExpired r now = false := by simpa [isExpired, RecordFile.isExpired] using hlive
  have ho' : r.ownerId = lease.ownerId := ho
  simp [perform, renew, hl, hread, hx, ho', LeaseResult.reply] at h

/-- Where the lock is free and the record can be read and removed, no record names the caller after
`release`. -/
theorem release_clears {io : FileIo} (hl : io.lockFree = true) (hd : io.readOk = true)
    (hu : io.unlinkOk = true) (now : ℚ) (file : LeaseFile) (g : Grant OwnerId ℚ)
    (hg : (lease.perform .release io now file).2.grant lease.electionName lease.sgId = some g) :
    g.owner ≠ lease.ownerId := by
  cases hr : (lease.perform .release io now file).1.reply with
  | told e =>
    simp only [perform, LeaseResult.reply] at hr
    split_ifs at hr
  | released =>
    rw [lease.perform_released .release io now file hr] at hg
    simp [LeaseFile.grant] at hg
  | refused =>
    rw [lease.perform_refused .release io now file hr] at hg
    obtain ⟨r, rfl, -, -, rfl, hread⟩ := lease.readRecord_of_grant_some hd file g hg
    intro ho
    have ho' : r.ownerId = lease.ownerId := ho
    simp [perform, release, hl, hu, hread, ho', LeaseResult.reply] at hr

/-- What `_read_record` returns of a record: the record itself, or nothing valid. -/
theorem readRecord_record (io : FileIo) (r : ServiceGroupLeaseRecordModel) :
    lease.readRecord io (.record r) = (r, true) ∨
      lease.readRecord io (.record r) = (lease.emptyRecord, false) := by
  simp only [readRecord]
  split_ifs
  · exact Or.inr rfl
  · exact Or.inr rfl
  · exact Or.inr rfl
  · exact Or.inl rfl

/-- `renew` writes nothing over a record that is expired or names another owner. -/
theorem renew_keeps (io : FileIo) (now : ℚ) (r : ServiceGroupLeaseRecordModel)
    (h : r.expiresAt ≤ now ∨ r.ownerId ≠ lease.ownerId) :
    (lease.renew io now (.record r)).1.renewed = false ∧
      (lease.renew io now (.record r)).2 = .record r := by
  cases hl : io.lockFree with
  | false => simp [renew, hl]
  | true =>
    rcases lease.readRecord_record io r with hread | hread
    · by_cases hx : r.expiresAt ≤ now
      · simp [renew, hl, hread, isExpired, RecordFile.isExpired, hx]
      · simp [renew, hl, hread, isExpired, RecordFile.isExpired, hx, h.resolve_left hx]
    · simp [renew, hl, hread]

/-- `release` leaves every record of another owner as it is. -/
theorem release_keeps (io : FileIo) (r : ServiceGroupLeaseRecordModel)
    (h : r.ownerId ≠ lease.ownerId) :
    (lease.release io (.record r)).1.released = false ∧
      (lease.release io (.record r)).2 = .record r := by
  cases hl : io.lockFree with
  | false => simp [release, hl]
  | true =>
    rcases lease.readRecord_record io r with hread | hread
    · simp [release, hl, hread, h]
    · simp [release, hl, hread]

section Outcomes
variable {lease} {op : Op} {io : FileIo} {now : ℚ} {file : LeaseFile}

theorem outcome_of_refused (h : (lease.perform op io now file).1.reply = .refused) :
    Outcome lease.ownerId (lease.ttlSeconds : ℚ) now (file.grant lease.electionName lease.sgId)
      (lease.perform op io now file).1.reply
      ((lease.perform op io now file).2.grant lease.electionName lease.sgId) := by
  rw [lease.perform_refused op io now file h, h]
  exact .refused

theorem outcome_of_refines (h : ((lease.perform op io now file).1.reply,
    (lease.perform op io now file).2.grant lease.electionName lease.sgId) =
      TtlLease.perform lease.ownerId (lease.ttlSeconds : ℚ) op now
        (file.grant lease.electionName lease.sgId)) :
    Outcome lease.ownerId (lease.ttlSeconds : ℚ) now (file.grant lease.electionName lease.sgId)
      (lease.perform op io now file).1.reply
      ((lease.perform op io now file).2.grant lease.electionName lease.sgId) := by
  obtain ⟨hreply, hgrant⟩ := Prod.mk.inj h
  rw [hreply, hgrant]
  exact outcome_perform _ _ _ _ _

end Outcomes

/-- Where records can be written, an operation comes to what a call for a lease may come to, unless
it acquires without having read the record of another owner in force. -/
theorem perform_outcome {io : FileIo} (hw : io.WritesOk) (op : Op) (now : ℚ) (file : LeaseFile)
    (hreads : op = .acquire → io.readOk = false →
      ∀ g, inForce (file.grant lease.electionName lease.sgId) now = some g →
        g.owner = lease.ownerId) :
    Outcome lease.ownerId (lease.ttlSeconds : ℚ) now (file.grant lease.electionName lease.sgId)
      (lease.perform op io now file).1.reply
      ((lease.perform op io now file).2.grant lease.electionName lease.sgId) := by
  cases hl : io.lockFree with
  | false => exact outcome_of_refused (lease.perform_busy op io now file hl).1
  | true =>
    cases op with
    | acquire =>
      cases hd : io.readOk with
      | true => exact outcome_of_refines (lease.tryAcquire_refines hl hd now file hw)
      | false =>
        obtain ⟨hreply, hgrant⟩ := lease.perform_acquire_writes hw hl now file
          (by simp [lease.readRecord_of_readFails hd])
        rw [hreply, hgrant]
        exact .granted (hreads rfl hd)
    | renew =>
      cases hd : io.readOk with
      | true => exact outcome_of_refines (lease.renew_refines hl hd now file hw.replaceOk)
      | false =>
        apply outcome_of_refused
        simp [perform, renew, hl, lease.readRecord_of_readFails hd, LeaseResult.reply]
    | release =>
      cases hd : io.readOk with
      | true =>
        cases hu : io.unlinkOk with
        | true => exact outcome_of_refines (lease.release_refines hl hd now file hu)
        | false =>
          apply outcome_of_refused
          simp only [perform, release, hl, hu, LeaseResult.reply, Bool.not_true, Bool.not_false]
          split_ifs <;> trivial
      | false =>
        apply outcome_of_refused
        simp [perform, release, hl, lease.readRecord_of_readFails hd, LeaseResult.reply]

end FileServiceGroupLease
end PypnmCmts
