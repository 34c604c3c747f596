import PypnmCmts.PyText
import PypnmCmts.RecordFile
import PypnmCmts.TtlLease

/-! `coordination/leader_election.py`: one leader per election, kept as a JSON record with
a time to live. -/
namespace PypnmCmts

abbrev LeaderId := String

structure LeaderRecordModel where
  electionName : String
  leaderId : LeaderId
  acquiredAt : ℚ
  expiresAt : ℚ
deriving DecidableEq

structure LeaderElectionAcquireResultModel where
  acquired : Bool
  isLeader : Bool
  leaderId : LeaderId
  acquiredAt : ℚ
  expiresAt : ℚ
  remainingSeconds : ℚ
  message : String
deriving DecidableEq

structure LeaderElectionRenewResultModel where
  renewed : Bool
  isLeader : Bool
  leaderId : LeaderId
  acquiredAt : ℚ
  expiresAt : ℚ
  remainingSeconds : ℚ
  message : String
deriving DecidableEq

structure LeaderElectionReleaseResultModel where
  released : Bool
  isLeader : Bool
  leaderId : LeaderId
  message : String
deriving DecidableEq

structure LeaderElectionStatusModel where
  electionName : String
  isLeader : Bool
  leaderId : LeaderId
  acquiredAt : ℚ
  expiresAt : ℚ
  remainingSeconds : ℚ
  statePath : String
  message : String
deriving DecidableEq

/-- An election object as `__init__` leaves it, with what `__init__` has checked. -/
structure FileLeaderElection where
  stateDir : String
  electionName : String
  leaderId : LeaderId
  ttlSeconds : ℕ
  leaderIdValidator : Option (LeaderId → Bool)
  electionName_nonempty : electionName ≠ ""
  leaderId_nonempty : leaderId ≠ ""
  ttlSeconds_pos : 1 ≤ ttlSeconds

abbrev LeaderFile := RecordFile LeaderRecordModel

namespace FileLeaderElection

def lockSuffix : String := ".lock"
def minTtlSeconds : ℤ := 1
def staleLockMultiplier : ℚ := 2

def init (stateDir : String) (electionName : String) (leaderId : String) (ttlSeconds : ℤ)
    (leaderIdValidator : Option (LeaderId → Bool)) : Except String FileLeaderElection :=
  if he : PyText.strip electionName = "" then .error "election_name must be non-empty."
  else if hl : PyText.strip leaderId = "" then .error "leader_id must be non-empty."
  else if ht : ttlSeconds < minTtlSeconds then .error "ttl_seconds must be greater than zero."
  else .ok
    { stateDir := stateDir
      electionName := PyText.strip electionName
      leaderId := PyText.strip leaderId
      ttlSeconds := ttlSeconds.toNat
      leaderIdValidator := leaderIdValidator
      electionName_nonempty := he
      leaderId_nonempty := hl
      ttlSeconds_pos := by simp only [minTtlSeconds] at ht; omega }

variable (election : FileLeaderElection)

def lockPath : String := election.stateDir ++ "/" ++ election.electionName ++ lockSuffix

def stateFile : String := election.stateDir ++ "/" ++ election.electionName ++ ".json"

def emptyRecord : LeaderRecordModel := ⟨election.electionName, "", 0, 0⟩

def newRecord (now : ℚ) : LeaderRecordModel :=
  ⟨election.electionName, election.leaderId, now, now+election.ttlSeconds⟩

def isExpired (record : LeaderRecordModel) (now : ℚ) : Bool :=
  RecordFile.isExpired record.expiresAt now

def remainingSeconds (record : LeaderRecordModel) (now : ℚ) : ℚ :=
  RecordFile.remainingSeconds record.expiresAt now

/-- The record on disk and whether it is valid: a record of another election, or of a leader
that the validator refuses, counts as missing. -/
def readRecord (io : FileIo) : LeaderFile → LeaderRecordModel × Bool
  | .missing => (election.emptyRecord, false)
  | .unreadable => (election.emptyRecord, false)
  | .record r =>
    -- `read_text` raises an `OSError`, and the record counts as missing
    if !io.readOk then (election.emptyRecord, false)
    else if r.electionName ≠ election.electionName then (election.emptyRecord, false)
    -- without a validator every leader is accepted
    else if election.leaderIdValidator.any (fun validator => !validator r.leaderId) then
      (election.emptyRecord, false)
    else (r, true)

def messageBusy : String := "Leader election is busy."

/-- The result is `none` where the replacement of the record raises. -/
def tryAcquire (io : FileIo) (now : ℚ) (file : LeaderFile) :
    Option LeaderElectionAcquireResultModel × LeaderFile :=
  if !io.lockFree then
    (some { acquired := false, isLeader := false, leaderId := "", acquiredAt := 0, expiresAt := 0,
            remainingSeconds := 0, message := messageBusy }, file)
  else
    let record := (election.readRecord io file).1
    let valid := (election.readRecord io file).2
    let newRecord := election.newRecord now
    if valid && !isExpired record now then
      if record.leaderId = election.leaderId then
        (some { acquired := false, isLeader := true, leaderId := record.leaderId,
                acquiredAt := record.acquiredAt, expiresAt := record.expiresAt,
                remainingSeconds := remainingSeconds record now,
                message := "Already leader." }, file)
      else
        (some { acquired := false, isLeader := false, leaderId := record.leaderId,
                acquiredAt := record.acquiredAt, expiresAt := record.expiresAt,
                remainingSeconds := remainingSeconds record now,
                message := "Leader already held." }, file)
    else if !RecordFile.acquiredWritten io valid newRecord file then
      (none, RecordFile.writeAcquired io valid newRecord file)
    else
      (some { acquired := true, isLeader := true, leaderId := newRecord.leaderId,
              acquiredAt := newRecord.acquiredAt, expiresAt := newRecord.expiresAt,
              remainingSeconds := remainingSeconds newRecord now,
              message := "Leadership acquired." },
       RecordFile.writeAcquired io valid newRecord file)

def renew (io : FileIo) (now : ℚ) (file : LeaderFile) :
    Option LeaderElectionRenewResultModel × LeaderFile :=
  if !io.lockFree then
    (some { renewed := false, isLeader := false, leaderId := "", acquiredAt := 0, expiresAt := 0,
            remainingSeconds := 0, message := messageBusy }, file)
  else
    let record := (election.readRecord io file).1
    let valid := (election.readRecord io file).2
    let refused (message : String) : LeaderElectionRenewResultModel :=
      { renewed := false, isLeader := false, leaderId := record.leaderId,
        acquiredAt := record.acquiredAt, expiresAt := record.expiresAt,
        remainingSeconds := remainingSeconds record now, message := message }
    if !valid || isExpired record now then (some (refused "No active leader record."), file)
    else if record.leaderId ≠ election.leaderId then
      (some (refused "Leader held by another contender."), file)
    else
      let renewed := { record with expiresAt := now+election.ttlSeconds }
      if !io.replaceOk then (none, file)
      else
        (some { renewed := true, isLeader := true, leaderId := renewed.leaderId,
                acquiredAt := renewed.acquiredAt, expiresAt := renewed.expiresAt,
                remainingSeconds := remainingSeconds renewed now,
                message := "Leadership renewed." }, .record renewed)

def release (io : FileIo) (file : LeaderFile) :
    LeaderElectionReleaseResultModel × LeaderFile :=
  if !io.lockFree then
    ({ released := false, isLeader := false, leaderId := "", message := messageBusy }, file)
  else
    let record := (election.readRecord io file).1
    let valid := (election.readRecord io file).2
    if !valid || record.leaderId ≠ election.leaderId then
      ({ released := false, isLeader := false, leaderId := record.leaderId,
         message := "Leader not held by caller." }, file)
    else if !io.unlinkOk then
      ({ released := false, isLeader := true, leaderId := record.leaderId,
         message := "Failed to release leader record." }, file)
    else
      ({ released := true, isLeader := false, leaderId := "",
         message := "Leadership released." }, .missing)

def status (io : FileIo) (now : ℚ) (file : LeaderFile) : LeaderElectionStatusModel :=
  let record := (election.readRecord io file).1
  let valid := (election.readRecord io file).2
  if !valid || isExpired record now then
    { electionName := election.electionName, isLeader := false, leaderId := "", acquiredAt := 0,
      expiresAt := 0, remainingSeconds := 0, statePath := election.stateFile,
      message := "No active leader." }
  else
    { electionName := record.electionName, isLeader := record.leaderId = election.leaderId,
      leaderId := record.leaderId, acquiredAt := record.acquiredAt, expiresAt := record.expiresAt,
      remainingSeconds := remainingSeconds record now, statePath := election.stateFile,
      message := "Leader record present." }

end FileLeaderElection

/-- What one of the three locked operations returns, `none` where it raises. -/
inductive LeaderResult
  | acquire (result : Option LeaderElectionAcquireResultModel)
  | renew (result : Option LeaderElectionRenewResultModel)
  | release (result : LeaderElectionReleaseResultModel)
deriving DecidableEq

namespace LeaderResult

/-- Whether the caller is told that it is the leader, and until when. -/
def reply : LeaderResult → TtlLease.Reply ℚ
  | acquire (some r) => if r.isLeader then .told r.expiresAt else .refused
  | renew (some r) => if r.renewed then .told r.expiresAt else .refused
  | release r => if r.released then .released else .refused
  | _ => .refused

end LeaderResult

namespace FileLeaderElection
variable (election : FileLeaderElection)

def perform (op : TtlLease.Op) (io : FileIo) (now : ℚ) (file : LeaderFile) :
    LeaderResult × LeaderFile :=
  match op with
  | .acquire => (.acquire (election.tryAcquire io now file).1, (election.tryAcquire io now file).2)
  | .renew => (.renew (election.renew io now file).1, (election.renew io now file).2)
  | .release => (.release (election.release io file).1, (election.release io file).2)

/-- Where nothing fails, no operation raises. -/
theorem tryAcquire_ok (now : ℚ) (file : LeaderFile) :
    ∃ result, (election.tryAcquire .ok now file).1 = some result := by
  simp only [tryAcquire, FileIo.lockFree_ok, RecordFile.acquiredWritten, FileIo.replaceOk_ok,
    Bool.or_true, Bool.not_true, Bool.false_eq_true, if_false]
  split_ifs
  all_goals exact ⟨_, rfl⟩

theorem renew_ok (now : ℚ) (file : LeaderFile) :
    ∃ result, (election.renew .ok now file).1 = some result := by
  simp only [renew, FileIo.lockFree_ok, FileIo.replaceOk_ok, Bool.not_true,
    Bool.false_eq_true, if_false]
  split_ifs
  all_goals exact ⟨_, rfl⟩

end FileLeaderElection
end PypnmCmts
