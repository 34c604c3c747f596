import PypnmCmts.LabelledRun
import PypnmCmts.RecordDisk

/-! The operations on records are those on the contents of the files: a lease or an election that
works on records, and one that works on what the files hold, answer alike in every run. -/
namespace PypnmCmts

open LabelledRun PyNumber PyJson

theorem codePoints_inj {s t : String} : codePoints s = codePoints t ↔ s = t := by
  constructor
  · intro h
    have hchars : Function.Injective Char.toNat := by
      intro c d hcd
      exact Char.toNat_inj.mp hcd
    exact String.toList_inj.mp (List.map_injective_iff.mpr hchars h)
  · intro h
    rw [h]

/-- A record with its texts as code points. -/
def ServiceGroupLeaseRecordModel.stored (record : ServiceGroupLeaseRecordModel) : StoredRecord :=
  ⟨codePoints record.electionName, some record.sgId, codePoints record.ownerId,
    .finite record.acquiredAt, .finite record.expiresAt⟩

def LeaderRecordModel.stored (record : LeaderRecordModel) : StoredRecord :=
  ⟨codePoints record.electionName, none, codePoints record.leaderId, .finite record.acquiredAt,
    .finite record.expiresAt⟩

/-- Octets that count as a missing record. -/
def RecordScope.Unreadable (py : Interpreter) (scope : RecordScope) (content : List UInt8) : Prop :=
  scope.readRecord py .ok (.octets content) = .ok (scope.emptyRecord, false)

/-- A file of records, and what is on the disk. -/
inductive RecordFile.OnDisk {ρ : Type} (py : Interpreter) (scope : RecordScope)
    (stored : ρ → StoredRecord) : RecordFile ρ → StateFile → Prop
  | missing : OnDisk py scope stored .missing .missing
  | unreadable {content : List UInt8} (h : scope.Unreadable py content) :
    OnDisk py scope stored .unreadable (.octets content)
  | record (r : ρ) : OnDisk py scope stored (.record r) (.dumped (stored r))

/-- An exclusive creation, and what it leaves on the disk. -/
inductive CreateOutcome.OnDisk (py : Interpreter) (scope : RecordScope) :
    CreateOutcome → CreateEnd → Prop
  | written : OnDisk py scope .written .written
  | removed : OnDisk py scope .removed .removed
  | leftover {content : List UInt8} (h : scope.Unreadable py content) :
    OnDisk py scope .leftover (.left content)

theorem CreateOutcome.OnDisk.ne_openFails {py : Interpreter} {scope : RecordScope}
    {created : CreateOutcome} {ended : CreateEnd} (h : created.OnDisk py scope ended) :
    ended ≠ .openFails := by
  cases h <;> simp

/-- The same answers of the file system. -/
structure FileIo.OnDisk (py : Interpreter) (scope : RecordScope) (io : FileIo) (disk : DiskIo) :
    Prop where
  lockFree : disk.lockFree = io.lockFree
  readOk : disk.readOk = io.readOk
  create : io.create.OnDisk py scope disk.create
  replaceOk : disk.replaceOk = io.replaceOk
  unlinkOk : disk.unlinkOk = io.unlinkOk

namespace RecordScope
variable {py : Interpreter} {scope : RecordScope} {disk : DiskIo}

/-- A file that is not read has no record. -/
theorem readRecord_unread {file : StateFile} (h : file = .missing ∨ disk.readOk = false) :
    scope.readRecord py disk file = .ok (scope.emptyRecord, false) := by
  rw [readRecord, if_pos h]

theorem readRecord_unreadable {content : List UInt8} (h : scope.Unreadable py content) :
    scope.readRecord py disk (.octets content) = .ok (scope.emptyRecord, false) := by
  by_cases hread : disk.readOk = false
  · exact readRecord_unread (Or.inr hread)
  · rw [Unreadable, readRecord, if_neg (by simp)] at h
    rw [readRecord, if_neg (by simp [hread])]
    exact h

end RecordScope

section Writes
variable {ρ : Type} {py : Interpreter} {scope : RecordScope} {stored : ρ → StoredRecord}
  {io : FileIo} {disk : DiskIo} {file : RecordFile ρ} {state : StateFile}

theorem writeRecordReplace_onDisk (recordClass : RecordClass)
    (hio : io.OnDisk py scope disk) (r : ρ) (h : file.OnDisk py scope stored state) :
    (StateFile.writeRecordReplace recordClass disk (stored r) state).1 =
        (recordClass.replaceRaises && !io.replaceOk) ∧
      (RecordFile.writeRecordReplace io r file).OnDisk py scope stored
        (StateFile.writeRecordReplace recordClass disk (stored r) state).2 := by
  rw [StateFile.writeRecordReplace, RecordFile.writeRecordReplace, hio.replaceOk]
  cases io.replaceOk with
  | false => exact ⟨(Bool.and_true _).symm, h⟩
  | true => exact ⟨(Bool.and_false _).symm, .record r⟩

theorem writeRecordAtomic_onDisk (hio : io.OnDisk py scope disk) (r : ρ)
    (h : file.OnDisk py scope stored state) :
    (StateFile.writeRecordAtomic disk (stored r) state).1 =
        some (RecordFile.writeRecordAtomic io r file).1 ∧
      (RecordFile.writeRecordAtomic io r file).2.OnDisk py scope stored
        (StateFile.writeRecordAtomic disk (stored r) state).2 := by
  have hcreate := hio.create
  -- the mirrored outcomes never raise, so that a file in the way is only found
  have hopen : disk.create ≠ .openFails := hcreate.ne_openFails
  cases h with
  | missing =>
    unfold StateFile.writeRecordAtomic RecordFile.writeRecordAtomic
    generalize io.create = created at hcreate ⊢
    generalize disk.create = ended at hcreate ⊢
    cases hcreate with
    | written => exact ⟨rfl, .record r⟩
    | removed => exact ⟨rfl, .missing⟩
    | leftover hcontent => exact ⟨rfl, .unreadable hcontent⟩
  | unreadable hcontent =>
    rw [StateFile.writeRecordAtomic_taken hopen _ StateFile.noConfusion]
    exact ⟨rfl, .unreadable hcontent⟩
  | record old =>
    rw [StateFile.writeRecordAtomic_taken hopen _ StateFile.noConfusion]
    exact ⟨rfl, .record old⟩

/-- The write of `try_acquire` raises on the disk where the replacement had to work and did not. -/
theorem writeAcquired_onDisk (recordClass : RecordClass) (hio : io.OnDisk py scope disk)
    (valid : Bool) (r : ρ) (h : file.OnDisk py scope stored state) :
    (StateFile.writeAcquired recordClass disk valid (stored r) state).1 =
        (recordClass.replaceRaises && !RecordFile.acquiredWritten io valid r file) ∧
      (RecordFile.writeAcquired io valid r file).OnDisk py scope stored
        (StateFile.writeAcquired recordClass disk valid (stored r) state).2 := by
  cases valid with
  | true => exact writeRecordReplace_onDisk recordClass hio r h
  | false =>
    obtain ⟨hcreated, hfile⟩ := writeRecordAtomic_onDisk hio r h
    obtain ⟨created, state', hstate⟩ : ∃ created state',
        StateFile.writeRecordAtomic disk (stored r) state = (created, state') := ⟨_, _, rfl⟩
    rw [hstate] at hcreated hfile
    obtain rfl : created = some (RecordFile.writeRecordAtomic io r file).1 := hcreated
    simp only [StateFile.writeAcquired, RecordFile.writeAcquired, RecordFile.acquiredWritten,
      hstate, Bool.false_eq_true, if_false, Bool.not_false, Bool.true_and]
    cases (RecordFile.writeRecordAtomic io r file).1 with
    | true => exact ⟨(Bool.and_false _).symm, hfile⟩
    | false => exact writeRecordReplace_onDisk recordClass hio r hfile

end Writes

/-- A result gives the caller these values. -/
structure StoredResult.Gives (result : StoredResult) (done isHolder : Bool)
    (sgId : Option ServiceGroupId) (holderId message : String) : Prop where
  done : result.done = done
  isHolder : result.isHolder = isHolder
  sgId : result.record.sgId = sgId
  holderId : result.record.holderId = codePoints holderId
  message : result.message = message

structure StoredResult.GivesTimes (result : StoredResult)
    (acquiredAt expiresAt remainingSeconds : ℚ) : Prop where
  acquiredAt : result.record.acquiredAt = .finite acquiredAt
  expiresAt : result.record.expiresAt = .finite expiresAt
  remainingSeconds : result.remainingSeconds = .finite remainingSeconds

/-- The same answer on the disk. A lease does not raise. -/
def LeaseResult.OnDisk : LeaseResult → Except Escaped StoredResult → Prop
  | .acquire r, .ok s => s.Gives r.acquired r.isOwner (some r.sgId) r.ownerId r.message ∧
      s.GivesTimes r.acquiredAt r.expiresAt r.remainingSeconds
  | .renew r, .ok s => s.Gives r.renewed r.isOwner (some r.sgId) r.ownerId r.message ∧
      s.GivesTimes r.acquiredAt r.expiresAt r.remainingSeconds
  | .release r, .ok s => s.Gives r.released r.isOwner (some r.sgId) r.ownerId r.message
  | _, .error _ => False

def LeaderResult.OnDisk : LeaderResult → Except Escaped StoredResult → Prop
  | .acquire (some r), .ok s => s.Gives r.acquired r.isLeader none r.leaderId r.message ∧
      s.GivesTimes r.acquiredAt r.expiresAt r.remainingSeconds
  | .renew (some r), .ok s => s.Gives r.renewed r.isLeader none r.leaderId r.message ∧
      s.GivesTimes r.acquiredAt r.expiresAt r.remainingSeconds
  | .release r, .ok s => s.Gives r.released r.isLeader none r.leaderId r.message
  | .acquire none, .error e => e = .writing
  | .renew none, .error e => e = .writing
  | _, _ => False

theorem StoredRecord.isExpired_of_finite {record : StoredRecord} {expiresAt : ℚ}
    (h : record.expiresAt = .finite expiresAt) (now : ℚ) :
    record.isExpired now = RecordFile.isExpired expiresAt now := by
  rw [StoredRecord.isExpired, h]
  rfl

theorem StoredRecord.remainingSeconds_of_finite {record : StoredRecord} {expiresAt : ℚ}
    (h : record.expiresAt = .finite expiresAt) (now : ℚ) :
    record.remainingSeconds now = .finite (RecordFile.remainingSeconds expiresAt now) := by
  have hsub : record.expiresAt.subRat now = .finite (expiresAt-now) := by
    rw [h]
    rfl
  rw [StoredRecord.remainingSeconds, RecordFile.remainingSeconds, hsub]
  by_cases hneg : expiresAt-now < 0
  · simp [PyFloat.isNegative, hneg]
  · simp [PyFloat.isNegative, hneg]

namespace FileServiceGroupLease
variable {py : Interpreter} {lease : FileServiceGroupLease} {io : FileIo} {disk : DiskIo}
  {file : LeaseFile} {state : StateFile}

theorem keeper_known (lease : FileServiceGroupLease) : lease.keeper.Known :=
  Or.inl ⟨codePoints lease.electionName, lease.sgId, rfl⟩

/-- What is read on the disk is the record that is read. -/
theorem readRecord_onDisk (hio : io.OnDisk py lease.keeper.toRecordScope disk)
    (h : file.OnDisk py lease.keeper.toRecordScope ServiceGroupLeaseRecordModel.stored state) :
    lease.keeper.readRecord py disk state =
      .ok ((lease.readRecord io file).1.stored, (lease.readRecord io file).2) := by
  have hempty : lease.keeper.emptyRecord = lease.emptyRecord.stored := rfl
  cases h with
  | missing =>
    rw [RecordScope.readRecord_unread (Or.inl rfl)]
    rfl
  | unreadable hcontent =>
    rw [RecordScope.readRecord_unreadable hcontent]
    rfl
  | record r =>
    cases hread : io.readOk with
    | false =>
      rw [RecordScope.readRecord_unread (Or.inr (hio.readOk.trans hread)),
        lease.readRecord_of_readFails hread]
      rfl
    | true =>
      have hname : r.stored.electionName = lease.keeper.electionName ↔
          r.electionName = lease.electionName := codePoints_inj
      have hsg : r.stored.sgId = lease.keeper.sgId ↔ r.sgId = lease.sgId := Option.some_inj
      have haccepts : lease.keeper.accepts r.stored.holderId = true := rfl
      rw [RecordScope.readRecord_dumped lease.keeper_known (hio.readOk.trans hread) rfl]
      simp only [hname, hsg, haccepts, and_true, readRecord, hread, Bool.not_true,
        Bool.false_eq_true, if_false, hempty]
      by_cases hn : r.electionName = lease.electionName
      · by_cases hs : r.sgId = lease.sgId
        · simp [hn, hs]
        · simp [hn, hs]
      · simp [hn]

theorem isExpired_stored (record : ServiceGroupLeaseRecordModel) (now : ℚ) :
    record.stored.isExpired now = isExpired record now :=
  StoredRecord.isExpired_of_finite rfl now

theorem remainingSeconds_stored (record : ServiceGroupLeaseRecordModel) (now : ℚ) :
    record.stored.remainingSeconds now = .finite (remainingSeconds record now) :=
  StoredRecord.remainingSeconds_of_finite rfl now

theorem holderId_stored (record : ServiceGroupLeaseRecordModel) :
    record.stored.holderId = lease.keeper.holderId ↔ record.ownerId = lease.ownerId :=
      codePoints_inj

variable (now : ℚ)

theorem tryAcquire_onDisk (hio : io.OnDisk py lease.keeper.toRecordScope disk)
    (h : file.OnDisk py lease.keeper.toRecordScope ServiceGroupLeaseRecordModel.stored state) :
    (LeaseResult.acquire (lease.tryAcquire io now file).1).OnDisk
        (lease.keeper.tryAcquire py disk now state).1 ∧
      (lease.tryAcquire io now file).2.OnDisk py lease.keeper.toRecordScope
        ServiceGroupLeaseRecordModel.stored (lease.keeper.tryAcquire py disk now state).2 := by
  rw [tryAcquire, RecordKeeper.tryAcquire, hio.lockFree, readRecord_onDisk hio h]
  cases io.lockFree with
  | false => exact ⟨⟨⟨rfl, rfl, rfl, rfl, rfl⟩, ⟨rfl, rfl, rfl⟩⟩, h⟩
  | true =>
    obtain ⟨record, valid⟩ := lease.readRecord io file
    simp only [Bool.not_true, Bool.false_eq_true, if_false, isExpired_stored, holderId_stored]
    split_ifs with hlive howner
    · exact ⟨⟨⟨rfl, rfl, rfl, rfl, rfl⟩, ⟨rfl, rfl, remainingSeconds_stored record now⟩⟩, h⟩
    · exact ⟨⟨⟨rfl, rfl, rfl, rfl, rfl⟩, ⟨rfl, rfl, remainingSeconds_stored record now⟩⟩, h⟩
    · obtain ⟨hraised, hfile⟩ := writeAcquired_onDisk recordClass hio valid (lease.newRecord now) h
      have hclass : lease.keeper.recordClass = recordClass := rfl
      have hnew : lease.keeper.newRecord now = (lease.newRecord now).stored := rfl
      rcases hstate : StateFile.writeAcquired recordClass disk valid
        (lease.newRecord now).stored state
        with ⟨raised, state'⟩
      rw [hstate] at hraised hfile
      obtain rfl : raised = false := hraised
      simp only [hclass, hnew, hstate]
      exact ⟨⟨⟨rfl, rfl, rfl, rfl, rfl⟩, ⟨rfl, rfl, remainingSeconds_stored _ now⟩⟩, hfile⟩

theorem renew_onDisk (hio : io.OnDisk py lease.keeper.toRecordScope disk)
    (h : file.OnDisk py lease.keeper.toRecordScope ServiceGroupLeaseRecordModel.stored state) :
    (LeaseResult.renew (lease.renew io now file).1).OnDisk
        (lease.keeper.renew py disk now state).1 ∧
      (lease.renew io now file).2.OnDisk py lease.keeper.toRecordScope
        ServiceGroupLeaseRecordModel.stored (lease.keeper.renew py disk now state).2 := by
  rw [renew, RecordKeeper.renew, hio.lockFree, readRecord_onDisk hio h]
  cases io.lockFree with
  | false => exact ⟨⟨⟨rfl, rfl, rfl, rfl, rfl⟩, ⟨rfl, rfl, rfl⟩⟩, h⟩
  | true =>
    obtain ⟨record, valid⟩ := lease.readRecord io file
    simp only [Bool.not_true, Bool.false_eq_true, if_false, isExpired_stored, ne_eq,
      holderId_stored]
    split_ifs with hlive howner
    · exact ⟨⟨⟨rfl, rfl, rfl, rfl, rfl⟩, ⟨rfl, rfl, remainingSeconds_stored record now⟩⟩, h⟩
    · obtain ⟨renewed, hrenewed⟩ : ∃ renewed : ServiceGroupLeaseRecordModel,
          renewed = { record with expiresAt := now+lease.ttlSeconds } := ⟨_, rfl⟩
      have hnew : ({ record.stored with expiresAt := .finite (now+lease.keeper.ttlSeconds) } :
          StoredRecord) = renewed.stored := by
        rw [hrenewed]
        rfl
      obtain ⟨hraised, hfile⟩ := writeRecordReplace_onDisk recordClass hio renewed h
      have hclass : lease.keeper.recordClass = recordClass := rfl
      rcases hstate : StateFile.writeRecordReplace recordClass disk renewed.stored state
        with ⟨raised, state'⟩
      rw [hstate] at hraised hfile
      obtain rfl : raised = false := hraised
      simp only [hclass, hnew, hstate, ← hrenewed]
      subst hrenewed
      exact ⟨⟨⟨rfl, rfl, rfl, rfl, rfl⟩, ⟨rfl, rfl, remainingSeconds_stored _ now⟩⟩, hfile⟩
    · exact ⟨⟨⟨rfl, rfl, rfl, rfl, rfl⟩, ⟨rfl, rfl, remainingSeconds_stored record now⟩⟩, h⟩

theorem release_onDisk (hio : io.OnDisk py lease.keeper.toRecordScope disk)
    (h : file.OnDisk py lease.keeper.toRecordScope ServiceGroupLeaseRecordModel.stored state) :
    (LeaseResult.release (lease.release io file).1).OnDisk (lease.keeper.release py disk state).1 ∧
      (lease.release io file).2.OnDisk py lease.keeper.toRecordScope
        ServiceGroupLeaseRecordModel.stored (lease.keeper.release py disk state).2 := by
  rw [release, RecordKeeper.release, hio.lockFree, readRecord_onDisk hio h]
  cases io.lockFree with
  | false => exact ⟨⟨rfl, rfl, rfl, rfl, rfl⟩, h⟩
  | true =>
    obtain ⟨record, valid⟩ := lease.readRecord io file
    simp only [Bool.not_true, Bool.false_eq_true, if_false, ne_eq, holderId_stored, hio.unlinkOk]
    split_ifs with howner hunlink
    · exact ⟨⟨rfl, rfl, rfl, rfl, rfl⟩, h⟩
    · exact ⟨⟨rfl, rfl, rfl, rfl, rfl⟩, h⟩
    · exact ⟨⟨rfl, rfl, rfl, rfl, rfl⟩, .missing⟩

/-- An operation on records is the operation on what the file holds. -/
theorem perform_onDisk (op : TtlLease.Op) (hio : io.OnDisk py lease.keeper.toRecordScope disk)
    (h : file.OnDisk py lease.keeper.toRecordScope ServiceGroupLeaseRecordModel.stored state) :
    (lease.perform op io now file).1.OnDisk (lease.keeper.perform py op disk now state).1 ∧
      (lease.perform op io now file).2.OnDisk py lease.keeper.toRecordScope
        ServiceGroupLeaseRecordModel.stored (lease.keeper.perform py op disk now state).2 := by
  cases op with
  | acquire => exact tryAcquire_onDisk now hio h
  | renew => exact renew_onDisk now hio h
  | release => exact release_onDisk hio h

end FileServiceGroupLease

/-- The election with the texts of its object as code points, and its validator on them. -/
def FileLeaderElection.keeper (election : FileLeaderElection) (validator : Option (PyStr → Bool)) :
    RecordKeeper where
  toRecordScope := recordScope (codePoints election.electionName) validator
  holderId := codePoints election.leaderId
  ttlSeconds := election.ttlSeconds
  holderId_nonempty := codePoints_nonempty election.leaderId_nonempty
  ttlSeconds_pos := election.ttlSeconds_pos

/-- The validator says of the code points what the election's own one says of the text. -/
def FileLeaderElection.Validates (election : FileLeaderElection)
    (validator : Option (PyStr → Bool)) : Prop :=
  ∀ leaderId, (election.keeper validator).accepts (codePoints leaderId) =
    !election.leaderIdValidator.any fun validator => !validator leaderId

namespace FileLeaderElection
variable {py : Interpreter} {election : FileLeaderElection} {validator : Option (PyStr → Bool)}
  {io : FileIo} {disk : DiskIo} {file : LeaderFile} {state : StateFile}

theorem keeper_known (election : FileLeaderElection) (validator : Option (PyStr → Bool)) :
    (election.keeper validator).Known :=
  Or.inr ⟨codePoints election.electionName, validator, rfl⟩

theorem readRecord_onDisk (hvalidator : election.Validates validator)
    (hio : io.OnDisk py (election.keeper validator).toRecordScope disk)
    (h : file.OnDisk py (election.keeper validator).toRecordScope LeaderRecordModel.stored state) :
    (election.keeper validator).readRecord py disk state =
      .ok ((election.readRecord io file).1.stored, (election.readRecord io file).2) := by
  cases h with
  | missing =>
    rw [RecordScope.readRecord_unread (Or.inl rfl)]
    rfl
  | unreadable hcontent =>
    rw [RecordScope.readRecord_unreadable hcontent]
    rfl
  | record r =>
    cases hread : io.readOk with
    | false =>
      rw [RecordScope.readRecord_unread (Or.inr (hio.readOk.trans hread))]
      simp only [readRecord, hread, Bool.not_false, if_true]
      rfl
    | true =>
      have hempty : (election.keeper validator).emptyRecord = election.emptyRecord.stored := rfl
      have hname : r.stored.electionName = (election.keeper validator).electionName ↔
          r.electionName = election.electionName := codePoints_inj
      have hsg : r.stored.sgId = (election.keeper validator).sgId := rfl
      have haccepts := hvalidator r.leaderId
      rw [RecordScope.readRecord_dumped (election.keeper_known validator)
        (hio.readOk.trans hread) rfl]
      have hholder : r.stored.holderId = codePoints r.leaderId := rfl
      simp only [hname, hsg, hholder, haccepts, true_and, readRecord, hread, Bool.not_true,
        Bool.false_eq_true, if_false, hempty]
      by_cases hn : r.electionName = election.electionName
      · cases election.leaderIdValidator.any fun validator => !validator r.leaderId
        · simp [hn]
        · simp [hn]
      · simp [hn]

theorem isExpired_stored (record : LeaderRecordModel) (now : ℚ) :
    record.stored.isExpired now = isExpired record now :=
  StoredRecord.isExpired_of_finite rfl now

theorem remainingSeconds_stored (record : LeaderRecordModel) (now : ℚ) :
    record.stored.remainingSeconds now = .finite (remainingSeconds record now) :=
  StoredRecord.remainingSeconds_of_finite rfl now

theorem holderId_stored (record : LeaderRecordModel) :
    record.stored.holderId = (election.keeper validator).holderId ↔
      record.leaderId = election.leaderId := codePoints_inj

variable (now : ℚ)

theorem tryAcquire_onDisk (hvalidator : election.Validates validator)
    (hio : io.OnDisk py (election.keeper validator).toRecordScope disk)
    (h : file.OnDisk py (election.keeper validator).toRecordScope LeaderRecordModel.stored state) :
    (LeaderResult.acquire (election.tryAcquire io now file).1).OnDisk
        ((election.keeper validator).tryAcquire py disk now state).1 ∧
      (election.tryAcquire io now file).2.OnDisk py (election.keeper validator).toRecordScope
        LeaderRecordModel.stored ((election.keeper validator).tryAcquire py disk now state).2 := by
  rw [tryAcquire, RecordKeeper.tryAcquire, hio.lockFree, readRecord_onDisk hvalidator hio h]
  cases io.lockFree with
  | false => exact ⟨⟨⟨rfl, rfl, rfl, rfl, rfl⟩, ⟨rfl, rfl, rfl⟩⟩, h⟩
  | true =>
    obtain ⟨record, valid⟩ := election.readRecord io file
    simp only [Bool.not_true, Bool.false_eq_true, if_false, isExpired_stored, holderId_stored]
    by_cases hlive : (valid && !isExpired record now) = true
    · rw [if_pos hlive, if_pos hlive]
      by_cases howner : record.leaderId = election.leaderId
      · rw [if_pos howner, if_pos howner]
        exact ⟨⟨⟨rfl, rfl, rfl, rfl, rfl⟩, ⟨rfl, rfl, remainingSeconds_stored record now⟩⟩, h⟩
      · rw [if_neg howner, if_neg howner]
        exact ⟨⟨⟨rfl, rfl, rfl, rfl, rfl⟩, ⟨rfl, rfl, remainingSeconds_stored record now⟩⟩, h⟩
    rw [if_neg hlive, if_neg hlive]
    obtain ⟨hraised, hfile⟩ := writeAcquired_onDisk recordClass hio valid (election.newRecord now) h
    have hclass : (election.keeper validator).recordClass = recordClass := rfl
    have hnew : (election.keeper validator).newRecord now = (election.newRecord now).stored := rfl
    rcases hstate : StateFile.writeAcquired recordClass disk valid
      (election.newRecord now).stored state
      with ⟨raised, state'⟩
    rw [hstate] at hraised hfile
    simp only [hclass, hnew, hstate]
    cases hwritten : RecordFile.acquiredWritten io valid (election.newRecord now) file with
    | false =>
      rw [hwritten] at hraised
      obtain rfl : raised = true := hraised
      exact ⟨rfl, hfile⟩
    | true =>
      rw [hwritten] at hraised
      obtain rfl : raised = false := hraised
      exact ⟨⟨⟨rfl, rfl, rfl, rfl, rfl⟩, ⟨rfl, rfl, remainingSeconds_stored _ now⟩⟩, hfile⟩

theorem renew_onDisk (hvalidator : election.Validates validator)
    (hio : io.OnDisk py (election.keeper validator).toRecordScope disk)
    (h : file.OnDisk py (election.keeper validator).toRecordScope LeaderRecordModel.stored state) :
    (LeaderResult.renew (election.renew io now file).1).OnDisk
        ((election.keeper validator).renew py disk now state).1 ∧
      (election.renew io now file).2.OnDisk py (election.keeper validator).toRecordScope
        LeaderRecordModel.stored ((election.keeper validator).renew py disk now state).2 := by
  rw [renew, RecordKeeper.renew, hio.lockFree, readRecord_onDisk hvalidator hio h]
  cases io.lockFree with
  | false => exact ⟨⟨⟨rfl, rfl, rfl, rfl, rfl⟩, ⟨rfl, rfl, rfl⟩⟩, h⟩
  | true =>
    obtain ⟨record, valid⟩ := election.readRecord io file
    simp only [Bool.not_true, Bool.false_eq_true, if_false, isExpired_stored, ne_eq,
      holderId_stored]
    by_cases hlive : (!valid || isExpired record now) = true
    · rw [if_pos hlive, if_pos hlive]
      exact ⟨⟨⟨rfl, rfl, rfl, rfl, rfl⟩, ⟨rfl, rfl, remainingSeconds_stored record now⟩⟩, h⟩
    rw [if_neg hlive, if_neg hlive]
    by_cases howner : ¬record.leaderId = election.leaderId
    · rw [if_pos howner, if_pos howner]
      exact ⟨⟨⟨rfl, rfl, rfl, rfl, rfl⟩, ⟨rfl, rfl, remainingSeconds_stored record now⟩⟩, h⟩
    rw [if_neg howner, if_neg howner]
    have hclass : (election.keeper validator).recordClass = recordClass := rfl
    simp only [StateFile.writeRecordReplace, hclass, hio.replaceOk]
    cases io.replaceOk with
    | false => exact ⟨rfl, h⟩
    | true =>
      exact ⟨⟨⟨rfl, rfl, rfl, rfl, rfl⟩,
        ⟨rfl, rfl, StoredRecord.remainingSeconds_of_finite rfl now⟩⟩,
        .record { record with expiresAt := now+election.ttlSeconds }⟩

theorem release_onDisk (hvalidator : election.Validates validator)
    (hio : io.OnDisk py (election.keeper validator).toRecordScope disk)
    (h : file.OnDisk py (election.keeper validator).toRecordScope LeaderRecordModel.stored state) :
    (LeaderResult.release (election.release io file).1).OnDisk
        ((election.keeper validator).release py disk state).1 ∧
      (election.release io file).2.OnDisk py (election.keeper validator).toRecordScope
        LeaderRecordModel.stored ((election.keeper validator).release py disk state).2 := by
  rw [release, RecordKeeper.release, hio.lockFree, readRecord_onDisk hvalidator hio h]
  cases io.lockFree with
  | false => exact ⟨⟨rfl, rfl, rfl, rfl, rfl⟩, h⟩
  | true =>
    obtain ⟨record, valid⟩ := election.readRecord io file
    simp only [Bool.not_true, Bool.false_eq_true, if_false, ne_eq, holderId_stored, hio.unlinkOk]
    split_ifs with howner hunlink
    · exact ⟨⟨rfl, rfl, rfl, rfl, rfl⟩, h⟩
    · exact ⟨⟨rfl, rfl, rfl, rfl, rfl⟩, h⟩
    · exact ⟨⟨rfl, rfl, rfl, rfl, rfl⟩, .missing⟩

theorem perform_onDisk (op : TtlLease.Op) (hvalidator : election.Validates validator)
    (hio : io.OnDisk py (election.keeper validator).toRecordScope disk)
    (h : file.OnDisk py (election.keeper validator).toRecordScope LeaderRecordModel.stored state) :
    (election.perform op io now file).1.OnDisk
        ((election.keeper validator).perform py op disk now state).1 ∧
      (election.perform op io now file).2.OnDisk py (election.keeper validator).toRecordScope
        LeaderRecordModel.stored ((election.keeper validator).perform py op disk now state).2 := by
  cases op with
  | acquire => exact tryAcquire_onDisk now hvalidator hio h
  | renew => exact renew_onDisk now hvalidator hio h
  | release => exact release_onDisk hvalidator hio h

end FileLeaderElection

/-- A call of one of the contenders for a record, with the answers of the file system to it. -/
structure RecordCall (ι : Type) where
  who : ι
  op : TtlLease.Op
  now : ℚ
  io : FileIo
  disk : DiskIo

section Runs
variable {ι : Type} {py : Interpreter} {scope : RecordScope} {calls : List (RecordCall ι)}
  {state : StateFile}

/-- Leases for one service group are told in every run what they are told on the disk. -/
theorem FileServiceGroupLease.run_onDisk (lease : ι → FileServiceGroupLease)
    (hscope : ∀ i, (lease i).keeper.toRecordScope = scope)
    (hcalls : ∀ c ∈ calls, c.io.OnDisk py scope c.disk) {file : LeaseFile}
    (h : file.OnDisk py scope ServiceGroupLeaseRecordModel.stored state) :
    let run := answers (fun c file => (lease c.who).perform c.op c.io c.now file) file calls
    let diskRun := answers (fun c state => (lease c.who).keeper.perform py c.op c.disk c.now state)
      state calls
    List.Forall₂ LeaseResult.OnDisk run.1 diskRun.1 ∧
      run.2.OnDisk py scope ServiceGroupLeaseRecordModel.stored diskRun.2 := by
  apply answers_simulation ?_ hcalls h
  intro c file state hc hfile
  rw [← hscope c.who] at hc hfile ⊢
  exact perform_onDisk c.now c.op hc hfile

/-- Contenders for one election are told in every run what they are told on the disk, and their
calls raise in the same places. -/
theorem FileLeaderElection.run_onDisk (election : ι → FileLeaderElection)
    {validator : Option (PyStr → Bool)} (hvalidator : ∀ i, (election i).Validates validator)
    (hscope : ∀ i, ((election i).keeper validator).toRecordScope = scope)
    (hcalls : ∀ c ∈ calls, c.io.OnDisk py scope c.disk) {file : LeaderFile}
    (h : file.OnDisk py scope LeaderRecordModel.stored state) :
    let run := answers (fun c file => (election c.who).perform c.op c.io c.now file) file calls
    let diskRun := answers
      (fun c state => ((election c.who).keeper validator).perform py c.op c.disk c.now
        state) state calls
    List.Forall₂ LeaderResult.OnDisk run.1 diskRun.1 ∧
      run.2.OnDisk py scope LeaderRecordModel.stored diskRun.2 := by
  apply answers_simulation ?_ hcalls h
  intro c file state hc hfile
  rw [← hscope c.who] at hc hfile ⊢
  exact perform_onDisk c.now c.op (hvalidator c.who) hc hfile

end Runs
end PypnmCmts
