import PypnmCmts.LeaderElection
import PypnmCmts.PyJson
import PypnmCmts.ServiceGroupLease

/-! The record files of the two coordination classes down to their octets: `_read_record` on
whatever a file holds, and the locked operations with every way in which their writes can end. -/
namespace PypnmCmts
open PyNumber PyJson

/-- A lease record, or a leader record, which has no service group. -/
structure StoredRecord where
  electionName : PyStr
  sgId : Option ℕ
  holderId : PyStr
  acquiredAt : PyFloat
  expiresAt : PyFloat
deriving DecidableEq

/-- What a record path holds. `dumped` is the text that `json.dumps` makes of a record, and
`json.loads` makes the same object of it again. -/
inductive StateFile
  | missing
  | octets (content : List UInt8)
  | dumped (record : StoredRecord)
deriving DecidableEq

/-- The settings of the interpreter, and how it writes floats, lists and dictionaries. -/
structure Interpreter where
  limits : Limits
  textOf : Json → PyStr

def plainInterpreter : Interpreter := ⟨⟨4300, 900⟩, fun _ => []⟩

/-- In what the two classes differ: the field that names the holder, whether `try_acquire` says
`acquired` to the holder, whether a failing replacement raises, and the messages. -/
structure RecordClass where
  idKey : String
  heldCounts : Bool
  replaceRaises : Bool
  messageBusy : String
  messageAlready : String
  messageHeld : String
  messageAcquired : String
  messageNoActive : String
  messageNotHolder : String
  messageRenewed : String
  messageNotHeld : String
  messageReleaseFailed : String
  messageReleased : String

/-- What all contenders for one record have in common. -/
structure RecordScope where
  recordClass : RecordClass
  electionName : PyStr
  sgId : Option ℕ
  leaderIdValidator : Option (PyStr → Bool)

/-- A contender as `__init__` leaves it. -/
structure RecordKeeper extends RecordScope where
  holderId : PyStr
  ttlSeconds : ℕ
  holderId_nonempty : holderId ≠ []
  ttlSeconds_pos : 1 ≤ ttlSeconds

namespace FileServiceGroupLease

def recordClass : RecordClass where
  idKey := "owner_id"
  heldCounts := true
  replaceRaises := false
  messageBusy := messageBusy
  messageAlready := messageAlreadyOwner
  messageHeld := messageNotOwner
  messageAcquired := messageAcquired
  messageNoActive := messageNoActive
  messageNotHolder := messageNotOwner
  messageRenewed := messageRenewed
  messageNotHeld := messageNotHeld
  messageReleaseFailed := messageReleaseFailed
  messageReleased := messageReleased

def recordScope (electionName : PyStr) (sgId : ServiceGroupId) : RecordScope :=
  ⟨recordClass, electionName, some sgId, none⟩

end FileServiceGroupLease

namespace FileLeaderElection

def recordClass : RecordClass where
  idKey := "leader_id"
  heldCounts := false
  replaceRaises := true
  messageBusy := messageBusy
  messageAlready := "Already leader."
  messageHeld := "Leader already held."
  messageAcquired := "Leadership acquired."
  messageNoActive := "No active leader record."
  messageNotHolder := "Leader held by another contender."
  messageRenewed := "Leadership renewed."
  messageNotHeld := "Leader not held by caller."
  messageReleaseFailed := "Failed to release leader record."
  messageReleased := "Leadership released."

def recordScope (electionName : PyStr) (validator : Option (PyStr → Bool)) : RecordScope :=
  ⟨recordClass, electionName, none, validator⟩

end FileLeaderElection

/-- How `os.open` with `O_EXCL` and the write behind it end on a free path. Where `openFails`, the
`open` raises another `OSError` than that the file is there, on a path that is taken as well. -/
inductive CreateEnd
  | openFails
  | written
  | removed
  | left (content : List UInt8)
deriving DecidableEq

/-- The answers of the file system during one operation. -/
structure DiskIo where
  lockFree : Bool
  readOk : Bool
  create : CreateEnd
  replaceOk : Bool
  unlinkOk : Bool
deriving DecidableEq

def DiskIo.ok : DiskIo := ⟨true, true, .written, true, true⟩

@[simp] theorem DiskIo.lockFree_ok : DiskIo.ok.lockFree = true := rfl
@[simp] theorem DiskIo.readOk_ok : DiskIo.ok.readOk = true := rfl
@[simp] theorem DiskIo.create_ok : DiskIo.ok.create = .written := rfl
@[simp] theorem DiskIo.replaceOk_ok : DiskIo.ok.replaceOk = true := rfl
@[simp] theorem DiskIo.unlinkOk_ok : DiskIo.ok.unlinkOk = true := rfl

/-- What leaves an operation as an exception: what was raised while the record was read, or an
`OSError` of a write. -/
inductive Escaped
  | reading (e : Raised)
  | writing
deriving DecidableEq

/-- The result of an operation: its own flag, `is_owner` or `is_leader`, and the record that it
copies the other fields from. `release` copies the ids only. -/
structure StoredResult where
  done : Bool
  isHolder : Bool
  record : StoredRecord
  remainingSeconds : PyFloat
  message : String
deriving DecidableEq

namespace StoredRecord

/-- `record.model_dump()`, as `json.loads` returns it. -/
def members (recordClass : RecordClass) (record : StoredRecord) : List (PyStr × Json) :=
  [(codePoints "election_name", .str record.electionName)] ++
    (record.sgId.map fun sgId => (codePoints "sg_id", Json.int sgId)).toList ++
    [(codePoints recordClass.idKey, .str record.holderId),
     (codePoints "acquired_at", .float record.acquiredAt),
     (codePoints "expires_at", .float record.expiresAt)]

def isExpired (record : StoredRecord) (now : ℚ) : Bool := record.expiresAt.leRat now

def remainingSeconds (record : StoredRecord) (now : ℚ) : PyFloat :=
  let remaining := record.expiresAt.subRat now
  if remaining.isNegative then .finite 0 else remaining

end StoredRecord

namespace RecordScope
variable (py : Interpreter) (scope : RecordScope)

/-- `json.loads(path.read_text(encoding="utf-8"))`. -/
def decoded : StateFile → Except Raised Json
  | .missing => .error .jsonDecode
  | .octets content =>
    match readText content with
    | .ok text => loads py.limits text
    | .error e => .error e
  | .dumped record => .ok (.object (record.members scope.recordClass))

/-- `except (TypeError, ValueError)` around a conversion. -/
def caught {α : Type} : Except Raised α → Except Raised (Option α)
  | .ok a => .ok (some a)
  | .error .typeError => .ok none
  | .error .conversion => .ok none
  | .error e => .error e

def nameOf (members : List (PyStr × Json)) : PyStr :=
  (Json.get members "election_name" (.str [])).toStr py.textOf

def holderOf (members : List (PyStr × Json)) : PyStr :=
  (Json.get members scope.recordClass.idKey (.str [])).toStr py.textOf

def sgIdOf (members : List (PyStr × Json)) : Except Raised ℤ :=
  (Json.get members "sg_id" (.int 0)).toInt py.limits

def timeOf (members : List (PyStr × Json)) (key : String) : Except Raised PyFloat :=
  (Json.get members key (.float (.finite 0))).toFloat

/-- Only the leases look at a service group. -/
def ownSgId (members : List (PyStr × Json)) : Except Raised Bool :=
  match scope.sgId with
  | none => .ok true
  | some sgId =>
    match caught (sgIdOf py members) with
    | .ok found => .ok (found = some (sgId : ℤ))
    | .error e => .error e

/-- The two times, `none` where one of them does not convert. -/
def timesOf (members : List (PyStr × Json)) : Except Raised (Option (PyFloat × PyFloat)) :=
  match caught (timeOf members "acquired_at") with
  | .error e => .error e
  | .ok none => .ok none
  | .ok (some acquiredAt) =>
    match caught (timeOf members "expires_at") with
    | .error e => .error e
    | .ok none => .ok none
    | .ok (some expiresAt) => .ok (some (acquiredAt, expiresAt))

/-- The fields of a decoded object, `none` where they are no valid record. -/
def recordOf (members : List (PyStr × Json)) : Except Raised (Option StoredRecord) :=
  if nameOf py members ≠ scope.electionName then .ok none
  else
    match scope.ownSgId py members with
    | .error e => .error e
    | .ok false => .ok none
    | .ok true =>
      let holderId := scope.holderOf py members
      -- only an election has a validator
      if scope.leaderIdValidator.any (fun validator => !validator holderId) then .ok none
      else
        match timesOf members with
        | .error e => .error e
        | .ok none => .ok none
        | .ok (some (acquiredAt, expiresAt)) =>
          .ok (some ⟨scope.electionName, scope.sgId, holderId, acquiredAt, expiresAt⟩)

def emptyRecord : StoredRecord := ⟨scope.electionName, scope.sgId, [], .finite 0, .finite 0⟩

/-- A file that cannot be read is one without a record, and so is one that is no JSON. -/
def readRecord (io : DiskIo) (file : StateFile) : Except Raised (StoredRecord × Bool) :=
  let invalid : StoredRecord × Bool := (scope.emptyRecord, false)
  if file = .missing ∨ io.readOk = false then .ok invalid
  else
    match scope.decoded py file with
    | .error .jsonDecode => .ok invalid
    | .error e => .error e
    | .ok (.object members) =>
      match scope.recordOf py members with
      | .error e => .error e
      | .ok none => .ok invalid
      | .ok (some record) => .ok (record, true)
    | .ok _ => .ok invalid

end RecordScope

namespace StateFile

/-- `none` where `os.open` raises. -/
def writeRecordAtomic (io : DiskIo) (record : StoredRecord) (file : StateFile) :
    Option Bool × StateFile :=
  match io.create, file with
  | .openFails, file => (none, file)
  | .written, .missing => (some true, .dumped record)
  | .removed, .missing => (some false, .missing)
  | .left content, .missing => (some false, .octets content)
  | _, file => (some false, file)

@[simp] theorem writeRecordAtomic_openFails {io : DiskIo} (h : io.create = .openFails)
    (record : StoredRecord) (file : StateFile) :
      writeRecordAtomic io record file = (none, file) := by
  simp only [writeRecordAtomic, h]

/-- Where the path is taken, nothing is created. -/
theorem writeRecordAtomic_taken {io : DiskIo} (h : io.create ≠ .openFails) (record : StoredRecord)
    {file : StateFile} (hfile : file ≠ .missing) :
    writeRecordAtomic io record file = (some false, file) := by
  cases file with
  | missing => exact absurd rfl hfile
  | _ => cases hc : io.create <;> simp_all [writeRecordAtomic]

/-- Whether the replacement raises, and the file after it. -/
def writeRecordReplace (recordClass : RecordClass) (io : DiskIo) (record : StoredRecord)
    (file : StateFile) : Bool × StateFile :=
  if io.replaceOk then (false, .dumped record) else (recordClass.replaceRaises, file)

/-- The write of `try_acquire`. -/
def writeAcquired (recordClass : RecordClass) (io : DiskIo) (valid : Bool) (record : StoredRecord)
    (file : StateFile) : Bool × StateFile :=
  if valid then writeRecordReplace recordClass io record file
  else
    match writeRecordAtomic io record file with
    | (none, file) => (true, file)
    | (some true, file) => (false, file)
    | (some false, file) => writeRecordReplace recordClass io record file

end StateFile

namespace RecordKeeper
variable (py : Interpreter) (keeper : RecordKeeper)

def newRecord (now : ℚ) : StoredRecord :=
  ⟨keeper.electionName, keeper.sgId, keeper.holderId, .finite now,
    .finite (now+keeper.ttlSeconds)⟩

def busyResult : StoredResult :=
  ⟨false, false, keeper.emptyRecord, .finite 0, keeper.recordClass.messageBusy⟩

def tryAcquire (io : DiskIo) (now : ℚ) (file : StateFile) :
    Except Escaped StoredResult × StateFile :=
  if !io.lockFree then (.ok keeper.busyResult, file)
  else
    match keeper.readRecord py io file with
    | .error e => (.error (.reading e), file)
    | .ok (record, valid) =>
      let newRecord := keeper.newRecord now
      if valid && !record.isExpired now then
        if record.holderId = keeper.holderId then
          (.ok ⟨keeper.recordClass.heldCounts, true, record, record.remainingSeconds now,
            keeper.recordClass.messageAlready⟩, file)
        else
          (.ok ⟨false, false, record, record.remainingSeconds now,
            keeper.recordClass.messageHeld⟩, file)
      else
        match StateFile.writeAcquired keeper.recordClass io valid newRecord file with
        | (true, file) => (.error .writing, file)
        | (false, file) =>
          (.ok ⟨true, true, newRecord, newRecord.remainingSeconds now,
            keeper.recordClass.messageAcquired⟩, file)

def renew (io : DiskIo) (now : ℚ) (file : StateFile) : Except Escaped StoredResult × StateFile :=
  if !io.lockFree then (.ok keeper.busyResult, file)
  else
    match keeper.readRecord py io file with
    | .error e => (.error (.reading e), file)
    | .ok (record, valid) =>
      if !valid || record.isExpired now then
        (.ok ⟨false, false, record, record.remainingSeconds now,
          keeper.recordClass.messageNoActive⟩, file)
      else if record.holderId ≠ keeper.holderId then
        (.ok ⟨false, false, record, record.remainingSeconds now,
          keeper.recordClass.messageNotHolder⟩, file)
      else
        let renewed := { record with expiresAt := .finite (now+keeper.ttlSeconds) }
        match StateFile.writeRecordReplace keeper.recordClass io renewed file with
        | (true, file) => (.error .writing, file)
        | (false, file) =>
          (.ok ⟨true, true, renewed, renewed.remainingSeconds now,
            keeper.recordClass.messageRenewed⟩, file)

def release (io : DiskIo) (file : StateFile) : Except Escaped StoredResult × StateFile :=
  if !io.lockFree then (.ok keeper.busyResult, file)
  else
    match keeper.readRecord py io file with
    | .error e => (.error (.reading e), file)
    | .ok (record, valid) =>
      if !valid || record.holderId ≠ keeper.holderId then
        (.ok ⟨false, false, record, .finite 0, keeper.recordClass.messageNotHeld⟩, file)
      else if !io.unlinkOk then
        (.ok ⟨false, true, record, .finite 0, keeper.recordClass.messageReleaseFailed⟩, file)
      else
        (.ok ⟨true, false, keeper.emptyRecord, .finite 0, keeper.recordClass.messageReleased⟩,
          .missing)

def perform (op : TtlLease.Op) (io : DiskIo) (now : ℚ) (file : StateFile) :
    Except Escaped StoredResult × StateFile :=
  match op with
  | .acquire => keeper.tryAcquire py io now file
  | .renew => keeper.renew py io now file
  | .release => keeper.release py io file

end RecordKeeper

namespace RecordScope
variable {py : Interpreter} (scope : RecordScope)

/-- One of the two classes that work on records. -/
def Known : Prop :=
  (∃ electionName sgId, scope = FileServiceGroupLease.recordScope electionName sgId) ∨
    ∃ electionName validator, scope = FileLeaderElection.recordScope electionName validator

def accepts (holderId : PyStr) : Bool :=
  !scope.leaderIdValidator.any fun validator => !validator holderId

variable {scope}

variable (py) in
/-- The fields of a record, as they are looked up in the object that was dumped. -/
theorem fields_members (hknown : scope.Known) {record : StoredRecord}
    (hsg : record.sgId.isSome = scope.sgId.isSome) :
    nameOf py (record.members scope.recordClass) = record.electionName ∧
      scope.ownSgId py (record.members scope.recordClass) = .ok (record.sgId = scope.sgId) ∧
      scope.holderOf py (record.members scope.recordClass) = record.holderId ∧
      timeOf (record.members scope.recordClass) "acquired_at" = .ok record.acquiredAt ∧
      timeOf (record.members scope.recordClass) "expires_at" = .ok record.expiresAt := by
  rcases hknown with ⟨electionName, sgId, rfl⟩ | ⟨electionName, validator, rfl⟩
  · obtain ⟨found, hfound⟩ : ∃ found, record.sgId = some found := Option.isSome_iff_exists.mp hsg
    have hmembers : record.members
        (FileServiceGroupLease.recordScope electionName sgId).recordClass =
        [(codePoints "election_name", .str record.electionName),
         (codePoints "sg_id", .int found), (codePoints "owner_id", .str record.holderId),
         (codePoints "acquired_at", .float record.acquiredAt),
         (codePoints "expires_at", .float record.expiresAt)] := by
      rw [StoredRecord.members, hfound]
      rfl
    have hn : sgIdOf py (record.members
        (FileServiceGroupLease.recordScope electionName sgId).recordClass) = .ok (found : ℤ) := by
      rw [hmembers]
      rfl
    have hself : (FileServiceGroupLease.recordScope electionName sgId).sgId = some sgId := rfl
    have hkey : (FileServiceGroupLease.recordScope electionName sgId).recordClass.idKey =
        "owner_id" := rfl
    refine ⟨?_, ?_, ?_, ?_, ?_⟩
    · rw [hmembers]
      rfl
    · simp only [ownSgId, hn, hself, hfound, caught, Option.some.injEq, Nat.cast_inj]
    · rw [hmembers, holderOf, hkey]
      rfl
    all_goals rw [hmembers]; rfl
  · have hnone : record.sgId = none :=
      Option.not_isSome_iff_eq_none.mp (by rw [hsg]; exact Bool.false_ne_true)
    have hmembers : record.members
        (FileLeaderElection.recordScope electionName validator).recordClass =
        [(codePoints "election_name", .str record.electionName),
         (codePoints "leader_id", .str record.holderId),
         (codePoints "acquired_at", .float record.acquiredAt),
         (codePoints "expires_at", .float record.expiresAt)] := by
      rw [StoredRecord.members, hnone]
      rfl
    have hkey : (FileLeaderElection.recordScope electionName validator).recordClass.idKey =
        "leader_id" := rfl
    refine ⟨?_, ?_, ?_, ?_, ?_⟩
    · rw [hmembers]
      rfl
    · rw [hnone]
      rfl
    · rw [hmembers, holderOf, hkey]
      rfl
    all_goals rw [hmembers]; rfl

/-- A record that was dumped is read as it is, if it is of the scope. -/
theorem readRecord_dumped (hknown : scope.Known) {io : DiskIo} (hread : io.readOk = true)
    {record : StoredRecord} (hsg : record.sgId.isSome = scope.sgId.isSome) :
    scope.readRecord py io (.dumped record) =
      .ok (if record.electionName = scope.electionName ∧ record.sgId = scope.sgId ∧
        scope.accepts record.holderId = true then (record, true) else
          (scope.emptyRecord, false)) := by
  obtain ⟨hname, hown, hholder, ha, hx⟩ := fields_members py hknown hsg
  have hd : scope.decoded py (.dumped record) =
      .ok (.object (record.members scope.recordClass)) := rfl
  have htimes : timesOf (record.members scope.recordClass) =
      .ok (some (record.acquiredAt, record.expiresAt)) := by
    simp only [timesOf, ha, hx, caught]
  have hrec : scope.recordOf py (record.members scope.recordClass) =
      .ok (if record.electionName = scope.electionName ∧ record.sgId = scope.sgId ∧
        scope.accepts record.holderId = true then some record else none) := by
    rw [recordOf, hname, hown, hholder, htimes]
    by_cases hn : record.electionName = scope.electionName
    · by_cases hs : record.sgId = scope.sgId
      · have hsame : (⟨scope.electionName, scope.sgId, record.holderId, record.acquiredAt,
            record.expiresAt⟩ : StoredRecord) = record := by rw [← hn, ← hs]
        simp only [accepts, hn, hs, ne_eq, not_true, if_false, decide_true, true_and, hsame]
        cases scope.leaderIdValidator.any fun validator => !validator record.holderId <;> rfl
      · simp [hn, hs]
    · simp [hn]
  rw [readRecord, if_neg (by simp [hread]), hd]
  simp only [hrec]
  split_ifs <;> rfl

end RecordScope

theorem codePoints_nonempty {s : String} (h : s ≠ "") : codePoints s ≠ [] := by
  intro hc
  apply h
  rw [← String.toList_inj]
  exact List.map_eq_nil_iff.mp hc

/-- The lease with the texts of its object as code points. -/
def FileServiceGroupLease.keeper (lease : FileServiceGroupLease) : RecordKeeper where
  toRecordScope := recordScope (codePoints lease.electionName) lease.sgId
  holderId := codePoints lease.ownerId
  ttlSeconds := lease.ttlSeconds
  holderId_nonempty := codePoints_nonempty lease.ownerId_nonempty
  ttlSeconds_pos := lease.ttlSeconds_pos

end PypnmCmts
