import PypnmCmts.RecordDisk

/-! Whether the lease that a caller is told of is on the disk when the call returns. -/
namespace PypnmCmts
open PyNumber PyJson

namespace RecordKeeper
variable (py : Interpreter) (keeper : RecordKeeper)

/-- The file reads as a record of the caller that expires at the given time. -/
def NamesCaller (expiresAt : PyFloat) (file : StateFile) : Prop :=
  ∃ record, keeper.readRecord py .ok file = .ok (record, true) ∧
    record.holderId = keeper.holderId ∧ record.expiresAt = expiresAt

/-- A positive answer goes with a record of the caller on the disk, with the time it returns. -/
def AnswerBacked (op : TtlLease.Op) (io : DiskIo) (now : ℚ) (file : StateFile) : Prop :=
  ∀ result, (keeper.perform py op io now file).1 = .ok result → result.done = true →
    keeper.NamesCaller py result.record.expiresAt (keeper.perform py op io now file).2

/-- What is left at the path of a file that could not be created. -/
def leftAtPath (io : DiskIo) : StateFile → StateFile
  | .missing =>
    match io.create with
    | .left content => .octets content
    | _ => .missing
  | file => file

/-- The creation ends the write: `os.open` raises, or the file was missing and is written. -/
def CreationEnds (io : DiskIo) (file : StateFile) : Prop :=
  io.create = .openFails ∨ (file = .missing ∧ io.create = .written)

/-- When `try_acquire` has to write, the write goes through, or the new record is there without
it. -/
def AcquireLands (io : DiskIo) (now : ℚ) (file : StateFile) : Prop :=
  io.lockFree = true → ∀ record valid, keeper.readRecord py io file = .ok (record, valid) →
    (valid = true → record.isExpired now = true) →
    io.replaceOk = true ∨ (valid = false ∧ CreationEnds io file) ∨
      keeper.NamesCaller py (.finite (now+keeper.ttlSeconds)) (leftAtPath io file)

/-- When `renew` has to write, the replacement works, or the file says the same already. -/
def RenewLands (io : DiskIo) (now : ℚ) (file : StateFile) : Prop :=
  io.lockFree = true → ∀ record, keeper.readRecord py io file = .ok (record, true) →
    record.isExpired now = false → record.holderId = keeper.holderId →
    io.replaceOk = true ∨ keeper.NamesCaller py (.finite (now+keeper.ttlSeconds)) file

end RecordKeeper

namespace RecordScope
variable {py : Interpreter} {scope : RecordScope} {members : List (PyStr × Json)}

theorem scope_of_recordOf {record : StoredRecord}
    (h : scope.recordOf py members = .ok (some record)) :
    record.electionName = scope.electionName ∧ record.sgId = scope.sgId := by
  simp only [recordOf] at h
  split at h
  · cases h
  split at h
  · cases h
  · cases h
  split at h
  · cases h
  split at h
  · cases h
  · cases h
  · cases h
    exact ⟨rfl, rfl⟩

/-- A valid record is one of the election, and of the service group. -/
theorem scope_of_readRecord {io : DiskIo} {file : StateFile} {record : StoredRecord}
    (h : scope.readRecord py io file = .ok (record, true)) :
    record.electionName = scope.electionName ∧ record.sgId = scope.sgId := by
  simp only [readRecord] at h
  split at h
  · cases h
  split at h
  · cases h
  · cases h
  · split at h
    · cases h
    · cases h
    · rename_i hrec
      cases h
      exact scope_of_recordOf hrec
  · cases h

end RecordScope

namespace FileServiceGroupLease
variable {py : Interpreter} (lease : FileServiceGroupLease)

/-- A lease reads back what it writes. -/
theorem readRecord_dumped {record : StoredRecord}
    (he : record.electionName = codePoints lease.electionName)
    (hs : record.sgId = some lease.sgId) :
    lease.keeper.readRecord py .ok (.dumped record) = .ok (record, true) := by
  have hknown : lease.keeper.Known := Or.inl ⟨codePoints lease.electionName, lease.sgId, rfl⟩
  rw [RecordScope.readRecord_dumped hknown rfl (by rw [hs]; rfl), if_pos ⟨he, hs, rfl⟩]

variable (io : DiskIo) (now : ℚ) (file : StateFile)

theorem namesCaller_dumped {record : StoredRecord}
    (he : record.electionName = codePoints lease.electionName) (hs : record.sgId = some lease.sgId)
    (ho : record.holderId = codePoints lease.ownerId) :
    lease.keeper.NamesCaller py record.expiresAt (.dumped record) :=
  ⟨record, lease.readRecord_dumped he hs, ho, rfl⟩

theorem not_namesCaller_missing (expiresAt : PyFloat) :
    ¬lease.keeper.NamesCaller py expiresAt .missing := by
  intro ⟨record, h, _⟩
  simp [RecordScope.readRecord] at h

/-- A failing replacement of the lease raises nothing, so the write of `try_acquire` raises only
where `os.open` does. -/
theorem writeAcquired_backed_iff (valid : Bool) (hv : valid = true → file ≠ .missing) :
    ((StateFile.writeAcquired recordClass io valid (lease.keeper.newRecord now) file).1 = false →
      lease.keeper.NamesCaller py (.finite (now+lease.ttlSeconds))
        (StateFile.writeAcquired recordClass io valid (lease.keeper.newRecord now) file).2) ↔
    io.replaceOk = true ∨ (valid = false ∧ RecordKeeper.CreationEnds io file) ∨
      lease.keeper.NamesCaller py (.finite (now+lease.ttlSeconds))
        (RecordKeeper.leftAtPath io file) := by
  have hnew : lease.keeper.NamesCaller py (.finite (now+lease.ttlSeconds))
      (.dumped (lease.keeper.newRecord now)) := lease.namesCaller_dumped rfl rfl rfl
  have hnone : ¬lease.keeper.NamesCaller py (.finite (now+lease.ttlSeconds)) .missing :=
    lease.not_namesCaller_missing _
  have hraises : recordClass.replaceRaises = false := rfl
  cases valid with
  | true =>
    -- what was read as a record is a file, and a failed replacement leaves it
    have hleft : RecordKeeper.leftAtPath io file = file := by
      cases file with
      | missing => exact absurd rfl (hv rfl)
      | _ => rfl
    cases hr : io.replaceOk <;>
      simp [StateFile.writeAcquired, StateFile.writeRecordReplace, hr, hraises, hleft, hnew]
  | false =>
    cases file with
    | missing =>
      -- the creation with `O_EXCL` may raise, or lose to a file that is then replaced
      cases hc : io.create <;> cases hr : io.replaceOk <;>
        simp [StateFile.writeAcquired, StateFile.writeRecordAtomic, StateFile.writeRecordReplace,
          RecordKeeper.CreationEnds, RecordKeeper.leftAtPath, hc, hr, hraises, hnew, hnone]
    | octets content =>
      cases hc : io.create <;> cases hr : io.replaceOk <;>
        simp [StateFile.writeAcquired, StateFile.writeRecordAtomic, StateFile.writeRecordReplace,
          RecordKeeper.CreationEnds, RecordKeeper.leftAtPath, hc, hr, hraises, hnew]
    | dumped record =>
      cases hc : io.create <;> cases hr : io.replaceOk <;>
        simp [StateFile.writeAcquired, StateFile.writeRecordAtomic, StateFile.writeRecordReplace,
          RecordKeeper.CreationEnds, RecordKeeper.leftAtPath, hc, hr, hraises, hnew]

/-- A valid record was read, so reading it again gives the same. -/
theorem readRecord_again {record : StoredRecord}
    (h : lease.keeper.readRecord py io file = .ok (record, true)) :
    file ≠ .missing ∧ lease.keeper.readRecord py .ok file = .ok (record, true) := by
  have hio : ¬(file = .missing ∨ io.readOk = false) := by
    intro hc
    simp [RecordScope.readRecord, hc] at h
  have hm : file ≠ .missing := fun hm => hio (Or.inl hm)
  refine ⟨hm, ?_⟩
  rw [RecordScope.readRecord, if_neg hio] at h
  rw [RecordScope.readRecord, if_neg (by simp [hm])]
  exact h

theorem acquire_backed_iff : lease.keeper.AnswerBacked py .acquire io now file ↔
    lease.keeper.AcquireLands py io now file := by
  cases hl : io.lockFree with
  -- a busy lock: nothing is granted and nothing is to be written
  | false => simp [RecordKeeper.AnswerBacked, RecordKeeper.AcquireLands, RecordKeeper.perform,
      RecordKeeper.tryAcquire, RecordKeeper.busyResult, hl]
  | true =>
    cases hr : lease.keeper.readRecord py io file with
    | error e => simp [RecordKeeper.AnswerBacked, RecordKeeper.AcquireLands, RecordKeeper.perform,
        RecordKeeper.tryAcquire, hl, hr]
    | ok read =>
      obtain ⟨record, valid⟩ := read
      cases hcond : valid && !record.isExpired now with
      | true =>
        -- a live record: it is the caller's own and stays as it is, or somebody else's and refuses
        obtain ⟨rfl, hx⟩ := Bool.and_eq_true_iff.mp hcond
        have hagain := lease.readRecord_again io file hr
        have hlands : lease.keeper.AcquireLands py io now file := by
          intro _ record' valid' hr' hx'
          rw [hr] at hr'
          cases hr'
          simp [hx' rfl] at hx
        have hbacked : lease.keeper.AnswerBacked py .acquire io now file := by
          intro result hresult hdone
          simp only [RecordKeeper.perform, RecordKeeper.tryAcquire, hl, hr, hcond, Bool.not_true,
            Bool.false_eq_true, if_false, if_true] at hresult ⊢
          split_ifs at hresult ⊢ with ho
          · cases hresult
            exact ⟨record, hagain.2, ho, rfl⟩
          · cases hresult
            cases hdone
        exact iff_of_true hbacked hlands
      | false =>
        -- the record is expired or was not read as one, so the caller writes its own
        have hx : valid = true → record.isExpired now = true := by
          intro hv
          simpa [hv] using hcond
        have hm : valid = true → file ≠ .missing := by
          intro hv
          subst hv
          exact (lease.readRecord_again io file hr).1
        have hlands : lease.keeper.AcquireLands py io now file ↔ io.replaceOk = true ∨
            (valid = false ∧ RecordKeeper.CreationEnds io file) ∨
            lease.keeper.NamesCaller py (.finite (now+lease.ttlSeconds))
              (RecordKeeper.leftAtPath io file) := by
          constructor
          · intro h
            exact h hl record valid hr hx
          · intro h _ record' valid' hr' _
            rw [hr] at hr'
            cases hr'
            exact h
        rw [hlands, ← lease.writeAcquired_backed_iff io now file valid hm]
        have hclass : lease.keeper.recordClass = recordClass := rfl
        rcases hw : StateFile.writeAcquired recordClass io valid (lease.keeper.newRecord now) file
          with ⟨raised, file'⟩
        cases raised <;>
          simp [RecordKeeper.AnswerBacked, RecordKeeper.perform, RecordKeeper.tryAcquire, hl, hr,
            hcond, hclass, hw]
        rfl

theorem renew_backed_iff : lease.keeper.AnswerBacked py .renew io now file ↔
    lease.keeper.RenewLands py io now file := by
  cases hl : io.lockFree with
  | false => simp [RecordKeeper.AnswerBacked, RecordKeeper.RenewLands, RecordKeeper.perform,
      RecordKeeper.renew, RecordKeeper.busyResult, hl]
  | true =>
    cases hr : lease.keeper.readRecord py io file with
    | error e => simp [RecordKeeper.AnswerBacked, RecordKeeper.RenewLands, RecordKeeper.perform,
        RecordKeeper.renew, hl, hr]
    | ok read =>
      obtain ⟨record, valid⟩ := read
      by_cases hown : valid = true ∧ record.isExpired now = false ∧
          record.holderId = lease.keeper.holderId
      · -- only an own live record is written again, with the new expiry
        obtain ⟨rfl, hx, ho⟩ := hown
        have hself := RecordScope.scope_of_readRecord hr
        have hnew : lease.keeper.NamesCaller py (.finite (now+lease.ttlSeconds))
            (.dumped { record with expiresAt := .finite (now+lease.ttlSeconds) }) :=
          lease.namesCaller_dumped hself.1 hself.2 ho
        have hraises : lease.keeper.recordClass.replaceRaises = false := rfl
        have httl : lease.keeper.ttlSeconds = lease.ttlSeconds := rfl
        cases hrep : io.replaceOk with
        | false => simp [RecordKeeper.AnswerBacked, RecordKeeper.RenewLands, RecordKeeper.perform,
            RecordKeeper.renew, StateFile.writeRecordReplace, hl, hr, hx, ho, hrep, hraises, httl]
        | true => simpa [RecordKeeper.AnswerBacked, RecordKeeper.RenewLands, RecordKeeper.perform,
            RecordKeeper.renew, StateFile.writeRecordReplace, hl, hr, hx, ho, hrep, httl] using hnew
      · -- anything else is refused without a write
        have hlands : lease.keeper.RenewLands py io now file := by
          intro _ record' hr' hx' ho'
          rw [hr] at hr'
          cases hr'
          exact absurd ⟨rfl, hx', ho'⟩ hown
        have hbacked : lease.keeper.AnswerBacked py .renew io now file := by
          intro result hresult hdone
          simp only [RecordKeeper.perform, RecordKeeper.renew, hl, hr, Bool.not_true,
            Bool.false_eq_true, if_false] at hresult
          split_ifs at hresult with hno ho
          · cases hresult
            cases hdone
          · cases hresult
            cases hdone
          · simp only [Bool.or_eq_true, Bool.not_eq_true', not_or, Bool.not_eq_false,
              Bool.not_eq_true] at hno
            exact absurd ⟨hno.1, hno.2, not_not.mp ho⟩ hown
        exact iff_of_true hbacked hlands

/-- What `try_acquire` and `renew` grant is on the disk exactly when their write, where they have
to write, goes through. -/
theorem positive_answer_backed_iff (py : Interpreter) (lease : FileServiceGroupLease) (io : DiskIo)
    (now : ℚ) (file : StateFile) :
    (lease.keeper.AnswerBacked py .acquire io now file ↔
      lease.keeper.AcquireLands py io now file) ∧
    (lease.keeper.AnswerBacked py .renew io now file ↔
      lease.keeper.RenewLands py io now file) :=
  ⟨lease.acquire_backed_iff io now file, lease.renew_backed_iff io now file⟩

def fullDisk : DiskIo := ⟨true, true, .removed, false, true⟩

/-- On a full disk the lease of a new record is granted, and there is no record. -/
theorem grant_without_record : ¬(FileServiceGroupLease.mk "state" "cmts" 1 "worker" 30 (by decide)
    (by decide) (by decide)).keeper.AnswerBacked ⟨⟨4300, 900⟩, fun _ => []⟩ .acquire fullDisk 0
    .missing := by
  rw [acquire_backed_iff]
  intro h
  have hvalid : false = true → StoredRecord.isExpired ⟨codePoints "cmts", some 1, [], .finite 0,
      .finite 0⟩ 0 = true := fun h => absurd h Bool.false_ne_true
  rcases h rfl _ false rfl hvalid with hr | hc | hn
  · cases hr
  · have hne : ¬RecordKeeper.CreationEnds fullDisk .missing := by
      simp [RecordKeeper.CreationEnds, fullDisk]
    exact hne hc.2
  · exact not_namesCaller_missing _ _ hn

end FileServiceGroupLease
end PypnmCmts
