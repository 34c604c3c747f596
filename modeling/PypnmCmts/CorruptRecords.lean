import PypnmCmts.RecordDisk

/-! What a record file can do to the contenders for it: which contents raise out of their
operations, and which ones can never be acquired over. -/
namespace PypnmCmts
open PyNumber PyJson

namespace RecordScope
variable (py : Interpreter) (scope : RecordScope) (file : StateFile)

/-- No operation of any contender raises while it reads the file. -/
def NeverRaises : Prop :=
  ∀ keeper : RecordKeeper, keeper.toRecordScope = scope → ∀ op io now e,
    (keeper.perform py op io now file).1 ≠ .error (.reading e)

/-- From some time on every contender acquires, as long as nothing fails. -/
def InTheEndAcquired : Prop :=
  ∃ time : ℚ, ∀ keeper : RecordKeeper, keeper.toRecordScope = scope → ∀ now, time ≤ now →
    ∃ result, (keeper.tryAcquire py .ok now file).1 = .ok result ∧ result.done = true

/-- The times convert to numbers, or fail to with one of the two exceptions that are caught, and
the time of expiry is one that comes. -/
def TimesHarmless (members : List (PyStr × Json)) : Prop :=
  timeOf members "acquired_at" ≠ .error .overflow ∧
    ∀ acquiredAt, timeOf members "acquired_at" = .ok acquiredAt →
      timeOf members "expires_at" ≠ .error .overflow ∧
      timeOf members "expires_at" ≠ .ok .nan ∧ timeOf members "expires_at" ≠ .ok .posInf

/-- An object of this election has no infinite service group, and harmless times if it is a
record of this service group and of an acceptable holder. -/
def FieldsHarmless (members : List (PyStr × Json)) : Prop :=
  nameOf py members = scope.electionName →
    (scope.sgId ≠ none → sgIdOf py members ≠ .error .overflow) ∧
    (scope.ownSgId py members = .ok true →
      (∀ validator ∈ scope.leaderIdValidator, validator (scope.holderOf py members) = true) →
      TimesHarmless members)

/-- The content is UTF-8, and the decoder accepts it or raises nothing but its own error. -/
def ContentHarmless : Prop :=
  match scope.decoded py file with
  | .error e => e = .jsonDecode
  | .ok (.object members) => scope.FieldsHarmless py members
  | .ok _ => True

/-- What the file reads as: no record, or one that expires. -/
def ReadsHarmless : Prop :=
  ∃ record valid, scope.readRecord py .ok file = .ok (record, valid) ∧
    (valid = true → record.expiresAt ≠ .nan ∧ record.expiresAt ≠ .posInf)

variable {py scope file}

theorem toInt_error {limits : Limits} {value : Json} {e : Raised}
    (h : value.toInt limits = .error e) : e = .typeError ∨ e = .conversion ∨ e = .overflow := by
  fun_cases Json.toInt limits value <;> simp_all [Json.toInt]

theorem toFloat_error {value : Json} {e : Raised} (h : value.toFloat = .error e) :
    e = .typeError ∨ e = .conversion ∨ e = .overflow := by
  fun_cases Json.toFloat value <;> simp_all [Json.toFloat]

theorem ownSgId_error {members : List (PyStr × Json)} {e : Raised} :
    scope.ownSgId py members = .error e ↔
      (scope.sgId ≠ none ∧ sgIdOf py members = .error .overflow) ∧ e = .overflow := by
  cases hs : scope.sgId with
  | none => simp [ownSgId, hs]
  | some sgId =>
    cases hn : sgIdOf py members with
    | ok n => simp [ownSgId, hs, hn, caught]
    | error e' =>
      rcases toInt_error hn with rfl | rfl | rfl <;> simp [ownSgId, hs, hn, caught, eq_comm]

theorem timesHarmless_iff {members : List (PyStr × Json)} :
    TimesHarmless members ↔ ∃ found, timesOf members = .ok found ∧
      ∀ times ∈ found, times.2 ≠ .nan ∧ times.2 ≠ .posInf := by
  have timeOf_cases (key : String) : (∃ x, timeOf members key = .ok x) ∨
      timeOf members key = .error .typeError ∨ timeOf members key = .error .conversion ∨
      timeOf members key = .error .overflow := by
    cases ht : timeOf members key with
    | ok x => exact Or.inl ⟨x, rfl⟩
    | error e => simpa using toFloat_error ht
  rcases timeOf_cases "acquired_at" with ⟨acquiredAt, ha⟩ | ha | ha | ha
  · rcases timeOf_cases "expires_at" with ⟨expiresAt, hx⟩ | hx | hx | hx <;>
      simp [TimesHarmless, timesOf, caught, ha, hx]
  all_goals simp [TimesHarmless, timesOf, caught, ha]

theorem fieldsHarmless_iff {members : List (PyStr × Json)} :
    scope.FieldsHarmless py members ↔ ∃ found, scope.recordOf py members = .ok found ∧
      ∀ record ∈ found, record.expiresAt ≠ .nan ∧ record.expiresAt ≠ .posInf := by
  by_cases hname : nameOf py members = scope.electionName
  -- a record of another election is not looked at any further
  swap
  · simp [FieldsHarmless, recordOf, hname]
  cases hown : scope.ownSgId py members with
  | error e =>
    obtain ⟨⟨hs, hn⟩, rfl⟩ := ownSgId_error.mp hown
    simp [FieldsHarmless, recordOf, hname, hown, hs, hn]
  | ok own =>
    have hsg : scope.sgId ≠ none → sgIdOf py members ≠ .error .overflow := by
      intro hs hn
      have := ownSgId_error.mpr ⟨⟨hs, hn⟩, rfl⟩
      rw [hown] at this
      cases this
    cases own with
    | false => simpa [FieldsHarmless, recordOf, hname, hown] using hsg
    | true =>
      cases hv : scope.leaderIdValidator.any fun validator =>
          !validator (scope.holderOf py members) with
      | true =>
        -- a refused holder id makes the record no record before its times are read
        obtain ⟨validator, hmem, hrefused⟩ := (Option.any_eq_true _ _).mp hv
        have hfields : scope.FieldsHarmless py members := by
          intro _
          refine ⟨hsg, fun _ haccepted => ?_⟩
          simp [haccepted validator hmem] at hrefused
        simp [hfields, recordOf, hname, hown, hv]
      | false =>
        have hv' : ∀ validator ∈ scope.leaderIdValidator,
            validator (scope.holderOf py members) = true := by
          simpa [Option.any_eq_false] using hv
        have hfields : scope.FieldsHarmless py members ↔ TimesHarmless members :=
          ⟨fun h => (h hname).2 hown hv', fun h _ => ⟨hsg, fun _ _ => h⟩⟩
        rw [hfields, timesHarmless_iff]
        cases ht : timesOf members with
        | error e => simp [recordOf, hname, hown, hv, ht]
        | ok found =>
          cases found with
          | none => simp [recordOf, hname, hown, hv, ht]
          | some times =>
            obtain ⟨acquiredAt, expiresAt⟩ := times
            simp [recordOf, hname, hown, hv, ht]

theorem contentHarmless_iff : scope.ContentHarmless py file ↔ scope.ReadsHarmless py file := by
  by_cases hm : file = .missing
  · subst hm
    simp [ContentHarmless, ReadsHarmless, readRecord, decoded]
  cases hd : scope.decoded py file with
  | error e =>
    by_cases he : e = .jsonDecode
    · subst he
      simp [ContentHarmless, ReadsHarmless, readRecord, hm, hd, DiskIo.ok]
    · simp [ContentHarmless, ReadsHarmless, readRecord, hm, hd, DiskIo.ok, he]
  | ok value =>
    cases value with
    | object members =>
      have hcontent : scope.ContentHarmless py file ↔ scope.FieldsHarmless py members := by
        simp only [ContentHarmless, hd]
      rw [hcontent, fieldsHarmless_iff]
      cases hr : scope.recordOf py members with
      | error e => simp [ReadsHarmless, readRecord, hm, hd, hr, DiskIo.ok]
      | ok found => cases found <;> simp [ReadsHarmless, readRecord, hm, hd, hr, DiskIo.ok]
    | _ => simp [ContentHarmless, ReadsHarmless, readRecord, hm, hd, DiskIo.ok]

theorem readRecord_of_ok {io : DiskIo} {e : Raised} (h : scope.readRecord py io file = .error e) :
    scope.readRecord py .ok file = .error e := by
  have hio : ¬(file = .missing ∨ io.readOk = false) := by
    intro hc
    simp only [readRecord, hc, if_true, reduceCtorEq] at h
  have hok : ¬(file = .missing ∨ DiskIo.ok.readOk = false) := fun hc =>
    hio (Or.inl (hc.resolve_right (by decide)))
  rw [readRecord, if_neg hio] at h
  rw [readRecord, if_neg hok]
  exact h

end RecordScope

namespace RecordKeeper
variable (py : Interpreter) (keeper : RecordKeeper) (io : DiskIo) (now : ℚ) (file : StateFile)

/-- Nothing but the reading of the record raises what was raised in it. -/
theorem readRecord_of_raises (op : TtlLease.Op) (e : Raised)
    (h : (keeper.perform py op io now file).1 = .error (.reading e)) :
    keeper.readRecord py io file = .error e := by
  cases hr : keeper.readRecord py io file with
  | error e' =>
    have he : (keeper.perform py op io now file).1 = .error (.reading e') ∨
        (keeper.perform py op io now file).1 = .ok keeper.busyResult := by
      cases hl : io.lockFree <;> cases op <;> simp [perform, tryAcquire, renew, release, hl, hr]
    rcases he with he | he
    · rw [he] at h
      cases h
      rfl
    · rw [he] at h
      cases h
  | ok read =>
    cases op with
    | acquire =>
      simp only [perform, tryAcquire, hr] at h
      split_ifs at h
      split at h <;> cases h
    | renew =>
      simp only [perform, renew, hr] at h
      split_ifs at h
      split at h <;> cases h
    | release =>
      simp only [perform, release, hr] at h
      split_ifs at h

theorem tryAcquire_raises (e : Raised) (h : keeper.readRecord py .ok file = .error e) :
    (keeper.tryAcquire py .ok now file).1 = .error (.reading e) := by
  simp [tryAcquire, h]

theorem tryAcquire_free (record : StoredRecord) (valid : Bool)
    (h : keeper.readRecord py .ok file = .ok (record, valid))
    (hx : valid = true → record.isExpired now = true) :
    ∃ result, (keeper.tryAcquire py .ok now file).1 = .ok result ∧ result.done = true := by
  have hwrite : StateFile.writeAcquired keeper.recordClass .ok valid (keeper.newRecord now) file =
      (false, .dumped (keeper.newRecord now)) := by
    cases valid <;> cases file <;>
      simp [StateFile.writeAcquired, StateFile.writeRecordAtomic, StateFile.writeRecordReplace]
  have hcond : (valid && !record.isExpired now) = false := by
    cases valid with
    | false => rfl
    | true => simp [hx rfl]
  simp [tryAcquire, h, hcond, hwrite]

/-- A contender that is not the holder gets nothing as long as the record has not expired. -/
theorem tryAcquire_held (record : StoredRecord)
    (h : keeper.readRecord py .ok file = .ok (record, true)) (hx : record.isExpired now = false)
    (hne : record.holderId ≠ keeper.holderId) :
    ∃ result, (keeper.tryAcquire py .ok now file).1 = .ok result ∧ result.done = false := by
  simp [tryAcquire, h, hx, hne]

/-- Some contender is not the holder of a record. -/
def other (scope : RecordScope) (holderId : PyStr) : RecordKeeper where
  toRecordScope := scope
  holderId := 0x61 :: holderId
  ttlSeconds := 1
  holderId_nonempty := List.cons_ne_nil _ _
  ttlSeconds_pos := le_rfl

end RecordKeeper

namespace RecordScope
variable {py : Interpreter} {scope : RecordScope} {file : StateFile}

theorem neverRaises_iff : scope.NeverRaises py file ↔
    ∃ record valid, scope.readRecord py .ok file = .ok (record, valid) := by
  constructor
  · intro h
    cases hr : scope.readRecord py .ok file with
    | error e =>
      have := h (.other scope []) rfl .acquire .ok 0 e
      exact absurd ((RecordKeeper.other scope []).tryAcquire_raises py 0 file e hr) this
    | ok read => exact ⟨read.1, read.2, rfl⟩
  · rintro ⟨record, valid, hr⟩ keeper rfl op io now e he
    have hread := keeper.readRecord_of_raises py io now file op e he
    rw [readRecord_of_ok hread] at hr
    cases hr

/-- Where a record is read, the lock can be acquired in the end unless it never expires. -/
theorem inTheEndAcquired_iff (record : StoredRecord) (valid : Bool)
    (hr : scope.readRecord py .ok file = .ok (record, valid)) :
    scope.InTheEndAcquired py file ↔
      (valid = true → record.expiresAt ≠ .nan ∧ record.expiresAt ≠ .posInf) := by
  constructor
  · intro ⟨time, h⟩ hv
    subst hv
    obtain ⟨result, hresult, hdone⟩ := h (.other scope record.holderId) rfl time le_rfl
    -- a record that is live at the promised time refuses a keeper other than its holder
    have hblocked (hx : record.isExpired time = false) : False := by
      obtain ⟨result', hresult', hdone'⟩ :=
        (RecordKeeper.other scope record.holderId).tryAcquire_held
        py time file record hr hx (List.ne_cons_self)
      rw [hresult] at hresult'
      cases hresult'
      rw [hdone] at hdone'
      cases hdone'
    constructor
    · intro hx
      exact hblocked (by rw [StoredRecord.isExpired, hx]; rfl)
    · intro hx
      exact hblocked (by rw [StoredRecord.isExpired, hx]; rfl)
  · intro h
    cases valid with
    | false =>
      refine ⟨0, ?_⟩
      rintro keeper rfl now -
      exact keeper.tryAcquire_free py now file record false hr (by simp)
    | true =>
      -- from its expiry on the record is free for everyone
      obtain ⟨time, htime⟩ := record.expiresAt.leRat_in_the_end (h rfl).1 (h rfl).2
      refine ⟨time, ?_⟩
      rintro keeper rfl now hnow
      exact keeper.tryAcquire_free py now file record true hr fun _ => htime now hnow

theorem harmless_iff : scope.NeverRaises py file ∧ scope.InTheEndAcquired py file ↔
    scope.ContentHarmless py file := by
  rw [contentHarmless_iff, neverRaises_iff]
  constructor
  · rintro ⟨⟨record, valid, hr⟩, hfree⟩
    exact ⟨record, valid, hr, (inTheEndAcquired_iff record valid hr).mp hfree⟩
  · rintro ⟨record, valid, hr, hx⟩
    exact ⟨⟨record, valid, hr⟩, (inTheEndAcquired_iff record valid hr).mpr hx⟩

end RecordScope

/-- A lease file and a leader file are as good as no record, or as one that expires, exactly when
their content is harmless. -/
theorem corrupt_record_as_missing_iff (py : Interpreter) (electionName : PyStr)
    (sgId : ServiceGroupId) (validator : Option (PyStr → Bool)) (file : StateFile) :
    ((FileServiceGroupLease.recordScope electionName sgId).NeverRaises py file ∧
        (FileServiceGroupLease.recordScope electionName sgId).InTheEndAcquired py file ↔
      (FileServiceGroupLease.recordScope electionName sgId).ContentHarmless py file) ∧
    ((FileLeaderElection.recordScope electionName validator).NeverRaises py file ∧
        (FileLeaderElection.recordScope electionName validator).InTheEndAcquired py file ↔
      (FileLeaderElection.recordScope electionName validator).ContentHarmless py file) :=
  ⟨RecordScope.harmless_iff, RecordScope.harmless_iff⟩

def asciiFile (text : String) : StateFile := .octets ((codePoints text).map UInt8.ofNat)

/-- One octet that is no UTF-8 raises out of the lease, and a record that expires at `NaN` is
never acquired over. -/
theorem corrupt_record_raises_or_blocks :
    ¬(FileServiceGroupLease.recordScope (codePoints "cmts") 1).NeverRaises plainInterpreter
        (.octets [0xFF]) ∧
    ¬(FileServiceGroupLease.recordScope (codePoints "cmts") 1).InTheEndAcquired plainInterpreter
        (asciiFile "\x7b\"election_name\": \"cmts\", \"sg_id\": 1, \"expires_at\": NaN\x7d") := by
  constructor
  · rw [RecordScope.neverRaises_iff]
    rintro ⟨record, valid, h⟩
    have hread : (FileServiceGroupLease.recordScope (codePoints "cmts") 1).readRecord
        plainInterpreter .ok (.octets [0xFF]) = .error .unicodeDecode := by decide +kernel
    rw [hread] at h
    cases h
  · rw [RecordScope.inTheEndAcquired_iff ⟨codePoints "cmts", some 1, [], .finite 0, .nan⟩ true
      (by decide +kernel)]
    intro h
    exact (h rfl).1 rfl

end PypnmCmts
