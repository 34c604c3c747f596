import PypnmCmts.FileLeases
import PypnmCmts.JsonDumps

/-! The record files as the text that is in them: contenders that write `json.dumps` of their
records and read the octets back work as on the records themselves. -/
namespace PypnmCmts

open LabelledRun PyNumber PyJson

/-- How `json.dumps` writes without arguments. -/
def Interpreter.style (py : Interpreter) : JsonStyle :=
  ⟨none, fun x => py.textOf (.float (.finite x))⟩

/-- `float.__repr__` of this time is a text that `float` takes back to it. -/
def Interpreter.WritesTime (py : Interpreter) : PyFloat → Prop
  | .finite x => FloatText (py.style.floatRepr x) x
  | _ => True

namespace StoredRecord
variable (py : Interpreter) (recordClass : RecordClass) (record : StoredRecord)

/-- `json.dumps(record.model_dump()).encode("utf-8")`, of an object that has no other in it. -/
def encoded : List UInt8 := asciiOctets (py.style.dumpsText (.object (record.members recordClass)))

/-- The texts, the number and the times of a record are such as Python writes and reads back. -/
structure Readable : Prop where
  electionName : Text record.electionName
  holderId : Text record.holderId
  sgId : ∀ sgId ∈ record.sgId, Convertible py.limits (sgId : ℤ)
  acquiredAt : py.WritesTime record.acquiredAt
  expiresAt : py.WritesTime record.expiresAt

variable {py record}

theorem writable_time {x : PyFloat} (h : py.WritesTime x) (depth : ℕ) :
    Writable py.limits py.style depth (.float x) := by
  cases x with
  | finite x => exact h
  | _ => trivial

theorem Readable.writable (h : record.Readable py) :
    Writable py.limits py.style (py.limits.recursionLeft+1)
      (.object (record.members recordClass)) := by
  refine ⟨Nat.succ_pos _, ?_⟩
  rw [Nat.add_sub_cancel, members]
  cases hsg : record.sgId with
  | none =>
    exact ⟨text_codePoints _, h.electionName, text_codePoints _, h.holderId, text_codePoints _,
      writable_time h.acquiredAt _, text_codePoints _, writable_time h.expiresAt _, trivial⟩
  | some sgId =>
    exact ⟨text_codePoints _, h.electionName, text_codePoints _, h.sgId sgId hsg, text_codePoints _,
      h.holderId, text_codePoints _, writable_time h.acquiredAt _, text_codePoints _,
      writable_time h.expiresAt _, trivial⟩

end StoredRecord

namespace RecordScope
variable {py : Interpreter} (scope : RecordScope)

theorem decoded_encoded {record : StoredRecord} (h : record.Readable py) :
    scope.decoded py (.octets (record.encoded py scope.recordClass)) =
      scope.decoded py (.dumped record) := by
  have hnil : Blank [] := fun c hc => by cases hc
  obtain ⟨text, htext, hloads⟩ := loads_octets (h.writable scope.recordClass) hnil
  rw [List.append_nil] at htext
  simp only [decoded, StoredRecord.encoded, htext, hloads]

/-- What is read from the octets is the record. -/
theorem readRecord_encoded {record : StoredRecord} (h : record.Readable py) (io : DiskIo) :
    scope.readRecord py io (.octets (record.encoded py scope.recordClass)) =
      scope.readRecord py io (.dumped record) := by
  simp only [readRecord, scope.decoded_encoded h, reduceCtorEq, false_or]

end RecordScope

namespace StateFile

/-- The file as the file system has it. -/
def onDisk (py : Interpreter) (recordClass : RecordClass) : StateFile → StateFile
  | .dumped record => .octets (record.encoded py recordClass)
  | file => file

def Readable (py : Interpreter) : StateFile → Prop
  | .dumped record => record.Readable py
  | _ => True

variable (py : Interpreter) (recordClass : RecordClass) (file : StateFile)

theorem onDisk_onDisk : (file.onDisk py recordClass).onDisk py recordClass =
    file.onDisk py recordClass := by
  cases file <;> rfl

/-- The writes of `try_acquire` and `renew` on a file and on its octets. -/
theorem writeRecordReplace_onDisk (io : DiskIo) (record : StoredRecord) :
    (writeRecordReplace recordClass io record (file.onDisk py recordClass)).1 =
      (writeRecordReplace recordClass io record file).1 ∧
    ((writeRecordReplace recordClass io record (file.onDisk py recordClass)).2).onDisk
      py recordClass =
      ((writeRecordReplace recordClass io record file).2).onDisk py recordClass := by
  simp only [writeRecordReplace]
  split
  · exact ⟨rfl, rfl⟩
  · exact ⟨rfl, file.onDisk_onDisk py recordClass⟩

theorem writeAcquired_onDisk (io : DiskIo) (valid : Bool) (record : StoredRecord) :
    (writeAcquired recordClass io valid record (file.onDisk py recordClass)).1 =
      (writeAcquired recordClass io valid record file).1 ∧
    ((writeAcquired recordClass io valid record (file.onDisk py recordClass)).2).onDisk
      py recordClass =
      ((writeAcquired recordClass io valid record file).2).onDisk py recordClass := by
  cases valid with
  | true => exact file.writeRecordReplace_onDisk py recordClass io record
  | false =>
    cases file with
    | missing => exact ⟨rfl, rfl⟩
    | octets content => exact ⟨rfl, rfl⟩
    | dumped old =>
      by_cases hopen : io.create = .openFails
      · simp only [writeAcquired, Bool.false_eq_true, if_false, writeRecordAtomic_openFails hopen]
        exact ⟨trivial, onDisk_onDisk py recordClass (.dumped old)⟩
      · have hdisk : (StateFile.dumped old).onDisk py recordClass ≠ .missing :=
          StateFile.noConfusion
        have hold : StateFile.dumped old ≠ .missing := StateFile.noConfusion
        simp only [writeAcquired, Bool.false_eq_true, if_false,
          writeRecordAtomic_taken hopen _ hdisk, writeRecordAtomic_taken hopen _ hold]
        exact writeRecordReplace_onDisk py recordClass (.dumped old) io record

end StateFile

namespace RecordKeeper
variable {py : Interpreter} (keeper : RecordKeeper) {file : StateFile}

theorem readRecord_onDisk (h : file.Readable py) (io : DiskIo) :
    keeper.toRecordScope.readRecord py io (file.onDisk py keeper.recordClass) =
      keeper.toRecordScope.readRecord py io file := by
  cases file with
  | missing => rfl
  | octets content => rfl
  | dumped record => exact keeper.toRecordScope.readRecord_encoded h io

/-- On the octets an operation answers the same, and leaves the same behind. -/
theorem perform_onDisk (h : file.Readable py) (op : TtlLease.Op) (io : DiskIo) (now : ℚ) :
    (keeper.perform py op io now (file.onDisk py keeper.recordClass)).1 =
      (keeper.perform py op io now file).1 ∧
    ((keeper.perform py op io now
        (file.onDisk py keeper.recordClass)).2).onDisk py keeper.recordClass =
      ((keeper.perform py op io now file).2).onDisk py keeper.recordClass := by
  have hread := keeper.readRecord_onDisk h io
  have hsame := file.onDisk_onDisk py keeper.recordClass
  cases op with
  | acquire =>
    simp only [perform, tryAcquire, hread]
    split
    · exact ⟨rfl, hsame⟩
    split
    · exact ⟨rfl, hsame⟩
    · next record valid _ =>
      have hwrite := file.writeAcquired_onDisk py keeper.recordClass io valid
        (keeper.newRecord now)
      split
      · split
        · exact ⟨rfl, hsame⟩
        · exact ⟨rfl, hsame⟩
      · rcases hdisk : StateFile.writeAcquired keeper.recordClass io valid (keeper.newRecord now)
          (file.onDisk py keeper.recordClass) with ⟨raised, left⟩
        rcases hplain : StateFile.writeAcquired keeper.recordClass io valid (keeper.newRecord now)
          file with ⟨raised', left'⟩
        rw [hdisk, hplain] at hwrite
        obtain ⟨rfl, hleft⟩ := hwrite
        cases raised
        · exact ⟨rfl, hleft⟩
        · exact ⟨rfl, hleft⟩
  | renew =>
    simp only [perform, renew, hread]
    split
    · exact ⟨rfl, hsame⟩
    split
    · exact ⟨rfl, hsame⟩
    · next record valid _ =>
      split
      · exact ⟨rfl, hsame⟩
      split
      · exact ⟨rfl, hsame⟩
      · have hwrite := file.writeRecordReplace_onDisk py keeper.recordClass io
          { record with expiresAt := .finite (now+keeper.ttlSeconds) }
        rcases hdisk : StateFile.writeRecordReplace keeper.recordClass io
          { record with expiresAt := .finite (now+keeper.ttlSeconds) }
          (file.onDisk py keeper.recordClass) with ⟨raised, left⟩
        rcases hplain : StateFile.writeRecordReplace keeper.recordClass io
          { record with expiresAt := .finite (now+keeper.ttlSeconds) } file with ⟨raised', left'⟩
        rw [hdisk, hplain] at hwrite
        obtain ⟨rfl, hleft⟩ := hwrite
        cases raised
        · exact ⟨rfl, hleft⟩
        · exact ⟨rfl, hleft⟩
  | release =>
    simp only [perform, release, hread]
    split
    · exact ⟨rfl, hsame⟩
    split
    · exact ⟨rfl, hsame⟩
    · split
      · exact ⟨rfl, hsame⟩
      · split
        · exact ⟨rfl, hsame⟩
        · exact ⟨rfl, rfl⟩

/-- What an operation that succeeds in its writes leaves in a clean file. -/
theorem file_perform (py : Interpreter) (hknown : keeper.Known)
    (hclean : keeper.toRecordScope.Clean file)
    (op : TtlLease.Op) (now : ℚ) :
    (keeper.perform py op .ok now file).2 = file ∨
    (keeper.perform py op .ok now file).2 = .missing ∨
    (keeper.perform py op .ok now file).2 = .dumped (keeper.newRecord now) ∨
    ∃ record, file = .dumped record ∧ (keeper.perform py op .ok now file).2 =
      .dumped { record with expiresAt := .finite (now+keeper.ttlSeconds) } := by
  cases op with
  | acquire =>
    simp only [perform, tryAcquire, DiskIo.lockFree_ok, Bool.not_true, Bool.false_eq_true, if_false]
    split
    · exact Or.inl rfl
    · next record valid _ =>
      split
      · split <;> exact Or.inl rfl
      · refine Or.inr (Or.inr (Or.inl ?_))
        cases valid with
        | true => rfl
        | false => cases file <;> rfl
  | renew =>
    simp only [perform, renew, DiskIo.lockFree_ok, Bool.not_true, Bool.false_eq_true, if_false]
    cases file with
    | missing => exact Or.inl (by simp [RecordScope.readRecord_missing])
    | octets content => exact hclean.elim
    | dumped record =>
      have hread : keeper.toRecordScope.readRecord py .ok (.dumped record) = .ok (record, true) :=
        RecordScope.readRecord_own hknown hclean
      simp only [hread]
      split
      · exact Or.inl rfl
      split
      · exact Or.inl rfl
      · exact Or.inr (Or.inr (Or.inr ⟨record, rfl, rfl⟩))
  | release =>
    simp only [perform, release, DiskIo.lockFree_ok, Bool.not_true, Bool.false_eq_true, if_false]
    split
    · exact Or.inl rfl
    · split
      · exact Or.inl rfl
      · split
        · exact Or.inl rfl
        · exact Or.inr (Or.inl rfl)

end RecordKeeper

namespace LeaseContenders
open KeeperGroup
variable {ι : Type} (fleet : LeaseContenders ι)

/-- The file with its text in the place of its record. -/
def textOf (s : AtomicWorld ι) : AtomicWorld ι :=
  { s with file := s.file.onDisk fleet.py fleet.scope.recordClass }

/-- An operation on a file of text: what it writes is text at once. -/
def textStep (s : AtomicWorld ι) (c : AtomicCall ι) : AtomicWorld ι :=
  fleet.textOf (fleet.atomicStep s c)

/-- The file is one of the contenders, and Python writes it and reads it back. -/
def Legible (s : AtomicWorld ι) : Prop := fleet.scope.Clean s.file ∧ s.file.Readable fleet.py

/-- The lock is free, time goes on, nothing fails, and the times can be written. -/
def LegibleCall (s : AtomicWorld ι) (c : AtomicCall ι) : Prop :=
  AtomicGuard false s c ∧ fleet.py.WritesTime (.finite c.now) ∧
    fleet.py.WritesTime (.finite (c.now+(fleet.keeper c.who).ttlSeconds))

variable {fleet}

theorem textStep_textOf {s : AtomicWorld ι} (h : s.file.Readable fleet.py) (c : AtomicCall ι) :
    fleet.textStep (fleet.textOf s) c = fleet.textOf (fleet.atomicStep s c) := by
  have hclass : (fleet.keeper c.who).recordClass = fleet.scope.recordClass := by
    rw [fleet.keeper_scope]
  obtain ⟨hresult, hfile⟩ := (fleet.keeper c.who).perform_onDisk h c.op c.io c.now
  rw [hclass] at hresult hfile
  simp only [textStep, textOf, atomicStep, hresult, hfile]

theorem legible_step (hids : ∀ i, Text (fleet.holderId i))
    (hsg : ∀ sgId ∈ fleet.scope.sgId, Convertible fleet.py.limits (sgId : ℤ)) (s : AtomicWorld ι)
    (c : AtomicCall ι) (hc : fleet.LegibleCall s c) (h : fleet.Legible s) :
    fleet.Legible (fleet.atomicStep s c) := by
  obtain ⟨⟨-, -, hok⟩, hnow, hexpires⟩ := hc
  obtain ⟨hclean, hread⟩ := h
  have hio : c.io = .ok := hok.resolve_left (by simp)
  have hscope := fleet.keeper_scope c.who
  have hknown : (fleet.keeper c.who).Known := by
    rw [hscope]
    exact fleet.scope_known
  have haccepts : (fleet.keeper c.who).accepts (fleet.keeper c.who).holderId = true := by
    rw [hscope]
    exact fleet.accepts c.who
  have hcl : (fleet.keeper c.who).toRecordScope.Clean s.file := by
    rw [hscope]
    exact hclean
  have hname : Text (fleet.keeper c.who).electionName := by
    rw [(fleet.keeper c.who).electionName_eq]
    exact text_codePoints _
  refine ⟨?_, ?_⟩
  · have hop : (fleet.keeper c.who).Refines fleet.py c.op c.now s.file :=
      RecordKeeper.refines hknown haccepts c.op c.now hcl
    obtain ⟨result, file', hp, hclean', -⟩ := hop
    rw [atomicStep, hio, hp]
    rw [hscope] at hclean'
    exact hclean'
  · have hnew : ((fleet.keeper c.who).newRecord c.now).Readable fleet.py := by
      refine ⟨hname, hids c.who, ?_, hnow, hexpires⟩
      intro sgId hmem
      refine hsg sgId ?_
      rw [← hscope]
      exact hmem
    rw [atomicStep, hio]
    rcases (fleet.keeper c.who).file_perform fleet.py hknown hcl c.op c.now
      with hf | hf | hf | ⟨record, hrecord, hf⟩
    · simp only [hf]
      exact hread
    · simp only [hf]
      trivial
    · simp only [hf]
      exact hnew
    · rw [hrecord] at hread
      simp only [hf]
      exact ⟨hread.electionName, hread.holderId, hread.sgId, hread.acquiredAt, hexpires⟩

/-- Contenders that write their records as JSON, and read the octets of whatever they find, are told
the same in every run as if records were kept, and the file always holds the text of the record. -/
theorem records_survive_disk (hids : ∀ i, Text (fleet.holderId i))
    (hsg : ∀ sgId ∈ fleet.scope.sgId, Convertible fleet.py.limits (sgId : ℤ)) (clock : ℚ)
    (calls : List (AtomicCall ι))
    (hg : Guarded fleet.atomicStep fleet.LegibleCall ⟨.missing, clock, []⟩ calls) :
    exec fleet.textStep ⟨.missing, clock, []⟩ calls =
      fleet.textOf (exec fleet.atomicStep ⟨.missing, clock, []⟩ calls) := by
  have hlegible : fleet.Legible ⟨.missing, clock, []⟩ := ⟨trivial, trivial⟩
  have hmirror : ∀ s, fleet.Legible s → ∀ calls, Guarded fleet.atomicStep
      fleet.LegibleCall s calls →
      exec fleet.textStep (fleet.textOf s) calls =
        fleet.textOf (exec fleet.atomicStep s calls) := by
    intro s hs calls hg
    induction calls generalizing s with
    | nil => rfl
    | cons c calls ih =>
      rw [exec_cons, exec_cons, textStep_textOf hs.2]
      exact ih _ (legible_step hids hsg s c hg.1 hs) hg.2
  exact hmirror _ hlegible calls hg

/-- An interpreter that writes whole seconds. -/
def secondsInterpreter : Interpreter where
  limits := ⟨4300, 900⟩
  textOf
    | .float (.finite x) => intText x.num ++ codePoints ".0"
    | _ => []

theorem writesTime_seconds {x : ℚ} (n : ℕ) (hx : x = n) (h : n ∈ [0, 5, 10, 15, 20, 30]) :
    secondsInterpreter.WritesTime (.finite x) := by
  rw [hx]
  have hzero : Digits (codePoints "0") := ⟨by decide, by decide⟩
  have hwhole : ∀ n ∈ [0, 5, 10, 15, 20, 30],
      floatOfText (intText (n : ℕ) ++ codePoints ".0") = some (.finite n) ∧
        intText (n : ℕ) = (Nat.toDigits 10 n).map Char.toNat := by
    decide +kernel
  obtain ⟨hvalue, hdigits⟩ := hwhole n h
  refine ⟨⟨[], (Nat.toDigits 10 n).map Char.toNat, codePoints ".0", [], ?_, Or.inl rfl,
    whole_toDigits n, Or.inr ⟨codePoints "0", hzero, rfl⟩, Or.inl rfl, by decide⟩, ?_⟩
  · rw [List.append_nil, ← hdigits]
    rfl
  · exact hvalue

def writtenPair : LeaseContenders Bool :=
  { pairContenders with py := secondsInterpreter }

/-- An owner acquires and renews its lease, and loses it to the other when that has run out. -/
def writtenCalls : List (AtomicCall Bool) :=
  [⟨true, .acquire, .ok, 0, true⟩, ⟨true, .renew, .ok, 5, true⟩, ⟨false, .acquire, .ok, 20, true⟩]

theorem records_survive_disk_pair :
    exec writtenPair.textStep ⟨.missing, 0, []⟩ writtenCalls =
      writtenPair.textOf (exec writtenPair.atomicStep ⟨.missing, 0, []⟩ writtenCalls) := by
  have hids : ∀ i, Text (writtenPair.holderId i) := by
    intro i
    cases i
    · exact text_codePoints "a"
    · exact text_codePoints "b"
  have hsg : ∀ sgId ∈ writtenPair.scope.sgId, Convertible writtenPair.py.limits (sgId : ℤ) := by
    intro sgId h
    obtain rfl := Option.some.inj h
    exact Or.inr (by decide)
  have hguarded : Guarded writtenPair.atomicStep writtenPair.LegibleCall ⟨.missing, 0, []⟩
      writtenCalls := by
    refine ⟨⟨⟨by decide, rfl, Or.inr rfl⟩, ?_, ?_⟩, ⟨⟨by decide +kernel, rfl, Or.inr rfl⟩, ?_, ?_⟩,
      ⟨⟨by decide +kernel, rfl, Or.inr rfl⟩, ?_, ?_⟩, trivial⟩
    · exact writesTime_seconds 0 (by decide +kernel) (by decide)
    · exact writesTime_seconds 10 (by decide +kernel) (by decide)
    · exact writesTime_seconds 5 (by decide +kernel) (by decide)
    · exact writesTime_seconds 15 (by decide +kernel) (by decide)
    · exact writesTime_seconds 20 (by decide +kernel) (by decide)
    · exact writesTime_seconds 30 (by decide +kernel) (by decide)
  exact writtenPair.records_survive_disk hids hsg 0 writtenCalls hguarded

end LeaseContenders
end PypnmCmts
