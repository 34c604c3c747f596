import PypnmCmts.ExclusiveSections
import PypnmCmts.KeeperPrograms

/-! The elections and leases on their files, call by call, with failing calls, crashes and stale
locks. The lock directory makes each operation one step on the record file. -/
namespace PypnmCmts

open LabelledRun CallTree PyNumber PyJson

/-- The contenders for one record: processes with objects of one election, or of one lease. Their
working directory is where a relative state directory begins. -/
structure KeeperGroup (ι : Type) where
  py : Interpreter
  cwd : PosixPath.Place
  stateDir : PosixPath
  object : CoordinationObject
  keeper : ι → PathKeeper
  keeper_object : ∀ i, (keeper i).object = object

/-- The file system does what it is asked. -/
def FileAnswer.Sound (e : FileAnswer) : Prop := e.fails = false ∧ e.create = .written

namespace KeeperGroup
variable {ι : Type} (group : KeeperGroup ι)

def statePath : PosixPath.Place := (group.object.stateFile group.stateDir).resolve group.cwd

def lockDir : PosixPath.Place := (group.object.lockPath group.stateDir).resolve group.cwd

def temporary : PosixPath.Place := (group.object.temporaryPath group.stateDir).resolve group.cwd

theorem statePath_ne_lockDir : group.statePath ≠ group.lockDir :=
  group.object.stateFile_ne_lockPath group.cwd group.stateDir group.object

theorem statePath_ne_temporary : group.statePath ≠ group.temporary :=
  group.object.stateFile_ne_temporaryPath group.cwd group.stateDir group.object

theorem lockDir_ne_temporary : group.lockDir ≠ group.temporary :=
  group.object.lockPath_ne_temporaryPath group.cwd group.stateDir group.object

/-- All contenders work on the same three files. -/
theorem resolve_stateFile (i : ι) :
    ((group.keeper i).object.stateFile group.stateDir).resolve group.cwd = group.statePath := by
  rw [group.keeper_object, statePath]

theorem resolve_lockPath (i : ι) :
    ((group.keeper i).object.lockPath group.stateDir).resolve group.cwd = group.lockDir := by
  rw [group.keeper_object, lockDir]

theorem resolve_temporaryPath (i : ι) :
    ((group.keeper i).object.temporaryPath group.stateDir).resolve group.cwd = group.temporary := by
  rw [group.keeper_object, temporary]

/-- The contenders as parties: they are inside from the `mkdir` of the lock directory on. -/
def sections : ExclusiveSections FileCall FileCall.Reply (PosixPath.Place → FileNode)
    FileAnswer ℚ Unit
    KeeperEnd ι KeeperOp where
  handle := StateDirectory.handle group.cwd
  time := FileAnswer.now
  enters c reply :=
    match c, reply with
    | .mkdir path, .made => path.resolve group.cwd = group.lockDir
    | _, _ => false
  breaks c :=
    match c with
    | .rmdir path => path.resolve group.cwd = group.lockDir
    | _ => false
  ops i op := (group.keeper i).operation group.py group.stateDir op
  stopped := ((), .status (.error .typeError))

/-- The operation of a contender on the record file as one step, with all that may fail in it. -/
def Step (faults : Bool) (i : ι) (op : TtlLease.Op) (io : DiskIo) (t began now : ℚ)
    (file : StateFile) (result : Except Escaped StoredResult) (file' : StateFile) : Prop :=
  began ≤ t ∧ t ≤ now ∧ io.lockFree = true ∧ (faults = true ∨ io = .ok) ∧
    (group.keeper i).perform group.py op io t file = (result, file')

/-- A section does one step, and a section cut off has done its step or nothing. -/
def spec (faults : Bool) : ExclusiveSections.Spec (PosixPath.Place → FileNode) ℚ KeeperEnd ι
    StateFile where
  free file s := s group.statePath = .state file ∧ ∃ old, s group.temporary = .state old
  locked s := ∃ mtime, s group.lockDir = .directory mtime
  did i a began file now file' := ∃ op io t result, a = .locked result ∧
    group.Step faults i op io t began now file result file'
  torn i began file now file' := file' = file ∨
    ∃ op io t result, group.Step faults i op io t began now file result file'

def Answers (faults : Bool) (e : FileAnswer) : Prop := faults = true ∨ e.Sound

/-- A contender inside, on its way from `file`. -/
def Within (faults : Bool) (i : ι) (began : ℚ) (file : StateFile) (now : ℚ) (t : FileProgram)
    (s : PosixPath.Place → FileNode) : Prop :=
  group.sections.Inside (Answers faults) (group.spec faults) i began file now t s

/-- The lock is there, and the record file shows `file`. -/
def Shown (file : StateFile) (s : PosixPath.Place → FileNode) : Prop :=
  (∃ mtime, s group.lockDir = .directory mtime) ∧ s group.statePath = .state file ∧
    ∃ old, s group.temporary = .state old

variable {group} {faults : Bool} {i : ι} {began now : ℚ} {file current : StateFile}
  {s : PosixPath.Place → FileNode}

/-- What the contender has done by now is the whole of a step, or nothing. -/
def Torn (group : KeeperGroup ι) (faults : Bool) (i : ι) (began : ℚ) (file : StateFile) (now : ℚ)
    (current : StateFile) : Prop :=
  (group.spec faults).torn i began file now current

theorem torn_of_step {op : TtlLease.Op} {io : DiskIo} {t : ℚ} {result : Except Escaped StoredResult}
    (h : group.Step faults i op io t began now file result current) :
    group.Torn faults i began file now current :=
  Or.inr ⟨op, io, t, result, h⟩

theorem Step.later {op : TtlLease.Op} {io : DiskIo} {t now' : ℚ}
    {result : Except Escaped StoredResult} (hle : now ≤ now')
    (h : group.Step faults i op io t began now file result current) :
    group.Step faults i op io t began now' file result current :=
  ⟨h.1, h.2.1.trans hle, h.2.2⟩

theorem Torn.later {now' : ℚ} (hle : now ≤ now') (h : group.Torn faults i began file now current) :
    group.Torn faults i began file now' current := by
  refine h.imp id ?_
  intro ⟨op, io, t, result, hstep⟩
  exact ⟨op, io, t, result, hstep.later hle⟩

theorem shown_update_lock (mtime : ℚ) (h : (group.spec faults).free file s) :
    group.Shown file (Function.update s group.lockDir (.directory mtime)) := by
  obtain ⟨hstate, old, htmp⟩ := h
  refine ⟨⟨mtime, Function.update_self _ _ _⟩, ?_, old, ?_⟩
  · rw [Function.update_of_ne group.statePath_ne_lockDir]
    exact hstate
  · rw [Function.update_of_ne group.lockDir_ne_temporary.symm]
    exact htmp

/-- Another content of the record file. -/
theorem shown_update_state (new : StateFile) (h : group.Shown file s) :
    group.Shown new (Function.update s group.statePath (.state new)) := by
  obtain ⟨⟨mtime, hlock⟩, -, old, htmp⟩ := h
  refine ⟨⟨mtime, ?_⟩, Function.update_self _ _ _, old, ?_⟩
  · rw [Function.update_of_ne group.statePath_ne_lockDir.symm]
    exact hlock
  · rw [Function.update_of_ne group.statePath_ne_temporary.symm]
    exact htmp

/-- Another content of the temporary file. -/
theorem shown_update_temporary (new : StateFile) (h : group.Shown file s) :
    group.Shown file (Function.update s group.temporary (.state new)) := by
  obtain ⟨⟨mtime, hlock⟩, hstate, -⟩ := h
  refine ⟨⟨mtime, ?_⟩, ?_, new, Function.update_self _ _ _⟩
  · rw [Function.update_of_ne group.lockDir_ne_temporary]
    exact hlock
  · rw [Function.update_of_ne group.statePath_ne_temporary]
    exact hstate

/-- The `finally` of an operation whose step is done. -/
theorem within_releaseLock (h : group.Shown current s) {op : TtlLease.Op}
    {io : DiskIo} {t : ℚ} {result : Except Escaped StoredResult}
    (hstep : group.Step faults i op io t began now file result current) :
    group.Within faults i began file now
      ((group.keeper i).releaseLock group.stateDir result) s := by
  refine ⟨⟨h.1, current, h.2, torn_of_step hstep⟩, ?_⟩
  intro e _ hle
  refine ⟨current, ?_, op, io, t, result, rfl, hstep.later hle⟩
  obtain ⟨⟨mtime, hlock⟩, hstate, old, htmp⟩ := h
  simp only [spec, sections, StateDirectory.handle, StateDirectory.act, group.resolve_lockPath i,
    Function.update_of_ne group.statePath_ne_lockDir,
    Function.update_of_ne group.lockDir_ne_temporary.symm]
  exact ⟨hstate, old, htmp⟩

theorem within_call {c : FileCall} {next : c.Reply → FileProgram} (h : group.Shown current s)
    (htorn : group.Torn faults i began file now current)
    (hnext : ∀ e, Answers faults e → now ≤ e.now →
      group.Within faults i began file e.now (next (StateDirectory.handle group.cwd e c s).1)
        (StateDirectory.handle group.cwd e c s).2) :
    group.Within faults i began file now (.call () c next) s :=
  ⟨⟨h.1, current, h.2, htorn⟩, hnext⟩

theorem update_shown (h : group.Shown current s) :
    Function.update s group.statePath (.state current) = s := by
  rw [← h.2.1, Function.update_eq_self]

/-- Reading goes on with what the file holds, or without a record where it fails. -/
theorem within_readRecord {next : Except Raised (StoredRecord × Bool) → FileProgram}
    (h : group.Shown file s)
    (hnext : ∀ readOk now', now ≤ now' → (faults = true ∨ readOk = true) →
      group.Within faults i began file now'
        (next ((group.keeper i).toRecordScope.readRecord group.py
          { DiskIo.ok with readOk := readOk } file)) s) :
    group.Within faults i began file now
      (PathKeeper.readRecord group.py group.stateDir (group.keeper i) next) s := by
  have hsame := update_shown h
  have hnode : s group.statePath = .state file := h.2.1
  rw [PathKeeper.readRecord]
  refine within_call h (Or.inl rfl) fun e _ hle => ?_
  simp only [StateDirectory.handle, group.resolve_stateFile i, StateDirectory.act, hnode]
  by_cases hmissing : file = .missing
  · subst hmissing
    simp only [StateDirectory.existsNode, Bool.not_false, if_true, hsame]
    exact hnext true e.now hle (Or.inr rfl)
  · have hexists : StateDirectory.existsNode (.state file) = (true, .state file) := by
      cases file with
      | missing => exact absurd rfl hmissing
      | octets content => rfl
      | dumped record => rfl
    simp only [hexists, Bool.not_true, Bool.false_eq_true, if_false, hsame]
    refine within_call h (Or.inl rfl) fun e' hok hle' => ?_
    have hread : StateDirectory.readNode e' (.state file) =
        (if e'.fails then none else some file, .state file) := by
      cases file with
      | missing => exact absurd rfl hmissing
      | octets content => rfl
      | dumped record => rfl
    simp only [StateDirectory.handle, group.resolve_stateFile i, StateDirectory.act, hnode, hread,
      hsame]
    cases hfails : e'.fails with
    | false => exact hnext true e'.now (hle.trans hle') (Or.inr rfl)
    | true =>
      have hfaults : faults = true := hok.resolve_right fun hsound =>
        by simp [FileAnswer.Sound, hfails] at hsound
      have hnone := hnext false e'.now (hle.trans hle') (Or.inl hfaults)
      simpa [RecordScope.readRecord] using hnone

/-- The temporary file is written and moved, or the record file stays as it is. -/
theorem within_writeRecordReplace {record : StoredRecord} {next : Bool → FileProgram}
    (h : group.Shown current s) (htorn : group.Torn faults i began file now current)
    (hdone : ∀ s' now', now ≤ now' → group.Shown (.dumped record) s' →
      group.Within faults i began file now' (next false) s')
    (hfailed : faults = true → ∀ s' now', now ≤ now' → group.Shown current s' →
      group.Within faults i began file now' (next (group.keeper i).recordClass.replaceRaises) s') :
    group.Within faults i began file now
      ((group.keeper i).writeRecordReplace group.stateDir record next) s := by
  rw [PathKeeper.writeRecordReplace]
  refine within_call h htorn fun e hok hle => ?_
  obtain ⟨old, hold⟩ := h.2.2
  simp only [StateDirectory.handle, group.resolve_temporaryPath i, StateDirectory.act, hold,
    StateDirectory.writeNode]
  have hfaults (hfails : e.fails = true) : faults = true :=
    hok.resolve_right fun hsound => by simp [FileAnswer.Sound, hfails] at hsound
  cases hfails : e.fails with
  | true =>
    simp only [if_true, Bool.not_false]
    exact hfailed (hfaults hfails) _ e.now hle (shown_update_temporary _ h)
  | false =>
    simp only [Bool.false_eq_true, if_false, Bool.not_true]
    have hwritten := shown_update_temporary (.dumped record) h
    refine within_call hwritten (htorn.later hle) fun e' hok' hle' => ?_
    have htmp : Function.update s group.temporary (.state (.dumped record)) group.temporary =
        .state (.dumped record) := Function.update_self _ _ _
    simp only [StateDirectory.handle, group.resolve_stateFile i, group.resolve_temporaryPath i,
      StateDirectory.replaceNodes, htmp, hwritten.2.1]
    cases hfails' : e'.fails with
    | true =>
      simp only [if_true, Bool.not_false]
      have hfaults : faults = true := hok'.resolve_right fun hsound =>
        by simp [FileAnswer.Sound, hfails'] at hsound
      exact hfailed hfaults _ e'.now (hle.trans hle') hwritten
    | false =>
      simp only [Bool.false_eq_true, if_false, Bool.not_true]
      exact hdone _ e'.now (hle.trans hle')
        (shown_update_state _ (shown_update_temporary _ hwritten))

/-- The write of `try_acquire`, as the file system answers `create` and `replaceOk`. -/
def acquiredFile (group : KeeperGroup ι) (i : ι) (valid : Bool) (record : StoredRecord)
    (file : StateFile) (create : CreateEnd) (replaceOk : Bool) : Bool × StateFile :=
  StateFile.writeAcquired (group.keeper i).recordClass
    { DiskIo.ok with create := create, replaceOk := replaceOk } valid record file

/-- The end of an operation that has written, by whether the write raised. -/
def afterWrite (result : StoredResult) (written : Bool × StateFile) :
    Except Escaped StoredResult × StateFile :=
  (if written.1 then .error .writing else .ok result, written.2)

theorem within_writeAcquired {valid : Bool} {record : StoredRecord} {next : Bool → FileProgram}
    (h : group.Shown file s)
    (htorn : ∀ content now', now ≤ now' → faults = true → valid = false → file = .missing →
      group.Torn faults i began file now' (.octets content))
    (hnext : ∀ create replaceOk s' now', now ≤ now' →
      (faults = true ∨ create = .written ∧ replaceOk = true) →
      group.Shown (group.acquiredFile i valid record file create replaceOk).2 s' →
      group.Within faults i began file now'
        (next (group.acquiredFile i valid record file create replaceOk).1) s') :
    group.Within faults i began file now
      ((group.keeper i).writeAcquired group.stateDir valid record next) s := by
  cases valid with
  | true =>
    refine within_writeRecordReplace h (Or.inl rfl) ?_ ?_
    · intro s' now' hle hshown
      exact hnext .written true s' now' hle (Or.inr ⟨rfl, rfl⟩) hshown
    · intro hfaults s' now' hle hshown
      exact hnext .written false s' now' hle (Or.inl hfaults) hshown
  | false =>
    have hsame := update_shown h
    have hnode : s group.statePath = .state file := h.2.1
    simp only [PathKeeper.writeAcquired, Bool.false_eq_true, if_false]
    refine within_call h (Or.inl rfl) fun e hok hle => ?_
    have hfaults (hcreate : e.create ≠ .written) : faults = true :=
      hok.resolve_right fun hsound => hcreate hsound.2
    simp only [StateDirectory.handle, group.resolve_stateFile i, StateDirectory.act, hnode,
      StateDirectory.createNode]
    by_cases hopen : e.create = .openFails
    · -- an `open` that raises has done nothing
      have hraised : group.acquiredFile i false record file .openFails true = (true, file) := by
        simp only [acquiredFile, StateFile.writeAcquired, Bool.false_eq_true, if_false,
          StateFile.writeRecordAtomic_openFails]
      have hend := hnext .openFails true s e.now hle (Or.inl (hfaults (by simp [hopen])))
      rw [hraised] at hend
      simp only [hopen, StateFile.writeRecordAtomic_openFails, hsame]
      exact hend h
    by_cases hmissing : file = .missing
    · subst hmissing
      cases hcreate : e.create with
      | openFails => exact absurd hcreate hopen
      | written =>
        simp only [StateFile.writeRecordAtomic]
        exact hnext .written true _ e.now hle (Or.inr ⟨rfl, rfl⟩) (shown_update_state _ h)
      | removed =>
        have hfaults' := hfaults (by simp [hcreate])
        simp only [StateFile.writeRecordAtomic, hsame]
        refine within_writeRecordReplace h (Or.inl rfl) ?_ ?_
        · intro s' now' hle' hshown
          exact hnext .removed true s' now' (hle.trans hle') (Or.inl hfaults') hshown
        · intro _ s' now' hle' hshown
          exact hnext .removed false s' now' (hle.trans hle') (Or.inl hfaults') hshown
      | left content =>
        have hfaults' := hfaults (by simp [hcreate])
        simp only [StateFile.writeRecordAtomic]
        -- what a creation has torn is replaced
        refine within_writeRecordReplace (shown_update_state _ h)
          (htorn content e.now hle hfaults' rfl rfl) ?_ ?_
        · intro s' now' hle' hshown
          exact hnext (.left content) true s' now' (hle.trans hle') (Or.inl hfaults') hshown
        · intro _ s' now' hle' hshown
          exact hnext (.left content) false s' now' (hle.trans hle') (Or.inl hfaults') hshown
    · -- the file is there, so that nothing is created
      have hatomic (io : DiskIo) (hio : io.create ≠ .openFails) :
          StateFile.writeRecordAtomic io record file = (some false, file) :=
        StateFile.writeRecordAtomic_taken hio record hmissing
      have hfile (replaceOk : Bool) : group.acquiredFile i false record file .written replaceOk =
          StateFile.writeRecordReplace (group.keeper i).recordClass
            { DiskIo.ok with create := .written, replaceOk := replaceOk } record file := by
        have hfree := hatomic { DiskIo.ok with create := .written, replaceOk := replaceOk }
          (by simp only [ne_eq, reduceCtorEq, not_false_eq_true])
        simp only [acquiredFile, StateFile.writeAcquired, Bool.false_eq_true, if_false, hfree]
      have hcreated := hatomic { DiskIo.ok with create := e.create } hopen
      simp only [hcreated, hsame]
      refine within_writeRecordReplace h (Or.inl rfl) ?_ ?_
      · intro s' now' hle' hshown
        have hend := hnext .written true s' now' (hle.trans hle') (Or.inr ⟨rfl, rfl⟩)
        rw [hfile] at hend
        exact hend hshown
      · intro hfaults' s' now' hle' hshown
        have hend := hnext .written false s' now' (hle.trans hle') (Or.inl hfaults')
        rw [hfile] at hend
        exact hend hshown

/-- With the lock taken, and the answers to the calls inside. -/
def ioOf (readOk : Bool) (create : CreateEnd) (replaceOk unlinkOk : Bool) : DiskIo :=
  ⟨true, readOk, create, replaceOk, unlinkOk⟩

@[simp] theorem lockFree_ioOf (readOk : Bool) (create : CreateEnd) (replaceOk unlinkOk : Bool) :
    (ioOf readOk create replaceOk unlinkOk).lockFree = true := rfl

/-- A step at `t` on the way, from what the operation makes of its answers. -/
theorem step_of_perform (op : TtlLease.Op) {readOk : Bool} {create : CreateEnd}
    {replaceOk unlinkOk : Bool} {t : ℚ} {result : Except Escaped StoredResult}
    (hbegan : began ≤ t) (hnow : t ≤ now)
    (hok : faults = true ∨ readOk = true ∧ create = .written ∧ replaceOk = true ∧ unlinkOk = true)
    (h : (group.keeper i).perform group.py op (ioOf readOk create replaceOk unlinkOk) t file =
      (result, current)) :
    group.Step faults i op (ioOf readOk create replaceOk unlinkOk) t began now file
      result current := by
  refine ⟨hbegan, hnow, rfl, hok.imp id ?_, h⟩
  rintro ⟨rfl, rfl, rfl, rfl⟩
  rfl

theorem within_time {next : ℚ → FileProgram} (h : group.Shown file s)
    (hnext : ∀ t now', now ≤ now' → t = now' → group.Within faults i began file now' (next t) s) :
    group.Within faults i began file now (.call () .time next) s :=
  within_call h (Or.inl rfl) fun e _ hle => hnext e.now e.now hle rfl

theorem within_tryAcquire (h : group.Shown file s) (hbegan : began ≤ now) :
    group.Within faults i began file now
      (PathKeeper.readRecord group.py group.stateDir (group.keeper i) fun
        | .error e => (group.keeper i).releaseLock group.stateDir (.error (.reading e))
        | .ok (record, valid) =>
          .call () .time fun (now : ℚ) =>
            let newRecord := (group.keeper i).newRecord now
            if valid && !record.isExpired now then
              if record.holderId = (group.keeper i).holderId then
                (group.keeper i).releaseLock group.stateDir
                  (.ok ⟨(group.keeper i).recordClass.heldCounts, true, record,
                    record.remainingSeconds now, (group.keeper i).recordClass.messageAlready⟩)
              else
                (group.keeper i).releaseLock group.stateDir (.ok ⟨false, false, record,
                  record.remainingSeconds now, (group.keeper i).recordClass.messageHeld⟩)
            else
              (group.keeper i).writeAcquired group.stateDir valid newRecord fun raised =>
                if raised then (group.keeper i).releaseLock group.stateDir (.error .writing)
                else
                  (group.keeper i).releaseLock group.stateDir
                    (.ok ⟨true, true, newRecord, newRecord.remainingSeconds now,
                      (group.keeper i).recordClass.messageAcquired⟩)) s := by
  refine within_readRecord h fun readOk now₁ hle₁ hread => ?_
  cases hr : (group.keeper i).toRecordScope.readRecord group.py
      { DiskIo.ok with readOk := readOk } file with
  | error e =>
    have hio : (group.keeper i).toRecordScope.readRecord group.py (ioOf readOk .written true true)
        file = .error e := hr
    refine within_releaseLock h (step_of_perform .acquire (hbegan.trans hle₁) le_rfl
      (hread.imp id fun hr => ⟨hr, rfl, rfl, rfl⟩) ?_)
    simp [RecordKeeper.perform, RecordKeeper.tryAcquire, hio]
  | ok read =>
    obtain ⟨record, valid⟩ := read
    have hio (create : CreateEnd) (replaceOk : Bool) :
        (group.keeper i).toRecordScope.readRecord group.py
          (ioOf readOk create replaceOk true) file =
          .ok (record, valid) := hr
    refine within_time h fun t now₂ hle₂ ht => ?_
    subst ht
    have hbegan' := hbegan.trans (hle₁.trans hle₂)
    cases hlive : valid && !record.isExpired t with
    | true =>
      have hok := hread.imp id fun hr : readOk = true => (⟨hr, rfl, rfl, rfl⟩ :
        readOk = true ∧ CreateEnd.written = .written ∧ true = true ∧ true = true)
      simp only [if_true]
      split
      · next hown =>
        refine within_releaseLock h (step_of_perform .acquire hbegan' le_rfl hok ?_)
        simp only [RecordKeeper.perform, RecordKeeper.tryAcquire, hio, lockFree_ioOf, hlive, hown,
          Bool.not_true, Bool.false_eq_true, if_true, if_false]
      · next hown =>
        refine within_releaseLock h (step_of_perform .acquire hbegan' le_rfl hok ?_)
        simp only [RecordKeeper.perform, RecordKeeper.tryAcquire, hio, lockFree_ioOf, hlive, hown,
          Bool.not_true, Bool.false_eq_true, if_true, if_false]
    | false =>
      simp only [Bool.false_eq_true, if_false]
      -- what is written, and how the operation ends with it
      have hperform (create : CreateEnd) (replaceOk : Bool) :
          (group.keeper i).perform group.py .acquire (ioOf readOk create replaceOk true) t file =
            afterWrite ⟨true, true, (group.keeper i).newRecord t,
                ((group.keeper i).newRecord t).remainingSeconds t,
                (group.keeper i).recordClass.messageAcquired⟩
              (group.acquiredFile i valid ((group.keeper i).newRecord t) file create
                replaceOk) := by
        have hwrite : StateFile.writeAcquired (group.keeper i).recordClass
            (ioOf readOk create replaceOk true) valid ((group.keeper i).newRecord t) file =
              group.acquiredFile i valid ((group.keeper i).newRecord t) file create replaceOk := rfl
        rcases hwritten : group.acquiredFile i valid ((group.keeper i).newRecord t) file
          create replaceOk
          with ⟨raised, written⟩
        cases raised <;>
          simp only [RecordKeeper.perform, RecordKeeper.tryAcquire, hio, lockFree_ioOf, hlive,
            hwrite, hwritten, afterWrite, Bool.not_true, Bool.false_eq_true, if_false, if_true]
      refine within_writeAcquired h ?_ ?_
      · intro content now₃ hle₃ hfaults hvalid hmissing
        have hend := hperform (.left content) false
        subst hvalid hmissing
        simp only [acquiredFile, StateFile.writeAcquired, StateFile.writeRecordAtomic,
          StateFile.writeRecordReplace, Bool.false_eq_true, if_false] at hend
        cases hraises : (group.keeper i).recordClass.replaceRaises with
        | true =>
          rw [hraises] at hend
          exact torn_of_step (step_of_perform .acquire hbegan' hle₃ (Or.inl hfaults) hend)
        | false =>
          rw [hraises] at hend
          exact torn_of_step (step_of_perform .acquire hbegan' hle₃ (Or.inl hfaults) hend)
      · intro create replaceOk s' now₃ hle₃ hok hshown
        have hend := hperform create replaceOk
        have hall : faults = true ∨ readOk = true ∧ create = .written ∧ replaceOk = true ∧
            true = true := by
          rcases hread with hfaults | hreadOk
          · exact Or.inl hfaults
          · exact hok.imp id fun hok => ⟨hreadOk, hok.1, hok.2, rfl⟩
        rcases hwritten : group.acquiredFile i valid ((group.keeper i).newRecord t) file
          create replaceOk
          with ⟨raised, written⟩
        rw [hwritten] at hend hshown
        cases raised with
        | true => exact within_releaseLock hshown (step_of_perform .acquire hbegan' hle₃ hall hend)
        | false => exact within_releaseLock hshown (step_of_perform .acquire hbegan' hle₃ hall hend)

theorem within_renew (h : group.Shown file s) (hbegan : began ≤ now) :
    group.Within faults i began file now
      (PathKeeper.readRecord group.py group.stateDir (group.keeper i) fun
        | .error e => (group.keeper i).releaseLock group.stateDir (.error (.reading e))
        | .ok (record, valid) =>
          .call () .time fun (now : ℚ) =>
            if !valid || record.isExpired now then
              (group.keeper i).releaseLock group.stateDir (.ok ⟨false, false, record,
                record.remainingSeconds now, (group.keeper i).recordClass.messageNoActive⟩)
            else if record.holderId ≠ (group.keeper i).holderId then
              (group.keeper i).releaseLock group.stateDir (.ok ⟨false, false, record,
                record.remainingSeconds now, (group.keeper i).recordClass.messageNotHolder⟩)
            else
              let renewed := { record with expiresAt := .finite (now+(group.keeper i).ttlSeconds) }
              (group.keeper i).writeRecordReplace group.stateDir renewed fun raised =>
                if raised then (group.keeper i).releaseLock group.stateDir (.error .writing)
                else
                  (group.keeper i).releaseLock group.stateDir
                    (.ok ⟨true, true, renewed, renewed.remainingSeconds now,
                      (group.keeper i).recordClass.messageRenewed⟩)) s := by
  refine within_readRecord h fun readOk now₁ hle₁ hread => ?_
  have hall := hread.imp id fun hr : readOk = true => (⟨hr, rfl, rfl, rfl⟩ :
    readOk = true ∧ CreateEnd.written = .written ∧ true = true ∧ true = true)
  cases hr : (group.keeper i).toRecordScope.readRecord group.py
      { DiskIo.ok with readOk := readOk } file with
  | error e =>
    have hio : (group.keeper i).toRecordScope.readRecord group.py (ioOf readOk .written true true)
        file = .error e := hr
    refine within_releaseLock h (step_of_perform .renew (hbegan.trans hle₁) le_rfl hall ?_)
    simp [RecordKeeper.perform, RecordKeeper.renew, hio]
  | ok read =>
    obtain ⟨record, valid⟩ := read
    have hio (replaceOk : Bool) :
        (group.keeper i).toRecordScope.readRecord group.py
          (ioOf readOk .written replaceOk true) file =
          .ok (record, valid) := hr
    refine within_time h fun t now₂ hle₂ ht => ?_
    subst ht
    have hbegan' := hbegan.trans (hle₁.trans hle₂)
    cases hover : !valid || record.isExpired t with
    | true =>
      simp only [if_true]
      refine within_releaseLock h (step_of_perform .renew hbegan' le_rfl hall ?_)
      simp only [RecordKeeper.perform, RecordKeeper.renew, hio, lockFree_ioOf, hover, Bool.not_true,
        Bool.false_eq_true, if_true, if_false]
    | false =>
      simp only [Bool.false_eq_true, if_false]
      by_cases hown : record.holderId = (group.keeper i).holderId
      · rw [if_neg (not_not_intro hown)]
        have hperform (replaceOk : Bool) :
            (group.keeper i).perform group.py .renew (ioOf readOk .written replaceOk true) t file =
              afterWrite ⟨true, true,
                  { record with expiresAt := .finite (t+(group.keeper i).ttlSeconds) },
                  StoredRecord.remainingSeconds
                    { record with expiresAt := .finite (t+(group.keeper i).ttlSeconds) } t,
                  (group.keeper i).recordClass.messageRenewed⟩
                (StateFile.writeRecordReplace (group.keeper i).recordClass
                  (ioOf readOk .written replaceOk true)
                  { record with expiresAt := .finite (t+(group.keeper i).ttlSeconds) } file) := by
          rcases hwritten : StateFile.writeRecordReplace (group.keeper i).recordClass
              (ioOf readOk .written replaceOk true)
              { record with expiresAt := .finite (t+(group.keeper i).ttlSeconds) } file
            with ⟨raised, written⟩
          cases raised <;>
            simp only [RecordKeeper.perform, RecordKeeper.renew, hio, lockFree_ioOf, hover,
              hwritten, if_neg (not_not_intro hown), afterWrite, Bool.not_true, Bool.false_eq_true,
              if_false, if_true]
        refine within_writeRecordReplace h (Or.inl rfl) ?_ ?_
        · intro s' now₃ hle₃ hshown
          exact within_releaseLock hshown (step_of_perform .renew hbegan' hle₃ hall (hperform true))
        · intro hfaults s' now₃ hle₃ hshown
          have hend := hperform false
          simp only [StateFile.writeRecordReplace, ioOf, Bool.false_eq_true, if_false] at hend
          cases hraises : (group.keeper i).recordClass.replaceRaises with
          | true =>
            rw [hraises] at hend
            exact within_releaseLock hshown
              (step_of_perform .renew hbegan' hle₃ (Or.inl hfaults) hend)
          | false =>
            rw [hraises] at hend
            exact within_releaseLock hshown
              (step_of_perform .renew hbegan' hle₃ (Or.inl hfaults) hend)
      · rw [if_pos hown]
        refine within_releaseLock h (step_of_perform .renew hbegan' le_rfl hall ?_)
        simp only [RecordKeeper.perform, RecordKeeper.renew, hio, lockFree_ioOf, hover,
          Bool.not_true, Bool.false_eq_true, if_false, ne_eq, hown, not_false_eq_true, if_true]

theorem within_release (h : group.Shown file s) (hbegan : began ≤ now) :
    group.Within faults i began file now
      (PathKeeper.readRecord group.py group.stateDir (group.keeper i) fun
        | .error e => (group.keeper i).releaseLock group.stateDir (.error (.reading e))
        | .ok (record, valid) =>
          if !valid || record.holderId ≠ (group.keeper i).holderId then
            (group.keeper i).releaseLock group.stateDir (.ok ⟨false, false, record, .finite 0,
              (group.keeper i).recordClass.messageNotHeld⟩)
          else
            .call () (.unlink ((group.keeper i).object.stateFile group.stateDir)) fun unlinked =>
              if !unlinked then
                (group.keeper i).releaseLock group.stateDir (.ok ⟨false, true, record, .finite 0,
                  (group.keeper i).recordClass.messageReleaseFailed⟩)
              else
                (group.keeper i).releaseLock group.stateDir (.ok ⟨true, false,
                  (group.keeper i).emptyRecord, .finite 0,
                  (group.keeper i).recordClass.messageReleased⟩)) s := by
  refine within_readRecord h fun readOk now₁ hle₁ hread => ?_
  have hbegan' := hbegan.trans hle₁
  have hall := hread.imp id fun hr : readOk = true => (⟨hr, rfl, rfl, rfl⟩ :
    readOk = true ∧ CreateEnd.written = .written ∧ true = true ∧ true = true)
  cases hr : (group.keeper i).toRecordScope.readRecord group.py
      { DiskIo.ok with readOk := readOk } file with
  | error e =>
    have hio : (group.keeper i).toRecordScope.readRecord group.py (ioOf readOk .written true true)
        file = .error e := hr
    refine within_releaseLock h (step_of_perform .release hbegan' le_rfl hall ?_)
    simp [RecordKeeper.perform, RecordKeeper.release, hio]
  | ok read =>
    obtain ⟨record, valid⟩ := read
    have hio (unlinkOk : Bool) :
        (group.keeper i).toRecordScope.readRecord group.py
          (ioOf readOk .written true unlinkOk) file =
          .ok (record, valid) := hr
    cases hheld : !valid || decide (record.holderId ≠ (group.keeper i).holderId) with
    | true =>
      simp only [hheld, if_true]
      refine within_releaseLock h (step_of_perform .release hbegan' le_rfl hall ?_)
      simp only [RecordKeeper.perform, RecordKeeper.release, hio, lockFree_ioOf, hheld,
        Bool.not_true, Bool.false_eq_true, if_true, if_false]
    | false =>
      have hperform (unlinkOk : Bool) :
          (group.keeper i).perform group.py .release
            (ioOf readOk .written true unlinkOk) now₁ file =
            if !unlinkOk then
              (.ok ⟨false, true, record, .finite 0,
                (group.keeper i).recordClass.messageReleaseFailed⟩, file)
            else (.ok ⟨true, false, (group.keeper i).emptyRecord, .finite 0,
              (group.keeper i).recordClass.messageReleased⟩, .missing) := by
        simp only [RecordKeeper.perform, RecordKeeper.release, hio, lockFree_ioOf, hheld,
          Bool.not_true, Bool.false_eq_true, if_false]
        rfl
      simp only [hheld, Bool.false_eq_true, if_false]
      refine within_call h (Or.inl rfl) fun e hok hle₂ => ?_
      have hnode : s group.statePath = .state file := h.2.1
      simp only [StateDirectory.handle, group.resolve_stateFile i, StateDirectory.act, hnode,
        StateDirectory.unlinkNode]
      cases hfails : e.fails with
      | true =>
        have hfaults : faults = true :=
          hok.resolve_right fun hsound => by simp [FileAnswer.Sound, hfails] at hsound
        simp only [if_true, Bool.not_false, update_shown h]
        exact within_releaseLock h
          (step_of_perform .release hbegan' hle₂ (Or.inl hfaults) (hperform false))
      | false =>
        simp only [Bool.false_eq_true, if_false, Bool.not_true]
        exact within_releaseLock (shown_update_state _ h)
          (step_of_perform .release hbegan' hle₂ hall (hperform true))

/-- A contender that is not inside. -/
def Waits (group : KeeperGroup ι) (faults : Bool) (i : ι) (t : FileProgram) : Prop :=
  group.sections.Outside (Answers faults) (group.spec faults) i t

/-- The calls that only look. -/
def Looks : FileCall → Prop
  | .stat _ => True
  | .pathExists _ => True
  | .readText _ => True
  | .time => True
  | _ => False

theorem handle_of_looks {c : FileCall} (hc : Looks c) (e : FileAnswer)
    (s : PosixPath.Place → FileNode) :
    (StateDirectory.handle group.cwd e c s).2 = s := by
  have hact {β : Type} (place : PosixPath.Place) (f : FileNode → β × FileNode)
      (hf : ∀ node, (f node).2 = node) : (StateDirectory.act s place f).2 = s := by
    simp only [StateDirectory.act, hf, Function.update_eq_self]
  cases c with
  | stat path =>
    apply hact
    intro node
    rcases node with (_ | _ | _) | _ <;> rfl
  | pathExists path =>
    apply hact
    intro node
    rcases node with (_ | _ | _) | _ <;> rfl
  | readText path =>
    apply hact
    intro node
    rcases node with (_ | _ | _) | _ <;> rfl
  | time => rfl
  | _ => exact absurd hc (by simp [Looks])

theorem waits_look {c : FileCall} (hc : Looks c) {next : c.Reply → FileProgram}
    (hnext : ∀ r, group.Waits faults i (next r)) : group.Waits faults i (.call () c next) := by
  have henters (r : c.Reply) : group.sections.enters c r = false := by
    cases c <;> first | rfl | exact absurd hc (by simp [Looks])
  refine ⟨?_, ?_, fun r _ => hnext r⟩
  · intro e s x now _ _ hfree
    rw [if_neg (by simp [henters])]
    simpa only [sections, handle_of_looks hc] using hfree
  · intro e s _ _
    exact ⟨handle_of_looks hc e s, henters _⟩

theorem waits_done (result : KeeperEnd) : group.Waits faults i (.done () result) := trivial

theorem mkdirNode_cases (e : FileAnswer) (node : FileNode) :
    StateDirectory.mkdirNode e node = (.made, .directory e.now) ∨
      ∃ reply, reply ≠ .made ∧ StateDirectory.mkdirNode e node = (reply, node) := by
  rcases node with (_ | _ | _) | _ <;> cases hfails : e.fails <;>
    simp [StateDirectory.mkdirNode, hfails]

section LockPath
variable {path : PosixPath} (hpath : path.resolve group.cwd = group.lockDir)

theorem enters_mkdir {reply : MkdirReply} (h : reply ≠ .made) :
    group.sections.enters (.mkdir path) reply = false := by
  cases reply with
  | made => exact absurd rfl h
  | taken => rfl
  | failed => rfl

include hpath

/-- The `mkdir` of the lock directory lets the contender in, or changes nothing. -/
theorem waits_mkdir {next : MkdirReply → FileProgram}
    (hmade : ∀ s file began now, began ≤ now → group.Shown file s →
      group.Within faults i began file now (next .made) s)
    (htaken : group.Waits faults i (next .taken)) (hfailed : group.Waits faults i (next .failed)) :
    group.Waits faults i (.call () (.mkdir path) next) := by
  have hmkdir (e : FileAnswer) (s : PosixPath.Place → FileNode) :
      StateDirectory.handle group.cwd e (.mkdir path) s =
        (.made, Function.update s group.lockDir (.directory e.now)) ∨
      ∃ reply, reply ≠ .made ∧ StateDirectory.handle group.cwd e (.mkdir path) s = (reply, s) := by
    rcases mkdirNode_cases e (s group.lockDir) with hmade | ⟨reply, hne, hsame⟩
    · exact Or.inl (by simp only [StateDirectory.handle, hpath, StateDirectory.act, hmade])
    · refine Or.inr ⟨reply, hne, ?_⟩
      simp only [StateDirectory.handle, hpath, StateDirectory.act, hsame, Function.update_eq_self]
  refine ⟨?_, ?_, ?_⟩
  · intro e s file now _ hle hfree
    change if group.sections.enters (.mkdir path)
        (StateDirectory.handle group.cwd e (.mkdir path) s).1 = true then
      group.Within faults i now file e.now
        (next (StateDirectory.handle group.cwd e (.mkdir path) s).1)
        (StateDirectory.handle group.cwd e (.mkdir path) s).2
      else (group.spec faults).free file (StateDirectory.handle group.cwd e (.mkdir path) s).2
    rcases hmkdir e s with hin | ⟨reply, hne, hout⟩
    · rw [hin]
      split
      · exact hmade _ file now e.now hle (shown_update_lock e.now hfree)
      · next hnot => exact absurd (decide_eq_true hpath) hnot
    · rw [hout, if_neg (by rw [enters_mkdir hne]; exact Bool.false_ne_true)]
      exact hfree
  · intro e s hlocked _
    change (StateDirectory.handle group.cwd e (.mkdir path) s).2 = s ∧ group.sections.enters
      (.mkdir path) (StateDirectory.handle group.cwd e (.mkdir path) s).1 = false
    obtain ⟨mtime, hlock⟩ := hlocked
    rcases hmkdir e s with hin | ⟨reply, hne, hout⟩
    · -- where the lock is, none is made
      have hreply := congrArg Prod.fst hin
      simp only [StateDirectory.handle, hpath, StateDirectory.act, hlock,
        StateDirectory.mkdirNode] at hreply
      cases hfails : e.fails <;> simp [hfails] at hreply
    · rw [hout]
      exact ⟨rfl, enters_mkdir hne⟩
  · intro r hr
    cases r with
    | made => simp [sections, hpath] at hr
    | taken => exact htaken
    | failed => exact hfailed

/-- The `rmdir` of a lock judged stale. -/
theorem waits_rmdir {next : Unit → FileProgram} (hnext : group.Waits faults i (next ())) :
    group.Waits faults i (.call () (.rmdir path) next) := by
  refine ⟨?_, ?_, fun _ _ => hnext⟩
  · intro e s file now _ _ hfree
    obtain ⟨hstate, old, htmp⟩ := hfree
    simp only [sections, StateDirectory.handle, hpath, StateDirectory.act, Bool.false_eq_true,
      if_false]
    refine ⟨?_, old, ?_⟩
    · rw [Function.update_of_ne group.statePath_ne_lockDir]
      exact hstate
    · rw [Function.update_of_ne group.lockDir_ne_temporary.symm]
      exact htmp
  · intro e s _ hbreaks
    simp [sections, hpath] at hbreaks

end LockPath

theorem waits_acquireLock {next : Bool → FileProgram} (hbusy : group.Waits faults i (next false))
    (hinside : ∀ s file began now, began ≤ now → group.Shown file s →
      group.Within faults i began file now (next true) s) :
    group.Waits faults i ((group.keeper i).acquireLock group.stateDir next) := by
  have hlock := group.resolve_lockPath i
  rw [PathKeeper.acquireLock]
  refine waits_mkdir hlock hinside (waits_look (c := .stat _) trivial fun found => ?_) hbusy
  cases found with
  | none => exact hbusy
  | some mtime =>
    refine waits_look (c := .time) trivial fun (now : ℚ) => ?_
    by_cases hstale : (group.keeper i).isLockStale now mtime = true
    · rw [if_pos hstale]
      exact waits_rmdir hlock (waits_mkdir hlock hinside hbusy (waits_done _))
    · rw [if_neg hstale]
      exact hbusy

theorem waits_readRecord {next : Except Raised (StoredRecord × Bool) → FileProgram}
    (hnext : ∀ read, group.Waits faults i (next read)) :
    group.Waits faults i (PathKeeper.readRecord group.py group.stateDir (group.keeper i) next) := by
  refine waits_look (c := .pathExists _) trivial fun (found : Bool) => ?_
  cases found with
  | false => exact hnext _
  | true =>
    refine waits_look (c := .readText _) trivial fun (content : Option StateFile) => ?_
    cases content with
    | none => exact hnext _
    | some file => exact hnext _

theorem waits_operation (op : KeeperOp) :
    group.Waits faults i ((group.keeper i).operation group.py group.stateDir op) := by
  cases op with
  | locked op =>
    cases op with
    | acquire =>
      rw [PathKeeper.operation, PathKeeper.tryAcquire]
      refine waits_acquireLock (waits_done _) fun s file began now hle h => ?_
      exact within_tryAcquire h hle
    | renew =>
      rw [PathKeeper.operation, PathKeeper.renew]
      refine waits_acquireLock (waits_done _) fun s file began now hle h => ?_
      exact within_renew h hle
    | release =>
      rw [PathKeeper.operation, PathKeeper.release]
      refine waits_acquireLock (waits_done _) fun s file began now hle h => ?_
      exact within_release h hle
  | status =>
    rw [PathKeeper.operation, PathKeeper.status]
    refine waits_readRecord fun read => ?_
    cases read with
    | error e => exact waits_done _
    | ok read =>
      obtain ⟨record, valid⟩ := read
      refine waits_look (c := .time) trivial fun (now : ℚ) => ?_
      by_cases hnone : (!valid || record.isExpired now) = true
      · rw [if_pos hnone]
        exact waits_done _
      · rw [if_neg hnone]
        exact waits_done _

end KeeperGroup
end PypnmCmts
