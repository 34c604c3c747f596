import PypnmCmts.LockedKeepers

/-! Contenders for one record whose operations take place at once, and the refinement of these by
the operations on the files. -/
namespace PypnmCmts

open LabelledRun PyNumber PyJson

/-- An operation as one step on the record file. One whose caller crashed is not `reported`. -/
structure AtomicCall (ι : Type) where
  who : ι
  op : TtlLease.Op
  io : DiskIo
  now : ℚ
  reported : Bool
deriving DecidableEq

/-- The record file, the time of the last operation, and what the callers were told. -/
structure AtomicWorld (ι : Type) where
  file : StateFile
  clock : ℚ
  log : List (ι × KeeperEnd)

namespace KeeperGroup
variable {ι : Type} [DecidableEq ι] (group : KeeperGroup ι) (faults : Bool)

/-- The contenders with their files, and who is inside. -/
abbrev FileWorld (ι : Type) :=
  ExclusiveSections.World FileCall FileCall.Reply (PosixPath.Place → FileNode) ℚ Unit KeeperEnd ι

abbrev FileAction (ι : Type) := ExclusiveSections.Action ι KeeperOp FileAnswer

def atomicStep (s : AtomicWorld ι) (c : AtomicCall ι) : AtomicWorld ι :=
  let (result, file) := (group.keeper c.who).perform group.py c.op c.io c.now s.file
  ⟨file, c.now, if c.reported then s.log ++ [(c.who, .locked result)] else s.log⟩

/-- The lock is free for every operation, time goes on, and nothing fails without `faults`. -/
def AtomicGuard (s : AtomicWorld ι) (c : AtomicCall ι) : Prop :=
  s.clock ≤ c.now ∧ c.io.lockFree = true ∧ (faults = true ∨ c.io = .ok)

/-- Nobody breaks the lock of a contender at work, time goes on, and no call fails without
`faults`. -/
def FileGuard (w : FileWorld ι) (a : FileAction ι) : Prop :=
  group.sections.Guard (Answers faults) w a

def fileStep (w : FileWorld ι) (a : FileAction ι) : FileWorld ι := group.sections.step w a

/-- Some operations one after the other have made the file and told the callers what they were
told. -/
def Reached (s₀ : AtomicWorld ι) (now : ℚ) (file : StateFile) (log : List (ι × Option KeeperEnd)) :
    Prop :=
  ∃ calls, Guarded group.atomicStep (AtomicGuard faults) s₀ calls ∧
    (exec group.atomicStep s₀ calls).file = file ∧
    (exec group.atomicStep s₀ calls).log = ExclusiveSections.reported log ∧
    (exec group.atomicStep s₀ calls).clock ≤ now

variable {group faults}

omit [DecidableEq ι] in
theorem reached_call {s₀ : AtomicWorld ι} {i : ι} {op : TtlLease.Op} {io : DiskIo} {t began now : ℚ}
    {file file' : StateFile} {result : Except Escaped StoredResult}
    {log : List (ι × Option KeeperEnd)}
    (h : group.Reached faults s₀ began file log)
    (hstep : group.Step faults i op io t began now file result file') (reported : Bool) :
    group.Reached faults s₀ now file'
      (log ++ [(i, if reported then some (.locked result) else none)]) := by
  obtain ⟨calls, hguarded, hfile, hlog, hclock⟩ := h
  obtain ⟨hbegan, hnow, hfree, hok, hperform⟩ := hstep
  refine ⟨calls ++ [⟨i, op, io, t, reported⟩], ?_, ?_, ?_, ?_⟩
  · exact guarded_append.mpr ⟨hguarded, ⟨hclock.trans hbegan, hfree, hok⟩, trivial⟩
  · rw [exec_concat, atomicStep, hfile, hperform]
  · rw [exec_concat, atomicStep, hfile, hlog, hperform]
    cases reported
    · exact (ExclusiveSections.reported_concat_none log i).symm
    · exact (ExclusiveSections.reported_concat_some log i _).symm
  · rw [exec_concat]
    exact hnow

omit [DecidableEq ι] in
theorem follows_reached (s₀ : AtomicWorld ι) :
    ExclusiveSections.Follows (group.spec faults) (group.Reached faults s₀) where
  later := by
    intro now now' file log hle h
    obtain ⟨calls, hguarded, hfile, hlog, hclock⟩ := h
    exact ⟨calls, hguarded, hfile, hlog, hclock.trans hle⟩
  did_later := by
    intro i a began file now now' file' hle h
    obtain ⟨op, io, t, result, ha, hstep⟩ := h
    exact ⟨op, io, t, result, ha, hstep.later hle⟩
  torn_later := by
    intro i began file now now' file' hle h
    exact Torn.later hle h
  did := by
    intro i a began file now file' log h hdid
    obtain ⟨op, io, t, result, rfl, hstep⟩ := hdid
    exact reached_call h hstep true
  torn := by
    intro i began file now file' log hle h htorn
    rcases htorn with rfl | ⟨op, io, t, result, hstep⟩
    · obtain ⟨calls, hguarded, hfile, hlog, hclock⟩ := h
      rw [← ExclusiveSections.reported_concat_none log i] at hlog
      exact ⟨calls, hguarded, hfile, hlog, hclock.trans hle⟩
    · exact reached_call h hstep false

theorem inv_exec (w : FileWorld ι) (hidle : ∀ i, (w.program i).isDone = true)
    (hnobody : w.holder = none) (hlog : w.log = []) {file : StateFile}
    (hfile : w.store group.statePath = .state file)
    (htmp : ∃ old, w.store group.temporary = .state old)
    (actions : List (FileAction ι))
    (hg : Guarded group.fileStep (group.FileGuard faults) w actions) :
    group.sections.Inv (Answers faults) (group.spec faults)
      (group.Reached faults ⟨file, w.clock, []⟩) (exec group.fileStep w actions) :=
  ExclusiveSections.sections_in_turn (fun _ op => waits_operation op)
    (follows_reached ⟨file, w.clock, []⟩) w hidle hnobody ⟨hfile, htmp⟩
    ⟨[], trivial, rfl, by rw [hlog]; rfl, le_rfl⟩ actions hg

/-- With calls interleaved and failing as they may, crashes at any point and stale locks broken: the
operations on the files are operations that take place at once, one after the other. -/
theorem file_operations_atomic (w : FileWorld ι) (hidle : ∀ i, (w.program i).isDone = true)
    (hnobody : w.holder = none) (hlog : w.log = []) {file : StateFile}
    (hfile : w.store group.statePath = .state file)
    (htmp : ∃ old, w.store group.temporary = .state old)
    (actions : List (FileAction ι))
    (hg : Guarded group.fileStep (group.FileGuard faults) w actions) :
    ∃ calls, Guarded group.atomicStep (AtomicGuard faults) ⟨file, w.clock, []⟩ calls ∧
      (exec group.atomicStep ⟨file, w.clock, []⟩ calls).log =
        ExclusiveSections.reported (exec group.fileStep w actions).log ∧
      (exec group.atomicStep ⟨file, w.clock, []⟩ calls).clock ≤
        (exec group.fileStep w actions).clock ∧
      ((exec group.fileStep w actions).holder = none →
        (exec group.fileStep w actions).store group.statePath =
          .state (exec group.atomicStep ⟨file, w.clock, []⟩ calls).file) := by
  have hinv := inv_exec w hidle hnobody hlog hfile htmp actions hg
  cases hholder : (exec group.fileStep w actions).holder with
  | none =>
    obtain ⟨file', ⟨hstate, -⟩, calls, hguarded, hend, hreported, hclock⟩ := hinv.nobody hholder
    exact ⟨calls, hguarded, hreported, hclock, fun _ => by rw [hstate, hend]⟩
  | some i =>
    obtain ⟨-, began, file', hbegan, ⟨calls, hguarded, -, hreported, hclock⟩, -⟩ :=
      hinv.somebody i hholder
    exact ⟨calls, hguarded, hreported, hclock.trans hbegan, fun h => by simp at h⟩

instance (e : FileAnswer) : Decidable (Answers faults e) :=
  inferInstanceAs (Decidable (_ ∨ _ ∧ _))

instance (w : FileWorld ι) (a : FileAction ι) : Decidable (group.FileGuard faults w a) :=
  inferInstanceAs (Decidable (group.sections.Guard (Answers faults) w a))

theorem pairName_nonempty : "cmts" ≠ "" := by decide

theorem pairName_stripped : PyText.strip "cmts" = "cmts" := by decide

theorem pairId_nonempty (second : Bool) :
    (if second then codePoints "b" else codePoints "a") ≠ [] := by
  cases second
  · exact List.cons_ne_nil _ _
  · exact List.cons_ne_nil _ _

theorem pairTtl_pos : 1 ≤ 10 := by decide

def pairObject : CoordinationObject := ⟨"cmts", some 1, pairName_nonempty, pairName_stripped⟩

def pairKeeper (second : Bool) : PathKeeper where
  toRecordScope := FileServiceGroupLease.recordScope (codePoints "cmts") 1
  holderId := if second then codePoints "b" else codePoints "a"
  ttlSeconds := 10
  holderId_nonempty := pairId_nonempty second
  ttlSeconds_pos := pairTtl_pos
  object := pairObject
  electionName_eq := rfl
  sgId_eq := rfl

/-- The leases of two owners. -/
def pair : KeeperGroup Bool :=
  ⟨plainInterpreter, ["work"], ⟨"", ["state"]⟩, pairObject, pairKeeper, fun _ => rfl⟩

def pairStart : FileWorld Bool :=
  ⟨fun _ => .state .missing, 0, fun _ => .done () (.status (.error .typeError)), none, []⟩

/-- One owner crashes with the lock in its hands, the other breaks the stale lock and acquires the
lease, and then the first is back and is refused. -/
def pairTakeover : List (FileAction Bool) :=
  [.start false (.locked .acquire), .call false (.ok 0), .crash false,
    .start true (.locked .acquire)] ++ List.replicate 9 (.call true (.ok 30)) ++
    .start false (.locked .acquire) :: List.replicate 5 (.call false (.ok 31))

theorem file_operations_atomic_pair :
    ∃ calls, Guarded pair.atomicStep (AtomicGuard false) ⟨.missing, 0, []⟩ calls ∧
      (exec pair.atomicStep ⟨.missing, 0, []⟩ calls).log =
        ExclusiveSections.reported (exec pair.fileStep pairStart pairTakeover).log ∧
      (exec pair.atomicStep ⟨.missing, 0, []⟩ calls).clock ≤
        (exec pair.fileStep pairStart pairTakeover).clock ∧
      ((exec pair.fileStep pairStart pairTakeover).holder = none →
        (exec pair.fileStep pairStart pairTakeover).store pair.statePath =
          .state (exec pair.atomicStep ⟨.missing, 0, []⟩ calls).file) :=
  @file_operations_atomic Bool _ pair false pairStart (fun _ => rfl) rfl rfl _ rfl ⟨.missing, rfl⟩
    pairTakeover (by decide +kernel)

/-- The lock of the crashed owner is broken, and the other one goes through. -/
example : (exec pair.fileStep pairStart pairTakeover).log.map
    (fun entry => (entry.1, entry.2.isSome)) =
    [(false, false), (true, true), (false, true)] := by
  decide +kernel

end KeeperGroup
end PypnmCmts
