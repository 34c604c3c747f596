import PypnmCmts.CoordinationPaths

/-! The operations of elections and leases, one file-system call at a time, and what the calls do
to the files. -/
namespace PypnmCmts

open CallTree PyNumber PyJson

inductive FileCall
  | mkdir (path : PosixPath)
  | rmdir (path : PosixPath)
  | stat (path : PosixPath)
  | pathExists (path : PosixPath)
  | readText (path : PosixPath)
  | createExclusive (path : PosixPath) (record : StoredRecord)
  | writeText (path : PosixPath) (record : StoredRecord)
  | replace (source target : PosixPath)
  | unlink (path : PosixPath)
  | time

inductive MkdirReply
  | made
  | taken
  | failed
deriving DecidableEq

namespace FileCall

/-- `none` and `false` stand for an `OSError`, but for the `some false` of an exclusive creation
that leaves no record. -/
def Reply : FileCall → Type
  | mkdir _ => MkdirReply
  | rmdir _ => Unit
  | stat _ => Option ℚ
  | pathExists _ => Bool
  | readText _ => Option StateFile
  | createExclusive _ _ => Option Bool
  | writeText _ _ => Bool
  | replace _ _ => Bool
  | unlink _ => Bool
  | time => ℚ

/-- The paths that a call names. -/
def paths : FileCall → List PosixPath
  | mkdir path => [path]
  | rmdir path => [path]
  | stat path => [path]
  | pathExists path => [path]
  | readText path => [path]
  | createExclusive path _ => [path]
  | writeText path _ => [path]
  | replace source target => [source, target]
  | unlink path => [path]
  | time => []

end FileCall

/-- What `status` returns, with the ids and times of the record. -/
structure StoredStatus where
  isHolder : Bool
  record : StoredRecord
  remainingSeconds : PyFloat
  statePath : PosixPath
  message : String
deriving DecidableEq

/-- How a method ends. -/
inductive KeeperEnd
  | locked (result : Except Escaped StoredResult)
  | status (result : Except Raised StoredStatus)

abbrev FileProgram := CallTree FileCall FileCall.Reply Unit KeeperEnd

/-- A contender with the object whose files it works on. -/
structure PathKeeper extends RecordKeeper where
  object : CoordinationObject
  electionName_eq : electionName = codePoints object.electionName
  sgId_eq : sgId = object.sgId

inductive KeeperOp
  | locked (op : TtlLease.Op)
  | status
deriving DecidableEq

namespace PathKeeper
variable (py : Interpreter) (stateDir : PosixPath) (keeper : PathKeeper)

def staleLockMultiplier : ℚ := 2

def isLockStale (now mtime : ℚ) : Bool := now-mtime > keeper.ttlSeconds*staleLockMultiplier

def acquireLock (next : Bool → FileProgram) : FileProgram :=
  let lockPath := keeper.object.lockPath stateDir
  .call () (.mkdir lockPath) fun
    | .made => next true
    | .failed => next false
    | .taken =>
      .call () (.stat lockPath) fun
        | none => next false
        | some mtime =>
          .call () .time fun (now : ℚ) =>
            if keeper.isLockStale now mtime then
              .call () (.rmdir lockPath) fun _ =>
                .call () (.mkdir lockPath) fun
                  | .made => next true
                  | .taken => next false
                  -- only the first `mkdir` has its `OSError` caught
                  | .failed => .done () (.locked (.error .writing))
            else next false

/-- The `finally` of an operation. -/
def releaseLock (result : Except Escaped StoredResult) : FileProgram :=
  .call () (.rmdir (keeper.object.lockPath stateDir)) fun _ => .done () (.locked result)

def readRecord (next : Except Raised (StoredRecord × Bool) → FileProgram) : FileProgram :=
  let path := keeper.object.stateFile stateDir
  .call () (.pathExists path) fun found =>
    if !found then next (.ok (keeper.emptyRecord, false))
    else
      .call () (.readText path) fun
        | none => next (.ok (keeper.emptyRecord, false))
        | some file => next (keeper.toRecordScope.readRecord py .ok file)

/-- It goes on with whether it has raised. -/
def writeRecordReplace (record : StoredRecord) (next : Bool → FileProgram) : FileProgram :=
  let path := keeper.object.stateFile stateDir
  let tmpPath := keeper.object.temporaryPath stateDir
  .call () (.writeText tmpPath record) fun written =>
    if !written then next keeper.recordClass.replaceRaises
    else
      .call () (.replace tmpPath path) fun replaced =>
        if !replaced then next keeper.recordClass.replaceRaises else next false

def writeAcquired (valid : Bool) (record : StoredRecord) (next : Bool → FileProgram) :
    FileProgram :=
  if valid then keeper.writeRecordReplace stateDir record next
  else
    .call () (.createExclusive (keeper.object.stateFile stateDir) record) fun
      | none => next true
      | some true => next false
      | some false => keeper.writeRecordReplace stateDir record next

def tryAcquire : FileProgram :=
  keeper.acquireLock stateDir fun locked =>
    if !locked then .done () (.locked (.ok keeper.busyResult))
    else
      keeper.readRecord py stateDir fun
        | .error e => keeper.releaseLock stateDir (.error (.reading e))
        | .ok (record, valid) =>
          .call () .time fun (now : ℚ) =>
            let newRecord := keeper.newRecord now
            if valid && !record.isExpired now then
              if record.holderId = keeper.holderId then
                keeper.releaseLock stateDir (.ok ⟨keeper.recordClass.heldCounts, true, record,
                  record.remainingSeconds now, keeper.recordClass.messageAlready⟩)
              else
                keeper.releaseLock stateDir (.ok ⟨false, false, record,
                  record.remainingSeconds now, keeper.recordClass.messageHeld⟩)
            else
              keeper.writeAcquired stateDir valid newRecord fun raised =>
                if raised then keeper.releaseLock stateDir (.error .writing)
                else
                  keeper.releaseLock stateDir (.ok ⟨true, true, newRecord,
                    newRecord.remainingSeconds now, keeper.recordClass.messageAcquired⟩)

def renew : FileProgram :=
  keeper.acquireLock stateDir fun locked =>
    if !locked then .done () (.locked (.ok keeper.busyResult))
    else
      keeper.readRecord py stateDir fun
        | .error e => keeper.releaseLock stateDir (.error (.reading e))
        | .ok (record, valid) =>
          .call () .time fun (now : ℚ) =>
            if !valid || record.isExpired now then
              keeper.releaseLock stateDir (.ok ⟨false, false, record,
                record.remainingSeconds now, keeper.recordClass.messageNoActive⟩)
            else if record.holderId ≠ keeper.holderId then
              keeper.releaseLock stateDir (.ok ⟨false, false, record,
                record.remainingSeconds now, keeper.recordClass.messageNotHolder⟩)
            else
              let renewed := { record with expiresAt := .finite (now+keeper.ttlSeconds) }
              keeper.writeRecordReplace stateDir renewed fun raised =>
                if raised then keeper.releaseLock stateDir (.error .writing)
                else
                  keeper.releaseLock stateDir (.ok ⟨true, true, renewed,
                    renewed.remainingSeconds now, keeper.recordClass.messageRenewed⟩)

def release : FileProgram :=
  keeper.acquireLock stateDir fun locked =>
    if !locked then .done () (.locked (.ok keeper.busyResult))
    else
      keeper.readRecord py stateDir fun
        | .error e => keeper.releaseLock stateDir (.error (.reading e))
        | .ok (record, valid) =>
          if !valid || record.holderId ≠ keeper.holderId then
            keeper.releaseLock stateDir (.ok ⟨false, false, record, .finite 0,
              keeper.recordClass.messageNotHeld⟩)
          else
            .call () (.unlink (keeper.object.stateFile stateDir)) fun unlinked =>
              if !unlinked then
                keeper.releaseLock stateDir (.ok ⟨false, true, record, .finite 0,
                  keeper.recordClass.messageReleaseFailed⟩)
              else
                keeper.releaseLock stateDir (.ok ⟨true, false, keeper.emptyRecord, .finite 0,
                  keeper.recordClass.messageReleased⟩)

def messageStatusNone : String :=
  if keeper.object.sgId.isSome then "No active lease." else "No active leader."

def messageStatusPresent : String :=
  if keeper.object.sgId.isSome then "Lease record present." else "Leader record present."

def status : FileProgram :=
  keeper.readRecord py stateDir fun
    | .error e => .done () (.status (.error e))
    | .ok (record, valid) =>
      .call () .time fun (now : ℚ) =>
        if !valid || record.isExpired now then
          .done () (.status (.ok ⟨false, keeper.emptyRecord, .finite 0,
            keeper.object.stateFile stateDir, keeper.messageStatusNone⟩))
        else
          .done () (.status (.ok ⟨record.holderId = keeper.holderId, record,
            record.remainingSeconds now, keeper.object.stateFile stateDir,
            keeper.messageStatusPresent⟩))

def operation : KeeperOp → FileProgram
  | .locked .acquire => keeper.tryAcquire py stateDir
  | .locked .renew => keeper.renew py stateDir
  | .locked .release => keeper.release py stateDir
  | .status => keeper.status py stateDir

section Makes
variable {P : FileCall → Prop} {next : Bool → FileProgram}

/-- The calls that name paths of the object only. -/
def OwnCall (c : FileCall) : Prop := ∀ path ∈ c.paths, path ∈ keeper.object.paths stateDir

theorem ownCall_lockPath {c : FileCall} (h : c.paths = [keeper.object.lockPath stateDir]) :
    keeper.OwnCall stateDir c := by
  intro path hpath
  rw [h] at hpath
  obtain rfl := List.mem_singleton.mp hpath
  simp [CoordinationObject.paths]

theorem ownCall_stateFile {c : FileCall} (h : c.paths = [keeper.object.stateFile stateDir]) :
    keeper.OwnCall stateDir c := by
  intro path hpath
  rw [h] at hpath
  obtain rfl := List.mem_singleton.mp hpath
  simp [CoordinationObject.paths]

theorem makes_acquireLock (hnext : ∀ locked, (next locked).Makes (keeper.OwnCall stateDir)) :
    (keeper.acquireLock stateDir next).Makes (keeper.OwnCall stateDir) := by
  refine ⟨keeper.ownCall_lockPath stateDir rfl, ?_⟩
  rintro (_ | _ | _)
  · exact hnext true
  · refine ⟨keeper.ownCall_lockPath stateDir rfl, ?_⟩
    rintro (_ | mtime)
    · exact hnext false
    · refine ⟨by simp [OwnCall, FileCall.paths], ?_⟩
      intro now
      dsimp only
      split
      · refine ⟨keeper.ownCall_lockPath stateDir rfl, fun _ => ?_⟩
        refine ⟨keeper.ownCall_lockPath stateDir rfl, ?_⟩
        rintro (_ | _ | _)
        · exact hnext true
        · exact hnext false
        · trivial
      · exact hnext false
  · exact hnext false

theorem makes_releaseLock (result : Except Escaped StoredResult) :
    (keeper.releaseLock stateDir result).Makes (keeper.OwnCall stateDir) :=
  ⟨keeper.ownCall_lockPath stateDir rfl, fun _ => trivial⟩

theorem makes_readRecord {next : Except Raised (StoredRecord × Bool) → FileProgram}
    (hnext : ∀ read, (next read).Makes (keeper.OwnCall stateDir)) :
    (keeper.readRecord py stateDir next).Makes (keeper.OwnCall stateDir) := by
  refine ⟨keeper.ownCall_stateFile stateDir rfl, ?_⟩
  intro found
  dsimp only
  split
  · exact hnext _
  · refine ⟨keeper.ownCall_stateFile stateDir rfl, ?_⟩
    rintro (_ | file)
    · exact hnext _
    · exact hnext _

theorem makes_writeRecordReplace (record : StoredRecord)
    (hnext : ∀ raised, (next raised).Makes (keeper.OwnCall stateDir)) :
    (keeper.writeRecordReplace stateDir record next).Makes (keeper.OwnCall stateDir) := by
  have htmp : keeper.object.temporaryPath stateDir ∈ keeper.object.paths stateDir := by
    simp [CoordinationObject.paths]
  have hstate : keeper.object.stateFile stateDir ∈ keeper.object.paths stateDir := by
    simp [CoordinationObject.paths]
  refine ⟨?_, ?_⟩
  · intro path hpath
    obtain rfl := List.mem_singleton.mp hpath
    exact htmp
  · intro written
    dsimp only
    split
    · exact hnext _
    · refine ⟨?_, ?_⟩
      · intro path hpath
        rcases List.mem_pair.mp hpath with rfl | rfl
        · exact htmp
        · exact hstate
      · intro replaced
        dsimp only
        split
        · exact hnext _
        · exact hnext _

theorem makes_writeAcquired (valid : Bool) (record : StoredRecord)
    (hnext : ∀ raised, (next raised).Makes (keeper.OwnCall stateDir)) :
    (keeper.writeAcquired stateDir valid record next).Makes (keeper.OwnCall stateDir) := by
  simp only [writeAcquired]
  split
  · exact keeper.makes_writeRecordReplace stateDir record hnext
  · refine ⟨keeper.ownCall_stateFile stateDir rfl, ?_⟩
    rintro (_ | _ | _)
    · exact hnext _
    · exact keeper.makes_writeRecordReplace stateDir record hnext
    · exact hnext _

theorem ownCall_time : keeper.OwnCall stateDir .time := by simp [OwnCall, FileCall.paths]

/-- An operation that names the object's paths once it has read the record does so from its
start. -/
theorem makes_locked {body : Except Raised (StoredRecord × Bool) → FileProgram} (busy : KeeperEnd)
    (hbody : ∀ read, (body read).Makes (keeper.OwnCall stateDir)) :
    (keeper.acquireLock stateDir fun locked =>
      if !locked then .done () busy else keeper.readRecord py stateDir body).Makes
        (keeper.OwnCall stateDir) := by
  refine keeper.makes_acquireLock stateDir fun locked => ?_
  split
  · trivial
  · exact keeper.makes_readRecord py stateDir hbody

theorem makes_tryAcquire : (keeper.tryAcquire py stateDir).Makes (keeper.OwnCall stateDir) := by
  have hend := keeper.makes_releaseLock stateDir
  rw [tryAcquire]
  refine keeper.makes_locked py stateDir _ ?_
  rintro (e | ⟨record, valid⟩)
  · exact hend _
  · refine ⟨keeper.ownCall_time stateDir, fun (now : ℚ) => ?_⟩
    dsimp only
    split
    · split
      · exact hend _
      · exact hend _
    · refine keeper.makes_writeAcquired stateDir valid _ fun raised => ?_
      split
      · exact hend _
      · exact hend _

theorem makes_renew : (keeper.renew py stateDir).Makes (keeper.OwnCall stateDir) := by
  have hend := keeper.makes_releaseLock stateDir
  rw [renew]
  refine keeper.makes_locked py stateDir _ ?_
  rintro (e | ⟨record, valid⟩)
  · exact hend _
  · refine ⟨keeper.ownCall_time stateDir, fun (now : ℚ) => ?_⟩
    dsimp only
    split
    · exact hend _
    · split
      · exact hend _
      · refine keeper.makes_writeRecordReplace stateDir _ fun raised => ?_
        split
        · exact hend _
        · exact hend _

theorem makes_release : (keeper.release py stateDir).Makes (keeper.OwnCall stateDir) := by
  have hend := keeper.makes_releaseLock stateDir
  rw [release]
  refine keeper.makes_locked py stateDir _ ?_
  rintro (e | ⟨record, valid⟩)
  · exact hend _
  · dsimp only
    split
    · exact hend _
    · refine ⟨keeper.ownCall_stateFile stateDir rfl, fun unlinked => ?_⟩
      dsimp only
      split
      · exact hend _
      · exact hend _

theorem makes_status : (keeper.status py stateDir).Makes (keeper.OwnCall stateDir) := by
  rw [status]
  refine keeper.makes_readRecord py stateDir ?_
  rintro (e | ⟨record, valid⟩)
  · trivial
  · refine ⟨keeper.ownCall_time stateDir, fun (now : ℚ) => ?_⟩
    dsimp only
    split
    · trivial
    · trivial

/-- An operation names the paths of its object and no others. -/
theorem makes_operation (op : KeeperOp) :
    (keeper.operation py stateDir op).Makes (keeper.OwnCall stateDir) := by
  rcases op with (_ | _ | _) | _
  · exact keeper.makes_tryAcquire py stateDir
  · exact keeper.makes_renew py stateDir
  · exact keeper.makes_release py stateDir
  · exact keeper.makes_status py stateDir

end Makes
end PathKeeper

/-- What is at a path. -/
inductive FileNode
  | state (file : StateFile)
  | directory (mtime : ℚ)
deriving DecidableEq

/-- The clock at a call, whether the call fails, and what else the file system decides: how an
exclusive creation ends, what a failing write leaves, and the modification time of a file. -/
structure FileAnswer where
  now : ℚ
  fails : Bool
  create : CreateEnd
  torn : Option (List UInt8)
  mtime : ℚ

/-- Nothing fails. -/
def FileAnswer.ok (now : ℚ) : FileAnswer := ⟨now, false, .written, none, now⟩

namespace StateDirectory

/-- A call that looks at one place. -/
def act {β : Type} (s : PosixPath.Place → FileNode) (place : PosixPath.Place)
    (f : FileNode → β × FileNode) : β × (PosixPath.Place → FileNode) :=
  ((f (s place)).1, Function.update s place (f (s place)).2)

def mkdirNode (e : FileAnswer) : FileNode → MkdirReply × FileNode
  | .state .missing =>
    if e.fails then (.failed, .state .missing) else (.made, .directory e.now)
  | node => (if e.fails then .failed else .taken, node)

def rmdirNode (e : FileAnswer) : FileNode → Unit × FileNode
  | .directory mtime => ((), if e.fails then .directory mtime else .state .missing)
  | node => ((), node)

def statNode (e : FileAnswer) : FileNode → Option ℚ × FileNode
  | .state .missing => (none, .state .missing)
  | .directory mtime => (if e.fails then none else some mtime, .directory mtime)
  | node => (if e.fails then none else some e.mtime, node)

def existsNode : FileNode → Bool × FileNode
  | .state .missing => (false, .state .missing)
  | node => (true, node)

def readNode (e : FileAnswer) : FileNode → Option StateFile × FileNode
  | .state .missing => (none, .state .missing)
  | .state file => (if e.fails then none else some file, .state file)
  | node => (none, node)

def createNode (e : FileAnswer) (record : StoredRecord) : FileNode → Option Bool × FileNode
  | .state file =>
    let (created, file) := StateFile.writeRecordAtomic
      { DiskIo.ok with create := e.create } record file
    (created, .state file)
  | node => (if e.create = .openFails then none else some false, node)

def writeNode (e : FileAnswer) (record : StoredRecord) : FileNode → Bool × FileNode
  | .state file =>
    if e.fails then (false, .state ((e.torn.map StateFile.octets).getD file))
    else (true, .state (.dumped record))
  | node => (false, node)

def unlinkNode (e : FileAnswer) : FileNode → Bool × FileNode
  | .state file => if e.fails then (false, .state file) else (true, .state .missing)
  | node => (false, node)

def replaceNodes (e : FileAnswer) (s : PosixPath.Place → FileNode)
    (source target : PosixPath.Place) :
    Bool × (PosixPath.Place → FileNode) :=
  match s source, s target with
  | .state .missing, _ => (false, s)
  | .state file, .state _ =>
    if e.fails then (false, s)
    else
      (true, Function.update (Function.update s source (.state .missing)) target (.state file))
  | _, _ => (false, s)

/-- What a call does to the files: its paths lead to them from the working directory. -/
def handle (cwd : PosixPath.Place) (e : FileAnswer) :
    (c : FileCall) → (PosixPath.Place → FileNode) → c.Reply × (PosixPath.Place → FileNode)
  | .mkdir path, s => act s (path.resolve cwd) (mkdirNode e)
  | .rmdir path, s => act s (path.resolve cwd) (rmdirNode e)
  | .stat path, s => act s (path.resolve cwd) (statNode e)
  | .pathExists path, s => act s (path.resolve cwd) existsNode
  | .readText path, s => act s (path.resolve cwd) (readNode e)
  | .createExclusive path record, s => act s (path.resolve cwd) (createNode e record)
  | .writeText path record, s => act s (path.resolve cwd) (writeNode e record)
  | .replace source target, s => replaceNodes e s (source.resolve cwd) (target.resolve cwd)
  | .unlink path, s => act s (path.resolve cwd) (unlinkNode e)
  | .time, s => (e.now, s)

theorem act_frame {β : Type} (s : PosixPath.Place → FileNode) (place : PosixPath.Place)
    (f : FileNode → β × FileNode) (k : PosixPath.Place) (hk : k ∉ [place]) :
    (act s place f).2 k = s k :=
  Function.update_of_ne (fun h => hk (List.mem_singleton.mpr h)) _ _

theorem act_reads {β : Type} {s s' : PosixPath.Place → FileNode} (place : PosixPath.Place)
    (f : FileNode → β × FileNode) (h : Set.EqOn s s' {k | k ∈ [place]}) :
    (act s place f).1 = (act s' place f).1 ∧
      Set.EqOn (act s place f).2 (act s' place f).2 {k | k ∈ [place]} := by
  have hp : s place = s' place := h (List.mem_singleton.mpr rfl)
  refine ⟨by simp only [act, hp], ?_⟩
  intro k hk
  obtain rfl := List.mem_singleton.mp hk
  simp only [act, hp, Function.update_self]

theorem replaceNodes_frame (e : FileAnswer) (s : PosixPath.Place → FileNode)
    (source target k : PosixPath.Place) (hk : k ∉ [source, target]) :
    (replaceNodes e s source target).2 k = s k := by
  simp only [List.mem_cons, List.not_mem_nil, or_false, not_or] at hk
  simp only [replaceNodes]
  split
  · rfl
  · split
    · rfl
    · exact (Function.update_of_ne hk.2 _ _).trans (Function.update_of_ne hk.1 _ _)
  · rfl

theorem replaceNodes_reads (e : FileAnswer) {s s' : PosixPath.Place → FileNode}
    (source target : PosixPath.Place) (h : Set.EqOn s s' {k | k ∈ [source, target]}) :
    (replaceNodes e s source target).1 = (replaceNodes e s' source target).1 ∧
      Set.EqOn (replaceNodes e s source target).2 (replaceNodes e s' source target).2
        {k | k ∈ [source, target]} := by
  have hs : s source = s' source := h (by simp)
  have ht : s target = s' target := h (by simp)
  simp only [replaceNodes, ← hs, ← ht]
  split
  · exact ⟨rfl, h⟩
  · split
    · exact ⟨rfl, h⟩
    · refine ⟨rfl, ?_⟩
      intro k hk
      by_cases htarget : k = target
      · simp [htarget]
      · by_cases hsource : k = source
        · simp [hsource, Function.update_apply]
        · simp only [Function.update_of_ne htarget, Function.update_of_ne hsource]
          exact h hk
  · exact ⟨rfl, h⟩

/-- The files under the calls of the operations. -/
def fileStore (cwd : PosixPath.Place) :
    CellStore FileCall FileCall.Reply PosixPath.Place FileNode FileAnswer where
  handle := handle cwd
  cells c := {place | place ∈ c.paths.map fun path => path.resolve cwd}
  frame e c s k hk := by
    cases c with
    | replace source target => exact replaceNodes_frame e s _ _ k hk
    | time => rfl
    | _ => exact act_frame s _ _ k hk
  reads e c s s' h := by
    cases c with
    | replace source target => exact replaceNodes_reads e _ _ h
    | time => exact ⟨rfl, h⟩
    | _ => exact act_reads _ _ h

end StateDirectory

namespace PathKeeper
variable (py : Interpreter) (cwd : PosixPath.Place) (stateDir : PosixPath) (keeper : PathKeeper)
  (now : ℚ)

/-- The program on the files, when nothing fails and nobody else is at work. -/
def runAlone (program : FileProgram) (s : PosixPath.Place → FileNode) :
    (Unit × KeeperEnd) × (PosixPath.Place → FileNode) :=
  run (StateDirectory.handle cwd (.ok now)) program s

def statePlace : PosixPath.Place := (keeper.object.stateFile stateDir).resolve cwd

def lockPlace : PosixPath.Place := (keeper.object.lockPath stateDir).resolve cwd

def temporaryPlace : PosixPath.Place := (keeper.object.temporaryPath stateDir).resolve cwd

theorem resolve_stateFile :
    (keeper.object.stateFile stateDir).resolve cwd = keeper.statePlace cwd stateDir := rfl

theorem resolve_lockPath :
    (keeper.object.lockPath stateDir).resolve cwd = keeper.lockPlace cwd stateDir := rfl

theorem resolve_temporaryPath :
    (keeper.object.temporaryPath stateDir).resolve cwd = keeper.temporaryPlace cwd stateDir := rfl

theorem statePlace_ne_lockPlace : keeper.statePlace cwd stateDir ≠ keeper.lockPlace cwd stateDir :=
  keeper.object.stateFile_ne_lockPath cwd stateDir keeper.object

theorem statePlace_ne_temporaryPlace :
    keeper.statePlace cwd stateDir ≠ keeper.temporaryPlace cwd stateDir :=
  keeper.object.stateFile_ne_temporaryPath cwd stateDir keeper.object

theorem lockPlace_ne_temporaryPlace :
    keeper.lockPlace cwd stateDir ≠ keeper.temporaryPlace cwd stateDir :=
  keeper.object.lockPath_ne_temporaryPath cwd stateDir keeper.object

/-- The files of the object while its lock is held. -/
structure Shows (file : StateFile) (s : PosixPath.Place → FileNode) : Prop where
  state : s (keeper.statePlace cwd stateDir) = .state file
  lock : s (keeper.lockPlace cwd stateDir) = .directory now
  temporary : ∃ old, s (keeper.temporaryPlace cwd stateDir) = .state old

variable {now} {s : PosixPath.Place → FileNode} {file : StateFile}

theorem runAlone_acquireLock (hlock : s (keeper.lockPlace cwd stateDir) = .state .missing)
    (hstate : s (keeper.statePlace cwd stateDir) = .state file)
    (htmp : ∃ old, s (keeper.temporaryPlace cwd stateDir) = .state old)
    (next : Bool → FileProgram) :
    ∃ s', keeper.Shows cwd stateDir now file s' ∧
      runAlone cwd now (keeper.acquireLock stateDir next) s = runAlone cwd now (next true) s' := by
  refine ⟨Function.update s (keeper.lockPlace cwd stateDir) (.directory now), ⟨?_, ?_, ?_⟩, ?_⟩
  · rwa [Function.update_of_ne (keeper.statePlace_ne_lockPlace cwd stateDir)]
  · exact Function.update_self _ _ _
  · rwa [Function.update_of_ne (keeper.lockPlace_ne_temporaryPlace cwd stateDir).symm]
  · simp only [runAlone, acquireLock, run_call, StateDirectory.handle, resolve_lockPath,
      StateDirectory.act, StateDirectory.mkdirNode, hlock, FileAnswer.ok]
    rfl

theorem runAlone_releaseLock (h : keeper.Shows cwd stateDir now file s)
    (result : Except Escaped StoredResult) :
    ∃ s', runAlone cwd now (keeper.releaseLock stateDir result) s = (((), .locked result), s') ∧
      s' (keeper.statePlace cwd stateDir) = .state file ∧
      s' (keeper.lockPlace cwd stateDir) = .state .missing := by
  refine ⟨Function.update s (keeper.lockPlace cwd stateDir) (.state .missing), ?_, ?_, ?_⟩
  · simp only [runAlone, releaseLock, run_call, run_done, StateDirectory.handle, resolve_lockPath,
      StateDirectory.act, StateDirectory.rmdirNode, h.lock, FileAnswer.ok]
    rfl
  · rw [Function.update_of_ne (keeper.statePlace_ne_lockPlace cwd stateDir)]
    exact h.state
  · exact Function.update_self _ _ _

theorem runAlone_readRecord (h : keeper.Shows cwd stateDir now file s)
    (next : Except Raised (StoredRecord × Bool) → FileProgram) :
    runAlone cwd now (keeper.readRecord py stateDir next) s =
      runAlone cwd now (next (keeper.toRecordScope.readRecord py .ok file)) s := by
  have hself : Function.update s (keeper.statePlace cwd stateDir) (.state file) = s := by
    rw [← h.state, Function.update_eq_self]
  cases file with
  | missing =>
    simp only [runAlone, readRecord, run_call, StateDirectory.handle, resolve_stateFile,
      StateDirectory.act, StateDirectory.existsNode, h.state, hself]
    rfl
  | octets content =>
    simp [runAlone, readRecord, run_call, StateDirectory.handle, resolve_stateFile,
      StateDirectory.act, StateDirectory.existsNode, StateDirectory.readNode, h.state, hself,
      FileAnswer.ok]
  | dumped record =>
    simp [runAlone, readRecord, run_call, StateDirectory.handle, resolve_stateFile,
      StateDirectory.act, StateDirectory.existsNode, StateDirectory.readNode, h.state, hself,
      FileAnswer.ok]

theorem runAlone_writeRecordReplace (h : keeper.Shows cwd stateDir now file s)
    (record : StoredRecord)
    (next : Bool → FileProgram) :
    ∃ s', keeper.Shows cwd stateDir now (.dumped record) s' ∧
      runAlone cwd now (keeper.writeRecordReplace stateDir record next) s =
        runAlone cwd now (next false) s' := by
  obtain ⟨old, hold⟩ := h.temporary
  have hne := keeper.statePlace_ne_temporaryPlace cwd stateDir
  have hlock := keeper.lockPlace_ne_temporaryPlace cwd stateDir
  have hlock' := keeper.statePlace_ne_lockPlace cwd stateDir
  -- the record is written to the temporary path and then moved over the state file
  let written := Function.update s (keeper.temporaryPlace cwd stateDir)
    (.state (.dumped record))
  let moved := Function.update written (keeper.temporaryPlace cwd stateDir) (.state .missing)
  have hstate : written (keeper.statePlace cwd stateDir) = .state file :=
    (Function.update_of_ne hne _ _).trans h.state
  have htmp : written (keeper.temporaryPlace cwd stateDir) = .state (.dumped record) :=
    Function.update_self _ _ _
  refine ⟨Function.update moved (keeper.statePlace cwd stateDir) (.state (.dumped record)),
    ⟨?_, ?_, .missing, ?_⟩, ?_⟩
  · exact Function.update_self _ _ _
  · have hkept : moved (keeper.lockPlace cwd stateDir) = .directory now :=
      (Function.update_of_ne hlock _ _).trans ((Function.update_of_ne hlock _ _).trans h.lock)
    rwa [Function.update_of_ne hlock'.symm]
  · rw [Function.update_of_ne hne.symm]
    exact Function.update_self _ _ _
  · have hwrite : StateDirectory.handle cwd (.ok now)
        (.writeText (keeper.object.temporaryPath stateDir) record) s = (true, written) := by
      simp only [StateDirectory.handle,
      resolve_temporaryPath, StateDirectory.act, StateDirectory.writeNode, hold,
        FileAnswer.ok, Bool.false_eq_true, if_false]
      rfl
    have hmove : StateDirectory.handle cwd (.ok now)
        (.replace (keeper.object.temporaryPath stateDir)
        (keeper.object.stateFile stateDir)) written =
        (true, Function.update moved (keeper.statePlace cwd stateDir)
          (.state (.dumped record))) := by
      simp only [StateDirectory.handle, resolve_stateFile, resolve_temporaryPath,
        StateDirectory.replaceNodes, hstate, htmp, FileAnswer.ok,
        Bool.false_eq_true, if_false]
      rfl
    simp [runAlone, writeRecordReplace, run_call, hwrite, hmove]

theorem runAlone_writeAcquired (h : keeper.Shows cwd stateDir now file s) (valid : Bool)
    (record : StoredRecord) (next : Bool → FileProgram) :
    ∃ s', keeper.Shows cwd stateDir now
        (StateFile.writeAcquired keeper.recordClass .ok valid record file).2 s' ∧
      runAlone cwd now (keeper.writeAcquired stateDir valid record next) s =
        runAlone cwd now
          (next (StateFile.writeAcquired keeper.recordClass .ok valid record file).1) s' := by
  have hreplace := keeper.runAlone_writeRecordReplace cwd stateDir h record next
  cases valid with
  | true =>
    simpa [writeAcquired, StateFile.writeAcquired, StateFile.writeRecordReplace] using hreplace
  | false =>
    have hself : Function.update s (keeper.statePlace cwd stateDir) (.state file) = s := by
      rw [← h.state, Function.update_eq_self]
    cases file with
    -- the file is created at once, with no temporary file between
    | missing =>
      refine ⟨Function.update s (keeper.statePlace cwd stateDir) (.state (.dumped record)),
        ⟨?_, ?_, ?_⟩, ?_⟩
      · exact Function.update_self _ _ _
      · rw [Function.update_of_ne
          (keeper.statePlace_ne_lockPlace cwd stateDir).symm]
        exact h.lock
      · rw [Function.update_of_ne
          (keeper.statePlace_ne_temporaryPlace cwd stateDir).symm]
        exact h.temporary
      · simp [runAlone, writeAcquired, run_call, StateDirectory.handle, resolve_stateFile,
          StateDirectory.act, StateDirectory.createNode, h.state, StateFile.writeAcquired,
          StateFile.writeRecordAtomic, FileAnswer.ok]
    | octets content =>
      simpa [runAlone, writeAcquired, run_call, StateDirectory.handle, resolve_stateFile,
        resolve_lockPath, resolve_temporaryPath, StateDirectory.act, StateDirectory.createNode,
        h.state, hself, StateFile.writeAcquired, StateFile.writeRecordReplace,
        StateFile.writeRecordAtomic, FileAnswer.ok] using hreplace
    | dumped old =>
      simpa [runAlone, writeAcquired, run_call, StateDirectory.handle, resolve_stateFile,
        resolve_lockPath, resolve_temporaryPath, StateDirectory.act, StateDirectory.createNode,
        h.state, hself, StateFile.writeAcquired, StateFile.writeRecordReplace,
        StateFile.writeRecordAtomic, FileAnswer.ok] using hreplace

theorem runAlone_unlink (h : keeper.Shows cwd stateDir now file s) :
    ∃ s', keeper.Shows cwd stateDir now .missing s' ∧
      ∀ next, runAlone cwd now (.call () (.unlink (keeper.object.stateFile stateDir)) next) s =
        runAlone cwd now (next true) s' := by
  refine ⟨Function.update s (keeper.statePlace cwd stateDir) (.state .missing), ⟨?_, ?_, ?_⟩, ?_⟩
  · exact Function.update_self _ _ _
  · rw [Function.update_of_ne (keeper.statePlace_ne_lockPlace cwd stateDir).symm]
    exact h.lock
  · rw [Function.update_of_ne (keeper.statePlace_ne_temporaryPlace cwd stateDir).symm]
    exact h.temporary
  · intro next
    have hunlink : StateDirectory.handle cwd (.ok now)
        (.unlink (keeper.object.stateFile stateDir)) s =
        (true, Function.update s (keeper.statePlace cwd stateDir) (.state .missing)) := by
      simp only [StateDirectory.handle, resolve_stateFile,
      StateDirectory.act, StateDirectory.unlinkNode, h.state,
        FileAnswer.ok]
      rfl
    rw [runAlone, run_call, hunlink]
    rfl

/-- The first steps of an operation: with the lock taken, it has read the record file. -/
theorem runAlone_locked (hlock : s (keeper.lockPlace cwd stateDir) = .state .missing)
    (hstate : s (keeper.statePlace cwd stateDir) = .state file)
    (htmp : ∃ old, s (keeper.temporaryPlace cwd stateDir) = .state old) (busy : FileProgram)
    (next : Except Raised (StoredRecord × Bool) → FileProgram) :
    ∃ s', keeper.Shows cwd stateDir now file s' ∧
      runAlone cwd now (keeper.acquireLock stateDir fun locked =>
        if !locked then busy else keeper.readRecord py stateDir next) s =
        runAlone cwd now (next (keeper.toRecordScope.readRecord py .ok file)) s' := by
  obtain ⟨s', hshows, hrun⟩ := keeper.runAlone_acquireLock cwd stateDir hlock hstate htmp
    fun locked => if !locked then busy else keeper.readRecord py stateDir next
  refine ⟨s', hshows, ?_⟩
  rw [hrun, Bool.not_true, if_neg Bool.false_ne_true,
    keeper.runAlone_readRecord py cwd stateDir hshows]

variable (now s) in
/-- Run alone, the program returns `outcome.1`, leaves `outcome.2` in the record file, and the
lock free. -/
def EndsIn (program : FileProgram) (outcome : Except Escaped StoredResult × StateFile) : Prop :=
  ∃ s', runAlone cwd now program s = (((), .locked outcome.1), s') ∧
    s' (keeper.statePlace cwd stateDir) = .state outcome.2 ∧
    s' (keeper.lockPlace cwd stateDir) = .state .missing

theorem runAlone_time (next : ℚ → FileProgram) (s : PosixPath.Place → FileNode) :
    runAlone cwd now (.call () .time next) s = runAlone cwd now (next now) s := rfl

theorem runAlone_tryAcquire (hlock : s (keeper.lockPlace cwd stateDir) = .state .missing)
    (hstate : s (keeper.statePlace cwd stateDir) = .state file)
    (htmp : ∃ old, s (keeper.temporaryPlace cwd stateDir) = .state old) :
    keeper.EndsIn cwd stateDir now s (keeper.tryAcquire py stateDir)
      (keeper.perform py .acquire .ok now file) := by
  obtain ⟨held, hheld, hrun⟩ := keeper.runAlone_locked py cwd stateDir hlock hstate htmp _ _
  unfold EndsIn
  rw [tryAcquire, hrun]
  simp only [RecordKeeper.perform, RecordKeeper.tryAcquire, DiskIo.lockFree_ok, Bool.not_true,
    Bool.false_eq_true, if_false]
  cases keeper.toRecordScope.readRecord py .ok file with
  | error e => exact keeper.runAlone_releaseLock cwd stateDir hheld _
  | ok read =>
    obtain ⟨record, valid⟩ := read
    simp only [runAlone_time]
    split
    · -- the record is in force: the file stays as it is
      split
      · exact keeper.runAlone_releaseLock cwd stateDir hheld _
      · exact keeper.runAlone_releaseLock cwd stateDir hheld _
    · obtain ⟨written, hwritten, hrest⟩ := keeper.runAlone_writeAcquired cwd stateDir hheld valid
        (keeper.newRecord now) fun raised => if raised then _ else _
      rw [hrest]
      rcases hw : StateFile.writeAcquired keeper.recordClass .ok valid (keeper.newRecord now) file
        with ⟨_ | _, file'⟩
      · rw [hw] at hwritten
        exact keeper.runAlone_releaseLock cwd stateDir hwritten _
      · rw [hw] at hwritten
        exact keeper.runAlone_releaseLock cwd stateDir hwritten _

theorem runAlone_renew (hlock : s (keeper.lockPlace cwd stateDir) = .state .missing)
    (hstate : s (keeper.statePlace cwd stateDir) = .state file)
    (htmp : ∃ old, s (keeper.temporaryPlace cwd stateDir) = .state old) :
    keeper.EndsIn cwd stateDir now s (keeper.renew py stateDir)
      (keeper.perform py .renew .ok now file) := by
  obtain ⟨held, hheld, hrun⟩ := keeper.runAlone_locked py cwd stateDir hlock hstate htmp _ _
  unfold EndsIn
  rw [renew, hrun]
  simp only [RecordKeeper.perform, RecordKeeper.renew, DiskIo.lockFree_ok, Bool.not_true,
    Bool.false_eq_true, if_false]
  cases keeper.toRecordScope.readRecord py .ok file with
  | error e => exact keeper.runAlone_releaseLock cwd stateDir hheld _
  | ok read =>
    obtain ⟨record, valid⟩ := read
    simp only [runAlone_time]
    split
    · exact keeper.runAlone_releaseLock cwd stateDir hheld _
    · split
      · exact keeper.runAlone_releaseLock cwd stateDir hheld _
      · obtain ⟨written, hwritten, hrest⟩ := keeper.runAlone_writeRecordReplace cwd stateDir hheld
          { record with expiresAt := .finite (now+keeper.ttlSeconds) }
          fun raised => if raised then _ else _
        rw [hrest]
        exact keeper.runAlone_releaseLock cwd stateDir hwritten _

theorem runAlone_release (hlock : s (keeper.lockPlace cwd stateDir) = .state .missing)
    (hstate : s (keeper.statePlace cwd stateDir) = .state file)
    (htmp : ∃ old, s (keeper.temporaryPlace cwd stateDir) = .state old) :
    keeper.EndsIn cwd stateDir now s (keeper.release py stateDir)
      (keeper.perform py .release .ok now file) := by
  obtain ⟨held, hheld, hrun⟩ := keeper.runAlone_locked py cwd stateDir hlock hstate htmp _ _
  unfold EndsIn
  rw [release, hrun]
  simp only [RecordKeeper.perform, RecordKeeper.release, DiskIo.lockFree_ok, Bool.not_true,
    Bool.false_eq_true, if_false]
  cases keeper.toRecordScope.readRecord py .ok file with
  | error e => exact keeper.runAlone_releaseLock cwd stateDir hheld _
  | ok read =>
    obtain ⟨record, valid⟩ := read
    dsimp only
    split
    · exact keeper.runAlone_releaseLock cwd stateDir hheld _
    · obtain ⟨gone, hgone, hrest⟩ := keeper.runAlone_unlink cwd stateDir hheld
      rw [hrest]
      exact keeper.runAlone_releaseLock cwd stateDir hgone _

/-- An operation that has the files for itself is the one on the record file. -/
theorem runAlone_operation (op : TtlLease.Op)
    (hlock : s (keeper.lockPlace cwd stateDir) = .state .missing)
    (hstate : s (keeper.statePlace cwd stateDir) = .state file)
    (htmp : ∃ old, s (keeper.temporaryPlace cwd stateDir) = .state old) :
    ∃ s', runAlone cwd now (keeper.operation py stateDir (.locked op)) s =
        (((), .locked (keeper.perform py op .ok now file).1), s') ∧
      s' (keeper.statePlace cwd stateDir) = .state (keeper.perform py op .ok now file).2 ∧
      s' (keeper.lockPlace cwd stateDir) = .state .missing := by
  cases op with
  | acquire => exact keeper.runAlone_tryAcquire py cwd stateDir hlock hstate htmp
  | renew => exact keeper.runAlone_renew py cwd stateDir hlock hstate htmp
  | release => exact keeper.runAlone_release py cwd stateDir hlock hstate htmp

end PathKeeper
end PypnmCmts
