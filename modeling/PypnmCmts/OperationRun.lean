import Mathlib.Algebra.Field.Rat
import PypnmCmts.LabelledRun
import PypnmCmts.OperationRunner
import PypnmCmts.OrderedDict

/-! One run of the runner on an operation, beside any number of `request_cancel` calls. A step
of the runner is one access to the store, to a future or to the clock. -/
namespace PypnmCmts

open LabelledRun OperationRunner OperationStore

/-- How a worker call ends. The last case is a `BaseException` that is no `Exception`. -/
inductive WorkerOutcome
  | result (result : OperationWorkerResultModel)
  | exception (message : String)
  | fatal
deriving DecidableEq

inductive FutureState
  | pending | running | cancelled
  | finished (outcome : WorkerOutcome)
deriving DecidableEq

namespace FutureState

def done : FutureState → Bool
  | pending | running => false
  | cancelled | finished _ => true

/-- `Future.cancel`: only a call that has not begun can be cancelled. -/
def cancel : FutureState → FutureState
  | pending => cancelled
  | s => s

def start : FutureState → FutureState
  | pending => running
  | s => s

def finish (outcome : WorkerOutcome) : FutureState → FutureState
  | running => finished outcome
  | s => s

/-- `_resolve_future_result`, where `none` lets the exception through. -/
def resolve (nowEpoch : TimestampSec) : FutureState → Option OperationWorkerResultModel
  | finished (.result result) => some result
  | finished (.exception message) => some (failureResult message nowEpoch)
  -- a `CancelledError`, whose text is empty
  | cancelled => some (failureResult "" nowEpoch)
  | finished .fatal | pending | running => none

end FutureState

/-- A work item in the loop. Its index in the list of work items is a ghost. -/
structure QueuedItem where
  index : ℕ
  item : OperationWorkItemModel
deriving DecidableEq

def QueuedItem.retry (q : QueuedItem) : QueuedItem :=
  { q with item := { q.item with attempt := q.item.attempt+1 } }

/-- An entry of `pending` or `abandoned`. -/
structure InFlight where
  queued : QueuedItem
  startTime : ℚ

abbrev FutureDict := OrderedDict ℕ InFlight

/-- The result `_handle_result` gets for an item, and the future it was submitted as. -/
structure HandledResult where
  future : ℕ
  queued : QueuedItem
  result : OperationWorkerResultModel
deriving DecidableEq

/-- The local variables of the main loop. -/
structure LoopVars where
  state : OperationStateModel
  execution : OperationExecutionModel
  overallDeadline : ℚ
  queue : List QueuedItem
  pending : FutureDict
  abandoned : FutureDict
  retryQueue : List (ℚ × QueuedItem)

namespace LoopVars

/-- The condition of the loop fails. -/
def drained (l : LoopVars) : Bool :=
  l.queue.isEmpty && l.pending.entries.isEmpty && l.abandoned.entries.isEmpty &&
    l.retryQueue.isEmpty

def futures (l : LoopVars) : List ℕ := l.pending.keys ++ l.abandoned.keys

def inFlight (l : LoopVars) : ℕ := l.pending.keys.length+l.abandoned.keys.length

/-- Retries whose time has come go to the queue in the order of their times. -/
def releaseRetries (now : ℚ) (l : LoopVars) : LoopVars :=
  let ready := l.retryQueue.filter fun entry => entry.1 ≤ now
  { l with
    retryQueue := l.retryQueue.filter fun entry => now < entry.1
    queue := l.queue ++ (ready.insertionSort fun a b => a.1 ≤ b.1).map Prod.snd }

end LoopVars

/-- What is left of one pass through the loop after its `wait`. -/
structure Round where
  done : List ℕ
  now : ℚ
  timedOut : List ℕ

/-- Where the runner stands within the loop. -/
inductive LoopPhase
  | head
  | deadline
  | retries
  | submitting
  | waiting
  | scanning (done : List ℕ) (now : ℚ) (todo : List (ℕ × InFlight)) (timedOut : List ℕ)
  | dispatch (round : Round)
  | retrying (round : Round)
  | persisting (handled : HandledResult) (todo : List OperationStageResultModel) (round : Round)

/-- Why the runner loads the state a last time. The last case is `_run_operation`. -/
inductive Closing
  | cancelled
  | failed (message : String)
  | crashed (message : String)

inductive RunnerPc
  | starting
  | transitioned (state : OperationStateModel)
  | emptyScope (state : OperationStateModel)
  | sized (state : OperationStateModel)
  | preparing (state : OperationStateModel)
  | loop (vars : LoopVars) (phase : LoopPhase)
  | finishing (state : OperationStateModel)
  | closing (why : Closing)
  | closingSave (why : Closing) (state : OperationStateModel)
  | ended

/-- The operation's directory, the runner and the callers of `request_cancel`. The last three
fields are ghosts: the items submitted so far, in the order of their futures, what
`_handle_result` was called with, and the results it has counted. -/
structure OperationWorld (κ : Type*) where
  dir : OperationDir
  calls : κ → CancelCall
  pc : RunnerPc
  futures : ℕ → FutureState
  clock : ℚ
  epoch : TimestampSec
  submitted : List QueuedItem
  handled : List HandledResult
  finals : List HandledResult

inductive OperationAction (κ : Type*)
  /-- The next step of the runner; `done` is what `wait` returns. -/
  | run (done : List ℕ)
  /-- The step of the runner raises an exception instead. -/
  | raise (message : String)
  | cancel (caller : κ)
  | start (future : ℕ)
  | finish (future : ℕ) (outcome : WorkerOutcome)
  | advance (wait : ℚ≥0)
  | setEpoch (now : TimestampSec)

namespace OperationWorld
variable {κ : Type*}

/-- An operation directory before the runner and the callers touch it. -/
def initial (dir : OperationDir) (clock : ℚ) (epoch : TimestampSec) : OperationWorld κ where
  dir := dir
  calls _ := .loading
  pc := .starting
  futures _ := .pending
  clock := clock
  epoch := epoch
  submitted := []
  handled := []
  finals := []

/-- An operation that `create_operation` has just made. -/
def created (operationId : PnmCaptureOperationId) (summary : OperationRequestSummaryModel)
    (clock : ℚ) (epoch : TimestampSec) : OperationWorld κ :=
  initial ⟨createOperation operationId epoch summary, false, fun _ => []⟩ clock epoch

def goto (w : OperationWorld κ) (pc : RunnerPc) : OperationWorld κ := { w with pc := pc }

def save (w : OperationWorld κ) (state : OperationStateModel) : OperationWorld κ :=
  { w with dir := saveStateAtomic w.dir state }

def cancelFutures (w : OperationWorld κ) (fs : List ℕ) : OperationWorld κ :=
  { w with futures := fun f => if f ∈ fs then (w.futures f).cancel else w.futures f }

/-- `executor.submit` and the entry it gets in `pending`. -/
def submit (w : OperationWorld κ) (l : LoopVars) (q : QueuedItem) (rest : List QueuedItem) :
    OperationWorld κ :=
  let future := w.submitted.length
  { w with
    futures := Function.update w.futures future .pending
    submitted := w.submitted ++ [q]
    pc := .loop { l with queue := rest, pending := l.pending.insert future ⟨q, w.clock⟩ }
      .submitting }

/-- `_handle_result` up to its first access to the store. -/
def handleResult (w : OperationWorld κ) (l : LoopVars) (h : HandledResult) (round : Round) :
    OperationWorld κ :=
  let w := { w with handled := w.handled ++ [h] }
  if finalStatusCode h.result ≠ .success ∧ h.queued.item.attempt < l.execution.retryCount then
    let readyAt := w.clock+l.execution.retryDelaySeconds
    w.goto (.loop { l with retryQueue := l.retryQueue ++ [(readyAt, h.queued.retry)] }
      (.retrying round))
  else w.goto (.loop l (.persisting h h.result.stages round))

/-- The loops over `timed_out` and, after it, over `done`. -/
def dispatch (measurementTimeout : Option ServiceStatusCode) (w : OperationWorld κ)
    (l : LoopVars) (round : Round) : OperationWorld κ :=
  match round.timedOut with
  | future :: rest =>
    match l.pending.lookup future with
    | none => w.goto (.closing (.crashed "KeyError"))
    | some entry =>
      let l := { l with
        pending := l.pending.erase future
        abandoned := l.abandoned.insert future entry }
      -- `Future.cancel` stops only a future that no worker has taken
      (w.cancelFutures [future]).handleResult l
        ⟨future, entry.queued, timeoutResult measurementTimeout w.epoch⟩
        { round with timedOut := rest }
  | [] =>
    match round.done with
    | [] => w.goto (.loop l .head)
    | future :: rest =>
      let round := { round with done := rest }
      -- the result of an abandoned future comes too late and is dropped
      if future ∈ l.abandoned.keys then
        w.goto (.loop { l with abandoned := l.abandoned.erase future } (.dispatch round))
      else
        match l.pending.lookup future with
        | none => w.goto (.loop l (.dispatch round))
        | some entry =>
          let l := { l with pending := l.pending.erase future }
          -- a result that is there counts as a timeout if its time was up at the scan
          if l.execution.perModemTimeoutSeconds ≤ round.now-entry.startTime then
            w.handleResult l ⟨future, entry.queued, timeoutResult measurementTimeout w.epoch⟩ round
          -- `Future.result` waits for a future that is not done
          else if (w.futures future).done = false then w
          else
            match (w.futures future).resolve w.epoch with
            -- a `BaseException` of the worker ends the thread without a word in the file
            | none => w.goto .ended
            | some result => w.handleResult l ⟨future, entry.queued, result⟩ round

/-- `if state.state in {CANCELLED, FAILED}: return`, else the rest of the pass. -/
def afterResult (w : OperationWorld κ) (l : LoopVars) (round : Round) : OperationWorld κ :=
  if l.state.state = .cancelled ∨ l.state.state = .failed then w.goto .ended
  else w.goto (.loop l (.dispatch round))

/-- The copy that `_handle_result` saves for a result it counts. -/
def countedCopy (epoch : TimestampSec) (l : LoopVars) (h : HandledResult) : OperationStateModel :=
  touched epoch (updateCounters l.state h.result)

def loopStep (measurementTimeout : Option ServiceStatusCode) (done : List ℕ)
    (w : OperationWorld κ) (l : LoopVars) : LoopPhase → OperationWorld κ
  | .head =>
    if l.drained then w.goto (.finishing l.state)
    -- the flag is a file, read once in each pass
    else if isCancelRequested w.dir then (w.cancelFutures l.futures).goto (.closing .cancelled)
    else w.goto (.loop l .deadline)
  | .deadline =>
    if l.overallDeadline ≤ w.clock then
      (w.cancelFutures l.futures).goto (.closing (.failed defaultOverallTimeoutMessage))
    else w.goto (.loop l .retries)
  | .retries => w.goto (.loop (l.releaseRetries w.clock) .submitting)
  | .submitting =>
    match l.queue with
    | [] => w.goto (.loop l .waiting)
    | q :: rest =>
      if l.inFlight < l.execution.maxWorkers then w.submit l q rest
      else w.goto (.loop l .waiting)
  | .waiting =>
    if l.futures = [] then w.goto (.loop l .head)
    else
      let done := done.dedup.filter fun f => f ∈ l.futures ∧ (w.futures f).done
      w.goto (.loop l (.scanning done w.clock l.pending.entries []))
  | .scanning done now ((future, entry) :: todo) timedOut =>
    if (w.futures future).done = false ∧
        l.execution.perModemTimeoutSeconds ≤ now-entry.startTime then
      w.goto (.loop l (.scanning done now todo (timedOut ++ [future])))
    else w.goto (.loop l (.scanning done now todo timedOut))
  | .scanning done now [] timedOut => w.goto (.loop l (.dispatch ⟨done, now, timedOut⟩))
  | .dispatch round => w.dispatch measurementTimeout l round
  | .retrying round =>
    -- the retry has been queued already; only the time of the update is saved
    let updated := touched w.epoch l.state
    (w.save updated).afterResult { l with state := updated } round
  | .persisting h (stage :: todo) round =>
    let record := stageRecord l.state.operationId h.queued.item h.result.ipAddress stage
    { w with dir := appendResultRecord w.dir record, pc := .loop l (.persisting h todo round) }
  | .persisting h [] round =>
    let updated := countedCopy w.epoch l h
    { w.save updated with finals := w.finals ++ [h] }.afterResult { l with state := updated } round

/-- The variables with which the loop begins. -/
def loopVars (clock : ℚ) (state : OperationStateModel) : LoopVars :=
  let summary := state.requestSummary
  let items := buildWorkItems state.operationId summary.macAddresses summary.servingGroupIds
  { state := state
    execution := summary.execution
    overallDeadline := clock+summary.execution.overallTimeoutSeconds
    queue := items.mapIdx fun index item => ⟨index, item⟩
    pending := .empty
    abandoned := .empty
    retryQueue := [] }

/-- The copy saved by `_mark_cancelled` or `_mark_failed`. -/
def closingCopy (epoch : TimestampSec) (state : OperationStateModel) : Closing → OperationStateModel
  | .cancelled => markCancelled epoch state
  | .failed message | .crashed message => markFailed epoch message state

def runnerStep (measurementTimeout : Option ServiceStatusCode) (done : List ℕ)
    (w : OperationWorld κ) : OperationWorld κ :=
  match w.pc with
  | .starting => w.goto (.transitioned (transitionToRunning w.epoch w.dir.state))
  | .transitioned state =>
    if state.requestSummary.macAddresses = [] ∨ state.requestSummary.servingGroupIds = [] then
      (w.save state).goto (.emptyScope state)
    else
      -- the total counts the addresses, whatever the number of groups
      let total := state.requestSummary.macAddresses.length
      (w.save state).goto (.sized (withTotalModems total state))
  | .emptyScope state => (w.save (markCompleted w.epoch state 0)).goto .ended
  | .sized state => (w.save state).goto (.preparing state)
  | .preparing state =>
    -- `ThreadPoolExecutor(max_workers=0)` raises a `ValueError`
    if state.requestSummary.execution.maxWorkers = 0 then
      w.goto (.closing (.crashed "max_workers must be greater than 0"))
    else w.goto (.loop (loopVars w.clock state) .head)
  | .loop vars phase => w.loopStep measurementTimeout done vars phase
  | .finishing state => (w.save (terminalCopy w.epoch state)).goto .ended
  | .closing why => w.goto (.closingSave why w.dir.state)
  | .closingSave why state => (w.save (closingCopy w.epoch state why)).goto .ended
  | .ended => w

/-- An exception in the runner reaches `_run_operation`, unless it comes from the
`_mark_failed` made there. -/
def raiseAt (message : String) (w : OperationWorld κ) : OperationWorld κ :=
  match w.pc with
  | .ended | .closing (.crashed _) | .closingSave (.crashed _) _ => w.goto .ended
  | _ => w.goto (.closing (.crashed message))

variable [DecidableEq κ]

def cancelStep (w : OperationWorld κ) (caller : κ) : OperationWorld κ :=
  let r := requestCancel w.epoch w.dir (w.calls caller)
  { w with calls := Function.update w.calls caller r.1, dir := r.2 }

def step (measurementTimeout : Option ServiceStatusCode) (w : OperationWorld κ) :
    OperationAction κ → OperationWorld κ
  | .run done => w.runnerStep measurementTimeout done
  | .raise message => w.raiseAt message
  | .cancel caller => w.cancelStep caller
  | .start f => { w with futures := Function.update w.futures f (w.futures f).start }
  | .finish f outcome =>
    { w with futures := Function.update w.futures f ((w.futures f).finish outcome) }
  | .advance wait => { w with clock := w.clock+wait }
  | .setEpoch now => { w with epoch := now }

end OperationWorld
end PypnmCmts
