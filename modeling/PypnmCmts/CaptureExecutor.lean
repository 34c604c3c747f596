import Mathlib.Algebra.BigOperators.Group.Finset.Basic
import Mathlib.Algebra.Order.BigOperators.Group.Finset
import Mathlib.Data.Rat.Lemmas
import PypnmCmts.LabelledRun
import PypnmCmts.OperationModels
import PypnmCmts.OrderedDict
import PypnmCmts.RxMerResults
import PypnmCmts.SgwCacheStore

/-! `api/common/service/pnm/executor.py`: one call of `PnmCaptureExecutor.run`. Its tasks take
turns at their awaits only, so a step goes from one await to the next. Answers, clock readings and
the moments at which the timeouts fire are part of the labels. -/
namespace PypnmCmts

abbrev OperationId := String

/-- The response to a post. Its payload is for the parser only. -/
structure PnmHttpResponseModel where
  statusCode : ℤ := 0
  errorMessage : String := ""

structure PnmCaptureExecutionSettings where
  maxWorkers : ℕ
  retryCount : ℕ
  retryDelaySeconds : ℚ
  perModemTimeoutSeconds : ℚ
  overallTimeoutSeconds : ℚ
  one_le_maxWorkers : 1 ≤ maxWorkers

structure PnmCaptureJobModel where
  macAddress : MacAddressStr
  ipv4 : Option IPv4Str := none
  ipv6 : Option IPv6Str := none

structure PnmCaptureParsedModel where
  statusCode : Option ServiceStatusCode := none
  message : String := ""
  transactionId : Option TransactionId := none
  operationId : Option OperationId := none

/-- A result entry, with the bounds that its model puts on the numbers. -/
structure PnmCaptureResultModel where
  macAddress : MacAddressStr
  ipv4 : Option IPv4Str
  ipv6 : Option IPv6Str
  status : PnmCaptureStatus
  message : String
  transactionId : Option TransactionId
  operationId : Option OperationId
  attempts : ℕ
  httpStatus : ℤ
  pypnmStatus : Option ServiceStatusCode
  failureReason : Option PnmCaptureFailureReason
  startedEpoch : ℚ
  finishedEpoch : ℚ
  httpStatus_nonneg : 0 ≤ httpStatus
  startedEpoch_nonneg : 0 ≤ startedEpoch
  finishedEpoch_nonneg : 0 ≤ finishedEpoch

namespace PnmCaptureExecutor

def errorPerModemTimeout : String := "per-modem timeout"
def overallTimeoutMessage : String := "overall timeout"

/-- What `_post_with_timeout` answers when its timeout fires. -/
def timeoutResponse : PnmHttpResponseModel where
  statusCode := 0
  errorMessage := errorPerModemTimeout

def resolveFailureReason (parsed : Option PnmCaptureParsedModel)
    (response : Option PnmHttpResponseModel) : Option PnmCaptureFailureReason :=
  match response with
  | none => some .unknown
  | some response =>
    if response.errorMessage ≠ "" then
      if response.errorMessage = errorPerModemTimeout then some .perModemTimeout
      else some .requestError
    else if response.statusCode < 200 ∨ 300 ≤ response.statusCode then some .httpError
    else
      match parsed with
      | none => some .unknown
      | some parsed =>
        if parsed.statusCode ≠ some .success then some .pypnmError else none

def resolveStatus (parsed : Option PnmCaptureParsedModel)
    (response : Option PnmHttpResponseModel) : PnmCaptureStatus :=
  match response with
  | none => .failed
  | some response =>
    if response.statusCode < 200 ∨ 300 ≤ response.statusCode then .failed
    else
      match parsed with
      | none => .failed
      -- every other status fails, whatever the attempt
      | some parsed => if parsed.statusCode = some .success then .success else .failed

/-- The end of `_run_job`; `none` is the `ValidationError` of the result model. -/
def jobResult (job : PnmCaptureJobModel) (startedEpoch finishedEpoch : ℚ) (attempt : ℕ)
    (response : PnmHttpResponseModel) (parsed : PnmCaptureParsedModel) :
    Option PnmCaptureResultModel :=
  let status := resolveStatus (some parsed) (some response)
  if h : 0 ≤ response.statusCode ∧ 0 ≤ startedEpoch ∧ 0 ≤ finishedEpoch then
    some
      { macAddress := job.macAddress
        ipv4 := job.ipv4
        ipv6 := job.ipv6
        status := status
        message := parsed.message
        transactionId := parsed.transactionId
        operationId := parsed.operationId
        attempts := attempt
        httpStatus := response.statusCode
        pypnmStatus := parsed.statusCode
        failureReason := if status = .success then none
          else resolveFailureReason (some parsed) (some response)
        startedEpoch := startedEpoch
        finishedEpoch := finishedEpoch
        httpStatus_nonneg := h.1
        startedEpoch_nonneg := h.2.1
        finishedEpoch_nonneg := h.2.2 }
  else none

def buildTimeoutResult (job : PnmCaptureJobModel) (startedEpoch finishedEpoch : ℚ)
    (reason : PnmCaptureFailureReason) (message : String) : Option PnmCaptureResultModel :=
  if h : 0 ≤ startedEpoch ∧ 0 ≤ finishedEpoch then
    some
      { macAddress := job.macAddress
        ipv4 := job.ipv4
        ipv6 := job.ipv6
        status := .failed
        message := message
        transactionId := none
        operationId := none
        attempts := 0
        httpStatus := 0
        pypnmStatus := none
        failureReason := some reason
        startedEpoch := startedEpoch
        finishedEpoch := finishedEpoch
        httpStatus_nonneg := le_rfl
        startedEpoch_nonneg := h.1
        finishedEpoch_nonneg := h.2 }
  else none

/-- Where the task of a job stands. It holds the semaphore while it posts, and has finished with a
result or, as `none`, with an exception. -/
inductive TaskState
  | created
  | acquiring (startedEpoch : ℚ) (attempt : ℕ)
  | posting (startedEpoch : ℚ) (attempt : ℕ)
  | sleeping (startedEpoch : ℚ) (attempt : ℕ)
  | finished (result : Option PnmCaptureResultModel)
  | cancelled

namespace TaskState

def isPosting : TaskState → Bool
  | posting _ _ => true
  | _ => false

def isFinished : TaskState → Bool
  | finished _ => true
  | _ => false

def isFailed : TaskState → Bool
  | finished none => true
  | _ => false

def isEnded : TaskState → Bool
  | finished _ | cancelled => true
  | _ => false

def result : TaskState → Option PnmCaptureResultModel
  | finished result => result
  | _ => none

end TaskState

abbrev ResultsByIndex := OrderedDict ℕ PnmCaptureResultModel

/-- Where `run` itself stands: at `asyncio.wait` (or its only `gather`), at the `gather` of the
done tasks, at the one of the cancelled tasks, or at its end. -/
inductive RunPhase
  | awaiting
  | collecting (done pending : List ℕ)
  | cancelling (pending : List ℕ) (results : ResultsByIndex)
  | returned (results : List PnmCaptureResultModel)
  | raised

structure ExecutorState where
  tasks : ℕ → TaskState
  phase : RunPhase
  startEpoch : ℚ

inductive ExecutorAction
  | start (job : ℕ) (now : ℚ)
  | acquire (job : ℕ)
  /-- The post of the job is answered. The parser and `should_retry` answer too. -/
  | respond (job : ℕ) (response : PnmHttpResponseModel) (parsed : PnmCaptureParsedModel)
      (retry : Bool) (now : ℚ)
  | postTimeout (job : ℕ) (parsed : PnmCaptureParsedModel) (retry : Bool) (now : ℚ)
  | wake (job : ℕ)
  /-- `asyncio.wait` returns; `order` is how the sets of tasks are iterated. -/
  | wait (order : List ℕ)
  | collect
  | cancel (job : ℕ)
  /-- All cancelled tasks have ended. The clock is read once for each of them. -/
  | finish (now : ℕ → ℚ)

/-- The job's loop after an answer: another attempt, or the end. -/
def afterAttempt (settings : PnmCaptureExecutionSettings) (job : PnmCaptureJobModel)
    (startedEpoch : ℚ) (attempt : ℕ) (response : PnmHttpResponseModel)
    (parsed : PnmCaptureParsedModel) (retry : Bool) (now : ℚ) : TaskState :=
  if settings.retryCount < attempt ∨ retry = false then
    .finished (jobResult job startedEpoch now attempt response parsed)
  else if 0 < settings.retryDelaySeconds then .sleeping startedEpoch attempt
  else .acquiring startedEpoch (attempt+1)

/-- `await gather(..)` over tasks that are done. -/
def gather (tasks : ℕ → TaskState) (done : List ℕ) : Option (List PnmCaptureResultModel) :=
  done.mapM fun i => (tasks i).result

/-- The results of the done tasks, each filed under the index of its job. -/
def fileResults (done : List ℕ) (completed : List PnmCaptureResultModel) : ResultsByIndex :=
  (done.zip completed).foldl (fun d entry => d.insert entry.1 entry.2) .empty

/-- The loop over the pending tasks that gives each its timeout result. -/
def fillTimeouts (jobs : List PnmCaptureJobModel) (startEpoch : ℚ) (now : ℕ → ℚ) :
    List ℕ → ResultsByIndex → Option ResultsByIndex
  | [], results => some results
  | i :: rest, results =>
    match jobs[i]?.bind fun job =>
        buildTimeoutResult job startEpoch (now i) .overallTimeout overallTimeoutMessage with
    | none => none
    | some result => fillTimeouts jobs startEpoch now rest (results.insert i result)

/-- `[results_by_index[idx] for idx in range(n) if idx in results_by_index]`. -/
def ordered (n : ℕ) (results : ResultsByIndex) : List PnmCaptureResultModel :=
  (List.range n).filterMap results.lookup

namespace ExecutorState

def initial (jobs : List PnmCaptureJobModel) (startEpoch : ℚ) : ExecutorState where
  tasks _ := .created
  phase := if jobs.isEmpty then .returned [] else .awaiting
  startEpoch := startEpoch

def setTask (s : ExecutorState) (i : ℕ) (t : TaskState) : ExecutorState :=
  { s with tasks := Function.update s.tasks i t }

/-- The number of posts in flight among `n` jobs. -/
def inFlight (s : ExecutorState) (n : ℕ) : ℕ :=
  ((Finset.range n).filter fun i => (s.tasks i).isPosting = true).card

variable (settings : PnmCaptureExecutionSettings) (jobs : List PnmCaptureJobModel)

/-- The post of job `i` ends with `response`, and the semaphore is free again. -/
def answered (s : ExecutorState) (i : ℕ) (response : PnmHttpResponseModel)
    (parsed : PnmCaptureParsedModel) (retry : Bool) (now : ℚ) : ExecutorState :=
  match jobs[i]?, s.tasks i with
  | some job, .posting startedEpoch attempt =>
    s.setTask i (afterAttempt settings job startedEpoch attempt response parsed retry now)
  | _, _ => s

/-- Without an overall timeout: `list(await asyncio.gather(*task_map.keys()))`. -/
def gatherAll (s : ExecutorState) : ExecutorState :=
  let all := List.range jobs.length
  if all.any fun i => (s.tasks i).isFailed then { s with phase := .raised }
  else if all.all fun i => (s.tasks i).isFinished then
    match gather s.tasks all with
    | some results => { s with phase := .returned results }
    | none => s
  else s

def collected (s : ExecutorState) (done pending : List ℕ) : ExecutorState :=
  match gather s.tasks done with
  | none => { s with phase := .raised }
  | some completed =>
    let results := fileResults done completed
    if pending.isEmpty then { s with phase := .returned (ordered jobs.length results) }
    else { s with phase := .cancelling pending results }

def step (s : ExecutorState) : ExecutorAction → ExecutorState
  | .start i now =>
    match jobs[i]?, s.tasks i with
    | some _, .created => s.setTask i (.acquiring now 1)
    | _, _ => s
  | .acquire i =>
    match jobs[i]?, s.tasks i with
    | some _, .acquiring startedEpoch attempt =>
      if s.inFlight jobs.length < settings.maxWorkers then
        s.setTask i (.posting startedEpoch attempt)
      else s
    | _, _ => s
  | .respond i response parsed retry now => s.answered settings jobs i response parsed retry now
  | .postTimeout i parsed retry now =>
    if 0 < settings.perModemTimeoutSeconds then
      s.answered settings jobs i timeoutResponse parsed retry now
    else s
  | .wake i =>
    match jobs[i]?, s.tasks i with
    | some _, .sleeping startedEpoch attempt => s.setTask i (.acquiring startedEpoch (attempt+1))
    | _, _ => s
  | .wait order =>
    match s.phase with
    | .awaiting =>
      if settings.overallTimeoutSeconds ≤ 0 then s.gatherAll jobs
      else if order.Perm (List.range jobs.length) then
        let done := order.filter fun i => (s.tasks i).isFinished
        let pending := order.filter fun i => !(s.tasks i).isFinished
        { s with phase := .collecting done pending }
      else s
    | _ => s
  | .collect =>
    match s.phase with
    | .collecting done pending => s.collected jobs done pending
    | _ => s
  | .cancel i =>
    match s.phase with
    | .cancelling pending _ =>
      if i ∈ pending ∧ (s.tasks i).isEnded = false then s.setTask i .cancelled else s
    | _ => s
  | .finish now =>
    match s.phase with
    | .cancelling pending results =>
      if pending.all fun i => (s.tasks i).isEnded then
        match fillTimeouts jobs s.startEpoch now pending results with
        | none => { s with phase := .raised }
        | some results => { s with phase := .returned (ordered jobs.length results) }
      else s
    | _ => s

end ExecutorState

end PnmCaptureExecutor
end PypnmCmts
