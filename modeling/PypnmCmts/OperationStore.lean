import Mathlib.Logic.Function.Basic
import PypnmCmts.OperationModels

/-! `api/common/operations/store.py`: the directory of one operation, behind the one
`OperationStore` that its runner and those who cancel it share. Every load and every save holds the
state lock of that store, so each is one step. -/
namespace PypnmCmts

/-- What the store keeps for one operation: `state.json`, `cancel.flag` and the files
`results/sg-<id>.jsonl`. -/
structure OperationDir where
  state : OperationStateModel
  cancelFlag : Bool
  results : ServiceGroupId → List PerModemLinkageRecordModel

namespace OperationStore

def isTerminalState (state : OperationState) : Bool :=
  state = .completed ∨ state = .failed ∨ state = .cancelled

def canReplaceState (current incoming : OperationState) : Bool :=
  if isTerminalState current then current = incoming else true

/-- The state that `create_operation` saves. -/
def createOperation (operationId : PnmCaptureOperationId) (nowEpoch : TimestampSec)
    (requestSummary : OperationRequestSummaryModel) : OperationStateModel where
  operationId := operationId
  state := .queued
  timestamps :=
    { createdEpoch := nowEpoch, startedEpoch := 0, updatedEpoch := nowEpoch, finishedEpoch := 0 }
  requestSummary := requestSummary

def saveStateAtomic (dir : OperationDir) (state : OperationStateModel) : OperationDir :=
  if canReplaceState dir.state.state state.state then { dir with state := state } else dir

def isCancelRequested (dir : OperationDir) : Bool := dir.cancelFlag

def touchCancelFlag (dir : OperationDir) : OperationDir := { dir with cancelFlag := true }

def appendResultRecord (dir : OperationDir) (record : PerModemLinkageRecordModel) : OperationDir :=
  { dir with
    results := Function.update dir.results record.sgId (dir.results record.sgId ++ [record]) }

/-- The copy that `request_cancel` makes of the state it has loaded. -/
def cancellingCopy (nowEpoch : TimestampSec) (state : OperationStateModel) : OperationStateModel :=
  { state with
    state := .cancelling
    timestamps := { state.timestamps with updatedEpoch := nowEpoch } }

/-- Where a call of `request_cancel` stands: before its load, before it touches the flag,
before its save, or returned. -/
inductive CancelCall
  | loading
  | touching (state : OperationStateModel)
  | saving (updated : OperationStateModel)
  | returned (state : OperationStateModel)
deriving DecidableEq

/-- The next step of `request_cancel`. -/
def requestCancel (nowEpoch : TimestampSec) (dir : OperationDir) :
    CancelCall → CancelCall × OperationDir
  | .loading =>
    if isTerminalState dir.state.state then (.returned dir.state, dir)
    else (.touching dir.state, dir)
  | .touching state => (.saving (cancellingCopy nowEpoch state), touchCancelFlag dir)
  -- the updated copy is returned whether or not the save replaces the file
  | .saving updated => (.returned updated, saveStateAtomic dir updated)
  | .returned state => (.returned state, dir)

theorem isTerminalState_iff (state : OperationState) :
    isTerminalState state = true ↔ state = .completed ∨ state = .failed ∨ state = .cancelled :=
  decide_eq_true_iff

@[simp] theorem saveStateAtomic_cancelFlag (dir : OperationDir) (state : OperationStateModel) :
    (saveStateAtomic dir state).cancelFlag = dir.cancelFlag := by
  unfold saveStateAtomic
  split <;> rfl

@[simp] theorem saveStateAtomic_results (dir : OperationDir) (state : OperationStateModel) :
    (saveStateAtomic dir state).results = dir.results := by
  unfold saveStateAtomic
  split <;> rfl

theorem saveStateAtomic_open {dir : OperationDir} (h : isTerminalState dir.state.state = false)
    (state : OperationStateModel) : (saveStateAtomic dir state).state = state := by
  simp only [saveStateAtomic, canReplaceState, h, Bool.false_eq_true, if_false, if_true]

/-- A save keeps the lifecycle state of a finished operation. -/
theorem saveStateAtomic_terminal {dir : OperationDir} (h : isTerminalState dir.state.state = true)
    (state : OperationStateModel) :
    (saveStateAtomic dir state).state.state = dir.state.state := by
  simp only [saveStateAtomic, canReplaceState, h, if_true]
  split
  next heq => exact (of_decide_eq_true heq).symm
  next => rfl

/-- Nothing that is not terminal is saved over a terminal state. -/
theorem saveStateAtomic_refused {dir : OperationDir}
    (h : isTerminalState dir.state.state = true) {state : OperationStateModel}
    (hstate : isTerminalState state.state = false) : saveStateAtomic dir state = dir := by
  have hne : dir.state.state ≠ state.state := by
    intro heq
    rw [heq, hstate] at h
    cases h
  simp only [saveStateAtomic, canReplaceState, h, hne, if_true, decide_false, Bool.false_eq_true,
    if_false]

/-- A save leaves the file as it was or puts exactly the given state into it. -/
theorem saveStateAtomic_state (dir : OperationDir) (state : OperationStateModel) :
    (saveStateAtomic dir state).state = state ∨
      (saveStateAtomic dir state).state = dir.state := by
  unfold saveStateAtomic
  split
  · exact .inl rfl
  · exact .inr rfl

end OperationStore
end PypnmCmts
