import Mathlib.Data.Rat.Defs
import PypnmCmts.CoordinationManager
import PypnmCmts.LabelledRun

/-! `sgw/worker.py`: the snapshot of a serving group, as its heavy and light ticks leave it. A tick
acts in one block for each time that it takes the lock, and other ticks act in between. -/
namespace PypnmCmts

open LabelledRun

inductive RefreshState
  | idle
  | running
  | error
deriving DecidableEq

structure RefreshLaneStatusModel where
  state : RefreshState := .idle
  running : Bool := false
  lastSuccessTime : Option ℚ := none
  lastError : String := ""
deriving DecidableEq

structure InventoryResultModel where
  modemCount : ℤ
deriving DecidableEq

structure ServingGroupSnapshotModel where
  sgId : ServiceGroupId
  snapshotTime : ℚ
  ageSeconds : ℚ
  refreshState : RefreshState
  heavyRefresh : RefreshLaneStatusModel
  lightRefresh : RefreshLaneStatusModel
  modemCount : ℤ
deriving DecidableEq

namespace ServingGroupSnapshotModel
variable (snapshot : ServingGroupSnapshotModel)

def lane (isHeavy : Bool) : RefreshLaneStatusModel :=
  if isHeavy then snapshot.heavyRefresh else snapshot.lightRefresh

def withLane (isHeavy : Bool) (lane : RefreshLaneStatusModel) : ServingGroupSnapshotModel :=
  { snapshot with
    heavyRefresh := if isHeavy then lane else snapshot.heavyRefresh
    lightRefresh := if !isHeavy then lane else snapshot.lightRefresh }

def withAge (now : ℚ) : ServingGroupSnapshotModel :=
  { snapshot with ageSeconds := max 0 (now-snapshot.snapshotTime) }

@[simp] theorem lane_withLane_self (isHeavy : Bool) (lane : RefreshLaneStatusModel) :
    (snapshot.withLane isHeavy lane).lane isHeavy = lane := by
  cases isHeavy <;> rfl

@[simp] theorem lane_withLane_not (isHeavy : Bool) (lane : RefreshLaneStatusModel) :
    (snapshot.withLane isHeavy lane).lane (!isHeavy) = snapshot.lane (!isHeavy) := by
  cases isHeavy <;> rfl

end ServingGroupSnapshotModel

structure ServingGroupWorker where
  sgId : ServiceGroupId
  lastInventory : Option InventoryResultModel
  snapshot : ServingGroupSnapshotModel

namespace ServingGroupWorker

def messageNoInventory : String := "inventory not available for light refresh"

def resolveOverallState (heavy light : RefreshLaneStatusModel) : RefreshState :=
  if heavy.state = .error || light.state = .error then .error
  else if heavy.state = .running || light.state = .running then .running
  else .idle

def buildSnapshot (sgId : ServiceGroupId) (now : ℚ) : ServingGroupSnapshotModel where
  sgId := sgId
  snapshotTime := now
  ageSeconds := 0
  refreshState := .idle
  heavyRefresh := {}
  lightRefresh := {}
  modemCount := 0

def init (sgId : ServiceGroupId) (now : ℚ) : ServingGroupWorker :=
  ⟨sgId, none, buildSnapshot sgId now⟩

variable (worker : ServingGroupWorker) (isHeavy : Bool) (now : ℚ)

/-- The overall state is set without a look at the other lane. -/
def setLaneRunning : ServingGroupWorker :=
  let lane := { worker.snapshot.lane isHeavy with state := .running, running := true }
  { worker with
    snapshot :=
      { worker.snapshot.withLane isHeavy lane with refreshState := .running }.withAge now }

def setLaneError (message : String) : ServingGroupWorker :=
  let lane :=
    { worker.snapshot.lane isHeavy with state := .error, running := false, lastError := message }
  { worker with
    snapshot := { worker.snapshot.withLane isHeavy lane with refreshState := .error }.withAge now }

def setLaneSuccessLocked : ServingGroupWorker :=
  let lane :=
    { worker.snapshot.lane isHeavy with
      state := .idle
      running := false
      lastError := ""
      lastSuccessTime := some now }
  let snapshot := worker.snapshot.withLane isHeavy lane
  { worker with
    snapshot :=
      { snapshot with
        refreshState := resolveOverallState snapshot.heavyRefresh snapshot.lightRefresh } }

/-- What `tick_heavy` does with an inventory. -/
def heavySuccess (inventory : InventoryResultModel) : ServingGroupWorker :=
  setLaneSuccessLocked
    { worker with
      lastInventory := some inventory
      snapshot :=
        { worker.snapshot with snapshotTime := now, modemCount := inventory.modemCount } }
    true now

/-- What `tick_light` does once the state has been fetched. -/
def lightSuccess : ServingGroupWorker :=
  setLaneSuccessLocked { worker with snapshot := { worker.snapshot with snapshotTime := now } }
    false now

end ServingGroupWorker

/-- Where a tick is: not begun, its lane set running, waiting for the state with an inventory at
hand, about to report an error, or ended. -/
inductive LanePhase
  | fresh
  | begun (isHeavy : Bool)
  | fetching
  | failing (message : String)
  | ended
deriving DecidableEq

/-- The blocks of a tick. A reply is an error if the client raises. -/
inductive LaneAction (ι : Type*)
  | start (tick : ι) (isHeavy : Bool) (now : ℚ)
  | inventoryFetched (tick : ι) (now : ℚ) (reply : Except String InventoryResultModel)
  | readInventory (tick : ι)
  | stateFetched (tick : ι) (now : ℚ) (reply : Except String Unit)
  | reportError (tick : ι) (now : ℚ)

structure LaneWorld (ι : Type*) where
  worker : ServingGroupWorker
  phase : ι → LanePhase

namespace LaneWorld
variable {ι : Type*} [DecidableEq ι] (w : LaneWorld ι)

/-- The tick comes to `phase` and leaves the worker as `worker`. -/
def go (tick : ι) (worker : ServingGroupWorker) (phase : LanePhase) : LaneWorld ι :=
  ⟨worker, Function.update w.phase tick phase⟩

def step : LaneAction ι → LaneWorld ι
  | .start tick isHeavy now =>
    if w.phase tick = .fresh then w.go tick (w.worker.setLaneRunning isHeavy now) (.begun isHeavy)
    else w
  | .inventoryFetched tick now reply =>
    if w.phase tick = .begun true then
      match reply with
      | .error message => w.go tick (w.worker.setLaneError true now message) .ended
      | .ok inventory => w.go tick (w.worker.heavySuccess now inventory) .ended
    else w
  | .readInventory tick =>
    -- the lock is not taken for this
    if w.phase tick = .begun false then
      match w.worker.lastInventory with
      | none => w.go tick w.worker (.failing ServingGroupWorker.messageNoInventory)
      | some _ => w.go tick w.worker .fetching
    else w
  | .stateFetched tick now reply =>
    if w.phase tick = .fetching then
      match reply with
      | .error message => w.go tick (w.worker.setLaneError false now message) .ended
      | .ok _ => w.go tick (w.worker.lightSuccess now) .ended
    else w
  | .reportError tick now =>
    match w.phase tick with
    | .failing message => w.go tick (w.worker.setLaneError false now message) .ended
    | _ => w

def start (sgId : ServiceGroupId) (now : ℚ) : LaneWorld ι :=
  ⟨ServingGroupWorker.init sgId now, fun _ => .fresh⟩

/-- The block with which a tick succeeds. A tick that fails has none. -/
def Succeeds : LaneAction ι → Prop
  | .inventoryFetched tick _ (.ok _) => w.phase tick = .begun true
  | .stateFetched tick _ (.ok _) => w.phase tick = .fetching
  | _ => False

/-- No lane is set running while the other one is in error. -/
def StartsBesideNoError : LaneAction ι → Prop
  | .start tick isHeavy _ => w.phase tick = .fresh →
    (w.worker.snapshot.lane (!isHeavy)).state ≠ .error
  | _ => True

end LaneWorld

namespace ServingGroupSnapshotModel
variable (snapshot : ServingGroupSnapshotModel)

/-- The overall state is the one that the lanes have. -/
def Resolved : Prop :=
  snapshot.refreshState =
    ServingGroupWorker.resolveOverallState snapshot.heavyRefresh snapshot.lightRefresh

instance : Decidable snapshot.Resolved := inferInstanceAs (Decidable (_ = _))

/-- A lane is marked running just if that is its state. -/
def Marked : Prop :=
  ∀ isHeavy, (snapshot.lane isHeavy).running = true ↔ (snapshot.lane isHeavy).state = .running

end ServingGroupSnapshotModel

namespace ServingGroupWorker
variable (worker : ServingGroupWorker) (isHeavy : Bool) (now : ℚ)

theorem resolved_setLaneRunning : (worker.setLaneRunning isHeavy now).snapshot.Resolved ↔
    (worker.snapshot.lane (!isHeavy)).state ≠ .error := by
  cases isHeavy with
  | false =>
    cases hstate : worker.snapshot.heavyRefresh.state <;>
      simp [setLaneRunning, ServingGroupSnapshotModel.Resolved, resolveOverallState,
        ServingGroupSnapshotModel.withAge, ServingGroupSnapshotModel.withLane,
        ServingGroupSnapshotModel.lane, hstate]
  | true =>
    cases hstate : worker.snapshot.lightRefresh.state <;>
      simp [setLaneRunning, ServingGroupSnapshotModel.Resolved, resolveOverallState,
        ServingGroupSnapshotModel.withAge, ServingGroupSnapshotModel.withLane,
        ServingGroupSnapshotModel.lane, hstate]

/-- An error of one lane is one of the worker, whatever the other lane does. -/
theorem resolved_setLaneError (message : String) :
    (worker.setLaneError isHeavy now message).snapshot.Resolved := by
  cases isHeavy <;>
    simp [setLaneError, ServingGroupSnapshotModel.Resolved, resolveOverallState,
      ServingGroupSnapshotModel.withAge, ServingGroupSnapshotModel.withLane,
      ServingGroupSnapshotModel.lane]

variable {worker}

/-- A lane that is set as its state says leaves the marks right. -/
theorem marked_of_lane {snapshot snapshot' : ServingGroupSnapshotModel} (h : snapshot.Marked)
    (isHeavy : Bool)
    (hself : (snapshot'.lane isHeavy).running = true ↔ (snapshot'.lane isHeavy).state = .running)
    (hother : snapshot'.lane (!isHeavy) = snapshot.lane (!isHeavy)) : snapshot'.Marked := by
  intro side
  by_cases hside : side = isHeavy
  · rw [hside]
    exact hself
  · rw [Bool.eq_not.mpr hside, hother]
    exact h _

theorem marked_setLaneRunning (h : worker.snapshot.Marked) :
    (worker.setLaneRunning isHeavy now).snapshot.Marked := by
  refine marked_of_lane h isHeavy ?_ (worker.snapshot.lane_withLane_not isHeavy _)
  have hlane : ((worker.setLaneRunning isHeavy now).snapshot.lane isHeavy) = _ :=
    worker.snapshot.lane_withLane_self isHeavy _
  simp [hlane]

theorem marked_setLaneError (h : worker.snapshot.Marked) (message : String) :
    (worker.setLaneError isHeavy now message).snapshot.Marked := by
  refine marked_of_lane h isHeavy ?_ (worker.snapshot.lane_withLane_not isHeavy _)
  have hlane : ((worker.setLaneError isHeavy now message).snapshot.lane isHeavy) = _ :=
    worker.snapshot.lane_withLane_self isHeavy _
  simp [hlane]

theorem marked_setLaneSuccessLocked (h : worker.snapshot.Marked) :
    (worker.setLaneSuccessLocked isHeavy now).snapshot.Marked := by
  refine marked_of_lane h isHeavy ?_ (worker.snapshot.lane_withLane_not isHeavy _)
  have hlane : ((worker.setLaneSuccessLocked isHeavy now).snapshot.lane isHeavy) = _ :=
    worker.snapshot.lane_withLane_self isHeavy _
  simp [hlane]

end ServingGroupWorker

namespace LaneWorld
variable {ι : Type*} [DecidableEq ι] {w : LaneWorld ι}

/-- What a block may do to the worker. -/
inductive Block (w : LaneWorld ι) : LaneAction ι → ServingGroupWorker → Prop
  | nothing (a : LaneAction ι) : (¬∃ tick isHeavy now, a = .start tick isHeavy now ∧
      w.phase tick = .fresh) → ¬w.Succeeds a → Block w a w.worker
  | running (tick : ι) (isHeavy : Bool) (now : ℚ) : w.phase tick = .fresh →
      Block w (.start tick isHeavy now) (w.worker.setLaneRunning isHeavy now)
  | error (a : LaneAction ι) (isHeavy : Bool) (now : ℚ) (message : String) : ¬w.Succeeds a →
      (¬∃ tick isHeavy now, a = .start tick isHeavy now ∧ w.phase tick = .fresh) →
      Block w a (w.worker.setLaneError isHeavy now message)
  | heavy (a : LaneAction ι) (now : ℚ) (inventory : InventoryResultModel) : w.Succeeds a →
      Block w a (w.worker.heavySuccess now inventory)
  | light (a : LaneAction ι) (now : ℚ) : w.Succeeds a → Block w a (w.worker.lightSuccess now)

theorem block_step (w : LaneWorld ι) (a : LaneAction ι) : Block w a (w.step a).worker := by
  cases a with
  | start tick isHeavy now =>
    rw [step]
    split
    · next hfresh => exact .running tick isHeavy now hfresh
    · next hfresh => exact .nothing _ (by simp [hfresh]) (by simp [Succeeds])
  | inventoryFetched tick now reply =>
    rw [step.eq_def]
    dsimp only
    split
    · next hbegun =>
      cases reply with
      | error message => exact .error _ true now message (by simp [Succeeds]) (by simp)
      | ok inventory => exact .heavy _ now inventory hbegun
    · next hbegun => exact .nothing _ (by simp) (by cases reply <;> simp [Succeeds, hbegun])
  | readInventory tick =>
    simp only [step]
    split
    · cases w.worker.lastInventory with
      | none => exact .nothing _ (by simp) (by simp [Succeeds])
      | some _ => exact .nothing _ (by simp) (by simp [Succeeds])
    · exact .nothing _ (by simp) (by simp [Succeeds])
  | stateFetched tick now reply =>
    rw [step.eq_def]
    dsimp only
    split
    · next hfetching =>
      cases reply with
      | error message => exact .error _ false now message (by simp [Succeeds]) (by simp)
      | ok _ => exact .light _ now hfetching
    · next hfetching => exact .nothing _ (by simp) (by cases reply <;> simp [Succeeds, hfetching])
  | reportError tick now =>
    simp only [step]
    split
    · exact .error _ false now _ (by simp [Succeeds]) (by simp)
    · exact .nothing _ (by simp) (by simp [Succeeds])

/-- After a block the overall state is that of the lanes if it was before, unless the block is the
start of a tick beside a lane in error. -/
theorem resolved_step (h : w.worker.snapshot.Resolved) (a : LaneAction ι) :
    (w.step a).worker.snapshot.Resolved ↔ w.StartsBesideNoError a := by
  have hguard : (¬∃ tick isHeavy now, a = .start tick isHeavy now ∧ w.phase tick = .fresh) →
      w.StartsBesideNoError a := by
    intro hnone
    cases a with
    | start tick isHeavy now =>
      intro hfresh
      exact absurd ⟨tick, isHeavy, now, rfl, hfresh⟩ hnone
    | _ => trivial
  have hsuccess : w.Succeeds a → w.StartsBesideNoError a := by
    intro hsucceeds
    cases a with
    | start tick isHeavy now => exact absurd hsucceeds (by simp [Succeeds])
    | _ => trivial
  have hblock := block_step w a
  generalize (w.step a).worker = after at hblock ⊢
  cases hblock with
  | nothing _ hnone _ => exact iff_of_true h (hguard hnone)
  | running tick isHeavy now hfresh =>
    rw [ServingGroupWorker.resolved_setLaneRunning]
    exact ⟨fun hother _ => hother, fun hguard => hguard hfresh⟩
  | error _ isHeavy now message _ hnone =>
    exact iff_of_true (w.worker.resolved_setLaneError isHeavy now message) (hguard hnone)
  | heavy _ now inventory hsucceeds => exact iff_of_true rfl (hsuccess hsucceeds)
  | light _ now hsucceeds => exact iff_of_true rfl (hsuccess hsucceeds)

theorem marked_step (h : w.worker.snapshot.Marked) (a : LaneAction ι) :
    (w.step a).worker.snapshot.Marked := by
  have hblock := block_step w a
  generalize (w.step a).worker = after at hblock ⊢
  cases hblock with
  | nothing => exact h
  | running tick isHeavy now _ => exact ServingGroupWorker.marked_setLaneRunning _ _ h
  | error _ isHeavy now message => exact ServingGroupWorker.marked_setLaneError _ _ h message
  | heavy => exact ServingGroupWorker.marked_setLaneSuccessLocked _ _ h
  | light => exact ServingGroupWorker.marked_setLaneSuccessLocked _ _ h

/-- A block leaves time and count of the snapshot, unless its tick succeeds with it. -/
def KeepsUnlessSucceeds (w : LaneWorld ι) (a : LaneAction ι) : Prop :=
  ¬w.Succeeds a → (w.step a).worker.snapshot.snapshotTime = w.worker.snapshot.snapshotTime ∧
    (w.step a).worker.snapshot.modemCount = w.worker.snapshot.modemCount

theorem keepsUnlessSucceeds (w : LaneWorld ι) (a : LaneAction ι) : w.KeepsUnlessSucceeds a := by
  intro hnot
  have hblock := block_step w a
  generalize (w.step a).worker = after at hblock ⊢
  cases hblock with
  | nothing => exact ⟨rfl, rfl⟩
  | running => exact ⟨rfl, rfl⟩
  | error => exact ⟨rfl, rfl⟩
  | heavy _ _ _ hsucceeds => exact absurd hsucceeds hnot
  | light _ _ hsucceeds => exact absurd hsucceeds hnot

/-- In a run of any ticks the overall state is always that of the lanes, just if no tick starts
while the lane that is not its own is in error. A lane is always marked running just if that is its
state, and no tick that fails ever changes the time or the count. -/
theorem lanes_consistent_iff (sgId : ServiceGroupId) (now : ℚ) (actions : List (LaneAction ι)) :
    ((∀ before after, actions = before ++ after →
        (exec step (start sgId now) before).worker.snapshot.Resolved) ∧
      (∀ before after, actions = before ++ after →
        (exec step (start sgId now) before).worker.snapshot.Marked) ∧
      ∀ before a after, actions = before ++ a :: after →
        (exec step (start sgId now) before).KeepsUnlessSucceeds a) ↔
    Guarded step StartsBesideNoError (start sgId now) actions := by
  have hmarked : ∀ before : List (LaneAction ι),
      (exec step (start sgId now) before).worker.snapshot.Marked := by
    intro before
    refine invariant_of_step (I := fun w : LaneWorld ι => w.worker.snapshot.Marked)
      (fun w a h => marked_step h a) before ?_
    intro isHeavy
    cases isHeavy <;> exact iff_of_false Bool.false_ne_true RefreshState.noConfusion
  constructor
  · intro ⟨hresolved, _, _⟩
    rw [guarded_iff]
    intro before a after heq
    have hnext := hresolved (before ++ [a]) after (by rw [heq, List.append_assoc]; rfl)
    rw [exec_concat] at hnext
    exact (resolved_step (hresolved before _ heq) a).mp hnext
  · intro hguarded
    refine ⟨?_, fun before _ _ => hmarked before, fun before a _ _ => keepsUnlessSucceeds _ a⟩
    intro before after heq
    rw [heq, guarded_append] at hguarded
    exact invariant_of_guarded (I := fun w : LaneWorld ι => w.worker.snapshot.Resolved)
      (fun w a hguard h => (resolved_step h a).mpr hguard) hguarded.1 rfl

/-- A light tick fails for want of an inventory; the first heavy tick starts. -/
def errorThenStart : List (LaneAction Bool) :=
  [.start false false 1, .readInventory false, .reportError false 2, .start true true 3]

/-- The light lane is in error, and the worker as a whole is said to be running. -/
theorem start_hides_error :
    (exec step (start 7 0) errorThenStart).worker.snapshot.refreshState = .running ∧
    ¬(exec step (start 7 0) errorThenStart).worker.snapshot.Resolved := by
  decide

end LaneWorld
end PypnmCmts
