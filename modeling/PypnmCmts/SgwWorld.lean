import PypnmCmts.LabelledRun
import PypnmCmts.SgwManager

/-! The cache manager at work: refresh cycles in the loop thread, between whose steps other
threads request refreshes, change the service groups and read the store, and guard restarts that
replace the manager between two cycles. -/
namespace PypnmCmts

/-- Where the loop thread is. -/
inductive CyclePc
  | idle
  | groupTop (nowEpoch : ℚ) (rest : List ServiceGroupId)
  | polling (turn : SgwTurn) (rest : List ServiceGroupId)
  | settling (turn : SgwTurn) (error : Option String) (rest : List ServiceGroupId)
deriving DecidableEq

/-- The service groups whose turn in the current cycle is still to come. -/
def CyclePc.rest : CyclePc → List ServiceGroupId
  | .idle => []
  | .groupTop _ rest => rest
  | .polling _ rest => rest
  | .settling _ _ rest => rest

/-- The turn that is being taken. -/
def CyclePc.turn : CyclePc → Option SgwTurn
  | .polling turn _ => some turn
  | .settling turn _ _ => some turn
  | _ => none

/-- What has happened, as far as the requests and the polls go. -/
inductive SgwEvent
  | began (nowEpoch : ℚ) (serviceGroups : List ServiceGroupId)
  | attempted (sgId : ServiceGroupId) (mode : CacheRefreshMode)
  | refreshed (sgId : ServiceGroupId) (mode : CacheRefreshMode) (nowEpoch : ℚ)
  | failed (sgId : ServiceGroupId) (nowEpoch : ℚ)
  | settled (sgId : ServiceGroupId) (nowEpoch : ℚ)
  | accepted (sgId : ServiceGroupId) (mode : CacheRefreshMode)
  | restarted (dropped : List (ServiceGroupId × CacheRefreshMode))
deriving DecidableEq

/-- The log has the latest event first. -/
structure SgwWorld where
  manager : SgwManager
  pc : CyclePc := .idle
  result : SgwRefreshResultModel := {}
  log : List SgwEvent := []

inductive SgwAction
  | begin (nowEpoch : ℚ)
  | take
  | poll (pollers : SgwPollers)
  | settle
  | request (sgId : ServiceGroupId) (mode : CacheRefreshMode) (nowEpoch : ℚ)
  | setServiceGroups (serviceGroups : List ServiceGroupId)
  | restart
  | read (sgIds : List ServiceGroupId)

namespace SgwWorld

/-- A manager as the startup builds it. -/
def init (settings : SgwSettings) (serviceGroups : List ServiceGroupId)
    (jitterProvider : ServiceGroupId → ℕ → ℤ) : SgwWorld where
  manager := .create settings .empty serviceGroups jitterProvider

/-- The loop over the service groups ends after the last of them. -/
def loopPc (nowEpoch : ℚ) : List ServiceGroupId → CyclePc
  | [] => .idle
  | sgId :: rest => .groupTop nowEpoch (sgId :: rest)

@[simp] theorem rest_loopPc (nowEpoch : ℚ) (rest : List ServiceGroupId) :
    (loopPc nowEpoch rest).rest = rest := by
  cases rest <;> rfl

@[simp] theorem turn_loopPc (nowEpoch : ℚ) (rest : List ServiceGroupId) :
    (loopPc nowEpoch rest).turn = none := by
  cases rest <;> rfl

theorem loopPc_ne_polling (nowEpoch : ℚ) (rest : List ServiceGroupId) (turn : SgwTurn)
    (rest' : List ServiceGroupId) : loopPc nowEpoch rest ≠ .polling turn rest' := by
  cases rest <;> (intro h; cases h)

/-- What the end of a poll enters into the log. -/
def pollEvents (turn : SgwTurn) (error : Option String) : List SgwEvent :=
  if turn.refreshMode = .none then []
  else if error = none then [.refreshed turn.sgId turn.refreshMode turn.nowEpoch]
  else [.failed turn.sgId turn.nowEpoch]

def stepBegin (w : SgwWorld) (nowEpoch : ℚ) : SgwWorld :=
  if nowEpoch < 0 ∨ w.manager.settings.enabled = false then w
  else { w with
    pc := loopPc nowEpoch w.manager.serviceGroups
    result := { snapshotTimeEpoch := nowEpoch }
    log := .began nowEpoch w.manager.serviceGroups :: w.log }

def stepTake (w : SgwWorld) (nowEpoch : ℚ) (sgId : ServiceGroupId)
    (rest : List ServiceGroupId) : SgwWorld :=
  let begun := w.manager.beginTurn nowEpoch sgId
  { w with
    manager := begun.2
    pc := .polling begun.1 rest
    log := .attempted sgId begun.1.refreshMode :: w.log }

def stepPoll (w : SgwWorld) (pollers : SgwPollers) (turn : SgwTurn)
    (rest : List ServiceGroupId) : SgwWorld :=
  let polled := w.manager.pollTurn pollers turn
  { w with
    manager := polled.2
    pc := .settling turn polled.1 rest
    log := pollEvents turn polled.1 ++ w.log }

def stepSettle (w : SgwWorld) (turn : SgwTurn) (error : Option String)
    (rest : List ServiceGroupId) : SgwWorld :=
  let settled := w.manager.settleTurn turn error
  { manager := settled.2
    pc := loopPc turn.nowEpoch rest
    result := SgwManager.reportTurn w.result turn error settled.1
    log := .settled turn.sgId turn.nowEpoch :: w.log }

def stepRequest (w : SgwWorld) (sgId : ServiceGroupId) (mode : CacheRefreshMode)
    (nowEpoch : ℚ) : SgwWorld :=
  let answer := w.manager.requestRefresh sgId mode nowEpoch
  { w with
    manager := answer.2
    log := if answer.1.1 then .accepted sgId mode :: w.log else w.log }

/-- The new manager starts with a new store and no pending requests. -/
def stepRestart (w : SgwWorld) : SgwWorld :=
  { w with
    manager := w.manager.cloneForRestart (some .empty)
    log := .restarted w.manager.refreshRequests.entries :: w.log }

/-- An action that does not fit the place of the loop thread does nothing. -/
def step (w : SgwWorld) (a : SgwAction) : SgwWorld :=
  match a, w.pc with
  | .begin nowEpoch, .idle => w.stepBegin nowEpoch
  | .take, .groupTop nowEpoch (sgId :: rest) => w.stepTake nowEpoch sgId rest
  | .poll pollers, .polling turn rest => w.stepPoll pollers turn rest
  | .settle, .settling turn error rest => w.stepSettle turn error rest
  | .request sgId mode nowEpoch, _ => w.stepRequest sgId mode nowEpoch
  | .setServiceGroups serviceGroups, _ =>
    { w with manager := w.manager.setServiceGroups serviceGroups }
  | .restart, .idle => w.stepRestart
  | _, _ => w

/-- The startup's manager for one service group. -/
def oneGroup : SgwWorld := init .default [1] fun _ _ => 0

/-- Pollers that answer, and such whose heavy poll raises. -/
def heavyAnswers : SgwPollers := ⟨fun _ => .ok {}, fun _ modems => .ok modems⟩

def heavyRaises : SgwPollers := ⟨fun _ => .error "timeout", fun _ modems => .ok modems⟩

/-- What a step can be. -/
inductive StepCase (w : SgwWorld) : SgwAction → SgwWorld → Prop
  | skip (a : SgwAction) : StepCase w a w
  | begin (nowEpoch : ℚ) (hpc : w.pc = .idle) (hclock : 0 ≤ nowEpoch) :
      StepCase w (.begin nowEpoch) { w with
        pc := loopPc nowEpoch w.manager.serviceGroups
        result := { snapshotTimeEpoch := nowEpoch }
        log := .began nowEpoch w.manager.serviceGroups :: w.log }
  | take (nowEpoch : ℚ) (sgId : ServiceGroupId) (rest : List ServiceGroupId)
      (hpc : w.pc = .groupTop nowEpoch (sgId :: rest)) :
      StepCase w .take (w.stepTake nowEpoch sgId rest)
  | poll (pollers : SgwPollers) (turn : SgwTurn) (rest : List ServiceGroupId)
      (hpc : w.pc = .polling turn rest) :
      StepCase w (.poll pollers) (w.stepPoll pollers turn rest)
  | settle (turn : SgwTurn) (error : Option String) (rest : List ServiceGroupId)
      (hpc : w.pc = .settling turn error rest) :
      StepCase w .settle (w.stepSettle turn error rest)
  | request (sgId : ServiceGroupId) (mode : CacheRefreshMode) (nowEpoch : ℚ) :
      StepCase w (.request sgId mode nowEpoch) (w.stepRequest sgId mode nowEpoch)
  | setServiceGroups (serviceGroups : List ServiceGroupId) :
      StepCase w (.setServiceGroups serviceGroups)
        { w with manager := w.manager.setServiceGroups serviceGroups }
  | restart (hpc : w.pc = .idle) : StepCase w .restart w.stepRestart

theorem step_case (w : SgwWorld) (a : SgwAction) : StepCase w a (w.step a) := by
  unfold step
  split
  next nowEpoch hpc =>
    rw [stepBegin]
    by_cases hskip : nowEpoch < 0 ∨ w.manager.settings.enabled = false
    · rw [if_pos hskip]
      exact .skip _
    · rw [if_neg hskip]
      exact .begin nowEpoch hpc (not_lt.mp fun h => hskip (Or.inl h))
  next nowEpoch sgId rest hpc => exact .take nowEpoch sgId rest hpc
  next pollers turn rest hpc => exact .poll pollers turn rest hpc
  next turn error rest hpc => exact .settle turn error rest hpc
  next sgId mode nowEpoch => exact .request sgId mode nowEpoch
  next serviceGroups => exact .setServiceGroups serviceGroups
  next hpc => exact .restart hpc
  next => exact .skip _

/-- The steps of a cycle over `n` service groups with nothing in between. -/
def cycleActions (nowEpoch : ℚ) (pollers : SgwPollers) (n : ℕ) : List SgwAction :=
  .begin nowEpoch :: (List.replicate n [.take, .poll pollers, .settle]).flatten

theorem exec_turns (pollers : SgwPollers) (nowEpoch : ℚ) (rest : List ServiceGroupId)
    (w : SgwWorld) (hpc : w.pc = loopPc nowEpoch rest) :
    ∃ log, LabelledRun.exec step w
        (List.replicate rest.length [.take, .poll pollers, .settle]).flatten =
      let s := rest.foldl (SgwManager.refreshGroup pollers nowEpoch) (w.manager, w.result)
      { manager := s.1, pc := .idle, result := s.2, log } := by
  induction rest generalizing w with
  | nil =>
    refine ⟨w.log, ?_⟩
    obtain ⟨manager, pc, result, log⟩ := w
    cases hpc
    rfl
  | cons sgId rest ih =>
    have hnow : (w.manager.beginTurn nowEpoch sgId).1.nowEpoch = nowEpoch := by
      rw [SgwManager.beginTurn_turn]
    have htake : w.step .take = w.stepTake nowEpoch sgId rest := by
      simp only [step, hpc, loopPc]
    -- the three steps are one pass of the loop's body
    obtain ⟨log, hlog⟩ := ih ((((w.step .take).step (.poll pollers)).step .settle)) (by
      rw [htake]
      simp only [step, stepTake, stepPoll, stepSettle, hnow])
    refine ⟨log, ?_⟩
    rw [List.length_cons, List.replicate_succ, List.flatten_cons, LabelledRun.exec_append]
    simp only [LabelledRun.exec_cons, LabelledRun.exec_nil]
    rw [hlog, List.foldl_cons, htake]
    rfl

/-- A cycle in which no other thread comes between is `refresh_once`. -/
theorem exec_cycle {w : SgwWorld} {pollers : SgwPollers} {nowEpoch : ℚ}
    {result : SgwRefreshResultModel} {after : SgwManager} (hpc : w.pc = .idle)
    (henabled : w.manager.settings.enabled = true)
    (h : w.manager.refreshOnce nowEpoch pollers = .ok (result, after)) :
    ∃ log, LabelledRun.exec step w
        (cycleActions nowEpoch pollers w.manager.serviceGroups.length) =
      { manager := after, pc := .idle, result, log } := by
  unfold SgwManager.refreshOnce at h
  split at h
  · cases h
  next hclock =>
    rw [if_neg (by rw [henabled]; decide)] at h
    obtain ⟨hresult, hafter⟩ := Prod.mk.inj (Except.ok.inj h)
    have hbegin : w.step (.begin nowEpoch) = w.stepBegin nowEpoch := by simp only [step, hpc]
    rw [cycleActions, LabelledRun.exec_cons, hbegin, stepBegin, if_neg (by simp [hclock, henabled])]
    obtain ⟨log, hlog⟩ := exec_turns pollers nowEpoch w.manager.serviceGroups
      { w with
        pc := loopPc nowEpoch w.manager.serviceGroups
        result := { snapshotTimeEpoch := nowEpoch }
        log := .began nowEpoch w.manager.serviceGroups :: w.log } rfl
    refine ⟨log, ?_⟩
    rw [hlog, ← hresult, ← hafter]

end SgwWorld
end PypnmCmts
