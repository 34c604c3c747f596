import PypnmCmts.GuardRestarts

/-! The background refresh of `sgw/runtime_state.py` under concurrent start and stop calls: the
thread handle and the running flag are written by the calls and by the dying thread, each time
under the refresh lock. -/
namespace PypnmCmts

abbrev ManagerId := ℕ
abbrev ThreadId := ℕ
abbrev CallId := ℕ

/-- Where a thread of `_run_sgw_refresh_loop` is, with the manager it works on. -/
inductive ThreadPc
  | absent
  | starting (manager : ManagerId)
  | entering (manager : ManagerId)
  | cycleTop (manager : ManagerId)
  | inCycle (manager : ManagerId)
  | stopOld (old new : ManagerId)
  | stopCheck (manager : ManagerId)
  | waiting (manager : ManagerId)
  | cleanup
  | finishing
  | dead
deriving DecidableEq

namespace ThreadPc

def isAlive : ThreadPc → Bool
  | .absent => false
  | .dead => false
  | _ => true

/-- From the start up to the clean-up. -/
def inRun : ThreadPc → Bool
  | .absent => false
  | .finishing => false
  | .dead => false
  | _ => true

/-- The manager that the loop works on; a restart hands the loop over to the new one. -/
def manager : ThreadPc → Option ManagerId
  | .starting m => some m
  | .entering m => some m
  | .cycleTop m => some m
  | .inCycle m => some m
  | .stopOld _ new => some new
  | .stopCheck m => some m
  | .waiting m => some m
  | _ => none

theorem isAlive_of_inRun {pc : ThreadPc} (h : pc.inRun = true) : pc.isAlive = true := by
  cases pc <;> first | rfl | cases h

theorem inRun_of_manager {pc : ThreadPc} {m : ManagerId} (h : pc.manager = some m) :
    pc.inRun = true := by
  cases pc <;> first | rfl | cases h

end ThreadPc

/-- Where a call of `start_sgw_background_refresh` or `stop_sgw_background_refresh` is. -/
inductive CallPc
  | idle
  | startLocked (manager : ManagerId)
  | stopSignal (manager : Option ManagerId)
  | stopCapture
  | stopJoin (thread : Option ThreadId)
  | stopClear (thread : Option ThreadId)
  | returned (value : Option Bool)
deriving DecidableEq

/-- What a refresh cycle ends with: the guard lets the loop go on or restarts it, or the cycle
raises. -/
inductive CycleOutcome
  | completes (nowEpoch : TimestampSec)
  | restarts (nowEpoch : TimestampSec) (reason : String)
  | raises

/-- The state of the module. A manager's two stop flags are written together under the lock of
the manager and stand here as one. The cycles begun by a thread and the threads that a stop has
reached, each with the cycles it had begun by then, are recorded for the statements. -/
structure LoopWorld where
  status : SgwStartupStatusModel
  publishedManager : Option ManagerId
  nextManager : ManagerId
  stopRequested : ManagerId → Bool
  refreshThread : Option ThreadId
  refreshRunning : Bool
  threads : ThreadId → ThreadPc
  nextThread : ThreadId
  calls : CallId → CallPc
  cyclesBegun : ThreadId → ℕ
  told : List (ThreadId × ℕ)

inductive LoopAction
  | callStart (call : CallId)
  | callStop (call : CallId)
  | callStep (call : CallId) (joinTimesOut : Bool)
  | threadStep (thread : ThreadId) (outcome : CycleOutcome)

namespace LoopWorld

/-- The module after the startup, before any call. -/
def boot (status : SgwStartupStatusModel) (managed : Bool) : LoopWorld where
  status := status
  publishedManager := if managed then some 0 else none
  nextManager := 1
  stopRequested _ := false
  refreshThread := none
  refreshRunning := false
  threads _ := .absent
  nextThread := 0
  calls _ := .idle
  cyclesBegun _ := 0
  told := []

def setThread (w : LoopWorld) (thread : ThreadId) (pc : ThreadPc) : LoopWorld :=
  { w with threads := Function.update w.threads thread pc }

def setCall (w : LoopWorld) (call : CallId) (pc : CallPc) : LoopWorld :=
  { w with calls := Function.update w.calls call pc }

def setStop (w : LoopWorld) (manager : ManagerId) (value : Bool) : LoopWorld :=
  { w with stopRequested := Function.update w.stopRequested manager value }

def setStatus (w : LoopWorld) (status : SgwStartupStatusModel) : LoopWorld :=
  { w with status := status }

def isSgwRefreshRunning (w : LoopWorld) : Bool := w.refreshRunning

/-- A thread object is at hand and its thread is alive. -/
def isAlive (w : LoopWorld) (thread : Option ThreadId) : Bool :=
  thread.any fun t => (w.threads t).isAlive

/-- The unlocked reads of a start call. -/
def beginStart (w : LoopWorld) (call : CallId) : LoopWorld :=
  if w.status.startupCompleted = false ∨ w.status.discoveryOk = false ∨
      w.status.primeFailed = true then w.setCall call (.returned (some false))
  else match w.publishedManager with
    | none => w.setCall call (.returned (some false))
    | some manager => w.setCall call (.startLocked manager)

def startThread (w : LoopWorld) (call : CallId) (manager : ManagerId) : LoopWorld :=
  { ((w.setStop manager false).setThread w.nextThread (.starting manager)).setCall call
      (.returned (some true)) with
    refreshRunning := true
    refreshThread := some w.nextThread
    nextThread := w.nextThread+1 }

/-- The locked block of a start call. -/
def startLocked (w : LoopWorld) (call : CallId) (manager : ManagerId) : LoopWorld :=
  -- a thread that is alive is found, whatever manager it works for
  if w.isAlive w.refreshThread then w.setCall call (.returned (some true))
  else w.startThread call manager

/-- The threads between their start and their clean-up. -/
def loopThreads (w : LoopWorld) : List ThreadId :=
  (List.range w.nextThread).filter fun thread => (w.threads thread).inRun

/-- A stop call signals the manager that it has read. -/
def stopSignal (w : LoopWorld) (call : CallId) (manager : Option ManagerId) : LoopWorld :=
  let w := { w with
    told := w.told ++ w.loopThreads.map fun thread => (thread, w.cyclesBegun thread) }
  match manager with
  | none => w.setCall call .stopCapture
  | some manager => (w.setStop manager true).setCall call .stopCapture

def clearThread (w : LoopWorld) : LoopWorld :=
  { w with refreshThread := none, refreshRunning := false }

/-- The last locked block of a stop call. -/
def stopClear (w : LoopWorld) (call : CallId) (thread : Option ThreadId) : LoopWorld :=
  -- another call may have put a new thread in the place of the joined one
  if w.refreshThread = thread ∧ w.isAlive thread = false then
    w.clearThread.setCall call (.returned none)
  else w.setCall call (.returned none)

/-- A join ends when its thread is dead or the timeout has passed. -/
def stopJoin (w : LoopWorld) (call : CallId) (thread : Option ThreadId) (joinTimesOut : Bool) :
    LoopWorld :=
  if joinTimesOut = true ∨ w.isAlive thread = false then
    w.setCall call (.stopClear thread)
  else w

def callStep (w : LoopWorld) (call : CallId) (joinTimesOut : Bool) : LoopWorld :=
  match w.calls call with
  | .startLocked manager => w.startLocked call manager
  | .stopSignal manager => w.stopSignal call manager
  | .stopCapture => w.setCall call (.stopJoin w.refreshThread)
  | .stopJoin thread => w.stopJoin call thread joinTimesOut
  | .stopClear thread => w.stopClear call thread
  | .idle => w
  | .returned _ => w

/-- A guard restart publishes a manager of its own, which no stop has reached. -/
def restartManager (w : LoopWorld) (thread : ThreadId) (manager : ManagerId)
    (nowEpoch : TimestampSec) (reason : String) : LoopWorld :=
  { (w.setStop w.nextManager false).setThread thread (.stopOld manager w.nextManager) with
    status := GuardedLoop.restartSgwRuntimeManager w.status nowEpoch reason
    publishedManager := some w.nextManager
    nextManager := w.nextManager+1 }

/-- A cycle with all that follows it in `_after_cycle`, up to the stop of the old manager. -/
def endCycle (w : LoopWorld) (thread : ThreadId) (manager : ManagerId) :
    CycleOutcome → LoopWorld
  | .completes nowEpoch =>
    (w.setStatus { w.status with lastRefreshEpoch := some nowEpoch }).setThread thread
      (.stopCheck manager)
  | .restarts nowEpoch reason => w.restartManager thread manager nowEpoch reason
  | .raises => w.setThread thread .cleanup

def beginCycle (w : LoopWorld) (thread : ThreadId) (manager : ManagerId) : LoopWorld :=
  { w.setThread thread (.inCycle manager) with
    cyclesBegun := Function.update w.cyclesBegun thread (w.cyclesBegun thread+1) }

def threadStep (w : LoopWorld) (thread : ThreadId) (outcome : CycleOutcome) : LoopWorld :=
  match w.threads thread with
  | .starting manager =>
    -- the guard controller is built before the `try`: an error here skips the clean-up
    match outcome with
    | .raises => w.setThread thread .dead
    | _ => w.setThread thread (.entering manager)
  | .entering manager =>
    if w.stopRequested manager then w.setThread thread .cleanup
    else w.setThread thread (.cycleTop manager)
  | .cycleTop manager =>
    if w.stopRequested manager then w.setThread thread .cleanup
    else w.beginCycle thread manager
  | .inCycle manager => w.endCycle thread manager outcome
  | .stopOld old new => (w.setStop old true).setThread thread (.entering new)
  | .stopCheck manager =>
    if w.stopRequested manager then w.setThread thread .cleanup
    else w.setThread thread (.waiting manager)
  | .waiting manager =>
    -- the wait ends with the stop event or after the interval
    if w.stopRequested manager then w.setThread thread .cleanup
    else w.setThread thread (.cycleTop manager)
  -- the handle is cleared whosever it is
  | .cleanup => w.clearThread.setThread thread .finishing
  | .finishing => w.setThread thread .dead
  | .absent => w
  | .dead => w

/-- A call number is free while no call with it is under way. -/
def callFree (w : LoopWorld) (call : CallId) : Bool :=
  match w.calls call with
  | .idle => true
  | .returned _ => true
  | _ => false

def step (w : LoopWorld) : LoopAction → LoopWorld
  | .callStart call => if w.callFree call then w.beginStart call else w
  | .callStop call =>
    if w.callFree call then w.setCall call (.stopSignal w.publishedManager) else w
  | .callStep call joinTimesOut => w.callStep call joinTimesOut
  | .threadStep thread outcome => w.threadStep thread outcome

/-- What a step can do. -/
inductive LoopMove (w : LoopWorld) : LoopAction → LoopWorld → Prop
  | stays (a) : LoopMove w a w
  | proceeds (a call pc) (hsignal : ∀ m, pc = .stopSignal m → m = w.publishedManager)
      (htrue : pc ≠ .returned (some true)) : LoopMove w a (w.setCall call pc)
  | finds (call b manager) (hcall : w.calls call = .startLocked manager)
      (halive : w.isAlive w.refreshThread = true) :
      LoopMove w (.callStep call b) (w.setCall call (.returned (some true)))
  | creates (call b manager) (hcall : w.calls call = .startLocked manager)
      (hdead : w.isAlive w.refreshThread = false) :
      LoopMove w (.callStep call b) (w.startThread call manager)
  | signals (call b manager) (hcall : w.calls call = .stopSignal manager) :
      LoopMove w (.callStep call b) (w.stopSignal call manager)
  | clears (call b) (hdead : w.isAlive w.refreshThread = false) :
      LoopMove w (.callStep call b) (w.clearThread.setCall call (.returned none))
  | goesOn (thread outcome manager status pc) (hbefore : (w.threads thread).manager = some manager)
      (hafter : pc.manager = some manager) :
      LoopMove w (.threadStep thread outcome) ((w.setStatus status).setThread thread pc)
  | begins (thread outcome manager) (hpc : w.threads thread = .cycleTop manager)
      (hstop : w.stopRequested manager = false) :
      LoopMove w (.threadStep thread outcome) (w.beginCycle thread manager)
  | restarts (thread manager nowEpoch reason) (hpc : w.threads thread = .inCycle manager) :
      LoopMove w (.threadStep thread (.restarts nowEpoch reason))
        (w.restartManager thread manager nowEpoch reason)
  | stopsOld (thread outcome old new) (hpc : w.threads thread = .stopOld old new) :
      LoopMove w (.threadStep thread outcome)
        ((w.setStop old true).setThread thread (.entering new))
  | leaves (thread outcome pc) (hbefore : (w.threads thread).isAlive = true)
      (hafter : pc.manager = none) (hrun : pc.inRun = true → (w.threads thread).inRun = true) :
      LoopMove w (.threadStep thread outcome) (w.setThread thread pc)
  | cleansUp (thread outcome) (hpc : w.threads thread = .cleanup) :
      LoopMove w (.threadStep thread outcome) (w.clearThread.setThread thread .finishing)

section Move
variable (w : LoopWorld)

theorem call_step_move (call : CallId) (b : Bool) :
    LoopMove w (.callStep call b) (w.callStep call b) := by
  unfold callStep
  split
  next manager hcall =>
    unfold startLocked
    split
    next halive => exact .finds call b manager hcall halive
    next hdead => exact .creates call b manager hcall (by simpa using hdead)
  next manager hcall => exact .signals call b manager hcall
  next => exact .proceeds _ call _ (by simp) (by simp)
  next thread _ =>
    unfold stopJoin
    split
    · exact .proceeds _ call _ (by simp) (by simp)
    · exact .stays _
  next thread _ =>
    unfold stopClear
    split
    next h =>
      have hdead : w.isAlive w.refreshThread = false := by rw [h.1, h.2]
      exact .clears call b hdead
    next => exact .proceeds _ call _ (by simp) (by simp)
  next => exact .stays _
  next => exact .stays _

theorem begin_start_move (call : CallId) :
    LoopMove w (.callStart call) (w.beginStart call) := by
  unfold beginStart
  split
  · exact .proceeds _ call _ (by simp) (by simp)
  · split
    · exact .proceeds _ call _ (by simp) (by simp)
    · exact .proceeds _ call _ (by simp) (by simp)

theorem thread_step_move (thread : ThreadId) (outcome : CycleOutcome) :
    LoopMove w (.threadStep thread outcome) (w.threadStep thread outcome) := by
  -- a thread in its loop goes on with its manager or leaves for the clean-up
  have hgo {manager : ManagerId} {pc : ThreadPc}
      (hbefore : (w.threads thread).manager = some manager) (hafter : pc.manager = some manager) :
      LoopMove w (.threadStep thread outcome) (w.setThread thread pc) :=
    .goesOn thread outcome manager w.status pc hbefore hafter
  have hleave {manager : ManagerId} (hbefore : (w.threads thread).manager = some manager) :
      LoopMove w (.threadStep thread outcome) (w.setThread thread .cleanup) := by
    have hrun := ThreadPc.inRun_of_manager hbefore
    exact .leaves thread outcome _ (ThreadPc.isAlive_of_inRun hrun) rfl fun _ => hrun
  unfold threadStep
  split
  next manager hpc =>
    have hbefore : (w.threads thread).manager = some manager := by rw [hpc]; rfl
    split
    · exact .leaves thread _ _ (by rw [hpc]; rfl) rfl (fun h => by cases h)
    · exact hgo hbefore rfl
  next manager hpc =>
    have hbefore : (w.threads thread).manager = some manager := by rw [hpc]; rfl
    split
    · exact hleave hbefore
    · exact hgo hbefore rfl
  next manager hpc =>
    have hbefore : (w.threads thread).manager = some manager := by rw [hpc]; rfl
    split
    next => exact hleave hbefore
    next hstop => exact .begins thread outcome manager hpc (by simpa using hstop)
  next manager hpc =>
    have hbefore : (w.threads thread).manager = some manager := by rw [hpc]; rfl
    cases outcome with
    | completes nowEpoch => exact .goesOn thread _ manager _ _ hbefore rfl
    | restarts nowEpoch reason => exact .restarts thread manager nowEpoch reason hpc
    | raises => exact hleave hbefore
  next old new hpc => exact .stopsOld thread outcome old new hpc
  next manager hpc =>
    have hbefore : (w.threads thread).manager = some manager := by rw [hpc]; rfl
    split
    · exact hleave hbefore
    · exact hgo hbefore rfl
  next manager hpc =>
    have hbefore : (w.threads thread).manager = some manager := by rw [hpc]; rfl
    split
    · exact hleave hbefore
    · exact hgo hbefore rfl
  next hpc => exact .cleansUp thread outcome hpc
  next hpc => exact .leaves thread outcome _ (by rw [hpc]; rfl) rfl (fun h => by cases h)
  next => exact .stays _
  next => exact .stays _

theorem step_move (a : LoopAction) : LoopMove w a (w.step a) := by
  cases a with
  | callStart call =>
    simp only [step]
    split
    · exact begin_start_move w call
    · exact .stays _
  | callStop call =>
    simp only [step]
    split
    · exact .proceeds _ call _ (by simp) (by simp)
    · exact .stays _
  | callStep call b => exact call_step_move w call b
  | threadStep thread outcome => exact thread_step_move w thread outcome

end Move

/-- A thread in its run is the one of the handle, and the flag says that it runs. -/
structure SingleLoop (w : LoopWorld) : Prop where
  handle : ∀ t, (w.threads t).inRun = true → w.refreshThread = some t ∧ w.refreshRunning = true
  unused : ∀ t, w.nextThread ≤ t → w.threads t = .absent

namespace SingleLoop
variable {w : LoopWorld}

theorem boot (status : SgwStartupStatusModel) (managed : Bool) :
    SingleLoop (LoopWorld.boot status managed) where
  handle t h := by cases h
  unused _ _ := rfl

theorem isAlive_handle (hi : SingleLoop w) {t : ThreadId} (h : (w.threads t).inRun = true) :
    w.isAlive w.refreshThread = true := by
  rw [(hi.handle t h).1]
  exact ThreadPc.isAlive_of_inRun h

/-- Without a living handle no thread is in its run. -/
theorem not_inRun (hi : SingleLoop w) (hdead : w.isAlive w.refreshThread = false) (t : ThreadId) :
    (w.threads t).inRun = false := by
  by_contra h
  have halive := hi.isAlive_handle (Bool.eq_true_of_not_eq_false h)
  rw [hdead] at halive
  cases halive

theorem unique (hi : SingleLoop w) {t t' : ThreadId} (h : (w.threads t).inRun = true)
    (h' : (w.threads t').inRun = true) : t = t' := by
  have heq := (hi.handle t h).1.symm.trans (hi.handle t' h').1
  exact Option.some.inj heq

/-- A thread that is alive moves on, and is in its run only if it was so before. -/
theorem setThread (hi : SingleLoop w) {t : ThreadId} (pc : ThreadPc)
    (hbefore : (w.threads t).isAlive = true)
    (hrun : pc.inRun = true → (w.threads t).inRun = true) : SingleLoop (w.setThread t pc) where
  handle u hu := by
    apply hi.handle
    by_cases h : u = t
    · subst h
      exact hrun (by simpa [LoopWorld.setThread] using hu)
    · simpa [LoopWorld.setThread, Function.update_of_ne h] using hu
  unused u hu := by
    have habsent := hi.unused u hu
    by_cases h : u = t
    · subst h
      rw [habsent] at hbefore
      cases hbefore
    · simpa [LoopWorld.setThread, Function.update_of_ne h] using habsent

/-- The handle and the flag are cleared when no thread is in its run. -/
theorem clearThread (hi : SingleLoop w) (h : ∀ t, (w.threads t).inRun = false) :
    SingleLoop w.clearThread where
  handle t ht := by
    have hrun : (w.threads t).inRun = true := ht
    rw [h t] at hrun
    cases hrun
  unused := hi.unused

theorem startThread (hi : SingleLoop w) (hdead : w.isAlive w.refreshThread = false)
    (call : CallId) (manager : ManagerId) : SingleLoop (w.startThread call manager) where
  handle u hu := by
    by_cases h : u = w.nextThread
    · exact ⟨by rw [h]; rfl, rfl⟩
    · have hold : (w.threads u).inRun = true := by
        simpa [LoopWorld.startThread, LoopWorld.setCall, LoopWorld.setThread, LoopWorld.setStop,
          Function.update_of_ne h] using hu
      rw [hi.not_inRun hdead u] at hold
      cases hold
  unused u hu := by
    have hlt : w.nextThread < u := hu
    have h : u ≠ w.nextThread := Nat.ne_of_gt hlt
    simpa [LoopWorld.startThread, LoopWorld.setCall, LoopWorld.setThread, LoopWorld.setStop,
      Function.update_of_ne h] using hi.unused u hlt.le

/-- The dying thread clears its own handle only: while it is in its run, the handle is its own. -/
theorem cleanup (hi : SingleLoop w) {t : ThreadId} (hpc : w.threads t = .cleanup) :
    SingleLoop (w.clearThread.setThread t .finishing) where
  handle u hu := by
    exfalso
    by_cases h : u = t
    · subst h
      simp [LoopWorld.setThread, ThreadPc.inRun] at hu
    · have hold : (w.threads u).inRun = true := by
        simpa [LoopWorld.setThread, LoopWorld.clearThread, Function.update_of_ne h] using hu
      exact h (hi.unique hold (by rw [hpc]; rfl))
  unused u hu := by
    have habsent := hi.unused u hu
    by_cases h : u = t
    · subst h
      rw [hpc] at habsent
      cases habsent
    · simpa [LoopWorld.setThread, LoopWorld.clearThread, Function.update_of_ne h] using habsent

theorem step (hi : SingleLoop w) (a : LoopAction) : SingleLoop (w.step a) := by
  have hmove := step_move w a
  generalize w.step a = w' at hmove ⊢
  cases hmove with
  | stays => exact hi
  | proceeds => exact ⟨hi.handle, hi.unused⟩
  | finds => exact ⟨hi.handle, hi.unused⟩
  | creates call b manager _ hdead => exact hi.startThread hdead call manager
  | signals call b manager =>
    unfold stopSignal
    split
    · exact ⟨hi.handle, hi.unused⟩
    · exact ⟨hi.handle, hi.unused⟩
  | clears call b hdead =>
    have hclear := hi.clearThread (hi.not_inRun hdead)
    exact ⟨hclear.handle, hclear.unused⟩
  | goesOn t _ manager status pc hbefore =>
    have hrun := ThreadPc.inRun_of_manager hbefore
    have hset := hi.setThread pc (ThreadPc.isAlive_of_inRun hrun) fun _ => hrun
    exact ⟨hset.handle, hset.unused⟩
  | begins t _ manager hpc =>
    have hset := hi.setThread (t := t) (.inCycle manager) (by rw [hpc]; rfl)
      (by rw [hpc]; intro _; rfl)
    exact ⟨hset.handle, hset.unused⟩
  | restarts t manager _ _ hpc =>
    have hset := hi.setThread (t := t) (.stopOld manager w.nextManager) (by rw [hpc]; rfl)
      (by rw [hpc]; intro _; rfl)
    exact ⟨hset.handle, hset.unused⟩
  | stopsOld t _ old new hpc =>
    have hset := hi.setThread (t := t) (.entering new) (by rw [hpc]; rfl)
      (by rw [hpc]; intro _; rfl)
    exact ⟨hset.handle, hset.unused⟩
  | leaves t _ pc hbefore _ hrun => exact hi.setThread pc hbefore hrun
  | cleansUp t _ hpc => exact hi.cleanup hpc

/-- No step brings a second thread to life while one is in its run. -/
theorem no_second_thread (hi : SingleLoop w) {t : ThreadId} (h : (w.threads t).inRun = true)
    (a : LoopAction) {u : ThreadId} (hu : w.threads u = .absent) :
    (w.step a).threads u = .absent := by
  have hmove := step_move w a
  generalize w.step a = w' at hmove ⊢
  have hne {v : ThreadId} (hv : (w.threads v).isAlive = true) : u ≠ v := by
    intro heq
    rw [← heq, hu] at hv
    cases hv
  have hkeep {v : ThreadId} (pc : ThreadPc) (hv : (w.threads v).isAlive = true) :
      Function.update w.threads v pc u = .absent := by
    rw [Function.update_of_ne (hne hv), hu]
  cases hmove with
  | stays => exact hu
  | proceeds => exact hu
  | finds => exact hu
  | creates call b manager _ hdead =>
    have halive := hi.isAlive_handle h
    rw [hdead] at halive
    cases halive
  | signals call b manager =>
    unfold stopSignal
    split <;> exact hu
  | clears call b hdead => exact hu
  | goesOn v _ manager status pc hbefore =>
    exact hkeep pc (ThreadPc.isAlive_of_inRun (ThreadPc.inRun_of_manager hbefore))
  | begins v _ manager hpc => exact hkeep _ (by rw [hpc]; rfl)
  | restarts v manager _ _ hpc => exact hkeep _ (by rw [hpc]; rfl)
  | stopsOld v _ old new hpc => exact hkeep _ (by rw [hpc]; rfl)
  | leaves v _ pc hbefore => exact hkeep pc hbefore
  | cleansUp v _ hpc => exact hkeep _ (by rw [hpc]; rfl)

theorem exec (hi : SingleLoop w) (as : List LoopAction) :
    SingleLoop (LabelledRun.exec LoopWorld.step w as) :=
  LabelledRun.invariant_of_step (fun _ a h => h.step a) as hi

end SingleLoop

/-- The state of the module after a run from the startup on. -/
def runFrom (status : SgwStartupStatusModel) (managed : Bool) (as : List LoopAction) : LoopWorld :=
  LabelledRun.exec step (boot status managed) as

/-- At every point of every run one thread at most is between its start and its clean-up. While
one is, the module says that the refresh runs, a start call that takes the lock finds the thread,
and no step of any call or thread creates another. -/
theorem single_refresh_loop (status : SgwStartupStatusModel) (managed : Bool)
    (as : List LoopAction) :
    let w := runFrom status managed as
    (∀ t t', (w.threads t).inRun = true → (w.threads t').inRun = true → t = t') ∧
      ∀ t, (w.threads t).inRun = true →
        w.isSgwRefreshRunning = true ∧
        (∀ call b manager, w.calls call = .startLocked manager →
          w.step (.callStep call b) = w.setCall call (.returned (some true))) ∧
        ∀ a u, w.threads u = .absent → (w.step a).threads u = .absent := by
  intro w
  have hi : SingleLoop w := (SingleLoop.boot status managed).exec as
  refine ⟨fun t t' => hi.unique, fun t ht => ⟨(hi.handle t ht).2, ?_, fun a u =>
    hi.no_second_thread ht a⟩⟩
  intro call b manager hcall
  simp only [step, callStep, hcall, startLocked, hi.isAlive_handle ht, if_true]

end LoopWorld
end PypnmCmts
