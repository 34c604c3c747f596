import PypnmCmts.OperationStateMachine

/-! Further calls of `OperationRunner.start` for an operation that is finished. `start` asks
whether the runner's own thread is alive, and never looks at the state on disk. -/
namespace PypnmCmts

open LabelledRun OperationRunner OperationStore

/-- A worker has taken the call. -/
def FutureState.begun : FutureState → Bool
  | running | finished _ => true
  | pending | cancelled => false

namespace OperationWorld
variable {κ : Type*}

def isAlive (w : OperationWorld κ) : Bool :=
  match w.pc with
  | .ended => false
  | _ => true

/-- A runner whose thread is alive returns False, any other one begins a new run. -/
def start (w : OperationWorld κ) : OperationWorld κ :=
  if w.isAlive then w
  else { (initial w.dir w.clock w.epoch : OperationWorld κ) with calls := w.calls }

end OperationWorld

/-- Runners that share one operation directory, each with a thread of its own. A runner's
own copy of the directory is replaced at each of its steps. -/
structure RunnerFleet (ι κ : Type*) where
  dir : OperationDir
  runners : ι → OperationWorld κ

inductive FleetAction (ι κ : Type*)
  | start (runner : ι)
  | on (runner : ι) (a : OperationAction κ)

namespace RunnerFleet
variable {ι κ : Type*} [DecidableEq ι]

omit [DecidableEq ι] in
/-- What the runner `r` works on. -/
def load (s : RunnerFleet ι κ) (r : ι) : OperationWorld κ := { s.runners r with dir := s.dir }

def store (s : RunnerFleet ι κ) (r : ι) (w : OperationWorld κ) : RunnerFleet ι κ :=
  ⟨w.dir, Function.update s.runners r w⟩

def step [DecidableEq κ] (mt : Option ServiceStatusCode) (s : RunnerFleet ι κ) :
    FleetAction ι κ → RunnerFleet ι κ
  | .start r => s.store r (s.load r).start
  | .on r a => s.store r ((s.load r).step mt a)

@[simp] theorem load_store (s : RunnerFleet ι κ) (r : ι) (w : OperationWorld κ) :
    (s.store r w).load r = w := by
  simp only [load, store, Function.update_self]

@[simp] theorem store_store (s : RunnerFleet ι κ) (r : ι) (w w' : OperationWorld κ) :
    (s.store r w).store r w' = s.store r w' := by
  simp only [store, Function.update_idem]

/-- One runner alone. -/
theorem exec_on [DecidableEq κ] (mt : Option ServiceStatusCode) (s : RunnerFleet ι κ) (r : ι)
    (w : OperationWorld κ) (as : List (OperationAction κ)) :
    exec (step mt) (s.store r w) (as.map (.on r)) =
      s.store r (exec (OperationWorld.step mt) w as) := by
  induction as generalizing w with
  | nil => rfl
  | cons a as ih =>
    rw [List.map_cons, exec_cons, exec_cons, step, load_store, store_store, ih]

end RunnerFleet

/-- A pass of the loop, with a free worker, submits the item at the head of the queue. -/
theorem OperationWorld.exec_submit {κ : Type*} [DecidableEq κ] (mt : Option ServiceStatusCode)
    {w : OperationWorld κ} {l : LoopVars} {q : QueuedItem} {rest : List QueuedItem}
    (hpc : w.pc = .loop l .head) (hqueue : l.queue = q :: rest) (hretry : l.retryQueue = [])
    (hroom : l.inFlight < l.execution.maxWorkers) (hflag : isCancelRequested w.dir = false)
    (hdeadline : w.clock < l.overallDeadline) :
    exec (step mt) w (List.replicate 4 (.run [])) = w.submit l q rest := by
  have hhead : w.step mt (.run []) = w.goto (.loop l .deadline) := by
    have hdrained : l.drained = false := by
      simp only [LoopVars.drained, hqueue, List.isEmpty_cons, Bool.false_and]
    simp only [step, runnerStep, hpc, loopStep, hdrained, hflag, Bool.false_eq_true, if_false]
  have hclock : (w.goto (.loop l .deadline)).step mt (.run []) = w.goto (.loop l .retries) := by
    have hearly : ¬ l.overallDeadline ≤ (w.goto (.loop l .deadline)).clock := not_le.mpr hdeadline
    simp only [step, runnerStep, goto_pc, loopStep]
    rw [if_neg hearly]
    rfl
  have hretries : (w.goto (.loop l .retries)).step mt (.run []) = w.goto (.loop l .submitting) := by
    have hreleased : l.releaseRetries w.clock = l := by
      obtain ⟨state, execution, deadline, queue, pending, abandoned, retryQueue⟩ := l
      simp only at hretry
      subst hretry
      simp only [LoopVars.releaseRetries, List.filter_nil, List.insertionSort_nil, List.map_nil,
        List.append_nil]
    change (w.goto (.loop l .retries)).goto (.loop (l.releaseRetries w.clock) .submitting) = _
    rw [hreleased]
    rfl
  have hsubmit : (w.goto (.loop l .submitting)).step mt (.run []) = w.submit l q rest := by
    simp only [step, runnerStep, goto_pc, loopStep, hqueue]
    rw [if_pos hroom]
    rfl
  simp only [List.replicate, exec_cons, exec_nil, hhead, hclock, hretries, hsubmit]

/-- An operation whose persisted state is terminal. -/
structure FinishedOperation where
  dir : OperationDir
  terminal : isTerminalState dir.state.state = true

namespace FinishedOperation
variable {ι κ : Type*} (op : FinishedOperation)

/-- No runner has a thread for the operation. -/
def idle (clock : ι → ℚ) (epoch : ι → TimestampSec) : RunnerFleet ι κ where
  dir := op.dir
  runners r := { OperationWorld.initial op.dir (clock r) (epoch r) with pc := .ended }

/-- A run of the operation comes to its end without a work item, and changes no counter: the
scope is empty, or the loop ends before the first submission. -/
def nothingToRun : Bool :=
  let summary := op.dir.state.requestSummary
  if summary.macAddresses = [] ∨ summary.servingGroupIds = [] then
    op.dir.state.state ≠ .completed ∨ op.dir.state.counters.totalModems = 0
  else
    isCancelRequested op.dir ∨ summary.execution.maxWorkers = 0 ∨
      summary.execution.overallTimeoutSeconds ≤ 0

/-- No further run has executed a work item, appended a record or changed the counters. -/
structure Untouched (s : RunnerFleet ι κ) : Prop where
  executed : ∀ r, ∀ f < (s.runners r).submitted.length, ((s.runners r).futures f).begun = false
  results : s.dir.results = op.dir.results
  counters : s.dir.state.counters = op.dir.state.counters

/-- The directory as a harmless run leaves it. -/
structure Keeps (dir : OperationDir) : Prop where
  lifecycle : dir.state.state = op.dir.state.state
  counters : dir.state.counters = op.dir.state.counters
  summary : dir.state.requestSummary = op.dir.state.requestSummary
  results : dir.results = op.dir.results
  flag : isCancelRequested op.dir = true → isCancelRequested dir = true

/-- The copy can be saved without harm. -/
structure CopyOf (state : OperationStateModel) : Prop where
  counters : state.counters = op.dir.state.counters
  summary : state.requestSummary = op.dir.state.requestSummary

variable {op}

theorem Keeps.copyOf {dir : OperationDir} (h : op.Keeps dir) : op.CopyOf dir.state :=
  ⟨h.counters, h.summary⟩

/-- The file takes a copy in its own terminal state only. -/
theorem Keeps.save {dir : OperationDir} (h : op.Keeps dir) {copy : OperationStateModel}
    (hcopy : copy.state = op.dir.state.state → op.CopyOf copy) :
    op.Keeps (saveStateAtomic dir copy) := by
  have hterminal : isTerminalState dir.state.state = true := by
    rw [h.lifecycle]
    exact op.terminal
  have hlifecycle := saveStateAtomic_terminal hterminal copy
  rw [h.lifecycle] at hlifecycle
  have hstate : op.CopyOf (saveStateAtomic dir copy).state := by
    rcases saveStateAtomic_state dir copy with hs | hs
    · rw [hs] at hlifecycle ⊢
      exact hcopy hlifecycle
    · rw [hs]
      exact h.copyOf
  refine ⟨hlifecycle, hstate.counters, hstate.summary, ?_, ?_⟩
  · rw [saveStateAtomic_results]
    exact h.results
  · intro hflag
    rw [isCancelRequested, saveStateAtomic_cancelFlag]
    exact h.flag hflag

/-- No progress save is taken. -/
theorem Keeps.save_running {dir : OperationDir} (h : op.Keeps dir) {copy : OperationStateModel}
    (hcopy : copy.state = .running) : op.Keeps (saveStateAtomic dir copy) := by
  apply h.save
  intro heq
  have hterminal := op.terminal
  rw [← heq, hcopy] at hterminal
  cases hterminal

variable (op) in
/-- Where a harmless run may stand. -/
def RestingPc (clock : ℚ) : RunnerPc → Prop
  | .starting | .closing _ | .ended => True
  | .transitioned state => state.state = .running ∧ op.CopyOf state
  | .emptyScope state => op.CopyOf state ∧
      (op.dir.state.requestSummary.macAddresses = [] ∨
        op.dir.state.requestSummary.servingGroupIds = [])
  | .sized state | .preparing state => state.state = .running ∧
      state.requestSummary = op.dir.state.requestSummary ∧
      ¬ (state.requestSummary.macAddresses = [] ∨ state.requestSummary.servingGroupIds = [])
  -- the loop has work to do, and leaves it at the flag or at the deadline
  | .loop l .head => l.drained = false ∧
      (isCancelRequested op.dir = true ∨ l.overallDeadline ≤ clock)
  | .loop l .deadline => l.overallDeadline ≤ clock
  | .closingSave _ state => op.CopyOf state
  | _ => False

variable (op) in
structure Resting (w : OperationWorld κ) : Prop where
  pc : op.RestingPc w.clock w.pc
  submitted : w.submitted = []
  calls : ∀ k, w.calls k = .loading ∨ ∃ state, w.calls k = .returned state

variable {w : OperationWorld κ}

/-- Leaving a run that rests is resting. -/
theorem Resting.goto (h : op.Resting w) {pc : RunnerPc} (hpc : op.RestingPc w.clock pc) :
    op.Resting (w.goto pc) := ⟨hpc, h.submitted, h.calls⟩

/-- What the loop begins with makes it end before its first submission. -/
theorem restingPc_loop (hharmless : op.nothingToRun = true) {state : OperationStateModel}
    (hsummary : state.requestSummary = op.dir.state.requestSummary)
    (hscope : ¬ (state.requestSummary.macAddresses = [] ∨
      state.requestSummary.servingGroupIds = []))
    (hworkers : ¬ state.requestSummary.execution.maxWorkers = 0) (clock : ℚ) :
    op.RestingPc clock (.loop (OperationWorld.loopVars clock state) .head) := by
  simp only [nothingToRun, ← hsummary, hscope, if_false, hworkers, false_or,
    decide_eq_true_eq] at hharmless
  refine ⟨?_, ?_⟩
  · have hlength : (OperationWorld.loopVars clock state).queue.length =
        state.requestSummary.macAddresses.length := by
      simp only [OperationWorld.loopVars, List.length_mapIdx, length_buildWorkItems]
    have hmacs := List.length_pos_iff.mpr (not_or.mp hscope).1
    have hqueue : (OperationWorld.loopVars clock state).queue ≠ [] := by
      rw [← List.length_pos_iff, hlength]
      exact hmacs
    simp only [LoopVars.drained, List.isEmpty_eq_false_iff.mpr hqueue, Bool.false_and]
  · rcases hharmless with hflag | htimeout
    · exact .inl hflag
    · right
      exact add_le_of_nonpos_right htimeout

/-- A step of the runner keeps the file and rests. -/
theorem resting_run (mt : Option ServiceStatusCode) (done : List ℕ)
    (hharmless : op.nothingToRun = true) (hkeeps : op.Keeps w.dir) (h : op.Resting w) :
    op.Keeps (w.runnerStep mt done).dir ∧ op.Resting (w.runnerStep mt done) := by
  have hpc := h.pc
  cases hw : w.pc with
  | starting =>
    simp only [OperationWorld.runnerStep, hw]
    exact ⟨hkeeps, h.goto ⟨rfl, hkeeps.counters, hkeeps.summary⟩⟩
  | transitioned state =>
    rw [hw] at hpc
    obtain ⟨hrunning, hcopy⟩ := hpc
    have hsaved : op.Keeps (saveStateAtomic w.dir state) := hkeeps.save_running hrunning
    have hsave : op.Resting (w.save state) := ⟨h.pc, h.submitted, h.calls⟩
    simp only [OperationWorld.runnerStep, hw]
    split_ifs with hscope
    · refine ⟨hsaved, hsave.goto ⟨hcopy, ?_⟩⟩
      rw [← hcopy.summary]
      exact hscope
    · exact ⟨hsaved, hsave.goto ⟨hrunning, hcopy.summary, hscope⟩⟩
  | emptyScope state =>
    rw [hw] at hpc
    obtain ⟨hcopy, hscope⟩ := hpc
    have hsave : op.Resting (w.save (markCompleted w.epoch state 0)) :=
      ⟨h.pc, h.submitted, h.calls⟩
    simp only [OperationWorld.runnerStep, hw]
    refine ⟨hkeeps.save ?_, hsave.goto trivial⟩
    intro hcompleted
    -- the total of a COMPLETED operation is 0 already
    have htotal : op.dir.state.counters.totalModems = 0 := by
      simp only [nothingToRun, hscope, if_true, decide_eq_true_eq] at hharmless
      exact hharmless.resolve_left fun hne => hne hcompleted.symm
    refine ⟨?_, hcopy.summary⟩
    simp only [markCompleted, hcopy.counters, ← htotal]
  | sized state =>
    rw [hw] at hpc
    have hsave : op.Resting (w.save state) := ⟨h.pc, h.submitted, h.calls⟩
    simp only [OperationWorld.runnerStep, hw]
    exact ⟨hkeeps.save_running hpc.1, hsave.goto hpc⟩
  | preparing state =>
    rw [hw] at hpc
    obtain ⟨-, hsummary, hscope⟩ := hpc
    simp only [OperationWorld.runnerStep, hw]
    split_ifs with hworkers
    · exact ⟨hkeeps, h.goto trivial⟩
    · exact ⟨hkeeps, h.goto (restingPc_loop hharmless hsummary hscope hworkers w.clock)⟩
  | loop l phase =>
    rw [hw] at hpc
    cases phase with
    | head =>
      obtain ⟨hdrained, hleaves⟩ := hpc
      -- the loop is left at its head exactly when the cancel flag of the file is set
      simp only [OperationWorld.runnerStep, hw, OperationWorld.loopStep, hdrained,
        Bool.false_eq_true, if_false]
      split_ifs with hflag
      · exact ⟨hkeeps, trivial, h.submitted, h.calls⟩
      · refine ⟨hkeeps, h.goto ?_⟩
        exact hleaves.resolve_left fun hop => hflag (hkeeps.flag hop)
    | deadline =>
      -- at the latest the deadline is found passed, and nothing has been submitted
      have hlate : l.overallDeadline ≤ w.clock := hpc
      simp only [OperationWorld.runnerStep, hw, OperationWorld.loopStep]
      rw [if_pos hlate]
      exact ⟨hkeeps, trivial, h.submitted, h.calls⟩
    | _ => exact hpc.elim
  | finishing =>
    rw [hw] at hpc
    exact hpc.elim
  | closing why =>
    simp only [OperationWorld.runnerStep, hw]
    exact ⟨hkeeps, h.goto hkeeps.copyOf⟩
  | closingSave why state =>
    rw [hw] at hpc
    have hcopy : op.CopyOf (OperationWorld.closingCopy w.epoch state why) := by
      cases why <;> exact ⟨hpc.counters, hpc.summary⟩
    have hsave : op.Resting (w.save (OperationWorld.closingCopy w.epoch state why)) :=
      ⟨h.pc, h.submitted, h.calls⟩
    simp only [OperationWorld.runnerStep, hw]
    exact ⟨hkeeps.save fun _ => hcopy, hsave.goto trivial⟩
  | ended =>
    simp only [OperationWorld.runnerStep, hw]
    exact ⟨hkeeps, h⟩

theorem RestingPc.later {pc : RunnerPc} {clock later : ℚ} (hle : clock ≤ later)
    (h : op.RestingPc clock pc) : op.RestingPc later pc := by
  cases pc with
  | loop l phase =>
    cases phase with
    | head => exact ⟨h.1, h.2.imp_right fun hlate => hlate.trans hle⟩
    | deadline => exact le_trans (show l.overallDeadline ≤ clock from h) hle
    | _ => exact h
  | _ => exact h

/-- No step of a resting run, or of a `request_cancel` call, does anything. -/
theorem resting_step [DecidableEq κ] (mt : Option ServiceStatusCode) (a : OperationAction κ)
    (hharmless : op.nothingToRun = true) (hkeeps : op.Keeps w.dir) (h : op.Resting w) :
    op.Keeps (w.step mt a).dir ∧ op.Resting (w.step mt a) := by
  cases a with
  | run done => exact resting_run mt done hharmless hkeeps h
  | raise message =>
    simp only [OperationWorld.step, OperationWorld.raiseAt]
    split <;> exact ⟨hkeeps, h.goto trivial⟩
  | cancel caller =>
    have hterminal : isTerminalState w.dir.state.state = true := by
      rw [hkeeps.lifecycle]
      exact op.terminal
    -- a call that loads a terminal state returns it
    have hcall : (requestCancel w.epoch w.dir (w.calls caller)).2 = w.dir ∧
        ∃ state, (requestCancel w.epoch w.dir (w.calls caller)).1 = .returned state := by
      rcases h.calls caller with hloading | ⟨state, hreturned⟩
      · rw [hloading, requestCancel, if_pos hterminal]
        exact ⟨rfl, _, rfl⟩
      · rw [hreturned]
        exact ⟨rfl, state, rfl⟩
    refine ⟨?_, h.pc, h.submitted, ?_⟩
    · simp only [OperationWorld.step, OperationWorld.cancelStep]
      rw [hcall.1]
      exact hkeeps
    · intro k
      simp only [OperationWorld.step, OperationWorld.cancelStep]
      by_cases hk : k = caller
      · subst hk
        rw [Function.update_self]
        exact .inr hcall.2
      · rw [Function.update_of_ne hk]
        exact h.calls k
  | advance wait =>
    have hle : w.clock ≤ w.clock+wait := le_add_of_nonneg_right wait.2
    exact ⟨hkeeps, h.pc.later hle, h.submitted, h.calls⟩
  | start | finish | setEpoch => exact ⟨hkeeps, h.pc, h.submitted, h.calls⟩

theorem resting_start (h : op.Resting w) : op.Resting w.start := by
  unfold OperationWorld.start
  split
  · exact h
  · exact ⟨trivial, rfl, h.calls⟩

/-- The whole fleet rests. -/
structure AtRest (op : FinishedOperation) (s : RunnerFleet ι κ) : Prop where
  keeps : op.Keeps s.dir
  runners : ∀ r, op.Resting (s.runners r)

variable [DecidableEq ι] {s : RunnerFleet ι κ}

theorem AtRest.store (h : op.AtRest s) {r : ι} (hkeeps : op.Keeps w.dir) (hw : op.Resting w) :
    op.AtRest (s.store r w) := by
  refine ⟨hkeeps, ?_⟩
  intro r'
  by_cases hr : r' = r
  · subst hr
    simp only [RunnerFleet.store, Function.update_self]
    exact hw
  · simp only [RunnerFleet.store, Function.update_of_ne hr]
    exact h.runners r'

theorem atRest_step [DecidableEq κ] (mt : Option ServiceStatusCode) (a : FleetAction ι κ)
    (hharmless : op.nothingToRun = true) (h : op.AtRest s) : op.AtRest (s.step mt a) := by
  have hload (r : ι) : op.Resting (s.load r) :=
    ⟨(h.runners r).pc, (h.runners r).submitted, (h.runners r).calls⟩
  cases a with
  | start r =>
    refine h.store ?_ (resting_start (hload r))
    have hdir : (s.load r).start.dir = s.dir := by
      unfold OperationWorld.start
      split <;> rfl
    rw [hdir]
    exact h.keeps
  | on r a =>
    have hkeeps : op.Keeps (s.load r).dir := h.keeps
    obtain ⟨hkeeps', hrests⟩ := resting_step mt a hharmless hkeeps (hload r)
    exact h.store hkeeps' hrests

omit [DecidableEq ι] in
theorem AtRest.untouched (h : op.AtRest s) : op.Untouched s where
  executed r f hf := by
    rw [(h.runners r).submitted] at hf
    exact absurd hf (Nat.not_lt_zero f)
  results := h.keeps.results
  counters := h.keeps.counters

omit [DecidableEq ι] in
theorem atRest_idle (clock : ι → ℚ) (epoch : ι → TimestampSec) :
    op.AtRest (op.idle clock epoch : RunnerFleet ι κ) where
  keeps := ⟨rfl, rfl, rfl, rfl, fun hflag => hflag⟩
  runners _ := ⟨trivial, rfl, fun _ => .inl rfl⟩

/-- A run over an empty scope puts a total of 0 into the file of a COMPLETED operation. -/
theorem exec_emptyScope [DecidableEq κ] (mt : Option ServiceStatusCode) (clock : ℚ)
    (epoch : TimestampSec)
    (hscope : op.dir.state.requestSummary.macAddresses = [] ∨
      op.dir.state.requestSummary.servingGroupIds = [])
    (hcompleted : op.dir.state.state = .completed) :
    (exec (OperationWorld.step mt) (OperationWorld.initial op.dir clock epoch : OperationWorld κ)
      (List.replicate 3 (.run []))).dir.state.counters.totalModems = 0 := by
  have hrefused : saveStateAtomic op.dir (transitionToRunning epoch op.dir.state) = op.dir :=
    saveStateAtomic_refused op.terminal rfl
  have htaken : saveStateAtomic op.dir (markCompleted epoch
      (transitionToRunning epoch op.dir.state) 0) =
        { op.dir with
          state := markCompleted epoch (transitionToRunning epoch op.dir.state) 0 } := by
    rw [saveStateAtomic, if_pos]
    rw [hcompleted]
    rfl
  have hscope' : (transitionToRunning epoch op.dir.state).requestSummary.macAddresses = [] ∨
      (transitionToRunning epoch op.dir.state).requestSummary.servingGroupIds = [] := hscope
  simp only [List.replicate, exec_cons, exec_nil, OperationWorld.step, OperationWorld.runnerStep,
    OperationWorld.initial, OperationWorld.goto, OperationWorld.save, hscope', if_true, hrefused,
    htaken]
  rfl

/-- A run with work to do reaches its loop, and the file is as it was. -/
theorem exec_toLoop [DecidableEq κ] (mt : Option ServiceStatusCode) (clock : ℚ)
    (epoch : TimestampSec)
    (hscope : ¬ (op.dir.state.requestSummary.macAddresses = [] ∨
      op.dir.state.requestSummary.servingGroupIds = []))
    (hworkers : op.dir.state.requestSummary.execution.maxWorkers ≠ 0) :
    let w : OperationWorld κ := OperationWorld.initial op.dir clock epoch
    ∃ state, state.requestSummary = op.dir.state.requestSummary ∧
      exec (OperationWorld.step mt) w (List.replicate 4 (.run [])) =
        w.goto (.loop (OperationWorld.loopVars clock state) .head) := by
  intro w
  let state := transitionToRunning epoch op.dir.state
  let sized := withTotalModems op.dir.state.requestSummary.macAddresses.length state
  -- the operation is terminal, so each save of a RUNNING copy is dropped
  have hrefused (pc : RunnerPc) (copy : OperationStateModel) (hcopy : copy.state = .running) :
      (w.goto pc).save copy = w.goto pc := by
    have hsame : saveStateAtomic op.dir copy = op.dir := by
      apply saveStateAtomic_refused op.terminal
      rw [hcopy]
      rfl
    simp only [w, OperationWorld.save, OperationWorld.goto, OperationWorld.initial, hsame]
  have hstarting : w.step mt (.run []) = w.goto (.transitioned state) := rfl
  have htransitioned : (w.goto (.transitioned state)).step mt (.run []) =
      w.goto (.sized sized) := by
    have hfull : ¬ (state.requestSummary.macAddresses = [] ∨
        state.requestSummary.servingGroupIds = []) := hscope
    simp only [OperationWorld.step, OperationWorld.runnerStep, OperationWorld.goto_pc]
    rw [if_neg hfull, hrefused _ state rfl]
    rfl
  have hsized : (w.goto (.sized sized)).step mt (.run []) = w.goto (.preparing sized) := by
    simp only [OperationWorld.step, OperationWorld.runnerStep, OperationWorld.goto_pc]
    rw [hrefused _ sized rfl]
    rfl
  have hpreparing : (w.goto (.preparing sized)).step mt (.run []) =
      w.goto (.loop (OperationWorld.loopVars clock sized) .head) := by
    have hpool : ¬ sized.requestSummary.execution.maxWorkers = 0 := hworkers
    simp only [OperationWorld.step, OperationWorld.runnerStep, OperationWorld.goto_pc]
    rw [if_neg hpool]
    rfl
  refine ⟨sized, rfl, ?_⟩
  simp only [List.replicate, exec_cons, exec_nil, hstarting, htransitioned, hsized, hpreparing]

/-- A run with work to do submits its first item, and a worker can take it. -/
theorem exec_firstItem [DecidableEq κ] (mt : Option ServiceStatusCode) (clock : ℚ)
    (epoch : TimestampSec)
    (hscope : ¬ (op.dir.state.requestSummary.macAddresses = [] ∨
      op.dir.state.requestSummary.servingGroupIds = []))
    (hflag : isCancelRequested op.dir = false)
    (hworkers : op.dir.state.requestSummary.execution.maxWorkers ≠ 0)
    (htimeout : 0 < op.dir.state.requestSummary.execution.overallTimeoutSeconds) :
    let w := exec (OperationWorld.step mt)
      (OperationWorld.initial op.dir clock epoch : OperationWorld κ)
      (List.replicate 4 (.run []) ++ List.replicate 4 (.run []) ++ [.start 0])
    w.submitted.length = 1 ∧ w.futures 0 = .running := by
  obtain ⟨state, hsummary, hloop⟩ := exec_toLoop (κ := κ) mt clock epoch hscope hworkers
  have hlength : (OperationWorld.loopVars clock state).queue.length =
      op.dir.state.requestSummary.macAddresses.length := by
    simp only [OperationWorld.loopVars, List.length_mapIdx, length_buildWorkItems, hsummary]
  have hmacs := List.length_pos_iff.mpr (not_or.mp hscope).1
  rw [← hlength] at hmacs
  obtain ⟨q, rest, hqueue⟩ := List.exists_cons_of_length_pos hmacs
  -- nothing is in flight yet, so one worker is room enough
  have hroom : (OperationWorld.loopVars clock state).inFlight <
      (OperationWorld.loopVars clock state).execution.maxWorkers := by
    simp only [OperationWorld.loopVars, hsummary]
    exact Nat.pos_of_ne_zero hworkers
  have hdeadline : clock < (OperationWorld.loopVars clock state).overallDeadline := by
    simp only [OperationWorld.loopVars, hsummary]
    exact lt_add_of_pos_right clock htimeout
  have hsubmit := OperationWorld.exec_submit mt
    (w := (OperationWorld.initial op.dir clock epoch : OperationWorld κ).goto
      (.loop (OperationWorld.loopVars clock state) .head))
    rfl hqueue rfl hroom hflag hdeadline
  intro w
  simp only [w, exec_append, exec_cons, exec_nil]
  rw [hloop, hsubmit]
  refine ⟨rfl, ?_⟩
  simp only [OperationWorld.step, Function.update_self]
  rfl

/-- A further `start` of one runner begins with a fresh run, and the runner goes on alone. -/
theorem exec_restart [DecidableEq κ] (mt : Option ServiceStatusCode)
    (clock : ι → ℚ) (epoch : ι → TimestampSec) (r : ι) (as : List (OperationAction κ)) :
    let s := exec (RunnerFleet.step mt) (op.idle clock epoch) (.start r :: as.map (.on r))
    let w := exec (OperationWorld.step mt) (OperationWorld.initial op.dir (clock r) (epoch r)) as
    s.dir = w.dir ∧ s.runners r = w := by
  intro s w
  have hs : s = (op.idle clock epoch).store r w := by
    have hstart : ((op.idle clock epoch : RunnerFleet ι κ).load r).start =
        OperationWorld.initial op.dir (clock r) (epoch r) := rfl
    simp only [s, w, exec_cons, RunnerFleet.step, hstart, RunnerFleet.exec_on]
  rw [hs]
  refine ⟨rfl, ?_⟩
  simp only [RunnerFleet.store, Function.update_self]

/-- Further `start` calls leave a finished operation alone, whatever the order of steps, if and
only if it has nothing to run. -/
theorem restarts_untouched_iff [DecidableEq κ] [Inhabited ι]
    (mt : Option ServiceStatusCode) (op : FinishedOperation) (clock : ι → ℚ)
    (epoch : ι → TimestampSec) :
    (∀ as : List (FleetAction ι κ),
      op.Untouched (exec (RunnerFleet.step mt) (op.idle clock epoch) as)) ↔
      op.nothingToRun = true := by
  constructor
  · intro huntouched
    by_contra hwork
    let r : ι := default
    by_cases hscope : op.dir.state.requestSummary.macAddresses = [] ∨
        op.dir.state.requestSummary.servingGroupIds = []
    · -- the total is overwritten
      simp only [nothingToRun, hscope, if_true, decide_eq_true_eq, not_or, not_not] at hwork
      obtain ⟨hcompleted, htotal⟩ := hwork
      let as : List (OperationAction κ) := List.replicate 3 (.run [])
      have hcounters := (huntouched (.start r :: as.map (.on r))).counters
      rw [(exec_restart mt clock epoch r as).1] at hcounters
      apply htotal
      rw [← hcounters]
      exact exec_emptyScope mt (clock r) (epoch r) hscope hcompleted
    · -- the first item is executed again
      simp only [nothingToRun, hscope, if_false, decide_eq_true_eq, not_or, not_le,
        Bool.not_eq_true] at hwork
      obtain ⟨hflag, hworkers, htimeout⟩ := hwork
      let as : List (OperationAction κ) :=
        List.replicate 4 (.run []) ++ List.replicate 4 (.run []) ++ [.start 0]
      obtain ⟨hsubmitted, hrunning⟩ := exec_firstItem (κ := κ) mt (clock r) (epoch r) hscope hflag
        hworkers htimeout
      have hexecuted := (huntouched (.start r :: as.map (.on r))).executed r 0
      rw [(exec_restart mt clock epoch r as).2, hsubmitted, hrunning] at hexecuted
      cases hexecuted Nat.zero_lt_one
  · intro hharmless as
    have hinv := invariant_of_step (I := op.AtRest)
      (fun s a hs => atRest_step mt a hharmless hs) as (atRest_idle clock epoch)
    exact hinv.untouched

/-- A run of an operation with one modem, whose capture succeeds. -/
def captureOnce : List (OperationAction Unit) :=
  let steps (n : ℕ) : List (OperationAction Unit) := List.replicate n (.run [])
  let success : OperationWorkerResultModel := ⟨none, buildStageResults .success "" 0 0 false none⟩
  steps 9 ++ [.start 0, .finish 0 (.result success), .run [0]] ++ steps 10

/-- An operation with one modem, after its first run. -/
def captured : FinishedOperation where
  dir := (exec (OperationWorld.step none) (OperationWorld.created "op"
    { servingGroupIds := [7], macAddresses := ["mac"], execution := { maxWorkers := 1 } } 0 0)
    captureOnce).dir
  terminal := by decide +kernel

/-- A second `start` captures the modem again: the records double, and the operation has completed
more modems than it has. -/
theorem restart_counts_twice :
    let s := exec (RunnerFleet.step none) (captured.idle (fun _ => 0) (fun _ => 0))
      (.start () :: captureOnce.map (.on ()))
    captured.dir.state.state = .completed ∧ captured.dir.state.counters.completed = 1 ∧
      (captured.dir.results 7).length = 3 ∧
      (s.runners ()).submitted.length = 1 ∧ ((s.runners ()).futures 0).begun = true ∧
      (s.dir.results 7).length = 6 ∧ s.dir.state.state = .completed ∧
      s.dir.state.counters.completed = 2 ∧ s.dir.state.counters.totalModems = 1 := by
  decide +kernel

end FinishedOperation
end PypnmCmts
