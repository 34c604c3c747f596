import PypnmCmts.LastAttempts

/-! Attempts that the runner gives up on. An attempt that times out is abandoned and its item
retried, but the loop goes on for as long as an abandoned future has not returned. -/
namespace PypnmCmts

open LabelledRun OperationRunner OperationStore

/-- The call has returned a result whose status is SUCCESS. -/
def FutureState.succeeded : FutureState → Bool
  | finished (.result result) => finalStatusCode result = .success
  | _ => false

/-- The number of work items that a run of the request has. -/
def workItemCount (summary : OperationRequestSummaryModel) : ℕ :=
  if summary.servingGroupIds = [] then 0 else summary.macAddresses.length

/-- The step belongs to a `request_cancel` call. -/
def OperationAction.cancels {κ : Type*} : OperationAction κ → Bool
  | cancel _ => true
  | _ => false

/-- The runner has left its loop, or never reached it. -/
def RunnerPc.outOfLoop : RunnerPc → Bool
  | closing _ | closingSave _ _ | ended => true
  | _ => false

namespace OperationWorld
variable {κ : Type*} {w : OperationWorld κ}

/-- The last attempt at the item at index `i` has ended in SUCCESS, and was not handled as a
timeout. -/
def FinallySucceeded (w : OperationWorld κ) (i : ℕ) : Prop :=
  ∃ f < w.submitted.length, LastAttempt w.submitted i f ∧ (w.futures f).succeeded = true ∧
    ∀ h ∈ w.handled, h.future = f → h.succeeded = true

instance (w : OperationWorld κ) (i : ℕ) : Decidable (w.FinallySucceeded i) :=
  inferInstanceAs (Decidable (∃ f < w.submitted.length, _ ∧ _ ∧ ∀ h ∈ w.handled, _ → _))

/-- The step raises no exception before the run has ended, and does not find the overall
deadline passed. -/
def inTime (w : OperationWorld κ) : OperationAction κ → Bool
  | .run _ =>
    match w.pc with
    | .loop l .deadline => w.clock < l.overallDeadline
    | _ => true
  | .raise _ =>
    match w.pc with
    | .ended => true
    | _ => false
  | _ => true

variable {mt : Option ServiceStatusCode} {operationId : PnmCaptureOperationId}
  {summary : OperationRequestSummaryModel}

/-- The terminal state that the counters call for. -/
def verdict (state : OperationStateModel) : OperationState :=
  if 0 < state.counters.failed then .failed else .completed

/-- A run that is on its way, or has ended with its verdict on the counted results. -/
structure Afloat (mt : Option ServiceStatusCode) (operationId : PnmCaptureOperationId)
    (summary : OperationRequestSummaryModel) (w : OperationWorld κ) : Prop where
  steady : w.Steady
  counted : w.Counted
  request : w.OneRequest operationId summary
  noFlag : w.dir.cancelFlag = false
  accounted : w.Accounted mt operationId summary
  placed : w.Placed
  cause : w.LoopsForCause
  verdict : isTerminalState w.lifecycle = true → w.lifecycle = verdict w.dir.state

/-- The runner is out of its loop and leaves an item whose last attempt, if there is one, has
ended in a `BaseException`. -/
structure Hopeless (summary : OperationRequestSummaryModel) (w : OperationWorld κ) : Prop where
  out : w.pc.outOfLoop = true
  item : ∃ i < workItemCount summary, ∀ f, LastAttempt w.submitted i f →
    w.futures f = .finished .fatal

theorem not_finallySucceeded_of_hopeless (h : w.Hopeless summary) :
    ¬ ∀ i < workItemCount summary, w.FinallySucceeded i := by
  intro hall
  obtain ⟨i, hi, hfatal⟩ := h.item
  obtain ⟨f, -, hlast, hsucceeded, -⟩ := hall i hi
  rw [hfatal f hlast] at hsucceeded
  cases hsucceeded

/-- Out of the loop the runner submits nothing. -/
theorem runnerStep_outOfLoop (done : List ℕ) (h : w.pc.outOfLoop = true) :
    (w.runnerStep mt done).pc.outOfLoop = true ∧
      (w.runnerStep mt done).submitted = w.submitted ∧
      (w.runnerStep mt done).futures = w.futures := by
  cases hpc : w.pc with
  | closing | closingSave =>
    simp only [runnerStep, hpc]
    exact ⟨rfl, rfl, rfl⟩
  | ended =>
    have hstay : w.runnerStep mt done = w := by simp only [runnerStep, hpc]
    rw [hstay]
    exact ⟨h, rfl, rfl⟩
  | _ =>
    rw [hpc] at h
    cases h

theorem raiseAt_outOfLoop (message : String) :
    (w.raiseAt message).pc.outOfLoop = true ∧ (w.raiseAt message).submitted = w.submitted ∧
      (w.raiseAt message).futures = w.futures := by
  unfold raiseAt
  split <;> exact ⟨rfl, rfl, rfl⟩

theorem runnerStep_verdict (done : List ℕ) (hsteady : w.Steady)
    (ha : w.Accounted mt operationId summary)
    (h : isTerminalState w.lifecycle = true → w.lifecycle = verdict w.dir.state)
    (hterminal : isTerminalState (w.runnerStep mt done).lifecycle = true) :
    (w.runnerStep mt done).lifecycle = verdict (w.runnerStep mt done).dir.state := by
  by_cases hold : isTerminalState w.lifecycle = true
  · have hstay : w.runnerStep mt done = w := by simp only [runnerStep, hsteady.terminal hold]
    rw [hstay]
    exact h hold
  · rw [Bool.not_eq_true] at hold
    rw [lifecycle, runnerStep_state] at hterminal ⊢
    cases hsaves : w.pc.saves w.epoch with
    | none =>
      rw [hsaves] at hterminal
      change isTerminalState w.lifecycle = true at hterminal
      rw [hold] at hterminal
      cases hterminal
    | some copy =>
      have hput : stateAfter w.dir (some copy) = copy := saveStateAtomic_open hold copy
      have hkind := saves_state hsteady.known.runner hsaves
      rw [hsaves, hput] at hterminal
      rw [hput]
      unfold Accounted at ha
      cases hpc : w.pc with
      | finishing state =>
        rw [hpc] at hsaves
        obtain rfl := Option.some_inj.mp hsaves
        rfl
      | emptyScope | closing | closingSave => simp only [hpc] at ha
      | starting | preparing | ended =>
        rw [hpc] at hsaves
        cases hsaves
      | transitioned | sized =>
        -- a progress save is no terminal one
        rw [hpc] at hkind
        rw [show copy.state = .running from hkind] at hterminal
        cases hterminal
      | loop l phase =>
        have hrunning : l.state.state = .running := hsteady.known.runner l.state (by rw [hpc]; rfl)
        rw [hpc] at hsaves
        rw [lifecycle_of_loop_saves hsaves, hrunning] at hterminal
        cases hterminal

variable [DecidableEq κ]

omit [DecidableEq κ] in
/-- Without workers no item is ever submitted. -/
theorem hopeless_without_workers (hmacs : summary.macAddresses ≠ [])
    (hsgs : summary.servingGroupIds ≠ []) (done : List ℕ) {state : OperationStateModel}
    (hpc : w.pc = .preparing state) (hworkers : ¬ 1 ≤ summary.execution.maxWorkers)
    (h : w.Afloat mt operationId summary) : (w.runnerStep mt done).Hopeless summary := by
  have hrequest := h.request.held state (by rw [hpc]; rfl)
  have hpool : state.requestSummary.execution.maxWorkers = 0 := by
    rw [hrequest.summary]
    omega
  have ha := h.accounted
  unfold Accounted at ha
  simp only [hpc] at ha
  simp only [runnerStep, hpc]
  rw [if_pos hpool]
  refine ⟨rfl, 0, ?_, ?_⟩
  · rw [workItemCount, if_neg hsgs]
    exact List.length_pos_iff.mpr hmacs
  · intro f hlast
    have hlt : f < w.submitted.length := hlast.lt
    rw [show w.submitted = [] from congrArg RunLog.submitted ha.1] at hlt
    exact absurd hlt (Nat.not_lt_zero f)

omit [DecidableEq κ] in
/-- A thread that dies leaves the item of the call it died of behind. -/
theorem hopeless_of_dispatch_ended (hsgs : summary.servingGroupIds ≠ []) (done : List ℕ)
    {l : LoopVars} {round : Round} (hpc : w.pc = .loop l (.dispatch round))
    (hended : (w.dispatch mt l round).pc = .ended) (h : w.Afloat mt operationId summary) :
    (w.runnerStep mt done).Hopeless summary := by
  obtain ⟨hstep, f, entry, hmem, hfatal⟩ := dispatch_ended hpc hended
  have hp := h.placed
  unfold Placed at hp
  simp only [hpc] at hp
  have hlast : LastAttempt w.submitted entry.queued.index f := hp.pending_last f entry hmem
  have hlt := (loopAccount_of_accounted h.accounted hpc).index_lt
    (List.mem_append_right _ (LoopVars.mem_active_pending hmem))
  have hrun : w.runnerStep mt done = w.goto .ended := by
    simp only [runnerStep, hpc, loopStep]
    exact hstep
  rw [hrun]
  refine ⟨rfl, entry.queued.index, ?_, ?_⟩
  · rw [workItemCount, if_neg hsgs]
    exact hlt
  · intro g hg
    rw [hg.unique hlast]
    exact hfatal

theorem afloat_run (hmacs : summary.macAddresses ≠ []) (hsgs : summary.servingGroupIds ≠ [])
    (done : List ℕ) (hquiet : w.inTime (.run done) = true)
    (h : w.Afloat mt operationId summary) :
    (w.step mt (.run done)).Afloat mt operationId summary ∨
      (w.step mt (.run done)).Hopeless summary := by
  by_cases hworkers : ∀ state, w.pc = .preparing state → 1 ≤ summary.execution.maxWorkers
  · by_cases halive : ∀ l round, w.pc = .loop l (.dispatch round) →
        (w.dispatch mt l round).pc ≠ .ended
    · left
      exact {
        steady := steady_step mt _ h.steady
        counted := counted_step mt _ h.steady h.counted rfl
        request := oneRequest_step mt _ h.request
        noFlag := (runnerStep_cancelFlag mt done).trans h.noFlag
        accounted := accounted_runnerStep hmacs hsgs done hquiet h.steady h.request h.noFlag
          hworkers halive h.accounted
        placed := placed_runnerStep done h.accounted h.placed
        cause := loopsForCause_runnerStep done
        verdict := runnerStep_verdict done h.steady h.accounted h.verdict }
    · right
      push Not at halive
      obtain ⟨l, round, hpc, hended⟩ := halive
      exact hopeless_of_dispatch_ended hsgs done hpc hended h
  · right
    push Not at hworkers
    obtain ⟨state, hpc, hnone⟩ := hworkers
    exact hopeless_without_workers hmacs hsgs done hpc (Nat.not_le.mpr hnone) h

/-- An exception that is in time comes after the run. -/
theorem raise_inTime {message : String} (mt : Option ServiceStatusCode)
    (hquiet : w.inTime (.raise message) = true) :
    w.pc = .ended ∧ w.step mt (.raise message) = w := by
  have hended : w.pc = .ended := by
    simp only [inTime] at hquiet
    split at hquiet
    next heq => exact heq
    next => cases hquiet
  refine ⟨hended, ?_⟩
  simp only [step, raiseAt, hended, goto]
  rw [← hended]

theorem afloat_step (hmacs : summary.macAddresses ≠ []) (hsgs : summary.servingGroupIds ≠ [])
    (a : OperationAction κ) (huncancelled : a.cancels = false) (hquiet : w.inTime a = true)
    (h : w.Afloat mt operationId summary) :
    (w.step mt a).Afloat mt operationId summary ∨ (w.step mt a).Hopeless summary := by
  cases a with
  | run done => exact afloat_run hmacs hsgs done hquiet h
  | raise message =>
    left
    rw [(raise_inTime mt hquiet).2]
    exact h
  | cancel => cases huncancelled
  | start f | finish f outcome | advance | setEpoch =>
    left
    exact { h with
      steady := steady_step mt _ h.steady
      counted := ⟨h.counted.file, h.counted.held⟩
      request := oneRequest_step mt _ h.request }

/-- A call that has ended stays as it is. -/
theorem finished_step (mt : Option ServiceStatusCode) (a : OperationAction κ) {f : ℕ}
    {outcome : WorkerOutcome} (hout : w.pc.outOfLoop = true)
    (h : w.futures f = .finished outcome) : (w.step mt a).futures f = .finished outcome := by
  have hstart : (w.futures f).start = .finished outcome := by
    rw [h]
    rfl
  have hfinish (later : WorkerOutcome) : (w.futures f).finish later = .finished outcome := by
    rw [h]
    rfl
  cases a with
  | run done => exact (congrFun (runnerStep_outOfLoop done hout).2.2 f).trans h
  | raise message => exact (congrFun (raiseAt_outOfLoop message).2.2 f).trans h
  | start g =>
    by_cases hfg : f = g
    · subst hfg
      exact (Function.update_self f _ w.futures).trans hstart
    · exact (Function.update_of_ne hfg _ w.futures).trans h
  | finish g later =>
    by_cases hfg : f = g
    · subst hfg
      exact (Function.update_self f _ w.futures).trans (hfinish later)
    · exact (Function.update_of_ne hfg _ w.futures).trans h
  | _ => exact h

/-- A step of a runner that is out of the loop, or of anyone else, submits nothing. -/
theorem outOfLoop_step (mt : Option ServiceStatusCode) (a : OperationAction κ)
    (h : w.pc.outOfLoop = true) :
    (w.step mt a).pc.outOfLoop = true ∧ (w.step mt a).submitted = w.submitted := by
  cases a with
  | run done =>
    have hrun : (w.runnerStep mt done).pc.outOfLoop = true ∧ _ := runnerStep_outOfLoop done h
    exact ⟨hrun.1, hrun.2.1⟩
  | raise message =>
    obtain ⟨hout, hsubmitted, -⟩ := raiseAt_outOfLoop (w := w) message
    exact ⟨hout, hsubmitted⟩
  | _ => exact ⟨h, rfl⟩

theorem hopeless_step (a : OperationAction κ) (h : w.Hopeless summary) :
    (w.step mt a).Hopeless summary := by
  obtain ⟨hout, hsubmitted⟩ := outOfLoop_step mt a h.out
  obtain ⟨i, hi, hfatal⟩ := h.item
  refine ⟨hout, i, hi, ?_⟩
  intro f hlast
  rw [hsubmitted] at hlast
  exact finished_step mt a h.out (hfatal f hlast)

/-- In a run with work to do that nobody cancels and that is in time, the runner is on its way,
or it has left an item behind. -/
theorem afloat_exec (hmacs : summary.macAddresses ≠ []) (hsgs : summary.servingGroupIds ≠ [])
    (clock : ℚ) (epoch : TimestampSec) {as : List (OperationAction κ)}
    (huncancelled : ∀ a ∈ as, a.cancels = false)
    (hquiet : Guarded (step mt) (fun w a => w.inTime a = true)
      (created operationId summary clock epoch) as) :
    (exec (step mt) (created operationId summary clock epoch) as).Afloat mt operationId summary ∨
      (exec (step mt) (created operationId summary clock epoch) as).Hopeless summary := by
  refine invariant_of_guarded
    (I := fun w : OperationWorld κ => w.Afloat mt operationId summary ∨ w.Hopeless summary)
    ?_ (hquiet.and (guarded_of_forall huncancelled)) (.inl ?_)
  · rintro w a ⟨hintime, hnocancel⟩ (h | h)
    · exact afloat_step hmacs hsgs a hnocancel hintime h
    · exact .inr (hopeless_step a h)
  · exact {
      steady := steady_created operationId summary clock epoch
      counted := ⟨rfl, fun st hst => by cases hst⟩
      request := oneRequest_created clock epoch
      noFlag := rfl
      accounted := rfl
      placed := fun h hmem => absurd hmem List.not_mem_nil
      cause := loopsForCause_of_pc rfl
      verdict := fun hterminal => by cases hterminal }

omit [DecidableEq κ] in
/-- A run that has ended with its items succeeded has no failure to count. -/
theorem completed_of_afloat (hsgs : summary.servingGroupIds ≠ [])
    (h : w.Afloat mt operationId summary) (hended : w.pc = .ended)
    (hfinal : ∀ i < workItemCount summary, w.FinallySucceeded i) : w.lifecycle = .completed := by
  obtain ⟨hrun, hterminal, -, -⟩ := ended_of_accounted h.accounted hended
  have hsucceeded : ∀ hd ∈ w.finals, hd.succeeded = true := by
    intro hd hmem
    have hindex : hd.queued.index < summary.macAddresses.length := by
      apply List.mem_range.mp
      exact hrun.all_final.mem_iff.mp (List.mem_map_of_mem hmem)
    rw [← show workItemCount summary = summary.macAddresses.length from if_neg hsgs] at hindex
    obtain ⟨f, -, hlast, -, hhandled⟩ := hfinal hd.queued.index hindex
    -- the counted result is that of the last attempt
    have hfuture : hd.future = f := (h.placed.finals_last hd hmem).unique hlast
    exact hhandled hd (hrun.sound.finals_handled.subset hmem) hfuture
  have hfailed : w.dir.state.counters.failed = 0 := by
    have hcount : w.dir.state.counters.failed = w.finals.countP (!·.succeeded) :=
      congrArg Tally.failed h.counted.file
    rw [hcount, List.countP_eq_zero]
    intro hd hmem
    simp only [hsucceeded hd hmem, Bool.not_true, Bool.false_eq_true, not_false_eq_true]
  rw [h.verdict hterminal, verdict, hfailed]
  rfl

/-- A run that skips the loop because the scope is empty, up to its verdict. -/
def Skips (w : OperationWorld κ) : Prop :=
  match w.pc with
  | .starting | .transitioned _ | .emptyScope _ => True
  | .ended => w.lifecycle = .completed
  | _ => False

theorem skips_step (hempty : summary.macAddresses = [] ∨ summary.servingGroupIds = [])
    (a : OperationAction κ) (huncancelled : a.cancels = false) (hquiet : w.inTime a = true)
    (hsteady : w.Steady) (hrequest : w.OneRequest operationId summary) (h : w.Skips) :
    (w.step mt a).Skips := by
  unfold Skips at h
  cases a with
  | run done =>
    cases hpc : w.pc with
    | starting =>
      simp only [step, runnerStep, hpc]
      trivial
    | transitioned state =>
      -- the copy that the runner loaded has the scope the operation was created with
      have hscope : state.requestSummary.macAddresses = [] ∨
          state.requestSummary.servingGroupIds = [] := by
        rw [(hrequest.held state (by rw [hpc]; rfl)).summary]
        exact hempty
      simp only [step, runnerStep, hpc]
      rw [if_pos hscope]
      trivial
    | emptyScope state =>
      have hopen := hsteady.isOpen (by rw [hpc]; exact RunnerPc.noConfusion)
      simp only [step, runnerStep, hpc]
      exact congrArg OperationStateModel.state (saveStateAtomic_open hopen _)
    | ended =>
      simp only [hpc] at h
      simp only [step, runnerStep, hpc, Skips]
      exact h
    | _ => simp only [hpc] at h
  | raise message =>
    rw [(raise_inTime mt hquiet).2]
    exact h
  | cancel => cases huncancelled
  | _ => exact h

theorem skips_exec (hempty : summary.macAddresses = [] ∨ summary.servingGroupIds = [])
    (clock : ℚ) (epoch : TimestampSec) {as : List (OperationAction κ)}
    (huncancelled : ∀ a ∈ as, a.cancels = false)
    (hquiet : Guarded (step mt) (fun w a => w.inTime a = true)
      (created operationId summary clock epoch) as) :
    (exec (step mt) (created operationId summary clock epoch) as).Skips := by
  have hinv := invariant_of_guarded
    (I := fun w : OperationWorld κ => w.Steady ∧ w.OneRequest operationId summary ∧ w.Skips)
    (fun w a hg hw => ⟨steady_step mt a hw.1, oneRequest_step mt a hw.2.1,
      skips_step hempty a hg.2 hg.1 hw.1 hw.2.1 hw.2.2⟩)
    (hquiet.and (guarded_of_forall huncancelled))
    ⟨steady_created operationId summary clock epoch, oneRequest_created clock epoch, trivial⟩
  exact hinv.2.2

/-- The runner is out of its loop, and the operation is not COMPLETED. -/
structure Failing (w : OperationWorld κ) : Prop where
  out : w.pc.outOfLoop = true
  uncompleted : w.lifecycle ≠ .completed

omit [DecidableEq κ] in
/-- The saves that are left to a runner out of its loop are no COMPLETED ones. -/
theorem not_completed_of_saves {copy : OperationStateModel} (hout : w.pc.outOfLoop = true)
    (h : w.pc.saves w.epoch = some copy) : copy.state ≠ .completed := by
  cases hpc : w.pc with
  | closingSave why state =>
    rw [hpc] at h
    obtain rfl := Option.some_inj.mp h
    intro heq
    cases why <;> cases heq
  | closing | ended =>
    rw [hpc] at h
    cases h
  | _ =>
    rw [hpc] at hout
    cases hout

theorem failing_step (a : OperationAction κ) (hsteady : w.Steady) (h : w.Failing) :
    (w.step mt a).Failing := by
  refine ⟨(outOfLoop_step mt a h.out).1, ?_⟩
  rw [lifecycle, step_state]
  cases hsaved : w.saved a with
  | none => exact h.uncompleted
  | some copy =>
    have hcopy : copy.state ≠ .completed := by
      cases a with
      | run done => exact not_completed_of_saves h.out hsaved
      | cancel caller =>
        simp only [saved] at hsaved
        split at hsaved
        next updated hcall =>
          rw [← Option.some_inj.mp hsaved, hsteady.known.callers caller _ hcall]
          intro heq
          cases heq
        next => cases hsaved
      | _ => cases hsaved
    rcases saveStateAtomic_state w.dir copy with hs | hs
    · exact fun hcompleted => hcopy (by rw [← hs]; exact hcompleted)
    · exact fun hcompleted => h.uncompleted (by rw [lifecycle, ← hs]; exact hcompleted)

theorem failing_exec (hsteady : w.Steady) (h : w.Failing) (as : List (OperationAction κ)) :
    (exec (step mt) w as).Failing := by
  have hinv := invariant_of_step (I := fun w : OperationWorld κ => w.Steady ∧ w.Failing)
    (fun w a hw => ⟨steady_step mt a hw.1, failing_step a hw.1 hw.2⟩) as ⟨hsteady, h⟩
  exact hinv.2

/-- A step that is not in time ends the loop without a COMPLETED save. -/
theorem failing_of_late (a : OperationAction κ) (hsteady : w.Steady) (h : w.inTime a = false) :
    (w.step mt a).Failing := by
  -- a COMPLETED operation has no step left that could come too late
  have huncompleted (hpc : w.pc ≠ .ended) : w.lifecycle ≠ .completed := by
    intro hcompleted
    apply hpc
    apply hsteady.terminal
    rw [hcompleted]
    rfl
  cases a with
  | run done =>
    simp only [inTime] at h
    split at h
    next l hpc =>
      have hlate : l.overallDeadline ≤ w.clock := not_lt.mp (of_decide_eq_false h)
      simp only [step, runnerStep, hpc, loopStep]
      rw [if_pos hlate]
      refine ⟨rfl, huncompleted ?_⟩
      intro hended
      rw [hpc] at hended
      cases hended
    next => cases h
  | raise message =>
    have hpc : w.pc ≠ .ended := by
      intro hended
      simp only [inTime, hended] at h
      cases h
    refine ⟨(raiseAt_outOfLoop message).1, ?_⟩
    change (w.raiseAt message).dir.state.state ≠ .completed
    rw [(raiseAt_frame message).1.dir]
    exact huncompleted hpc
  | _ => cases h

/-- What is left when a runner whose items have all succeeded finds the deadline passed: futures
that it has abandoned, or successes that it has not collected yet. -/
structure OnlyLeftovers (w : OperationWorld κ) (l : LoopVars) : Prop where
  queue : l.queue = []
  retryQueue : l.retryQueue = []
  futures : l.futures ≠ []
  pending : ∀ f ∈ l.pending.keys, (w.futures f).succeeded = true

omit [DecidableEq κ] in
theorem onlyLeftovers_of_afloat {l : LoopVars} (hsgs : summary.servingGroupIds ≠ [])
    (h : w.Afloat mt operationId summary) (hpc : w.pc = .loop l .deadline)
    (hfinal : ∀ i < workItemCount summary, w.FinallySucceeded i) : w.OnlyLeftovers l := by
  have ha : LoopAccount mt operationId summary w.log l [] [] :=
    loopAccount_of_accounted h.accounted hpc
  have hp : AttemptsPlaced w.log l.pending [] := by
    have hplaced := h.placed
    unfold Placed at hplaced
    simp only [hpc] at hplaced
    exact hplaced
  have hcount : workItemCount summary = summary.macAddresses.length := if_neg hsgs
  have hnone : l.waiting = [] := by
    rw [List.eq_nil_iff_forall_not_mem]
    intro q hq
    have hindex := ha.index_lt (List.mem_append_left _ hq)
    obtain ⟨f, hf, hlast, -, hhandled⟩ := hfinal q.index (hcount ▸ hindex)
    -- the last attempt at the item is in flight or counted, so the item does not wait
    rcases hp.placed f hf with hpending | ⟨hd, hmem, rfl, hcounted⟩
    · obtain ⟨entry, hentry⟩ := OrderedDict.exists_mem_of_mem_keys hpending
      have hsame := Option.some_inj.mp ((hp.pending_last f entry hentry).1.symm.trans hlast.1)
      exact ha.index_ne hq (LoopVars.mem_active_pending hentry) hsame.symm
    · have hfinals := hcounted (hhandled hd hmem rfl)
      have hsame := Option.some_inj.mp ((hp.settled_last hd hfinals).1.symm.trans hlast.1)
      exact ha.index_ne hq (LoopVars.mem_active_settled hfinals) hsame.symm
  obtain ⟨hqueue, hretry⟩ := List.append_eq_nil_iff.mp hnone
  rw [List.map_eq_nil_iff] at hretry
  refine ⟨hqueue, hretry, ?_, ?_⟩
  · intro hfutures
    -- the head of the loop has found something left, and it is none of the queues
    have hdrained := h.cause l hpc
    obtain ⟨hpending, habandoned⟩ := List.append_eq_nil_iff.mp hfutures
    rw [OrderedDict.keys, List.map_eq_nil_iff] at hpending habandoned
    simp only [LoopVars.drained, hqueue, hretry, hpending, habandoned] at hdrained
    cases hdrained
  · intro f hf
    -- a pending attempt is the last one of its item, which has succeeded
    obtain ⟨entry, hentry⟩ := OrderedDict.exists_mem_of_mem_keys hf
    have hindex := ha.index_lt (List.mem_append_right _ (LoopVars.mem_active_pending hentry))
    obtain ⟨g, -, hlast, hsucceeded, -⟩ := hfinal entry.queued.index (hcount ▸ hindex)
    rw [(hp.pending_last f entry hentry).unique hlast]
    exact hsucceeded

/-- Successes complete the operation in exactly the runs that are in time: a run that nobody
cancels and whose items all succeed in the end is COMPLETED if and only if no exception leaves
the runner and it never finds the overall deadline passed. All that can be left where it does are
futures the loop still waits for, the abandoned ones among them. -/
theorem successes_complete_iff (mt : Option ServiceStatusCode)
    (operationId : PnmCaptureOperationId) (summary : OperationRequestSummaryModel) (clock : ℚ)
    (epoch : TimestampSec) (as : List (OperationAction κ))
    (huncancelled : ∀ a ∈ as, a.cancels = false) :
    let start : OperationWorld κ := created operationId summary clock epoch
    let after (bs : List (OperationAction κ)) := exec (step mt) start bs
    let inTimeUpTo (bs : List (OperationAction κ)) :=
      Guarded (step mt) (fun w a => w.inTime a = true) start bs
    let succeeded (bs : List (OperationAction κ)) :=
      ∀ i < workItemCount summary, (after bs).FinallySucceeded i
    ((after as).pc = .ended → succeeded as →
      ((after as).lifecycle = .completed ↔ inTimeUpTo as)) ∧
    (∀ bs done cs, as = bs ++ .run done :: cs → inTimeUpTo bs → succeeded bs →
      (after bs).inTime (.run done) = false →
      ∃ l, (after bs).pc = .loop l .deadline ∧ (after bs).OnlyLeftovers l) := by
  intro start after inTimeUpTo succeeded
  have hsteady (bs) : (after bs).Steady :=
    steady_exec mt (steady_created operationId summary clock epoch) bs
  constructor
  · intro hended hfinal
    constructor
    · -- a step that is not in time leaves no way to COMPLETED
      intro hcompleted
      apply guarded_iff.mpr
      rintro bs a cs rfl
      by_contra hlate
      have hfailing : ((after bs).step mt a).Failing :=
        failing_of_late a (hsteady bs) (Bool.eq_false_iff.mpr hlate)
      have hsteady' : ((after bs).step mt a).Steady := steady_step mt a (hsteady bs)
      have hend : (exec (step mt) ((after bs).step mt a) cs).Failing :=
        failing_exec hsteady' hfailing cs
      apply hend.uncompleted
      rw [← exec_append_cons]
      exact hcompleted
    · intro hintime
      by_cases hempty : summary.macAddresses = [] ∨ summary.servingGroupIds = []
      · have hskips : (after as).Skips := skips_exec hempty clock epoch huncancelled hintime
        unfold Skips at hskips
        simp only [hended] at hskips
        exact hskips
      · obtain ⟨hmacs, hsgs⟩ := not_or.mp hempty
        rcases afloat_exec hmacs hsgs clock epoch huncancelled hintime with hafloat | hhopeless
        · exact completed_of_afloat hsgs hafloat hended hfinal
        · exact absurd hfinal (not_finallySucceeded_of_hopeless hhopeless)
  · rintro bs done cs rfl hintime hfinal hlate
    have huncancelled' : ∀ a ∈ bs, a.cancels = false :=
      fun a ha => huncancelled a (List.mem_append_left _ ha)
    simp only [inTime] at hlate
    split at hlate
    next l hpc =>
      refine ⟨l, hpc, ?_⟩
      by_cases hempty : summary.macAddresses = [] ∨ summary.servingGroupIds = []
      · -- an empty scope skips the loop
        have hskips : (after bs).Skips := skips_exec hempty clock epoch huncancelled' hintime
        unfold Skips at hskips
        simp only [hpc] at hskips
      · obtain ⟨hmacs, hsgs⟩ := not_or.mp hempty
        rcases afloat_exec hmacs hsgs clock epoch huncancelled' hintime with hafloat | hhopeless
        · exact onlyLeftovers_of_afloat hsgs hafloat hpc hfinal
        · exact absurd hfinal (not_finallySucceeded_of_hopeless hhopeless)
    next => cases hlate

/-- Two workers and one retry, for one modem. -/
def retryOnce : OperationRequestSummaryModel where
  servingGroupIds := [7]
  macAddresses := ["mac"]
  execution := { maxWorkers := 2, retryCount := 1, perModemTimeoutSeconds := 5
                 overallTimeoutSeconds := 100 }

/-- The first attempt times out and its retry succeeds; the abandoned attempt returns, or it
does not until the deadline. -/
def hungAttempt (returns : Bool) : List (OperationAction Unit) :=
  let steps (n : ℕ) : List (OperationAction Unit) := List.replicate n (.run [])
  let success : OperationWorkerResultModel := ⟨none, buildStageResults .success "" 0 0 false none⟩
  steps 9 ++ [.start 0, .advance 8] ++ steps 11 ++
    [.start 1, .finish 1 (.result success), .run [1]] ++ steps 12 ++
    (if returns then [.finish 0 (.result success), .run [0]] ++ steps 5 else
      [.advance 95] ++ steps 7)

theorem successes_complete_retried :
    let w := exec (step none) (created "op" retryOnce 0 0) (hungAttempt true)
    w.FinallySucceeded 0 ∧ w.submitted.length = 2 ∧ w.lifecycle = .completed := by
  refine ⟨by decide +kernel, by decide +kernel, ?_⟩
  have huncancelled : ∀ a ∈ hungAttempt true, a.cancels = false := by decide +kernel
  have hended := (steady_exec none (steady_created "op" retryOnce 0 0) (hungAttempt true)).terminal
    (by decide +kernel)
  have hiff := (successes_complete_iff none "op" retryOnce 0 0 (hungAttempt true) huncancelled).1
  exact (hiff hended (by decide +kernel)).mpr (by decide +kernel)

/-- The one item has succeeded in time and is counted, but its abandoned first attempt never
returns: the operation is FAILED, with no failed item. -/
theorem hung_attempt_fails_operation :
    let start : OperationWorld Unit := created "op" retryOnce 0 0
    let before := exec (step none) start ((hungAttempt false).take 37)
    let w := exec (step none) start (hungAttempt false)
    (∀ a ∈ hungAttempt false, a.cancels = false ∧ a.raises = false) ∧
      before.clock = 8 ∧ before.FinallySucceeded 0 ∧ before.dir.state.counters.success = 1 ∧
      (w.futures 0).done = false ∧ w.FinallySucceeded 0 ∧
      w.lifecycle = .failed ∧ w.dir.state.counters.failed = 0 ∧
      w.dir.state.errorSummary = some ⟨defaultOverallTimeoutMessage, ""⟩ := by
  decide +kernel

end OperationWorld
end PypnmCmts
