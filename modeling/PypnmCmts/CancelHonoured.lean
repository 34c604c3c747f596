import PypnmCmts.OperationStateMachine

/-! What a cancel flag achieves. The runner looks at it at the head of its loop only, so a flag
that is raised behind its last look is missed, and a caller is told CANCELLING even
where its save was refused. -/
namespace PypnmCmts

open LabelledRun OperationRunner OperationStore

namespace RunnerPc

/-- The next step of the runner takes it past its last look at the flag: it leaves the loop with
nothing left to do, or skips it because the scope is empty. -/
def leavesLoop : RunnerPc → Bool
  | loop l .head => l.drained
  | transitioned state =>
    state.requestSummary.macAddresses = [] ∨ state.requestSummary.servingGroupIds = []
  | _ => false

/-- Only the save of the terminal state is left to do, without another look at the flag. -/
def pastLastLook : RunnerPc → Bool
  | finishing _ | emptyScope _ => true
  | _ => false

end RunnerPc

namespace OperationWorld
variable {κ : Type*} {w : OperationWorld κ}

theorem afterResult_pastLastLook (l : LoopVars) (round : Round) :
    (w.afterResult l round).pc.pastLastLook = false := by
  unfold afterResult
  split <;> rfl

theorem handleResult_pastLastLook (l : LoopVars) (h : HandledResult) (round : Round) :
    (w.handleResult l h round).pc.pastLastLook = false := by
  unfold handleResult
  dsimp only
  split <;> rfl

/-- The loop ends where its condition fails. -/
theorem loopStep_pastLastLook (mt : Option ServiceStatusCode) (done : List ℕ) (l : LoopVars)
    (phase : LoopPhase) (hpc : w.pc = .loop l phase)
    (h : (w.loopStep mt done l phase).pc.pastLastLook = true) : w.pc.leavesLoop = true := by
  rw [hpc]
  cases phase with
  | head =>
    simp only [loopStep] at h
    split_ifs at h with hdrained
    · exact hdrained
    · cases h
    · cases h
  | deadline | submitting | waiting =>
    simp only [loopStep] at h
    (repeat' split at h) <;> cases h
  | retries => cases h
  | scanning d now todo timedOut =>
    cases todo with
    | nil => cases h
    | cons =>
      simp only [loopStep] at h
      split at h <;> cases h
  | dispatch round =>
    exfalso
    change (w.dispatch mt l round).pc.pastLastLook = true at h
    have hcases := w.dispatched mt l round
    generalize w.dispatch mt l round = w' at h hcases
    cases hcases
    case timedOut => exact absurd h (by simp [handleResult_pastLastLook])
    case resolved => exact absurd h (by simp [handleResult_pastLastLook])
    case blocked =>
      rw [hpc] at h
      cases h
    all_goals cases h
  | retrying round =>
    simp only [loopStep, afterResult_pastLastLook] at h
    cases h
  | persisting hd todo round =>
    cases todo with
    | nil =>
      simp only [loopStep, afterResult_pastLastLook] at h
      cases h
    | cons => cases h

theorem runnerStep_pastLastLook (mt : Option ServiceStatusCode) (done : List ℕ)
    (h : (w.runnerStep mt done).pc.pastLastLook = true) : w.pc.leavesLoop = true := by
  cases hpc : w.pc with
  | loop l phase =>
    have hloop := loopStep_pastLastLook mt done l phase hpc
    simp only [runnerStep, hpc] at h hloop
    exact hloop h
  | transitioned state =>
    simp only [runnerStep, hpc] at h
    split at h
    next hempty => exact decide_eq_true hempty
    next => cases h
  | preparing =>
    simp only [runnerStep, hpc] at h
    split at h <;> cases h
  | ended =>
    simp only [runnerStep, hpc] at h
    cases h
  | _ =>
    simp only [runnerStep, hpc] at h
    cases h

/-- Before that point the runner saves no COMPLETED copy. -/
theorem saves_not_completed (hrunning : w.MemoryRunning) (hlook : w.pc.pastLastLook = false)
    {copy : OperationStateModel} (hcopy : w.pc.saves w.epoch = some copy) :
    copy.state ≠ .completed := by
  by_cases hprogress : w.pc.savesProgress = true
  · have hkind := saves_state hrunning hcopy
    rw [if_pos hprogress] at hkind
    rw [hkind]
    intro heq
    cases heq
  · cases hpc : w.pc with
    | closingSave why state =>
      rw [hpc] at hcopy
      obtain rfl := Option.some_inj.mp hcopy
      cases why
      all_goals
        intro heq
        cases heq
    | transitioned | sized =>
      rw [hpc] at hprogress
      exact absurd rfl hprogress
    | emptyScope | finishing =>
      rw [hpc] at hlook
      cases hlook
    | loop l phase =>
      rw [hpc] at hprogress hcopy
      cases phase with
      | retrying => exact absurd rfl hprogress
      | persisting hd todo round =>
        cases todo with
        | nil => exact absurd rfl hprogress
        | cons => cases hcopy
      | _ => cases hcopy
    | _ =>
      rw [hpc] at hcopy
      cases hcopy

variable [DecidableEq κ]

/-- The step raises no flag behind the runner's last look and saves nothing over a terminal
state; a runner that leaves its loop has not missed a flag. -/
def cancelInTime (w : OperationWorld κ) : OperationAction κ → Bool
  | .run _ => !(w.pc.leavesLoop && w.dir.cancelFlag)
  | .cancel caller =>
    match w.calls caller with
    | .touching _ => isTerminalState w.lifecycle || !w.pc.pastLastLook
    | .saving _ => !isTerminalState w.lifecycle
    | _ => true
  | _ => true

/-- The flag is up, and the runner has still to look at it. -/
structure Flagged (w : OperationWorld κ) : Prop where
  flag : w.dir.cancelFlag = true
  ahead : w.pc.pastLastLook = false
  uncompleted : w.lifecycle ≠ .completed

theorem flagged_step (mt : Option ServiceStatusCode) (a : OperationAction κ) (hw : w.CopiesKnown)
    (h : w.Flagged) (ha : w.cancelInTime a = true) : (w.step mt a).Flagged := by
  cases a with
  | run done =>
    refine ⟨(runnerStep_cancelFlag mt done).trans h.flag, ?_, ?_⟩
    · -- past its last look the runner would have left the loop under the flag
      rw [← Bool.not_eq_true]
      intro hlook
      simp only [cancelInTime, h.flag, runnerStep_pastLastLook mt done hlook] at ha
      cases ha
    · rw [lifecycle, step_state]
      cases hsaves : w.saved (.run done) with
      | none => exact h.uncompleted
      | some copy =>
        have hcopy := saves_not_completed hw.runner h.ahead hsaves
        rcases saveStateAtomic_state w.dir copy with hs | hs
        · exact fun hcompleted => hcopy (by rw [← hs]; exact hcompleted)
        · exact fun hcompleted => h.uncompleted (by rw [lifecycle, ← hs]; exact hcompleted)
  | raise message =>
    refine ⟨?_, ?_, ?_⟩
    · change (w.raiseAt message).dir.cancelFlag = true
      rw [(raiseAt_frame message).1.dir]
      exact h.flag
    · simp only [step, raiseAt]
      split <;> rfl
    · change (w.raiseAt message).dir.state.state ≠ .completed
      rw [(raiseAt_frame message).1.dir]
      exact h.uncompleted
  | cancel caller =>
    refine ⟨?_, h.ahead, ?_⟩
    · simp only [step, cancelStep]
      cases w.calls caller with
      | loading =>
        simp only [requestCancel]
        split <;> exact h.flag
      | touching => rfl
      | saving updated => exact (saveStateAtomic_cancelFlag _ _).trans h.flag
      | returned => exact h.flag
    · change (w.cancelStep caller).dir.state.state ≠ .completed
      rcases cancelStep_cases hw.callers caller with hkeep | ⟨updated, hcall, -, hput⟩
      · rw [hkeep]
        exact h.uncompleted
      · rw [hput, hw.callers caller updated hcall]
        intro heq
        cases heq
  | _ => exact ⟨h.flag, h.ahead, h.uncompleted⟩

/-- Where a caller touches the flag of an operation that is not terminal, the runner has still to
look at it. -/
theorem flagged_of_touch (mt : Option ServiceStatusCode) {caller : κ} {state : OperationStateModel}
    (hcall : w.calls caller = .touching state) (hopen : isTerminalState w.lifecycle = false)
    (ha : w.cancelInTime (.cancel caller) = true) : (w.step mt (.cancel caller)).Flagged := by
  simp only [cancelInTime, hcall, hopen, Bool.false_or, Bool.not_eq_true'] at ha
  refine ⟨?_, ha, ?_⟩
  · simp only [step, cancelStep, hcall, requestCancel]
    rfl
  · change (w.cancelStep caller).dir.state.state ≠ .completed
    simp only [cancelStep, hcall, requestCancel]
    intro hcompleted
    rw [lifecycle] at hopen
    rw [show w.dir.state.state = .completed from hcompleted] at hopen
    cases hopen

/-- A state that a call has returned was in the file at some point of the run. -/
theorem returned_held_step (mt : Option ServiceStatusCode) (a : OperationAction κ)
    (ha : w.cancelInTime a = true) {caller : κ} {state : OperationStateModel}
    (h : (w.step mt a).calls caller = .returned state) :
    w.calls caller = .returned state ∨ w.dir.state = state ∨ (w.step mt a).dir.state = state := by
  cases a with
  | run done => exact .inl ((congrFun (runnerStep_calls mt done) caller).symm.trans h)
  | raise message => exact .inl ((congrFun (raiseAt_frame message).1.calls caller).symm.trans h)
  | cancel other =>
    simp only [step, cancelStep] at h ⊢
    by_cases hc : caller = other
    · subst hc
      rw [Function.update_self] at h
      cases hcall : w.calls caller with
      | loading =>
        rw [hcall] at h
        simp only [requestCancel] at h
        split at h
        · exact .inr (.inl (CancelCall.returned.inj h))
        · cases h
      | touching =>
        rw [hcall] at h
        cases h
      | saving updated =>
        rw [hcall] at h
        simp only [cancelInTime, hcall, Bool.not_eq_true'] at ha
        have hstate := CancelCall.returned.inj h
        right
        right
        simp only [requestCancel]
        rw [← hstate]
        exact saveStateAtomic_open ha updated
      | returned st =>
        rw [hcall] at h
        exact .inl h
    · rw [Function.update_of_ne hc] at h
      exact .inl h
  | _ => exact .inl h

/-- A cancel whose flag the runner has still to look at is honoured: the operation does not end
COMPLETED, and what `request_cancel` returns was in the file. -/
theorem cancel_honoured (mt : Option ServiceStatusCode) (dir : OperationDir) (clock : ℚ)
    (epoch : TimestampSec) (as : List (OperationAction κ))
    (hintime : Guarded (step mt) (fun w a => w.cancelInTime a = true)
      (initial dir clock epoch) as) :
    let after (bs : List (OperationAction κ)) := exec (step mt) (initial dir clock epoch) bs
    (∀ bs caller state cs, as = bs ++ .cancel caller :: cs →
      (after bs).calls caller = .touching state → isTerminalState (after bs).lifecycle = false →
      ∀ ds, ds <+: cs → (after (bs ++ .cancel caller :: ds)).lifecycle ≠ .completed) ∧
    (∀ caller state, (after as).calls caller = .returned state →
      ∃ bs, bs <+: as ∧ (after bs).dir.state = state) := by
  intro after
  have hinit : (initial dir clock epoch : OperationWorld κ).CopiesKnown :=
    copiesKnown_initial dir clock epoch
  have hknown (bs) : (after bs).CopiesKnown := copiesKnown_exec mt hinit bs
  constructor
  · rintro bs caller state cs rfl hcall hopen ds ⟨es, rfl⟩
    obtain ⟨htouch, hrest⟩ := (guarded_append.mp hintime).2
    have hflagged := flagged_of_touch mt hcall hopen htouch
    have hds := (guarded_append.mp hrest).1
    have hinv := invariant_of_guarded (I := fun w : OperationWorld κ => w.CopiesKnown ∧ w.Flagged)
      (fun w a ha hw => ⟨copiesKnown_exec mt hw.1 [a], flagged_step mt a hw.1 hw.2 ha⟩) hds
      ⟨copiesKnown_exec mt (hknown bs) [.cancel caller], hflagged⟩
    simp only [after, exec_append_cons]
    exact hinv.2.uncompleted
  · -- the last step of the run has returned the state, or an earlier one has
    clear hknown
    induction as using List.reverseRecOn with
    | nil =>
      intro caller state hret
      cases hret
    | append_singleton as a ih =>
      intro caller state hret
      obtain ⟨has, ha, -⟩ := guarded_append.mp hintime
      simp only [after, exec_concat] at hret
      rcases returned_held_step mt a ha hret with h | h | h
      · obtain ⟨bs, hbs, hstate⟩ := ih has caller state h
        exact ⟨bs, hbs.trans (List.prefix_append as [a]), hstate⟩
      · exact ⟨as, List.prefix_append as [a], h⟩
      · refine ⟨as ++ [a], List.prefix_rfl, ?_⟩
        simp only [after, exec_concat]
        exact h

/-- `macs` are captured one after the other. -/
def smallScope (macs : List MacAddressStr) : OperationRequestSummaryModel where
  servingGroupIds := [7]
  macAddresses := macs
  execution := { maxWorkers := 1, perModemTimeoutSeconds := 5, overallTimeoutSeconds := 100 }

/-- A cancel call loads the state while the first modem is in flight. It goes on at once, or late,
when the loop has ended. -/
def cancelDuringCapture (late : Bool) : List (OperationAction Unit) :=
  let steps (n : ℕ) : List (OperationAction Unit) := List.replicate n (.run [])
  let cancel : List (OperationAction Unit) := [.cancel ()]
  let success : OperationWorkerResultModel := ⟨none, buildStageResults .success "" 0 0 false none⟩
  steps 9 ++ cancel ++ (if late then [] else cancel ++ cancel) ++
    [.start 0, .finish 0 (.result success), .run [0]] ++ steps 9 ++
    (if late then cancel ++ steps 1 ++ cancel else steps 2)

theorem cancel_honoured_pair :
    let run := cancelDuringCapture false
    let w := exec (step none) (created "op" (smallScope ["first", "second"]) 0 0) run
    w.lifecycle = .cancelled ∧ w.lifecycle ≠ .completed := by
  let start : OperationWorld Unit := created "op" (smallScope ["first", "second"]) 0 0
  have hintime : Guarded (step none) (fun w a => w.cancelInTime a = true) start
      (cancelDuringCapture false) := by decide +kernel
  have hloaded : (exec (step none) start ((cancelDuringCapture false).take 10)).calls () =
      .touching (exec (step none) start ((cancelDuringCapture false).take 9)).dir.state := by
    decide +kernel
  have hhonoured := (cancel_honoured none start.dir 0 0 _ hintime).1
    ((cancelDuringCapture false).take 10) () _ ((cancelDuringCapture false).drop 11) rfl hloaded
    (by decide +kernel) _ List.prefix_rfl
  exact ⟨by decide +kernel, hhonoured⟩

/-- The runner has left its loop when the flag is raised: the operation ends COMPLETED, and the
caller gets a CANCELLING state that was never on disk. -/
theorem late_cancel_missed :
    let start : OperationWorld Unit := created "op" (smallScope ["mac"]) 0 0
    let run := cancelDuringCapture true
    let loaded := (exec (step none) start (run.take 9)).dir.state
    let flagged := exec (step none) start (run.take 23)
    let w := exec (step none) start run
    flagged.dir.cancelFlag = true ∧ isTerminalState flagged.lifecycle = false ∧
      w.lifecycle = .completed ∧ w.calls () = .returned (cancellingCopy 0 loaded) ∧
      ∀ bs ∈ run.inits, (exec (step none) start bs).dir.state ≠ cancellingCopy 0 loaded := by
  decide +kernel

end OperationWorld
end PypnmCmts
