import PypnmCmts.OperationRun

/-! What each step of the runner or of a `request_cancel` call does: the copy it saves to
`state.json`, the runner's own copy after it, and the cases of the loops over futures. -/
namespace PypnmCmts

open LabelledRun OperationRunner OperationStore

namespace RunnerPc

/-- The value of the runner's variable `state`. -/
def memory : RunnerPc → Option OperationStateModel
  | starting | closing _ | closingSave _ _ | ended => none
  | transitioned state | emptyScope state | sized state | preparing state | finishing state =>
    some state
  | loop l _ => some l.state

/-- The value of `state`, in `_mark_cancelled` and `_mark_failed` too. -/
def held : RunnerPc → Option OperationStateModel
  | closingSave _ state => some state
  | pc => pc.memory

theorem held_of_memory {pc : RunnerPc} {st : OperationStateModel} (h : st ∈ pc.memory) :
    st ∈ pc.held := by
  cases pc with
  | closingSave => cases h
  | _ => exact h

/-- The copy that the runner's next step saves. -/
def saves (epoch : TimestampSec) : RunnerPc → Option OperationStateModel
  | transitioned state | sized state => some state
  | emptyScope state => some (markCompleted epoch state 0)
  | loop l (.retrying _) => some (touched epoch l.state)
  | loop l (.persisting h [] _) => some (OperationWorld.countedCopy epoch l h)
  | finishing state => some (terminalCopy epoch state)
  | closingSave why state => some (OperationWorld.closingCopy epoch state why)
  | _ => none

/-- The runner's next step saves its progress: the start, the total or a result. -/
def savesProgress : RunnerPc → Bool
  | transitioned _ | sized _ | loop _ (.retrying _) | loop _ (.persisting _ [] _) => true
  | _ => false

end RunnerPc

namespace OperationWorld
variable {κ : Type*} (w : OperationWorld κ)

@[simp] theorem goto_dir (pc : RunnerPc) : (w.goto pc).dir = w.dir := rfl

@[simp] theorem goto_pc (pc : RunnerPc) : (w.goto pc).pc = pc := rfl

@[simp] theorem goto_calls (pc : RunnerPc) : (w.goto pc).calls = w.calls := rfl

@[simp] theorem save_dir (state : OperationStateModel) :
    (w.save state).dir = saveStateAtomic w.dir state := rfl

@[simp] theorem save_calls (state : OperationStateModel) : (w.save state).calls = w.calls := rfl

theorem handleResult_retry {l : LoopVars} {h : HandledResult} {round : Round}
    (hfail : finalStatusCode h.result ≠ .success)
    (hleft : h.queued.item.attempt < l.execution.retryCount) :
    w.handleResult l h round =
      { w with
        handled := w.handled ++ [h]
        pc := .loop { l with retryQueue := l.retryQueue ++
          [(w.clock+l.execution.retryDelaySeconds, h.queued.retry)] } (.retrying round) } :=
  if_pos ⟨hfail, hleft⟩

theorem handleResult_final {l : LoopVars} {h : HandledResult} {round : Round}
    (hlast : ¬ (finalStatusCode h.result ≠ .success ∧
      h.queued.item.attempt < l.execution.retryCount)) :
    w.handleResult l h round =
      { w with
        handled := w.handled ++ [h]
        pc := .loop l (.persisting h h.result.stages round) } :=
  if_neg hlast

@[simp] theorem handleResult_held (l : LoopVars) (h : HandledResult) (round : Round) :
    (w.handleResult l h round).pc.held = some l.state := by
  unfold handleResult
  dsimp only
  split <;> rfl

/-- The steps that `dispatch` can be. -/
inductive Dispatched (mt : Option ServiceStatusCode) (w : OperationWorld κ) (l : LoopVars)
    (round : Round) : OperationWorld κ → Prop
  | keyError (f : ℕ) (rest : List ℕ) (htimed : round.timedOut = f :: rest)
      (hmiss : f ∉ l.pending.keys) :
      Dispatched mt w l round (w.goto (.closing (.crashed "KeyError")))
  | timedOut (f : ℕ) (rest : List ℕ) (entry : InFlight) (htimed : round.timedOut = f :: rest)
      (hfind : (f, entry) ∈ l.pending.entries) :
      Dispatched mt w l round ((w.cancelFutures [f]).handleResult
        { l with pending := l.pending.erase f, abandoned := l.abandoned.insert f entry }
        ⟨f, entry.queued, timeoutResult mt w.epoch⟩ { round with timedOut := rest })
  | exhausted (htimed : round.timedOut = []) (hdone : round.done = []) :
      Dispatched mt w l round (w.goto (.loop l .head))
  | late (f : ℕ) (rest : List ℕ) (htimed : round.timedOut = []) (hdone : round.done = f :: rest)
      (hlate : f ∈ l.abandoned.keys) :
      Dispatched mt w l round (w.goto (.loop { l with abandoned := l.abandoned.erase f }
        (.dispatch { round with done := rest })))
  | unknown (f : ℕ) (rest : List ℕ) (htimed : round.timedOut = [])
      (hdone : round.done = f :: rest) :
      Dispatched mt w l round (w.goto (.loop l (.dispatch { round with done := rest })))
  | resolved (f : ℕ) (rest : List ℕ) (entry : InFlight) (result : OperationWorkerResultModel)
      (htimed : round.timedOut = []) (hdone : round.done = f :: rest)
      (hlate : f ∉ l.abandoned.keys) (hfind : (f, entry) ∈ l.pending.entries)
      (hresult : result = timeoutResult mt w.epoch ∨
        (w.futures f).resolve w.epoch = some result) :
      Dispatched mt w l round (w.handleResult { l with pending := l.pending.erase f }
        ⟨f, entry.queued, result⟩ { round with done := rest })
  | blocked : Dispatched mt w l round w
  | fatal (f : ℕ) (entry : InFlight) (hfind : (f, entry) ∈ l.pending.entries)
      (hdone : (w.futures f).done = true) (hfatal : (w.futures f).resolve w.epoch = none) :
      Dispatched mt w l round (w.goto .ended)

theorem dispatched (mt : Option ServiceStatusCode) (l : LoopVars) (round : Round) :
    Dispatched mt w l round (w.dispatch mt l round) := by
  unfold dispatch
  split
  next f rest htimed =>
    split
    next hmiss => exact .keyError f rest htimed ((l.pending.lookup_eq_none_iff f).mp hmiss)
    next entry hfind => exact .timedOut f rest entry htimed
                          ((l.pending.lookup_eq_some_iff f _).mp hfind)
  next htimed =>
    split
    next hdone => exact .exhausted htimed hdone
    next f rest hdone =>
      dsimp only
      split
      next hlate => exact .late f rest htimed hdone hlate
      next hlate =>
        split
        next => exact .unknown f rest htimed hdone
        next entry hfind =>
          have hmem := (l.pending.lookup_eq_some_iff f _).mp hfind
          split
          next => exact .resolved f rest entry _ htimed hdone hlate hmem (.inl rfl)
          next =>
            split
            next => exact .blocked
            next hdone' =>
              split
              next hfatal => exact .fatal f entry hmem (by simpa using hdone') hfatal
              next result hres => exact .resolved f rest entry _ htimed hdone hlate hmem (.inr hres)

variable {w}

/-- The store, the callers and the counted results are those of `w`. -/
structure SameStore (w w' : OperationWorld κ) : Prop where
  dir : w'.dir = w.dir
  calls : w'.calls = w.calls
  finals : w'.finals = w.finals

theorem sameStore_goto (pc : RunnerPc) : SameStore w (w.goto pc) := ⟨rfl, rfl, rfl⟩

theorem sameStore_handleResult (l : LoopVars) (h : HandledResult) (round : Round) :
    SameStore w (w.handleResult l h round) := by
  unfold handleResult
  dsimp only
  split <;> exact ⟨rfl, rfl, rfl⟩

theorem sameStore_afterResult (l : LoopVars) (round : Round) :
    SameStore w (w.afterResult l round) := by
  unfold afterResult
  split <;> exact ⟨rfl, rfl, rfl⟩

theorem afterResult_held (l : LoopVars) (round : Round) :
    ∀ st ∈ (w.afterResult l round).pc.held, st = l.state := by
  unfold afterResult
  split
  · intro st hst
    cases hst
  · rintro st ⟨⟩
    rfl

theorem Dispatched.frame {mt : Option ServiceStatusCode} {l : LoopVars} {round : Round}
    {w' : OperationWorld κ} (h : Dispatched mt w l round w') :
    SameStore w w' ∧ (w'.pc.held = none ∨ w'.pc.held = some l.state ∨ w'.pc = w.pc) := by
  cases h
  case keyError => exact ⟨sameStore_goto _, .inl rfl⟩
  case timedOut =>
    obtain ⟨hdir, hcalls, hfinals⟩ := sameStore_handleResult (w := w.cancelFutures _) _ _ _
    exact ⟨⟨hdir, hcalls, hfinals⟩, .inr (.inl (handleResult_held _ _ _ _))⟩
  case exhausted => exact ⟨sameStore_goto _, .inr (.inl rfl)⟩
  case late => exact ⟨sameStore_goto _, .inr (.inl rfl)⟩
  case unknown => exact ⟨sameStore_goto _, .inr (.inl rfl)⟩
  case resolved => exact ⟨sameStore_handleResult _ _ _, .inr (.inl (handleResult_held _ _ _ _))⟩
  case blocked => exact ⟨⟨rfl, rfl, rfl⟩, .inr (.inr rfl)⟩
  case fatal => exact ⟨sameStore_goto _, .inl rfl⟩

end OperationWorld

/-- The phases of the loop that write to the store. -/
def LoopPhase.writes : LoopPhase → Bool
  | retrying _ | persisting _ _ _ => true
  | _ => false

namespace OperationWorld
variable {κ : Type*} {w : OperationWorld κ}

theorem loopStep_local (mt : Option ServiceStatusCode) (done : List ℕ) (l : LoopVars)
    {phase : LoopPhase} (hphase : phase.writes = false) (hpc : w.pc = .loop l phase) :
    SameStore w (w.loopStep mt done l phase) ∧
      ∀ st ∈ (w.loopStep mt done l phase).pc.held, st = l.state := by
  -- the runner keeps the state that it has in memory, or drops it
  have hmem : ∀ {pc : RunnerPc}, pc.held = none ∨ pc.held = some l.state →
      ∀ st ∈ pc.held, st = l.state := by
    intro pc hpc' st hst
    rcases hpc' with h | h
    · rw [h] at hst
      cases hst
    · rw [h] at hst
      exact (Option.some_inj.mp hst).symm
  have hloop (l' : LoopVars) (hl' : l'.state = l.state) (phase' : LoopPhase) :
      SameStore w (w.goto (.loop l' phase')) ∧
        ∀ st ∈ (w.goto (.loop l' phase')).pc.held, st = l.state :=
    ⟨sameStore_goto _, hmem (.inr (congrArg some hl'))⟩
  cases phase with
  | head =>
    simp only [loopStep]
    split_ifs
    · exact ⟨sameStore_goto _, hmem (.inr rfl)⟩
    · exact ⟨⟨rfl, rfl, rfl⟩, hmem (.inl rfl)⟩
    · exact hloop l rfl _
  | deadline =>
    simp only [loopStep]
    split_ifs
    · exact ⟨⟨rfl, rfl, rfl⟩, hmem (.inl rfl)⟩
    · exact hloop l rfl _
  | retries => exact hloop (l.releaseRetries w.clock) rfl _
  | submitting =>
    simp only [loopStep]
    split
    · exact hloop l rfl _
    · split_ifs
      · exact ⟨⟨rfl, rfl, rfl⟩, hmem (.inr rfl)⟩
      · exact hloop l rfl _
  | waiting =>
    simp only [loopStep]
    split_ifs
    · exact hloop l rfl _
    · exact hloop l rfl _
  | scanning d now todo timedOut =>
    cases todo with
    | nil => exact hloop l rfl _
    | cons e todo =>
      simp only [loopStep]
      split_ifs
      · exact hloop l rfl _
      · exact hloop l rfl _
  | dispatch round =>
    obtain ⟨hsame, hheld⟩ := (w.dispatched mt l round).frame
    refine ⟨hsame, ?_⟩
    rcases hheld with h | h | h
    · exact hmem (.inl h)
    · exact hmem (.inr h)
    · apply hmem
      right
      change (w.dispatch mt l round).pc.held = some l.state
      rw [h, hpc]
      rfl
  | retrying | persisting => cases hphase

/-- After a step of the loop the runner's copy is the one before it or the one just saved. -/
theorem loopStep_held (mt : Option ServiceStatusCode) (done : List ℕ) (l : LoopVars)
    (phase : LoopPhase) (hpc : w.pc = .loop l phase) :
    ∀ st ∈ (w.loopStep mt done l phase).pc.held, st = l.state ∨ w.pc.saves w.epoch = some st := by
  intro st hst
  rw [hpc]
  cases phase with
  | retrying round =>
    right
    rw [afterResult_held _ _ st hst]
    rfl
  | persisting h todo round =>
    cases todo with
    | nil =>
      right
      rw [afterResult_held _ _ st hst]
      rfl
    | cons => exact .inl (Option.some_inj.mp hst).symm
  | _ => exact .inl ((loopStep_local mt done l rfl hpc).2 st hst)

theorem loopStep_calls (mt : Option ServiceStatusCode) (done : List ℕ) (l : LoopVars)
    (phase : LoopPhase) (hpc : w.pc = .loop l phase) :
    (w.loopStep mt done l phase).calls = w.calls := by
  cases phase with
  | retrying => exact (sameStore_afterResult _ _).calls
  | persisting h todo round =>
    cases todo with
    | nil => exact (sameStore_afterResult _ _).calls
    | cons => rfl
  | _ => exact (loopStep_local mt done l rfl hpc).1.calls

def lifecycle (w : OperationWorld κ) : OperationState := w.dir.state.state

/-- What is in `state.json` once `copy`, if there is one, has been saved. -/
def stateAfter (dir : OperationDir) (copy : Option OperationStateModel) : OperationStateModel :=
  copy.elim dir.state fun state => (saveStateAtomic dir state).state

/-- A step of the loop changes `state.json` at its two progress saves only. -/
theorem loopStep_state (mt : Option ServiceStatusCode) (done : List ℕ) (l : LoopVars)
    (phase : LoopPhase) (hpc : w.pc = .loop l phase) :
    (w.loopStep mt done l phase).dir.state = stateAfter w.dir (w.pc.saves w.epoch) := by
  rw [hpc]
  cases phase with
  | retrying => exact congrArg OperationDir.state (sameStore_afterResult _ _).dir
  | persisting h todo round =>
    cases todo with
    | nil => exact congrArg OperationDir.state (sameStore_afterResult _ _).dir
    | cons => rfl
  | _ => exact congrArg OperationDir.state (loopStep_local mt done l rfl hpc).1.dir

theorem runnerStep_calls (mt : Option ServiceStatusCode) (done : List ℕ) :
    (w.runnerStep mt done).calls = w.calls := by
  cases hpc : w.pc with
  | loop l phase =>
    simp only [runnerStep, hpc]
    exact loopStep_calls mt done l phase hpc
  | transitioned | preparing =>
    simp only [runnerStep, hpc]
    split <;> rfl
  | _ => simp only [runnerStep, hpc, goto_calls, save_calls]

theorem runnerStep_state (mt : Option ServiceStatusCode) (done : List ℕ) :
    (w.runnerStep mt done).dir.state = stateAfter w.dir (w.pc.saves w.epoch) := by
  cases hpc : w.pc with
  | loop l phase =>
    have hstate := loopStep_state mt done l phase hpc
    simp only [runnerStep, hpc] at hstate ⊢
    exact hstate
  | transitioned | preparing =>
    simp only [runnerStep, hpc]
    split <;> rfl
  | _ =>
    simp only [runnerStep, hpc, goto_dir, save_dir]
    rfl

theorem loopStep_cancelFlag (mt : Option ServiceStatusCode) (done : List ℕ) (l : LoopVars)
    (phase : LoopPhase) (hpc : w.pc = .loop l phase) :
    (w.loopStep mt done l phase).dir.cancelFlag = w.dir.cancelFlag := by
  cases phase with
  | retrying =>
    simp only [loopStep]
    rw [(sameStore_afterResult _ _).dir]
    exact saveStateAtomic_cancelFlag _ _
  | persisting hd todo round =>
    cases todo with
    | nil =>
      simp only [loopStep]
      rw [(sameStore_afterResult _ _).dir]
      exact saveStateAtomic_cancelFlag _ _
    | cons => rfl
  | _ => exact congrArg OperationDir.cancelFlag (loopStep_local mt done l rfl hpc).1.dir

/-- The runner never touches the flag. -/
theorem runnerStep_cancelFlag (mt : Option ServiceStatusCode) (done : List ℕ) :
    (w.runnerStep mt done).dir.cancelFlag = w.dir.cancelFlag := by
  cases hpc : w.pc with
  | loop l phase =>
    have hloop := loopStep_cancelFlag mt done l phase hpc
    simp only [runnerStep, hpc]
    exact hloop
  | transitioned | preparing =>
    simp only [runnerStep, hpc]
    split
    all_goals first | rfl | exact saveStateAtomic_cancelFlag _ _
  | ended => simp only [runnerStep, hpc]
  | _ =>
    simp only [runnerStep, hpc]
    first | rfl | exact saveStateAtomic_cancelFlag _ _

/-- The saves of the loop keep the lifecycle state of the runner's copy. -/
theorem lifecycle_of_loop_saves {l : LoopVars} {phase : LoopPhase} {epoch : TimestampSec}
    {copy : OperationStateModel} (h : (RunnerPc.loop l phase).saves epoch = some copy) :
    copy.state = l.state.state := by
  cases phase with
  | retrying =>
    obtain rfl := Option.some_inj.mp h
    rfl
  | persisting hd todo round =>
    cases todo with
    | nil =>
      obtain rfl := Option.some_inj.mp h
      rfl
    | cons => cases h
  | _ => cases h

/-- The runner's own copy is RUNNING from the start of the run to the terminal save. -/
def MemoryRunning (w : OperationWorld κ) : Prop := ∀ st ∈ w.pc.memory, st.state = .running

theorem runnerStep_memory (mt : Option ServiceStatusCode) (done : List ℕ) (h : w.MemoryRunning) :
    (w.runnerStep mt done).MemoryRunning := by
  have hnone : ∀ {pc : RunnerPc}, pc.memory = none → (w.goto pc).MemoryRunning := by
    intro pc hpc st hst
    rw [goto_pc, hpc] at hst
    cases hst
  unfold MemoryRunning at h
  cases hpc : w.pc with
  | loop l phase =>
    simp only [runnerStep, hpc]
    intro st hst
    have hl : l.state.state = .running := h l.state (by rw [hpc]; rfl)
    rcases loopStep_held mt done l phase hpc st (RunnerPc.held_of_memory hst) with rfl | hsaved
    · exact hl
    · rw [hpc] at hsaved
      exact (lifecycle_of_loop_saves hsaved).trans hl
  | starting =>
    simp only [runnerStep, hpc]
    rintro st ⟨⟩
    rfl
  | transitioned state =>
    have hstate : state.state = .running := h state (by rw [hpc]; rfl)
    simp only [runnerStep, hpc]
    split
    · rintro st ⟨⟩
      exact hstate
    · rintro st ⟨⟩
      exact hstate
  | sized state =>
    have hstate : state.state = .running := h state (by rw [hpc]; rfl)
    simp only [runnerStep, hpc]
    rintro st ⟨⟩
    exact hstate
  | preparing state =>
    have hstate : state.state = .running := h state (by rw [hpc]; rfl)
    simp only [runnerStep, hpc]
    split
    · exact hnone rfl
    · rintro st ⟨⟩
      exact hstate
  | ended =>
    simp only [runnerStep, hpc]
    exact h
  | emptyScope | finishing | closing | closingSave =>
    simp only [runnerStep, hpc]
    intro st hst
    cases hst

/-- While the runner's copy is RUNNING, its progress saves write RUNNING and its other saves
write a terminal state. -/
theorem saves_state (h : w.MemoryRunning) {copy : OperationStateModel}
    (hcopy : w.pc.saves w.epoch = some copy) :
    if w.pc.savesProgress then copy.state = .running else isTerminalState copy.state = true := by
  unfold MemoryRunning at h
  cases hpc : w.pc with
  | transitioned state | sized state =>
    rw [hpc] at h hcopy
    obtain rfl := Option.some_inj.mp hcopy
    exact h state rfl
  | emptyScope state =>
    rw [hpc] at hcopy
    obtain rfl := Option.some_inj.mp hcopy
    rfl
  | finishing state =>
    rw [hpc] at hcopy
    obtain rfl := Option.some_inj.mp hcopy
    exact terminalCopy_isTerminal _ _
  | closingSave why state =>
    rw [hpc] at hcopy
    obtain rfl := Option.some_inj.mp hcopy
    cases why <;> rfl
  | loop l phase =>
    rw [hpc] at h hcopy
    -- the loop keeps the lifecycle of its copy, whatever else it saves
    have hl : l.state.state = .running := h l.state rfl
    have hcopyState := (lifecycle_of_loop_saves hcopy).trans hl
    cases phase with
    | retrying => exact hcopyState
    | persisting hd todo round =>
      cases todo with
      | nil => exact hcopyState
      | cons => cases hcopy
    | _ => cases hcopy
  | _ =>
    rw [hpc] at hcopy
    cases hcopy

theorem saves_of_savesProgress (h : w.pc.savesProgress = true) :
    ∃ copy, w.pc.saves w.epoch = some copy := by
  unfold RunnerPc.savesProgress at h
  split at h
  next state hpc => exact ⟨state, by rw [hpc]; rfl⟩
  next state hpc => exact ⟨state, by rw [hpc]; rfl⟩
  next l round hpc => exact ⟨touched w.epoch l.state, by rw [hpc]; rfl⟩
  next l hd round hpc => exact ⟨countedCopy w.epoch l hd, by rw [hpc]; rfl⟩
  next => cases h

theorem raiseAt_frame (message : String) :
    SameStore w (w.raiseAt message) ∧ (w.raiseAt message).pc.held = none := by
  unfold raiseAt
  split <;> exact ⟨⟨rfl, rfl, rfl⟩, rfl⟩

variable [DecidableEq κ]

/-- The copy that a step of the runner or of a caller saves. -/
def saved (w : OperationWorld κ) : OperationAction κ → Option OperationStateModel
  | .run _ => w.pc.saves w.epoch
  | .cancel caller =>
    match w.calls caller with
    | .saving updated => some updated
    | _ => none
  | _ => none

theorem cancelStep_state (caller : κ) :
    (w.cancelStep caller).dir.state = stateAfter w.dir (w.saved (.cancel caller)) := by
  simp only [cancelStep, saved]
  cases w.calls caller with
  | loading =>
    simp only [requestCancel]
    split <;> rfl
  | _ => rfl

/-- `state.json` changes by saves only. -/
theorem step_state (mt : Option ServiceStatusCode) (a : OperationAction κ) :
    (w.step mt a).dir.state = stateAfter w.dir (w.saved a) := by
  cases a with
  | run done => exact runnerStep_state mt done
  | raise message => exact congrArg OperationDir.state (raiseAt_frame message).1.dir
  | cancel caller => exact cancelStep_state caller
  | _ => rfl

theorem step_memory (mt : Option ServiceStatusCode) (a : OperationAction κ)
    (h : w.MemoryRunning) : (w.step mt a).MemoryRunning := by
  cases a with
  | run done => exact runnerStep_memory mt done h
  | raise message =>
    intro st hst
    have hheld : st ∈ (w.raiseAt message).pc.held := RunnerPc.held_of_memory hst
    rw [(raiseAt_frame message).2] at hheld
    cases hheld
  | _ => exact h

/-- The callers of `request_cancel` save CANCELLING copies only. -/
def CallersCancelling (w : OperationWorld κ) : Prop :=
  ∀ k updated, w.calls k = .saving updated → updated.state = .cancelling

theorem step_callers (mt : Option ServiceStatusCode) (a : OperationAction κ)
    (h : w.CallersCancelling) : (w.step mt a).CallersCancelling := by
  cases a with
  | run done =>
    intro k updated hk
    exact h k updated ((congrFun (runnerStep_calls mt done) k).symm.trans hk)
  | raise message =>
    intro k updated hk
    exact h k updated ((congrFun (raiseAt_frame message).1.calls k).symm.trans hk)
  | cancel caller =>
    intro k updated hk
    simp only [step, cancelStep] at hk
    by_cases hc : k = caller
    · subst hc
      rw [Function.update_self] at hk
      cases hcall : w.calls k with
      | touching state =>
        rw [hcall] at hk
        obtain rfl := CancelCall.saving.inj hk
        rfl
      | loading =>
        simp only [hcall, requestCancel] at hk
        split at hk <;> cases hk
      | saving | returned =>
        rw [hcall] at hk
        cases hk
    · rw [Function.update_of_ne hc] at hk
      exact h k updated hk
  | _ => exact h

/-- A caller's step leaves the file as it is, or its save puts its copy into an open file. -/
theorem cancelStep_cases (h : w.CallersCancelling) (caller : κ) :
    (w.cancelStep caller).dir.state = w.dir.state ∨
      ∃ updated, w.calls caller = .saving updated ∧ isTerminalState w.lifecycle = false ∧
        (w.cancelStep caller).dir.state = updated := by
  rw [cancelStep_state, saved]
  split
  next updated hcall =>
    change (saveStateAtomic w.dir updated).state = w.dir.state ∨ _
    by_cases hterminal : isTerminalState w.lifecycle = true
    · have hcopy : isTerminalState updated.state = false := by
        rw [h caller updated hcall]
        rfl
      rw [saveStateAtomic_refused hterminal hcopy]
      exact .inl rfl
    · rw [Bool.not_eq_true] at hterminal
      exact .inr ⟨updated, hcall, hterminal, saveStateAtomic_open hterminal updated⟩
  next => exact .inl rfl

end OperationWorld
end PypnmCmts
