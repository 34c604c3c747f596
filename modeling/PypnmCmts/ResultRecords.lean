import PypnmCmts.OperationSteps

/-! Every copy of the state belongs to the operation's one request, and the result files hold
the stage records of the results the runner has finished with, in that order. -/
namespace PypnmCmts

open LabelledRun OperationRunner OperationStore

structure RequestOf (operationId : PnmCaptureOperationId) (summary : OperationRequestSummaryModel)
    (state : OperationStateModel) : Prop where
  id : state.operationId = operationId
  summary : state.requestSummary = summary

namespace OperationStore

/-- The state that a `request_cancel` call has in memory. -/
def CancelCall.copy : CancelCall → Option OperationStateModel
  | loading => none
  | touching state | saving state | returned state => some state

end OperationStore

/-- The records that `_persist_stage_records` appends for a result. -/
def HandledResult.records (operationId : PnmCaptureOperationId) (h : HandledResult) :
    List PerModemLinkageRecordModel :=
  h.result.stages.map (stageRecord operationId h.queued.item h.result.ipAddress)

/-- The runner is appending the records of a result. -/
def RunnerPc.persists : RunnerPc → Bool
  | .loop _ (.persisting _ _ _) => true
  | _ => false

/-- The records of the result in hand that are in the files already. -/
def RunnerPc.partialRecords (operationId : PnmCaptureOperationId) :
    RunnerPc → List PerModemLinkageRecordModel
  | loop _ (.persisting h todo _) =>
    (h.records operationId).take (h.result.stages.length-todo.length)
  | _ => []

/-- The runner's step ends in an exception. -/
def OperationAction.raises {κ : Type*} : OperationAction κ → Bool
  | raise _ => true
  | _ => false

namespace OperationWorld
variable {κ : Type*} {w : OperationWorld κ} {operationId : PnmCaptureOperationId}
  {summary : OperationRequestSummaryModel}

structure OneRequest (operationId : PnmCaptureOperationId) (summary : OperationRequestSummaryModel)
    (w : OperationWorld κ) : Prop where
  file : RequestOf operationId summary w.dir.state
  held : ∀ st ∈ w.pc.held, RequestOf operationId summary st
  callers : ∀ k, ∀ st ∈ (w.calls k).copy, RequestOf operationId summary st

theorem requestOf_saves (h : ∀ st ∈ w.pc.held, RequestOf operationId summary st)
    {copy : OperationStateModel} (hcopy : w.pc.saves w.epoch = some copy) :
    RequestOf operationId summary copy := by
  cases hpc : w.pc with
  | transitioned state | sized state | emptyScope state | finishing state =>
    rw [hpc] at h hcopy
    obtain rfl := Option.some_inj.mp hcopy
    have hstate := h state rfl
    exact ⟨hstate.id, hstate.summary⟩
  | closingSave why state =>
    rw [hpc] at h hcopy
    obtain rfl := Option.some_inj.mp hcopy
    have hstate := h state rfl
    cases why <;> exact ⟨hstate.id, hstate.summary⟩
  | loop l phase =>
    rw [hpc] at h hcopy
    have hl := h l.state rfl
    cases phase with
    | retrying round =>
      obtain rfl := Option.some_inj.mp hcopy
      exact ⟨hl.id, hl.summary⟩
    | persisting hd todo round =>
      cases todo with
      | nil =>
        obtain rfl := Option.some_inj.mp hcopy
        exact ⟨hl.id, hl.summary⟩
      | cons => cases hcopy
    | _ => cases hcopy
  | _ =>
    rw [hpc] at hcopy
    cases hcopy

theorem requestOf_save {dir : OperationDir} {copy : OperationStateModel}
    (hfile : RequestOf operationId summary dir.state) (hcopy : RequestOf operationId summary copy) :
    RequestOf operationId summary (saveStateAtomic dir copy).state := by
  rcases saveStateAtomic_state dir copy with h | h
  · rw [h]
    exact hcopy
  · rw [h]
    exact hfile

theorem runnerStep_held_request (mt : Option ServiceStatusCode) (done : List ℕ)
    (hfile : RequestOf operationId summary w.dir.state)
    (h : ∀ st ∈ w.pc.held, RequestOf operationId summary st) :
    ∀ st ∈ (w.runnerStep mt done).pc.held, RequestOf operationId summary st := by
  intro st hst
  cases hpc : w.pc with
  | loop l phase =>
    simp only [runnerStep, hpc] at hst
    rcases loopStep_held mt done l phase hpc st hst with rfl | hsaved
    · exact h l.state (by rw [hpc]; rfl)
    · exact requestOf_saves h hsaved
  | starting | closing =>
    simp only [runnerStep, hpc] at hst
    obtain rfl := Option.some_inj.mp hst
    exact ⟨hfile.id, hfile.summary⟩
  | transitioned state =>
    have hstate := h state (by rw [hpc]; rfl)
    simp only [runnerStep, hpc] at hst
    split at hst
    · obtain rfl := Option.some_inj.mp hst
      exact hstate
    · obtain rfl := Option.some_inj.mp hst
      exact ⟨hstate.id, hstate.summary⟩
  | sized state =>
    simp only [runnerStep, hpc] at hst
    obtain rfl := Option.some_inj.mp hst
    exact h state (by rw [hpc]; rfl)
  | preparing state =>
    simp only [runnerStep, hpc] at hst
    split at hst
    · cases hst
    · obtain rfl := Option.some_inj.mp hst
      exact h state (by rw [hpc]; rfl)
  | emptyScope | finishing | closingSave =>
    simp only [runnerStep, hpc] at hst
    cases hst
  | ended =>
    simp only [runnerStep, hpc] at hst
    cases hst

theorem oneRequest_created (clock : ℚ) (epoch : TimestampSec) :
    (created operationId summary clock epoch : OperationWorld κ).OneRequest
      operationId summary where
  file := ⟨rfl, rfl⟩
  held _ hst := by cases hst
  callers _ _ hst := by cases hst

variable [DecidableEq κ]

theorem oneRequest_step (mt : Option ServiceStatusCode) (a : OperationAction κ)
    (h : w.OneRequest operationId summary) : (w.step mt a).OneRequest operationId summary := by
  cases a with
  | run done =>
    refine ⟨?_, runnerStep_held_request mt done h.file h.held, ?_⟩
    · change RequestOf operationId summary (w.runnerStep mt done).dir.state
      rw [runnerStep_state]
      cases hsaves : w.pc.saves w.epoch with
      | none => exact h.file
      | some copy => exact requestOf_save h.file (requestOf_saves h.held hsaves)
    · intro k st hst
      apply h.callers k st
      rwa [← runnerStep_calls mt done]
  | raise message =>
    -- an exception drops what the runner holds and leaves the store alone
    obtain ⟨hsame, hheld⟩ := raiseAt_frame (w := w) message
    refine ⟨?_, ?_, ?_⟩
    · change RequestOf operationId summary (w.raiseAt message).dir.state
      rw [hsame.dir]
      exact h.file
    · intro st hst
      change st ∈ (w.raiseAt message).pc.held at hst
      rw [hheld] at hst
      cases hst
    · intro k st hst
      apply h.callers k st
      rwa [← hsame.calls]
  | cancel caller =>
    have hcaller := h.callers caller
    cases hcall : w.calls caller with
    | loading =>
      refine ⟨?_, h.held, ?_⟩
      · simp only [step, cancelStep, hcall, requestCancel]
        split <;> exact h.file
      · intro k st hst
        by_cases hk : k = caller
        · subst hk
          simp only [step, cancelStep, hcall, requestCancel, Function.update_self] at hst
          split at hst <;> obtain rfl := Option.some_inj.mp hst <;> exact h.file
        · simp only [step, cancelStep, Function.update_of_ne hk] at hst
          exact h.callers k st hst
    | touching state | saving state | returned state =>
      rw [hcall] at hcaller
      have hstate := hcaller state rfl
      refine ⟨?_, h.held, ?_⟩
      · simp only [step, cancelStep, hcall, requestCancel]
        -- a call saves the copy that it loaded, and every copy is of the one request
        first | exact h.file | exact requestOf_save h.file hstate
      · intro k st hst
        by_cases hk : k = caller
        · subst hk
          simp only [step, cancelStep, hcall, requestCancel, Function.update_self] at hst
          obtain rfl := Option.some_inj.mp hst
          exact ⟨hstate.id, hstate.summary⟩
        · simp only [step, cancelStep, Function.update_of_ne hk] at hst
          exact h.callers k st hst
  | _ => exact ⟨h.file, h.held, h.callers⟩

/-- The result files hold the records of `finals`, and those of the result in hand. -/
structure Recorded (operationId : PnmCaptureOperationId) (w : OperationWorld κ) : Prop where
  results : ∀ sg, w.dir.results sg =
    (w.finals.flatMap (·.records operationId) ++ w.pc.partialRecords operationId).filter
      fun record => record.sgId = sg
  suffix : ∀ l h todo round, w.pc = .loop l (.persisting h todo round) → todo <:+ h.result.stages

/-- No record of a result in hand is in the files. -/
def NothingPartial (operationId : PnmCaptureOperationId) (pc : RunnerPc) : Prop :=
  pc.partialRecords operationId = [] ∧
    ∀ l h todo round, pc = .loop l (.persisting h todo round) → todo <:+ h.result.stages

theorem nothingPartial_of_not_persists {pc : RunnerPc} (h : pc.persists = false) :
    NothingPartial operationId pc := by
  have hne (l : LoopVars) (hd : HandledResult) (todo : List OperationStageResultModel)
      (round : Round) : pc ≠ .loop l (.persisting hd todo round) := by
    intro hpc
    rw [hpc] at h
    cases h
  refine ⟨?_, fun l hd todo round hpc => absurd hpc (hne l hd todo round)⟩
  unfold RunnerPc.partialRecords
  split
  next l hd todo round => exact absurd rfl (hne l hd todo round)
  next => rfl

omit [DecidableEq κ] in
theorem recorded_of_quiet {w' : OperationWorld κ} (hresults : w'.dir.results = w.dir.results)
    (hfinals : w'.finals = w.finals) (hbefore : w.pc.partialRecords operationId = [])
    (hafter : NothingPartial operationId w'.pc) (h : w.Recorded operationId) :
    w'.Recorded operationId := by
  refine ⟨?_, hafter.2⟩
  intro sg
  rw [hresults, hfinals, hafter.1, h.results sg, hbefore]

omit [DecidableEq κ] in
/-- When a result comes into hand, none of its records is in the files yet. -/
theorem partialRecords_handleResult (l : LoopVars) (h : HandledResult) (round : Round) :
    NothingPartial operationId (w.handleResult l h round).pc := by
  unfold handleResult
  dsimp only
  split
  · exact nothingPartial_of_not_persists rfl
  · refine ⟨?_, ?_⟩
    · change (h.records operationId).take (h.result.stages.length-h.result.stages.length) = []
      rw [Nat.sub_self, List.take_zero]
    · rintro l' h' todo round' ⟨⟩
      exact List.suffix_rfl

omit [DecidableEq κ] in
theorem Dispatched.partialRecords {mt : Option ServiceStatusCode} {l : LoopVars} {round : Round}
    {w' : OperationWorld κ} (h : Dispatched mt w l round w')
    (hpc : w.pc = .loop l (.dispatch round)) : NothingPartial operationId w'.pc := by
  cases h
  case timedOut => exact partialRecords_handleResult _ _ _
  case resolved => exact partialRecords_handleResult _ _ _
  case blocked =>
    rw [hpc]
    exact nothingPartial_of_not_persists rfl
  all_goals exact nothingPartial_of_not_persists rfl

omit [DecidableEq κ] in
theorem partialRecords_afterResult (l : LoopVars) (round : Round) :
    NothingPartial operationId (w.afterResult l round).pc := by
  unfold afterResult
  split <;> exact nothingPartial_of_not_persists rfl

omit [DecidableEq κ] in
theorem partialRecords_loopStep (mt : Option ServiceStatusCode) (done : List ℕ) (l : LoopVars)
    {phase : LoopPhase} (hphase : phase.writes = false) (hpc : w.pc = .loop l phase) :
    NothingPartial operationId (w.loopStep mt done l phase).pc := by
  cases phase with
  | dispatch round => exact (w.dispatched mt l round).partialRecords hpc
  | scanning d now todo timedOut =>
    cases todo with
    | nil => exact nothingPartial_of_not_persists rfl
    | cons =>
      simp only [loopStep]
      split <;> exact nothingPartial_of_not_persists rfl
  | retries => exact nothingPartial_of_not_persists rfl
  | head | deadline | submitting | waiting =>
    simp only [loopStep]
    (repeat' split) <;> exact nothingPartial_of_not_persists rfl
  | retrying | persisting => cases hphase

omit [DecidableEq κ] in
theorem results_append (dir : OperationDir) (record : PerModemLinkageRecordModel)
    (sg : ServiceGroupId) :
    (appendResultRecord dir record).results sg =
      dir.results sg ++ [record].filter fun r => r.sgId = sg := by
  by_cases h : sg = record.sgId
  · subst h
    simp only [appendResultRecord, Function.update_self, decide_true, List.filter_cons_of_pos,
      List.filter_nil]
  · have hne : ¬ record.sgId = sg := fun heq => h heq.symm
    simp only [appendResultRecord, Function.update_of_ne h, hne, decide_false, Bool.false_eq_true,
      not_false_eq_true, List.filter_cons_of_neg, List.filter_nil, List.append_nil]

omit [DecidableEq κ] in
theorem take_records (h : HandledResult) {todo : List OperationStageResultModel}
    {stage : OperationStageResultModel} (hsuffix : stage :: todo <:+ h.result.stages) :
    (h.records operationId).take (h.result.stages.length-todo.length) =
      (h.records operationId).take (h.result.stages.length-(stage :: todo).length) ++
        [stageRecord operationId h.queued.item h.result.ipAddress stage] := by
  obtain ⟨pre, hpre⟩ := hsuffix
  have hrest : h.result.stages.length-todo.length = pre.length+1 := by
    rw [← hpre, List.length_append, List.length_cons]
    omega
  have hdone : h.result.stages.length-(stage :: todo).length = pre.length := by
    rw [← hpre, List.length_append, Nat.add_sub_cancel]
  have hrecords : h.records operationId =
      pre.map (stageRecord operationId h.queued.item h.result.ipAddress) ++
        [stageRecord operationId h.queued.item h.result.ipAddress stage] ++
        todo.map (stageRecord operationId h.queued.item h.result.ipAddress) := by
    rw [HandledResult.records, ← hpre, List.map_append, List.map_cons, List.append_assoc,
      List.singleton_append]
  rw [hrest, hdone, hrecords, List.take_left' (by simp), List.append_assoc,
    List.take_left' (by simp)]

omit [DecidableEq κ] in
/-- Appending a record moves one record of the result in hand to the files. -/
theorem recorded_append (mt : Option ServiceStatusCode) (done : List ℕ) {l : LoopVars}
    {h : HandledResult} {stage : OperationStageResultModel} {todo : List OperationStageResultModel}
    {round : Round} (hpc : w.pc = .loop l (.persisting h (stage :: todo) round))
    (hid : l.state.operationId = operationId) (hw : w.Recorded operationId) :
    (w.loopStep mt done l (.persisting h (stage :: todo) round)).Recorded operationId := by
  have hsuffix := hw.suffix l h (stage :: todo) round hpc
  constructor
  · intro sg
    have hbefore := hw.results sg
    rw [hpc] at hbefore
    simp only [loopStep, RunnerPc.partialRecords] at hbefore ⊢
    rw [results_append, hbefore, take_records h hsuffix, hid, ← List.append_assoc,
      List.filter_append (_ ++ _)]
  · rintro l' h' todo' round' ⟨⟩
    exact (List.suffix_cons stage todo).trans hsuffix

omit [DecidableEq κ] in
/-- With its last record in the files, a result is counted. -/
theorem recorded_count (mt : Option ServiceStatusCode) (done : List ℕ) {l : LoopVars}
    {h : HandledResult} {round : Round} (hpc : w.pc = .loop l (.persisting h [] round))
    (hw : w.Recorded operationId) :
    (w.loopStep mt done l (.persisting h [] round)).Recorded operationId := by
  simp only [loopStep]
  set w' := { w.save (countedCopy w.epoch l h) with finals := w.finals ++ [h] } with hw'
  have hquiet : NothingPartial operationId
      (w'.afterResult { l with state := countedCopy w.epoch l h } round).pc :=
    partialRecords_afterResult _ _
  have hsame := sameStore_afterResult (w := w') { l with state := countedCopy w.epoch l h } round
  refine ⟨?_, hquiet.2⟩
  intro sg
  have hbefore := hw.results sg
  have hall : (h.records operationId).length ≤ h.result.stages.length := by
    rw [HandledResult.records, List.length_map]
  rw [hpc] at hbefore
  simp only [RunnerPc.partialRecords, List.length_nil, Nat.sub_zero,
    List.take_of_length_le hall] at hbefore
  rw [hsame.dir, hsame.finals, hquiet.1, List.append_nil, hw']
  simp only [save_dir, saveStateAtomic_results, List.flatMap_append, List.flatMap_singleton]
  exact hbefore

omit [DecidableEq κ] in
theorem recorded_run (mt : Option ServiceStatusCode) (done : List ℕ)
    (hrequest : w.OneRequest operationId summary) (hw : w.Recorded operationId) :
    (w.runnerStep mt done).Recorded operationId := by
  cases hpc : w.pc with
  | loop l phase =>
    simp only [runnerStep, hpc]
    have hid : l.state.operationId = operationId := (hrequest.held l.state (by rw [hpc]; rfl)).id
    cases phase with
    | retrying round =>
      have hsame := sameStore_afterResult (w := w.save (touched w.epoch l.state))
        { l with state := touched w.epoch l.state } round
      have hbefore : w.pc.partialRecords operationId = [] := by
        rw [hpc]
        rfl
      have hresults : (w.loopStep mt done l (.retrying round)).dir.results = w.dir.results := by
        simp only [loopStep]
        rw [hsame.dir, save_dir, saveStateAtomic_results]
      exact recorded_of_quiet hresults hsame.finals hbefore (partialRecords_afterResult _ _) hw
    | persisting h todo round =>
      cases todo with
      | nil => exact recorded_count mt done hpc hw
      | cons => exact recorded_append mt done hpc hid hw
    | _ =>
      obtain ⟨hsame, -⟩ := loopStep_local mt done l rfl hpc
      have hbefore : w.pc.partialRecords operationId = [] := by
        rw [hpc]
        rfl
      exact recorded_of_quiet (congrArg OperationDir.results hsame.dir) hsame.finals hbefore
        (partialRecords_loopStep mt done l rfl hpc) hw
  | ended =>
    simp only [runnerStep, hpc]
    exact hw
  | transitioned | preparing =>
    have hbefore : w.pc.partialRecords operationId = [] := by
      rw [hpc]
      rfl
    simp only [runnerStep, hpc]
    split
    all_goals
      refine recorded_of_quiet (w := w) ?_ rfl hbefore (nothingPartial_of_not_persists rfl) hw
      first | rfl | exact saveStateAtomic_results _ _
  | _ =>
    have hbefore : w.pc.partialRecords operationId = [] := by
      rw [hpc]
      rfl
    simp only [runnerStep, hpc]
    refine recorded_of_quiet (w := w) ?_ rfl hbefore (nothingPartial_of_not_persists rfl) hw
    first | rfl | exact saveStateAtomic_results _ _

omit [DecidableEq κ] in
theorem recorded_created (clock : ℚ) (epoch : TimestampSec) :
    (created operationId summary clock epoch : OperationWorld κ).Recorded operationId where
  results _ := rfl
  suffix _ _ _ _ hpc := by cases hpc

theorem cancelStep_results (caller : κ) : (w.cancelStep caller).dir.results = w.dir.results := by
  simp only [cancelStep]
  cases w.calls caller with
  | loading =>
    simp only [requestCancel]
    split <;> rfl
  | saving updated => exact saveStateAtomic_results _ _
  | _ => rfl

theorem recorded_step (mt : Option ServiceStatusCode) (a : OperationAction κ)
    (ha : a.raises = false)
    (hrequest : w.OneRequest operationId summary) (hw : w.Recorded operationId) :
    (w.step mt a).Recorded operationId := by
  cases a with
  | run done => exact recorded_run mt done hrequest hw
  | raise => cases ha
  | cancel caller =>
    refine ⟨?_, hw.suffix⟩
    intro sg
    rw [step, cancelStep_results]
    exact hw.results sg
  | _ => exact ⟨hw.results, hw.suffix⟩

/-- In a run without exceptions the files hold the records of the counted results and of the
one in hand. -/
theorem recorded_exec (mt : Option ServiceStatusCode) (clock : ℚ) (epoch : TimestampSec)
    {as : List (OperationAction κ)}
    (hquiet : ∀ a ∈ as, a.raises = false) :
    (exec (step mt) (created operationId summary clock epoch) as).Recorded operationId := by
  have hinv := invariant_of_guarded
    (I := fun s : OperationWorld κ => s.OneRequest operationId summary ∧ s.Recorded operationId)
    (fun s a ha hs => ⟨oneRequest_step mt a hs.1, recorded_step mt a ha hs.1 hs.2⟩)
    (guarded_of_forall hquiet)
    ⟨oneRequest_created clock epoch, recorded_created clock epoch⟩
  exact hinv.2

end OperationWorld
end PypnmCmts
