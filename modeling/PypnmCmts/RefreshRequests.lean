import PypnmCmts.SgwMetadata

/-! On-demand refreshes and the polls that serve them: when a due heavy poll is made, and when an
accepted request is. -/
namespace PypnmCmts

/-- The heavy refresh of a group is due. -/
def SgwManager.heavyDue (manager : SgwManager) (sgId : ServiceGroupId) (nowEpoch : ℚ) : Bool :=
  isRefreshDue ((manager.metadataOf sgId).getD (newMetadata nowEpoch)).lastHeavyRefreshEpoch
    manager.settings.pollHeavySeconds (manager.jitterSeconds sgId) nowEpoch

/-- A request of the mode has been accepted for the group and no poll that serves it attempted. -/
def owed (sgId : ServiceGroupId) (mode : CacheRefreshMode) : List SgwEvent → Bool
  | [] => false
  | .accepted a m :: log => (a = sgId && m = mode) || owed sgId mode log
  | .attempted a m :: log => !(a = sgId && mode.rank ≤ m.rank) && owed sgId mode log
  | _ :: log => owed sgId mode log

/-- A request is still owed although a cycle that covers its group has begun since it was
accepted. -/
def overdue (sgId : ServiceGroupId) (mode : CacheRefreshMode) : List SgwEvent → Bool
  | [] => false
  | .began _ serviceGroups :: log =>
    (sgId ∈ serviceGroups && owed sgId mode log) || overdue sgId mode log
  | .attempted a m :: log => !(a = sgId && mode.rank ≤ m.rank) && overdue sgId mode log
  | _ :: log => overdue sgId mode log

/-- A guard restart dropped a pending HEAVY request of the group, and no heavy poll has been
attempted since. -/
def droppedHeavy (sgId : ServiceGroupId) : List SgwEvent → Bool
  | [] => false
  | .restarted dropped :: log => (sgId, CacheRefreshMode.heavy) ∈ dropped || droppedHeavy sgId log
  | .attempted a m :: log => !(a = sgId && m = .heavy) && droppedHeavy sgId log
  | _ :: log => droppedHeavy sgId log

section Mode
variable {settings : SgwSettings} {metadata : SgwCacheMetadataModel} {jitterSeconds : ℕ}
  {requested : Option CacheRefreshMode} {nowEpoch : ℚ}

/-- A due heavy poll is made unless a LIGHT request is pending. -/
theorem chooseMode_of_due (hdue : SgwManager.isRefreshDue metadata.lastHeavyRefreshEpoch
      settings.pollHeavySeconds jitterSeconds nowEpoch = true) :
    SgwManager.chooseMode settings metadata jitterSeconds requested nowEpoch = .heavy ↔
      requested ≠ some .light := by
  unfold SgwManager.chooseMode
  by_cases hheavy : requested = some .heavy
  · simp [hheavy]
  · rw [if_neg hheavy]
    by_cases hlight : requested = some .light
    · simp [hlight]
    · rw [if_neg hlight, if_pos hdue]
      simp [hlight]

theorem chooseMode_heavy : SgwManager.chooseMode settings metadata jitterSeconds (some .heavy)
    nowEpoch = .heavy := if_pos rfl

theorem chooseMode_light : SgwManager.chooseMode settings metadata jitterSeconds (some .light)
    nowEpoch = .light := by
  rw [SgwManager.chooseMode, if_neg (by decide), if_pos rfl]

end Mode

namespace SgwWorld

/-- The turn that comes next attempts a heavy poll if one is due. -/
def DueIsPolled (w : SgwWorld) : Prop :=
  ∀ nowEpoch sgId rest, w.pc = .groupTop nowEpoch (sgId :: rest) →
    w.manager.heavyDue sgId nowEpoch = true →
    (w.step .take).log = .attempted sgId .heavy :: w.log

/-- No LIGHT request is pending for the group whose turn comes next if its heavy poll is due. -/
def NoLightWhenDue (w : SgwWorld) : Prop :=
  ∀ nowEpoch sgId rest, w.pc = .groupTop nowEpoch (sgId :: rest) →
    w.manager.heavyDue sgId nowEpoch = true → w.manager.refreshRequests.lookup sgId ≠ some .light

theorem dueIsPolled_iff (w : SgwWorld) : w.DueIsPolled ↔ w.NoLightWhenDue := by
  unfold DueIsPolled NoLightWhenDue
  apply forall_congr'
  intro nowEpoch
  apply forall_congr'
  intro sgId
  apply forall₃_congr
  intro rest hpc hdue
  have hstep : w.step .take = w.stepTake nowEpoch sgId rest := by simp only [step, hpc]
  rw [hstep, stepTake, SgwManager.refreshMode_beginTurn, ← chooseMode_of_due hdue]
  simp

/-- In every run, the due heavy polls are made in their cycles exactly if no LIGHT request is
pending at the turn of a group whose heavy poll is due. -/
theorem heavy_polled_iff (settings : SgwSettings) (serviceGroups : List ServiceGroupId)
    (jitterProvider : ServiceGroupId → ℕ → ℤ) (as : List SgwAction) :
    (∀ bs cs, as = bs ++ .take :: cs →
      (LabelledRun.exec step (init settings serviceGroups jitterProvider) bs).DueIsPolled) ↔
    ∀ bs cs, as = bs ++ .take :: cs →
      (LabelledRun.exec step (init settings serviceGroups jitterProvider) bs).NoLightWhenDue := by
  apply forall₃_congr
  intro bs cs _
  exact dueIsPolled_iff _

/-- A LIGHT request is pending for a group that has never been polled heavily. -/
theorem due_heavy_poll_suppressed :
    ¬ (LabelledRun.exec step oneGroup [.request 1 .light 100, .begin 100]).DueIsPolled := by
  intro h
  have hpolled := h 100 1 [] (by decide +kernel) (by decide +kernel)
  exact absurd hpolled (by decide +kernel)

/-- No cycle takes a LIGHT request of a group whose HEAVY one a guard restart has dropped. -/
def NoHeavyOvertaken (w : SgwWorld) : SgwAction → Prop
  | .take => ∀ nowEpoch sgId rest, w.pc = .groupTop nowEpoch (sgId :: rest) →
      w.manager.refreshRequests.lookup sgId = some .light → droppedHeavy sgId w.log = false
  | _ => True

/-- No heavy refresh of the group has succeeded in the active store. -/
def NoHeavyYet (w : SgwWorld) (sgId : ServiceGroupId) : Prop :=
  ∀ d, w.manager.metadataOf sgId = some d → d.lastHeavyRefreshEpoch = none

/-- An owed request is pending, or its group will be polled heavily for want of any data. -/
structure RequestsKept (w : SgwWorld) : Prop where
  held : w.Held
  pending : ∀ sgId, w.manager.refreshRequests.lookup sgId ≠ some .none
  kept : ∀ sgId mode, owed sgId mode w.log = true →
    (∃ r, w.manager.refreshRequests.lookup sgId = some r ∧ mode.rank ≤ r.rank) ∨
      w.NoHeavyYet sgId ∧ (mode = .heavy → droppedHeavy sgId w.log = true) ∧
        ∀ turn rest, w.pc = .polling turn rest → turn.sgId ≠ sgId
  ahead : ∀ sgId mode, overdue sgId mode w.log = true → sgId ∈ w.pc.rest

theorem owed_of_overdue {sgId : ServiceGroupId} {mode : CacheRefreshMode} {log : List SgwEvent}
    (h : overdue sgId mode log = true) : owed sgId mode log = true := by
  induction log with
  | nil => cases h
  | cons event log ih =>
    cases event with
    | began nowEpoch serviceGroups =>
      rcases Bool.or_eq_true_iff.mp h with hnow | hbefore
      · exact (Bool.and_eq_true_iff.mp hnow).2
      · exact ih hbefore
    | attempted a m =>
      obtain ⟨hother, hbefore⟩ := Bool.and_eq_true_iff.mp h
      exact Bool.and_eq_true_iff.mpr ⟨hother, ih hbefore⟩
    | accepted a m => exact Bool.or_eq_true_iff.mpr (Or.inr (ih h))
    | refreshed a m now => exact ih h
    | failed a now => exact ih h
    | settled a now => exact ih h
    | restarted dropped => exact ih h

section Step
variable {w : SgwWorld} {turn : SgwTurn} {rest : List ServiceGroupId} {sgId : ServiceGroupId}
  {mode : CacheRefreshMode} {nowEpoch : ℚ}

/-- A turn's poll serves every request that is owed to its group. -/
theorem RequestsKept.served (h : w.RequestsKept) (hpc : w.pc = .groupTop nowEpoch (sgId :: rest))
    (hguard : w.NoHeavyOvertaken .take) (howed : owed sgId mode w.log = true) :
    mode.rank ≤ (w.manager.beginTurn nowEpoch sgId).1.refreshMode.rank := by
  rw [SgwManager.refreshMode_beginTurn]
  rcases h.kept sgId mode howed with ⟨r, hr, hrank⟩ | ⟨hnone, hdropped, -⟩
  · rw [hr]
    cases r with
    | none => exact absurd hr (h.pending sgId)
    | light => rwa [chooseMode_light]
    | heavy => rwa [chooseMode_heavy]
  · by_cases hlight : w.manager.refreshRequests.lookup sgId = some .light
    · rw [hlight, chooseMode_light]
      cases mode with
      | none => decide
      | light => decide
      | heavy =>
        have hguarded := hguard nowEpoch sgId rest hpc hlight
        rw [hdropped rfl] at hguarded
        cases hguarded
    · have hdue : SgwManager.isRefreshDue ((w.manager.metadataOf sgId).getD
          (SgwManager.newMetadata nowEpoch)).lastHeavyRefreshEpoch
          w.manager.settings.pollHeavySeconds (w.manager.jitterSeconds sgId) nowEpoch = true := by
        cases hd : w.manager.metadataOf sgId with
        | none => rfl
        | some d => rw [Option.getD_some, hnone d hd, SgwManager.isRefreshDue]
      rw [(chooseMode_of_due hdue).mpr hlight]
      cases mode <;> decide

theorem requestsKept_take (h : w.RequestsKept) (hpc : w.pc = .groupTop nowEpoch (sgId :: rest))
    (hguard : w.NoHeavyOvertaken .take) : (w.stepTake nowEpoch sgId rest).RequestsKept := by
  have hheld := held_step w .take h.held
  have hstep : w.step .take = w.stepTake nowEpoch sgId rest := by simp only [step, hpc]
  rw [hstep] at hheld
  obtain ⟨jitter, hmanager, -⟩ := SgwManager.beginTurn_manager w.manager nowEpoch sgId
  have hlookup (a : ServiceGroupId) :
      (w.stepTake nowEpoch sgId rest).manager.refreshRequests.lookup a =
        if a = sgId then none else w.manager.refreshRequests.lookup a := by
    rw [stepTake, hmanager]
    exact OrderedDict.lookup_erase _ _ _
  -- what is still owed after the turn is owed to another group
  have howed : ∀ a m, owed a m (w.stepTake nowEpoch sgId rest).log = true →
      a ≠ sgId ∧ owed a m w.log = true := by
    intro a m howed
    obtain ⟨hnot, hbefore⟩ := Bool.and_eq_true_iff.mp howed
    refine ⟨?_, hbefore⟩
    intro ha
    subst ha
    simp [h.served hpc hguard hbefore] at hnot
  refine ⟨hheld, ?_, ?_, ?_⟩
  · intro a
    rw [hlookup]
    split_ifs
    · intro heq
      cases heq
    · exact h.pending a
  · intro a m hstill
    obtain ⟨ha, hbefore⟩ := howed a m hstill
    rcases h.kept a m hbefore with ⟨r, hr, hrank⟩ | ⟨hnone, hdropped, -⟩
    · exact Or.inl ⟨r, by rw [hlookup, if_neg ha, hr], hrank⟩
    · refine Or.inr ⟨?_, ?_, ?_⟩
      · intro d hd
        rw [stepTake, SgwManager.metadataOf_beginTurn, if_neg ha] at hd
        exact hnone d hd
      · intro hheavy
        refine Bool.and_eq_true_iff.mpr ⟨?_, hdropped hheavy⟩
        simp [Ne.symm ha]
      · intro turn rest' hturn
        cases hturn
        rw [SgwManager.beginTurn_turn]
        exact Ne.symm ha
  · intro a m hstill
    obtain ⟨ha, -⟩ := howed a m (owed_of_overdue hstill)
    have hbefore := h.ahead a m (Bool.and_eq_true_iff.mp hstill).2
    rw [hpc] at hbefore
    exact (List.mem_cons.mp hbefore).resolve_left ha

theorem owed_pollEvents (error : Option String) (log : List SgwEvent) :
    owed sgId mode (pollEvents turn error ++ log) = owed sgId mode log := by
  unfold pollEvents
  split_ifs <;> rfl

theorem overdue_pollEvents (error : Option String) (log : List SgwEvent) :
    overdue sgId mode (pollEvents turn error ++ log) = overdue sgId mode log := by
  unfold pollEvents
  split_ifs <;> rfl

theorem droppedHeavy_pollEvents (error : Option String) (log : List SgwEvent) :
    droppedHeavy sgId (pollEvents turn error ++ log) = droppedHeavy sgId log := by
  unfold pollEvents
  split_ifs <;> rfl

theorem requestsKept_poll (pollers : SgwPollers) (h : w.RequestsKept)
    (hpc : w.pc = .polling turn rest) : (w.stepPoll pollers turn rest).RequestsKept := by
  have hheld := held_step w (.poll pollers) h.held
  have hstep : w.step (.poll pollers) = w.stepPoll pollers turn rest := by simp only [step, hpc]
  rw [hstep] at hheld
  obtain ⟨store, hmanager⟩ := SgwManager.pollTurn_manager w.manager pollers turn
  have hrequests : (w.stepPoll pollers turn rest).manager.refreshRequests =
      w.manager.refreshRequests := by rw [stepPoll, hmanager]
  refine ⟨hheld, ?_, ?_, ?_⟩
  · rw [hrequests]
    exact h.pending
  · intro a m howed
    rw [stepPoll, owed_pollEvents] at howed
    rw [hrequests]
    rcases h.kept a m howed with hpending | ⟨hnone, hdropped, hother⟩
    · exact Or.inl hpending
    · refine Or.inr ⟨?_, ?_, ?_⟩
      · intro d hd
        rw [stepPoll, SgwManager.metadataOf_pollTurn_of_ne (Ne.symm (hother turn rest hpc))] at hd
        exact hnone d hd
      · intro hheavy
        rw [stepPoll, droppedHeavy_pollEvents]
        exact hdropped hheavy
      · intro turn' rest' hturn
        cases hturn
  · intro a m hstill
    rw [stepPoll, overdue_pollEvents] at hstill
    have hbefore := h.ahead a m hstill
    rwa [hpc] at hbefore

theorem requestsKept_settle {error : Option String} (h : w.RequestsKept)
    (hpc : w.pc = .settling turn error rest) : (w.stepSettle turn error rest).RequestsKept := by
  have hheld := held_step w .settle h.held
  have hstep : w.step .settle = w.stepSettle turn error rest := by simp only [step, hpc]
  rw [hstep] at hheld
  obtain ⟨counts, hmanager⟩ := SgwManager.settleTurn_manager w.manager turn error
  have hrequests : (w.stepSettle turn error rest).manager.refreshRequests =
      w.manager.refreshRequests := by rw [stepSettle, hmanager]
  obtain ⟨before, hbefore⟩ := h.held turn (by rw [hpc]; rfl)
  refine ⟨hheld, ?_, ?_, ?_⟩
  · rw [hrequests]
    exact h.pending
  · intro a m howed
    rw [hrequests]
    rcases h.kept a m howed with hpending | ⟨hnone, hdropped, -⟩
    · exact Or.inl hpending
    · refine Or.inr ⟨?_, hdropped, ?_⟩
      · intro d hd
        rw [stepSettle, SgwManager.metadataOf_settleTurn error hbefore] at hd
        by_cases ha : a = turn.sgId
        · subst ha
          obtain ⟨state, hsettled, -⟩ :=
            SgwManager.settledMetadata_spec w.manager.settings turn.nowEpoch before
          rw [if_pos rfl, Option.some.injEq, hsettled] at hd
          rw [← hd]
          exact hnone before hbefore
        · rw [if_neg ha] at hd
          exact hnone d hd
      · intro turn' rest' hturn
        exact absurd hturn (loopPc_ne_polling _ _ _ _)
  · intro a m hstill
    have hstill' := h.ahead a m hstill
    rw [hpc] at hstill'
    rwa [stepSettle, rest_loopPc]

theorem requestsKept_request (sgId : ServiceGroupId) (mode : CacheRefreshMode) (nowEpoch : ℚ)
    (h : w.RequestsKept) : (w.stepRequest sgId mode nowEpoch).RequestsKept := by
  have hheld := held_step w (.request sgId mode nowEpoch) h.held
  obtain ⟨requests, hmanager, hreal, hkept, haccepted⟩ :=
    SgwManager.requestRefresh_spec sgId mode nowEpoch h.pending
  have hrequests : (w.stepRequest sgId mode nowEpoch).manager.refreshRequests = requests := by
    rw [stepRequest, hmanager]
  have hdrop (a : ServiceGroupId) : droppedHeavy a (w.stepRequest sgId mode nowEpoch).log =
      droppedHeavy a w.log := by
    rw [stepRequest]
    split_ifs <;> rfl
  have hover (a : ServiceGroupId) (m : CacheRefreshMode) :
      overdue a m (w.stepRequest sgId mode nowEpoch).log = overdue a m w.log := by
    rw [stepRequest]
    split_ifs <;> rfl
  -- an old request stays covered
  have hold : ∀ a m, owed a m w.log = true →
      (∃ r, requests.lookup a = some r ∧ m.rank ≤ r.rank) ∨
        (w.stepRequest sgId mode nowEpoch).NoHeavyYet a ∧
        (m = .heavy → droppedHeavy a w.log = true) ∧
        ∀ turn rest, w.pc = .polling turn rest → turn.sgId ≠ a := by
    intro a m howed
    rcases h.kept a m howed with ⟨r, hr, hrank⟩ | ⟨hnone, hrest⟩
    · obtain ⟨new, hnew, hle⟩ := hkept a r hr
      exact Or.inl ⟨new, hnew, hrank.trans hle⟩
    · refine Or.inr ⟨?_, hrest⟩
      intro d hd
      rw [stepRequest, SgwManager.metadataOf_requestRefresh] at hd
      exact hnone d hd
  refine ⟨hheld, by rw [hrequests]; exact hreal, ?_, ?_⟩
  · intro a m howed
    rw [hrequests, hdrop]
    by_cases hanswer : (w.manager.requestRefresh sgId mode nowEpoch).1.1 = true
    · rw [stepRequest, if_pos hanswer] at howed
      rcases Bool.or_eq_true_iff.mp howed with hnow | hbefore
      · obtain ⟨ha, hm⟩ := Bool.and_eq_true_iff.mp hnow
        rw [← of_decide_eq_true ha, ← of_decide_eq_true hm]
        exact Or.inl (haccepted hanswer)
      · exact hold a m hbefore
    · rw [stepRequest, if_neg hanswer] at howed
      exact hold a m howed
  · intro a m hstill
    rw [hover] at hstill
    exact h.ahead a m hstill

theorem requestsKept_restart (h : w.RequestsKept) (hpc : w.pc = .idle) :
    w.stepRestart.RequestsKept := by
  have hheld := held_step w .restart h.held
  have hstep : w.step .restart = w.stepRestart := by simp only [step, hpc]
  rw [hstep] at hheld
  obtain ⟨jitter, counts, hclone⟩ := SgwManager.cloneForRestart_spec w.manager .empty
  refine ⟨hheld, ?_, ?_, ?_⟩
  · intro a
    rw [stepRestart, hclone]
    intro heq
    cases heq
  · intro a m howed
    refine Or.inr ⟨?_, ?_, ?_⟩
    · intro d hd
      rw [stepRestart, SgwManager.metadataOf_cloneForRestart] at hd
      cases hd
    · rintro rfl
      refine Bool.or_eq_true_iff.mpr ?_
      rcases h.kept a .heavy howed with ⟨r, hr, hrank⟩ | ⟨-, hdropped, -⟩
      · have hheavy : r = .heavy := by
          cases r with
          | none => exact absurd hrank (by decide)
          | light => exact absurd hrank (by decide)
          | heavy => rfl
        subst hheavy
        exact Or.inl (decide_eq_true ((OrderedDict.lookup_eq_some_iff _ _ _).mp hr))
      · exact Or.inr (hdropped rfl)
    · intro turn rest hturn
      rw [stepRestart, hpc] at hturn
      cases hturn
  · intro a m hstill
    exact h.ahead a m hstill

theorem requestsKept_step {a : SgwAction} (hguard : w.NoHeavyOvertaken a) (h : w.RequestsKept) :
    (w.step a).RequestsKept := by
  have hheld := held_step w a h.held
  have hcase := step_case w a
  generalize w.step a = w' at hcase hheld ⊢
  cases hcase with
  | skip => exact h
  | begin nowEpoch hpc hclock =>
    refine ⟨hheld, h.pending, ?_, ?_⟩
    · intro a m howed
      rcases h.kept a m howed with hpending | ⟨hnone, hdropped, -⟩
      · exact Or.inl hpending
      · refine Or.inr ⟨hnone, hdropped, ?_⟩
        intro turn rest hturn
        exact absurd hturn (loopPc_ne_polling _ _ _ _)
    · intro a m hstill
      rw [rest_loopPc]
      rcases Bool.or_eq_true_iff.mp hstill with hnow | hbefore
      · exact of_decide_eq_true (Bool.and_eq_true_iff.mp hnow).1
      · -- between two cycles nothing is overdue
        have hidle := h.ahead a m hbefore
        rw [hpc] at hidle
        cases hidle
  | take nowEpoch sgId rest hpc => exact requestsKept_take h hpc hguard
  | poll pollers turn rest hpc => exact requestsKept_poll pollers h hpc
  | settle turn error rest hpc => exact requestsKept_settle h hpc
  | request sgId mode nowEpoch => exact requestsKept_request sgId mode nowEpoch h
  | setServiceGroups serviceGroups =>
    obtain ⟨jitter, counts, hset⟩ := SgwManager.setServiceGroups_spec w.manager serviceGroups
    refine ⟨hheld, ?_, ?_, h.ahead⟩
    · rw [hset]
      exact h.pending
    · intro a m howed
      rw [hset]
      exact h.kept a m howed
  | restart hpc => exact requestsKept_restart h hpc

end Step

theorem requestsKept_init (settings : SgwSettings) (serviceGroups : List ServiceGroupId)
    (jitterProvider : ServiceGroupId → ℕ → ℤ) :
    (init settings serviceGroups jitterProvider).RequestsKept := by
  obtain ⟨jitter, counts, hcreate⟩ :=
    SgwManager.create_spec settings .empty serviceGroups jitterProvider
  refine ⟨held_init _ _ _, ?_, ?_, ?_⟩
  · intro sgId
    rw [init, hcreate]
    intro heq
    cases heq
  · intro sgId mode howed
    cases howed
  · intro sgId mode hstill
    cases hstill

/-- No accepted request is overdue between two cycles, in every run in which no LIGHT request of
a group overtakes a HEAVY one that a guard restart has dropped. -/
theorem accepted_refresh_kept (settings : SgwSettings) (serviceGroups : List ServiceGroupId)
    (jitterProvider : ServiceGroupId → ℕ → ℤ) (as : List SgwAction)
    (hrun : LabelledRun.Guarded step NoHeavyOvertaken (init settings serviceGroups jitterProvider)
      as) (sgId : ServiceGroupId) (mode : CacheRefreshMode) :
    let w := LabelledRun.exec step (init settings serviceGroups jitterProvider) as
    w.pc = .idle → overdue sgId mode w.log = false := by
  intro w hidle
  have hkept : w.RequestsKept := LabelledRun.invariant_of_guarded
    (fun w a hguard h => requestsKept_step hguard h) hrun (requestsKept_init _ _ _)
  by_contra hstill
  have hahead := hkept.ahead sgId mode (Bool.eq_true_of_not_eq_false hstill)
  rw [hidle] at hahead
  cases hahead

/-- A HEAVY request that one cycle serves. -/
theorem accepted_refresh_kept_heavy :
    let w := LabelledRun.exec step oneGroup
      [.request 1 .heavy 100, .begin 100, .take, .poll heavyRaises, .settle]
    w.pc = .idle ∧ overdue 1 .heavy w.log = false := by
  have hrun : LabelledRun.Guarded step NoHeavyOvertaken oneGroup
      [.request 1 .heavy 100, .begin 100, .take, .poll heavyRaises, .settle] := by
    refine ⟨trivial, trivial, ?_, trivial, trivial, trivial⟩
    intro nowEpoch sgId rest hpc hlight
    rfl
  refine ⟨by decide +kernel, ?_⟩
  exact accepted_refresh_kept .default [1] _ _ hrun 1 .heavy (by decide +kernel)

/-- A guard restart drops the HEAVY request, and the LIGHT one that follows is all that the next
cycle knows of. -/
theorem dropped_heavy_request :
    let w := LabelledRun.exec step oneGroup [.request 1 .heavy 100, .restart,
      .request 1 .light 101, .begin 102, .take, .poll heavyAnswers, .settle]
    w.pc = .idle ∧ overdue 1 .heavy w.log = true := by
  decide +kernel

end SgwWorld
end PypnmCmts
