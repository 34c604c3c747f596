import PypnmCmts.SgwMetadata

/-! `compute_sgw_cache_ready` of `sgw/runtime_state.py`: readiness is read off the snapshot times,
which the creation of an entry and a failed poll write as well. -/
namespace PypnmCmts

/-- Return whether SGW cache is populated for all discovered service groups. -/
def computeSgwCacheReady (discoveredSgIds : List ServiceGroupId) (store : Option SgwCacheStore) :
    Bool × List ServiceGroupId :=
  if discoveredSgIds = [] then (true, [])
  else match store with
    | none => (false, discoveredSgIds)
    | some store =>
      let missing := discoveredSgIds.filter fun sgId =>
        match store.getEntry sgId with
        | none => true
        | some entry => entry.metadata.snapshotTimeEpoch ≤ 0
      (missing.length = 0, missing)

/-- The active store has seen a successful heavy refresh of the group. -/
def heavyRefreshed (sgId : ServiceGroupId) : List SgwEvent → Bool
  | [] => false
  | .restarted _ :: _ => false
  | .refreshed a .heavy _ :: log => a = sgId || heavyRefreshed sgId log
  | _ :: log => heavyRefreshed sgId log

namespace SgwWorld

/-- A group's polls are heavy and succeed until one has, and no reader asks for readiness in the
middle of the first one, unless another of its groups has no entry yet. -/
def FirstPollSucceeds (w : SgwWorld) : SgwAction → Prop
  | .poll pollers => ∀ turn rest, w.pc = .polling turn rest → 0 < turn.nowEpoch →
      heavyRefreshed turn.sgId w.log = true ∨
        turn.refreshMode = .heavy ∧ ∃ payload, pollers.heavy turn.sgId = .ok payload
  | .read sgIds => ∀ turn rest, w.pc = .polling turn rest → turn.sgId ∈ sgIds →
      heavyRefreshed turn.sgId w.log = true ∨ ∃ sgId ∈ sgIds, w.manager.metadataOf sgId = none
  | _ => True

/-- A positive snapshot time is that of a heavily refreshed group, or of one in its first poll. -/
def ReadyIsEarned (w : SgwWorld) : Prop :=
  ∀ sgId d, w.manager.metadataOf sgId = some d → 0 < d.snapshotTimeEpoch →
    heavyRefreshed sgId w.log = true ∨
      ∃ turn rest, w.pc = .polling turn rest ∧ turn.sgId = sgId ∧ 0 < turn.nowEpoch

theorem ready_iff (sgIds : List ServiceGroupId) (store : SgwCacheStore) :
    (computeSgwCacheReady sgIds (some store)).1 = true ↔
      ∀ sgId ∈ sgIds, ∃ entry, store.getEntry sgId = some entry ∧
        0 < entry.metadata.snapshotTimeEpoch := by
  unfold computeSgwCacheReady
  by_cases hnil : sgIds = []
  · simp [hnil]
  · rw [if_neg hnil]
    simp only [decide_eq_true_eq, List.length_eq_zero_iff, List.filter_eq_nil_iff]
    apply forall₂_congr
    intro sgId _
    cases store.getEntry sgId with
    | none => simp
    | some entry => simp

theorem readyIsEarned_init (settings : SgwSettings) (serviceGroups : List ServiceGroupId)
    (jitterProvider : ServiceGroupId → ℕ → ℤ) :
    (init settings serviceGroups jitterProvider).ReadyIsEarned := by
  intro sgId d hd
  rw [init, SgwManager.metadataOf_create] at hd
  cases hd

section Step
variable {w : SgwWorld} {turn : SgwTurn} {rest : List ServiceGroupId} {pollers : SgwPollers}

/-- Only the group whose poll is being waited for can lack a successful heavy refresh. -/
theorem ReadyIsEarned.of_not_polling (h : w.ReadyIsEarned)
    (hpc : ∀ turn rest, w.pc ≠ .polling turn rest) {sgId : ServiceGroupId}
    {d : SgwCacheMetadataModel} (hd : w.manager.metadataOf sgId = some d)
    (hpos : 0 < d.snapshotTimeEpoch) : heavyRefreshed sgId w.log = true := by
  rcases h sgId d hd hpos with hdone | ⟨turn, rest, hpolling, -⟩
  · exact hdone
  · exact absurd hpolling (hpc turn rest)

theorem heavyRefreshed_pollEvents {sgId : ServiceGroupId} {error : Option String}
    {log : List SgwEvent} (h : heavyRefreshed sgId log = true) :
    heavyRefreshed sgId (pollEvents turn error ++ log) = true := by
  unfold pollEvents
  split_ifs
  · exact h
  · cases turn.refreshMode with
    | heavy => exact Bool.or_eq_true_iff.mpr (Or.inr h)
    | light => exact h
    | none => exact h
  · exact h

theorem readyIsEarned_poll (hpc : w.pc = .polling turn rest) (hheld : w.Held)
    (hguard : 0 < turn.nowEpoch → heavyRefreshed turn.sgId w.log = true ∨
      turn.refreshMode = .heavy ∧ ∃ payload, pollers.heavy turn.sgId = .ok payload)
    (h : w.ReadyIsEarned) : (w.stepPoll pollers turn rest).ReadyIsEarned := by
  intro sgId d hd hpos
  left
  by_cases hid : sgId = turn.sgId
  · subst hid
    obtain ⟨before, hbefore⟩ := hheld turn (by rw [hpc]; rfl)
    obtain ⟨after, hafter, hpolled⟩ := SgwManager.metadataOf_pollTurn pollers hbefore
    have hsame : after = d := Option.some.inj (hafter.symm.trans hd)
    subst hsame
    rw [stepPoll]
    generalize (w.manager.pollTurn pollers turn).1 = error at hpolled ⊢
    -- what the guard gives for a poll that writes the time of its cycle
    have hwritten (hnow : 0 < turn.nowEpoch)
        (hfailed : turn.refreshMode = .heavy → ∀ payload, pollers.heavy turn.sgId = .ok payload →
          pollEvents turn error = [.refreshed turn.sgId .heavy turn.nowEpoch]) :
        heavyRefreshed turn.sgId (pollEvents turn error ++ w.log) = true := by
      rcases hguard hnow with hdone | ⟨hmode, payload, hanswer⟩
      · exact heavyRefreshed_pollEvents hdone
      · rw [hfailed hmode payload hanswer]
        exact Bool.or_eq_true_iff.mpr (Or.inl (decide_eq_true rfl))
    cases hpolled with
    | skipped hmode =>
      rcases h turn.sgId _ hbefore hpos with hdone | ⟨turn', rest', hpc', -, hnow⟩
      · exact heavyRefreshed_pollEvents hdone
      · rw [hpc] at hpc'
        cases hpc'
        refine hwritten hnow ?_
        intro hheavy
        rw [hmode] at hheavy
        cases hheavy
    | heavy payload hmode hanswer =>
      refine hwritten hpos fun _ _ _ => ?_
      rw [pollEvents, if_neg (by rw [hmode]; decide), if_pos rfl, hmode]
    | light modems hmode hanswer =>
      refine hwritten hpos ?_
      intro hheavy
      rw [hmode] at hheavy
      cases hheavy
    | failed exc hmode hheavy hlight =>
      refine hwritten hpos ?_
      intro hmode' payload hanswer
      rw [hheavy hmode'] at hanswer
      cases hanswer
  · rw [stepPoll, SgwManager.metadataOf_pollTurn_of_ne hid] at hd
    rcases h sgId d hd hpos with hdone | ⟨turn', rest', hpc', hid', -⟩
    · exact heavyRefreshed_pollEvents hdone
    · rw [hpc] at hpc'
      cases hpc'
      exact absurd hid'.symm hid

theorem readyIsEarned_step {a : SgwAction} (hguard : w.FirstPollSucceeds a) (hheld : w.Held)
    (h : w.ReadyIsEarned) : (w.step a).ReadyIsEarned := by
  have hcase := step_case w a
  generalize w.step a = w' at hcase ⊢
  cases hcase with
  | skip => exact h
  | begin nowEpoch hpc hclock =>
    intro sgId d hd hpos
    exact Or.inl (h.of_not_polling (by rw [hpc]; intro _ _ heq; cases heq) hd hpos)
  | take nowEpoch sgId rest hpc =>
    intro a d hd hpos
    have hnot : ∀ turn rest, w.pc ≠ .polling turn rest := by rw [hpc]; intro _ _ heq; cases heq
    rw [stepTake, SgwManager.metadataOf_beginTurn] at hd
    by_cases ha : a = sgId
    · subst ha
      rw [if_pos rfl, Option.some.injEq] at hd
      cases hold : w.manager.metadataOf a with
      | some old =>
        rw [hold, Option.getD_some] at hd
        subst hd
        exact Or.inl (h.of_not_polling hnot hold hpos)
      | none =>
        -- a new entry has the time of the cycle whose poll comes next
        rw [hold, Option.getD_none] at hd
        subst hd
        refine Or.inr ⟨_, rest, rfl, ?_, ?_⟩
        · rw [SgwManager.beginTurn_turn]
        · rw [SgwManager.beginTurn_turn]
          exact hpos
    · rw [if_neg ha] at hd
      exact Or.inl (h.of_not_polling hnot hd hpos)
  | poll pollers turn rest hpc => exact readyIsEarned_poll hpc hheld (hguard turn rest hpc) h
  | settle turn error rest hpc =>
    intro a d hd hpos
    have hnot : ∀ turn rest, w.pc ≠ .polling turn rest := by rw [hpc]; intro _ _ heq; cases heq
    obtain ⟨old, hold, htime⟩ := snapshotTime_stepSettle hheld hpc hd
    rw [← htime] at hpos
    exact Or.inl (h.of_not_polling hnot hold hpos)
  | request sgId mode nowEpoch =>
    intro a d hd hpos
    rw [stepRequest, SgwManager.metadataOf_requestRefresh] at hd
    rcases h a d hd hpos with hdone | hpolling
    · left
      rw [stepRequest]
      split_ifs
      · exact hdone
      · exact hdone
    · exact Or.inr hpolling
  | setServiceGroups serviceGroups =>
    intro a d hd hpos
    rw [SgwManager.metadataOf_setServiceGroups] at hd
    exact h a d hd hpos
  | restart hpc =>
    intro a d hd hpos
    rw [stepRestart, SgwManager.metadataOf_cloneForRestart] at hd
    cases hd

end Step

/-- Readiness is sound in every run in which each group's polls are heavy and succeed until one
has, and in which no reader comes between the creation of an entry and its first poll. -/
theorem cache_ready_sound (settings : SgwSettings) (serviceGroups : List ServiceGroupId)
    (jitterProvider : ServiceGroupId → ℕ → ℤ) (bs cs : List SgwAction)
    (sgIds : List ServiceGroupId)
    (hrun : LabelledRun.Guarded step FirstPollSucceeds (init settings serviceGroups jitterProvider)
      (bs ++ .read sgIds :: cs)) :
    let w := LabelledRun.exec step (init settings serviceGroups jitterProvider) bs
    (computeSgwCacheReady sgIds (some w.manager.store)).1 = true →
      ∀ sgId ∈ sgIds, heavyRefreshed sgId w.log = true := by
  intro w hready sgId hmem
  rw [LabelledRun.guarded_append] at hrun
  obtain ⟨hbefore, hread, -⟩ := hrun
  have hinv : w.Held ∧ w.ReadyIsEarned :=
    LabelledRun.invariant_of_guarded (I := fun w => w.Held ∧ w.ReadyIsEarned)
      (fun w a hguard h => ⟨held_step w a h.1, readyIsEarned_step hguard h.1 h.2⟩) hbefore
      ⟨held_init _ _ _, readyIsEarned_init _ _ _⟩
  have hall := (ready_iff sgIds w.manager.store).mp hready
  obtain ⟨entry, hentry, hpos⟩ := hall sgId hmem
  have hd : w.manager.metadataOf sgId = some entry.metadata := by
    rw [SgwManager.metadataOf, hentry, Option.map_some]
  rcases hinv.2 sgId entry.metadata hd hpos with hdone | ⟨turn, rest, hpc, rfl, -⟩
  · exact hdone
  · rcases hread turn rest hpc hmem with hdone | ⟨other, hother, hnone⟩
    · exact hdone
    · obtain ⟨entry', hentry', -⟩ := hall other hother
      rw [SgwManager.metadataOf, hentry'] at hnone
      cases hnone

theorem cache_ready_sound_answered :
    let w := LabelledRun.exec step oneGroup [.begin 100, .take, .poll heavyAnswers, .settle]
    (computeSgwCacheReady [1] (some w.manager.store)).1 = true ∧
      ∀ sgId ∈ [1], heavyRefreshed sgId w.log = true := by
  have hrun : LabelledRun.Guarded step FirstPollSucceeds oneGroup
      ([.begin 100, .take, .poll heavyAnswers, .settle] ++ .read [1] :: []) := by
    refine ⟨trivial, trivial, ?_, trivial, ?_, trivial⟩
    · intro turn rest hpc _
      cases hpc
      exact Or.inr ⟨by decide +kernel, {}, rfl⟩
    · intro turn rest hpc
      cases hpc
  refine ⟨by decide +kernel, ?_⟩
  exact cache_ready_sound .default [1] _ _ [] [1] hrun (by decide +kernel)

/-- The first poll of the only group fails, and the cache is ready. -/
theorem ready_after_failed_poll :
    let w := LabelledRun.exec step oneGroup [.begin 100, .take, .poll heavyRaises, .settle]
    (computeSgwCacheReady [1] (some w.manager.store)).1 = true ∧
      heavyRefreshed 1 w.log = false := by
  decide +kernel

end SgwWorld
end PypnmCmts
