import Mathlib.Algebra.Order.Floor.Div
import PypnmCmts.OrchestratorLauncher
import PypnmCmts.ShardConvergence

/-! The worker count of the planner against what the workers come to hold. Each of them is built
with the target that the launcher gives it, and ticks once. -/
namespace PypnmCmts

namespace ServiceGroupShardPlanner

/-- The count is the number of groups over the target, rounded up. -/
theorem computeWorkerCount_eq {sgCount target : ℕ} (hpos : 0 < sgCount) (htarget : 0 < target) :
    computeWorkerCount sgCount target 0 = sgCount ⌈/⌉ target := by
  have hone : 1 ≤ sgCount ⌈/⌉ target := by
    by_contra hzero
    have hle : sgCount ⌈/⌉ target ≤ 0 := by omega
    rw [ceilDiv_le_iff_le_mul htarget, Nat.mul_zero] at hle
    omega
  rw [Nat.ceilDiv_eq_add_pred_div] at hone ⊢
  have hmax : max 1 target = target := max_eq_right htarget
  unfold computeWorkerCount
  rw [if_neg hpos.ne', if_neg htarget.ne', hmax]
  simp only [Nat.lt_irrefl, if_false, not_lt.mpr hone]

/-- So many workers with that target have room for all groups. -/
theorem le_computeWorkerCount_mul {sgCount target : ℕ} (hpos : 0 < sgCount)
    (htarget : 0 < target) :
    sgCount ≤ computeWorkerCount sgCount target 0*min target sgCount := by
  have hcount := computeWorkerCount_eq hpos htarget
  rcases le_total target sgCount with hle | hle
  · rw [min_eq_left hle, hcount, Nat.mul_comm]
    exact (ceilDiv_le_iff_le_mul htarget).mp le_rfl
  · rw [min_eq_right hle, hcount]
    apply Nat.le_mul_of_pos_left
    rw [Nat.pos_iff_ne_zero]
    intro hzero
    have hnone := (ceilDiv_le_iff_le_mul htarget).mp hzero.le
    rw [Nat.mul_zero] at hnone
    omega

/-- Fewer workers have not. -/
theorem mul_lt_of_lt_computeWorkerCount {sgCount target workers : ℕ} (hpos : 0 < sgCount)
    (htarget : 0 < target) (hless : workers < computeWorkerCount sgCount target 0) :
    workers*min target sgCount < sgCount := by
  rw [computeWorkerCount_eq hpos htarget, ← not_le, ceilDiv_le_iff_le_mul htarget, not_le] at hless
  calc workers*min target sgCount ≤ workers*target := Nat.mul_le_mul_left _ (min_le_left _ _)
    _ = target*workers := Nat.mul_comm _ _
    _ < sgCount := hless

end ServiceGroupShardPlanner

namespace CmtsOrchestratorLauncher
variable (launcher : CmtsOrchestratorLauncher)

/-- The configured groups that are enabled. -/
def enabledSgIds : List ServiceGroupId :=
  (launcher.settings.serviceGroups.filter (·.enabled)).map (·.sgId)

/-- What the planner makes of the configured groups. -/
def shardPlan : List ServiceGroupId × ℕ :=
  ServiceGroupShardPlanner.plan launcher.settings.serviceGroups launcher.settings.shardMode
    launcher.settings.targetServiceGroups launcher.settings.workerCap

end CmtsOrchestratorLauncher

namespace CoordinationGroup
open LabelledRun GreedyShare
variable {ι : Type*} [DecidableEq ι]

/-- The planned number of workers serves all groups, no smaller number does, and the plan lists
the groups in order. -/
structure PlanSuffices (group : CoordinationGroup ι) (launcher : CmtsOrchestratorLauncher)
    (t₀ H : ℚ) (workers : List (TickEvent ι)) : Prop where
  served : ∀ sgId ∈ launcher.enabledSgIds,
    ∃! i, i ∈ workers.map (·.who) ∧ sgId ∈ (group.ticks workers).held i
  needed : 0 < launcher.settings.targetServiceGroups → ∀ fewer : List (TickEvent ι),
    (∀ e ∈ fewer, InWindow t₀ H launcher.enabledSgIds e) → (fewer.map (·.who)).Nodup →
    fewer.length < launcher.shardPlan.2 →
    ∃ sgId ∈ launcher.enabledSgIds, ∀ i, sgId ∉ (group.ticks fewer).held i
  ordered : launcher.shardPlan.1.Pairwise (· < ·)
  mem_plan : ∀ sgId, sgId ∈ launcher.shardPlan.1 ↔ sgId ∈ launcher.enabledSgIds

section Plan
variable {launcher : CmtsOrchestratorLauncher}

theorem shardPlan_fst : launcher.shardPlan.1 =
    CoordinationManager.sortedServiceGroups launcher.enabledSgIds := by
  unfold CmtsOrchestratorLauncher.shardPlan ServiceGroupShardPlanner.plan
  cases launcher.settings.shardMode <;> rfl

theorem shardPlan_snd (hcap : launcher.settings.workerCap = 0) : launcher.shardPlan.2 =
    ServiceGroupShardPlanner.computeWorkerCount launcher.enabledSgIds.length
      launcher.settings.targetServiceGroups 0 := by
  have hlength : launcher.shardPlan.1.length = launcher.enabledSgIds.length := by
    rw [shardPlan_fst]
    exact (CoordinationManager.sortedServiceGroups_perm _).length_eq
  rw [← hlength, ← hcap]
  rfl

theorem shardPlan_ordered (hdistinct : launcher.enabledSgIds.Nodup) :
    launcher.shardPlan.1.Pairwise (· < ·) := by
  rw [shardPlan_fst]
  have hnodup := (CoordinationManager.sortedServiceGroups_perm launcher.enabledSgIds).nodup_iff.mpr
    hdistinct
  have hsorted : (CoordinationManager.sortedServiceGroups launcher.enabledSgIds).Pairwise (· ≤ ·) :=
    List.pairwise_insertionSort _ _
  exact hsorted.imp₂ (fun _ _ => lt_of_le_of_ne) hnodup

theorem mem_shardPlan (sgId : ServiceGroupId) :
    sgId ∈ launcher.shardPlan.1 ↔ sgId ∈ launcher.enabledSgIds := by
  rw [shardPlan_fst]
  exact (CoordinationManager.sortedServiceGroups_perm _).mem_iff

end Plan

section Served
variable {group : CoordinationGroup ι} {launcher : CmtsOrchestratorLauncher} {t₀ H : ℚ}
  (hown : Function.Injective group.owner)
  (hH : ∀ i, H ≤ t₀+(group.manager i).leaseTtlSeconds)
  (hdistinct : launcher.enabledSgIds.Nodup)
include hown hH hdistinct

theorem held_subset {es : List (TickEvent ι)}
    (hes : ∀ e ∈ es, InWindow t₀ H launcher.enabledSgIds e) :
    heldBy (group.ticks es) (es.map (·.who)) ⊆ launcher.enabledSgIds.toFinset := by
  intro sgId hheld
  obtain ⟨i, -, hi⟩ := Finset.mem_biUnion.mp hheld
  rw [held_ticks hown hH hdistinct hes, mem_share] at hi
  exact hi.1

/-- A group that is held at all is held by one of those that have ticked, and only by it. -/
theorem existsUnique_of_held {es : List (TickEvent ι)}
    (hes : ∀ e ∈ es, InWindow t₀ H launcher.enabledSgIds e) {sgId : ServiceGroupId}
    (hheld : sgId ∈ heldBy (group.ticks es) (es.map (·.who))) :
    ∃! i, i ∈ es.map (·.who) ∧ sgId ∈ (group.ticks es).held i := by
  obtain ⟨i, hwho, hi⟩ := Finset.mem_biUnion.mp hheld
  refine ⟨i, ⟨List.mem_toFinset.mp hwho, hi⟩, ?_⟩
  intro j hj
  have hij := hj.2
  rw [held_ticks hown hH hdistinct hes, mem_share] at hi hij
  exact Option.some.inj (hij.2.symm.trans hi.2)

/-- What managers that have not ticked hold is nothing. -/
theorem mem_heldBy_of_held {es : List (TickEvent ι)}
    (hes : ∀ e ∈ es, InWindow t₀ H launcher.enabledSgIds e) {sgId : ServiceGroupId} {i : ι}
    (hi : sgId ∈ (group.ticks es).held i) :
    sgId ∈ heldBy (group.ticks es) (es.map (·.who)) := by
  refine Finset.mem_biUnion.mpr ⟨i, List.mem_toFinset.mpr ?_, hi⟩
  rw [held_ticks hown hH hdistinct hes, mem_share] at hi
  exact (owner_of_turns hi.2).resolve_right (by simp)

variable (htarget : ∀ i, group.target i =
  launcher.effectiveTargetServiceGroups launcher.enabledSgIds.length)
  (hmode : launcher.sgId = none)
include htarget hmode

theorem card_held {es : List (TickEvent ι)}
    (hes : ∀ e ∈ es, InWindow t₀ H launcher.enabledSgIds e) (honce : (es.map (·.who)).Nodup) :
    (heldBy (group.ticks es) (es.map (·.who))).card = min launcher.enabledSgIds.length
      (es.length*min launcher.settings.targetServiceGroups launcher.enabledSgIds.length) := by
  have hrequested : launcher.requestedServiceGroups = launcher.settings.targetServiceGroups := by
    unfold CmtsOrchestratorLauncher.requestedServiceGroups
    rw [hmode, Option.isSome_none, Bool.and_false]
    rfl
  have hconst : (es.map (·.who)).map group.target = List.replicate es.length
      (min launcher.settings.targetServiceGroups launcher.enabledSgIds.length) := by
    rw [List.eq_replicate_iff]
    refine ⟨by rw [List.length_map, List.length_map], ?_⟩
    intro target hmem
    obtain ⟨i, -, rfl⟩ := List.mem_map.mp hmem
    rw [htarget, launcher.effectiveTargetServiceGroups_eq, hrequested]
  rw [card_heldBy_ticks hown hH hdistinct hes honce, hconst, List.sum_replicate, smul_eq_mul]

theorem exists_unheld {fewer : List (TickEvent ι)}
    (hfewer : ∀ e ∈ fewer, InWindow t₀ H launcher.enabledSgIds e)
    (honce : (fewer.map (·.who)).Nodup)
    (hroom : fewer.length*min launcher.settings.targetServiceGroups launcher.enabledSgIds.length <
      launcher.enabledSgIds.length) :
    ∃ sgId ∈ launcher.enabledSgIds, ∀ i, sgId ∉ (group.ticks fewer).held i := by
  have hcard := card_held hown hH hdistinct htarget hmode hfewer honce
  have hall : launcher.enabledSgIds.toFinset.card = launcher.enabledSgIds.length :=
    List.toFinset_card_of_nodup hdistinct
  have hless : (heldBy (group.ticks fewer) (fewer.map (·.who))).card <
      launcher.enabledSgIds.toFinset.card := by
    rw [hcard, hall]
    exact (min_le_right _ _).trans_lt hroom
  obtain ⟨sgId, hmem, hnot⟩ := Finset.exists_mem_notMem_of_card_lt_card hless
  refine ⟨sgId, List.mem_toFinset.mp hmem, ?_⟩
  intro i hi
  exact hnot (mem_heldBy_of_held hown hH hdistinct hfewer hi)

theorem served_of_room {workers : List (TickEvent ι)}
    (hworkers : ∀ e ∈ workers, InWindow t₀ H launcher.enabledSgIds e)
    (honce : (workers.map (·.who)).Nodup)
    (hroom : launcher.enabledSgIds.length ≤
      workers.length*min launcher.settings.targetServiceGroups launcher.enabledSgIds.length)
    {sgId : ServiceGroupId} (hmem : sgId ∈ launcher.enabledSgIds) :
    ∃! i, i ∈ workers.map (·.who) ∧ sgId ∈ (group.ticks workers).held i := by
  have hcard := card_held hown hH hdistinct htarget hmode hworkers honce
  rw [min_eq_left hroom, ← List.toFinset_card_of_nodup hdistinct] at hcard
  have hall := Finset.eq_of_subset_of_card_le (held_subset hown hH hdistinct hworkers) hcard.ge
  apply existsUnique_of_held hown hH hdistinct hworkers
  rw [hall]
  exact List.mem_toFinset.mpr hmem

end Served

/-- The planned workers, ticking once each from an empty state directory, serve all groups exactly
if the target is not zero: the planner takes a target of zero for all groups, an unbound worker
for none. -/
theorem planned_capacity_iff (group : CoordinationGroup ι) (launcher : CmtsOrchestratorLauncher)
    (hmode : launcher.mode = .worker ∧ launcher.sgId = none)
    (hcap : launcher.settings.workerCap = 0) (hsome : launcher.enabledSgIds ≠ [])
    (hdistinct : launcher.enabledSgIds.Nodup) (hown : Function.Injective group.owner)
    (htarget : ∀ i, group.target i =
      launcher.effectiveTargetServiceGroups launcher.enabledSgIds.length)
    (t₀ H : ℚ) (hH : ∀ i, H ≤ t₀+(group.manager i).leaseTtlSeconds)
    (workers : List (TickEvent ι))
    (hworkers : ∀ e ∈ workers, InWindow t₀ H launcher.enabledSgIds e)
    (honce : (workers.map (·.who)).Nodup) (hcount : workers.length = launcher.shardPlan.2) :
    PlanSuffices group launcher t₀ H workers ↔ 0 < launcher.settings.targetServiceGroups := by
  have hpos : 0 < launcher.enabledSgIds.length := List.length_pos_iff.mpr hsome
  rw [shardPlan_snd hcap] at hcount
  constructor
  · intro hsuffices
    by_contra hzero
    have hnone : launcher.settings.targetServiceGroups = 0 := by omega
    obtain ⟨sgId, hmem, hnot⟩ := exists_unheld hown hH hdistinct htarget hmode.2 hworkers honce
      (by rw [hnone, Nat.zero_min, Nat.mul_zero]; exact hpos)
    obtain ⟨i, ⟨-, hi⟩, -⟩ := hsuffices.served sgId hmem
    exact hnot i hi
  · intro hsome
    refine ⟨?_, ?_, shardPlan_ordered hdistinct, mem_shardPlan⟩
    · intro sgId hmem
      apply served_of_room hown hH hdistinct htarget hmode.2 hworkers honce _ hmem
      rw [hcount]
      exact ServiceGroupShardPlanner.le_computeWorkerCount_mul hpos hsome
    · intro _ fewer hfewer hnodup hless
      rw [shardPlan_snd hcap] at hless
      apply exists_unheld hown hH hdistinct htarget hmode.2 hfewer hnodup
      exact ServiceGroupShardPlanner.mul_lt_of_lt_computeWorkerCount hpos hsome hless

/-- The launcher of an unbound worker over two groups. -/
def pairLauncher (target : ℕ) : CmtsOrchestratorLauncher where
  mode := .worker
  sgId := none
  settings := ⟨[⟨7, true⟩, ⟨4, true⟩], false, "", target, .sequential, 0⟩

/-- First ticks of the two managers over these groups. -/
def pairTicks : List (TickEvent Bool) := [⟨true, [4, 7], fun _ => 0⟩, ⟨false, [7, 4], fun _ => 3⟩]

theorem inWindow_pairTicks : ∀ e ∈ pairTicks, InWindow 0 10 [7, 4] e := by
  refine List.forall_mem_cons.mpr ⟨⟨by decide, ?_⟩, List.forall_mem_singleton.mpr ⟨by decide, ?_⟩⟩
  · intro n
    exact (by decide +kernel : (0 : ℚ) ≤ 0 ∧ (0 : ℚ) < 10)
  · intro n
    exact (by decide +kernel : (0 : ℚ) ≤ 3 ∧ (3 : ℚ) < 10)

theorem planned_capacity_pair : PlanSuffices pairManagers (pairLauncher 1) 0 10 pairTicks :=
  (planned_capacity_iff pairManagers (pairLauncher 1) ⟨rfl, rfl⟩ rfl (by decide) (by decide)
    pairManagers_owner_injective (fun i => by cases i <;> decide) 0 10
    (fun i => by cases i <;> decide +kernel) pairTicks inWindow_pairTicks (by decide)
    (by decide)).mpr (by decide)

/-- The managers of a group, built with another target. -/
def retargeted (group : CoordinationGroup ι) (targetServiceGroups : ℕ) : CoordinationGroup ι :=
  { group with manager := fun i => { group.manager i with targetServiceGroups } }

/-- With a target of zero the plan is for two workers, and they hold nothing. -/
theorem planned_capacity_zero :
    (∀ i, (retargeted pairManagers 0).target i =
      (pairLauncher 0).effectiveTargetServiceGroups (pairLauncher 0).enabledSgIds.length) ∧
    pairTicks.length = (pairLauncher 0).shardPlan.2 ∧
    ¬PlanSuffices (retargeted pairManagers 0) (pairLauncher 0) 0 10 pairTicks := by
  have htarget : ∀ i, (retargeted pairManagers 0).target i =
      (pairLauncher 0).effectiveTargetServiceGroups (pairLauncher 0).enabledSgIds.length := by
    intro i
    cases i <;> decide
  refine ⟨htarget, by decide, ?_⟩
  intro hsuffices
  have hown : Function.Injective (retargeted pairManagers 0).owner := pairManagers_owner_injective
  have hlease : ∀ i, (10 : ℚ) ≤ 0+((retargeted pairManagers 0).manager i).leaseTtlSeconds := by
    intro i
    cases i <;> decide +kernel
  have hunheld : ∃ sgId ∈ (pairLauncher 0).enabledSgIds,
      ∀ i, sgId ∉ ((retargeted pairManagers 0).ticks pairTicks).held i :=
    exists_unheld hown hlease (by decide) htarget rfl inWindow_pairTicks (by decide) (by decide)
  obtain ⟨sgId, hmem, hnot⟩ := hunheld
  obtain ⟨i, ⟨-, hi⟩, -⟩ := hsuffices.served sgId hmem
  exact hnot i hi

end CoordinationGroup
end PypnmCmts
