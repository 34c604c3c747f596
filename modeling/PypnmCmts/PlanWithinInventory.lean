import PypnmCmts.LauncherRun
import PypnmCmts.PlannedCapacity

/-! The plan of a controller against the inventory that it was built with. The inventory comes from
the discovery, the snapshot or the configuration; the plan from the configuration wherever that
lists service groups. -/
namespace PypnmCmts

namespace InventoryPlan

/-- What is planned is a part of the inventory, and the target has room in it. -/
structure WithinInventory (plan : InventoryPlan) : Prop where
  sorted : plan.desiredSgIds.Pairwise (· ≤ ·)
  nodup : plan.desiredSgIds.Nodup
  subset : plan.desiredSgIds ⊆ plan.serviceGroups
  target_le : plan.effectiveTarget ≤ plan.serviceGroups.length

end InventoryPlan

namespace CmtsOrchestratorLauncher
variable (launcher : CmtsOrchestratorLauncher) (answers : InventoryAnswers) (isLeader : Bool)

/-- The ids that a controller finds: those of the CMTS if it is to ask it, else those of the
snapshot, else the configured ones. -/
def listedSgIds : List ServiceGroupId :=
  if isLeader && launcher.settings.autoDiscover &&
      PyText.strip launcher.settings.hostname ≠ "" then
    match answers.discovery with
    | .ok discoveredSgIds => discoveredSgIds
    | .error _ => []
  else
    match answers.snapshot with
    | .found discoveredSgIds => discoveredSgIds
    | _ => launcher.enabledSgIds

/-- The groups to plan, configured or else listed, have no repeats, and the list has the configured
ones. -/
def PlansListed : Prop :=
  if launcher.settings.serviceGroups = [] then (launcher.listedSgIds answers isLeader).Nodup
  else launcher.enabledSgIds.Nodup ∧
    launcher.enabledSgIds ⊆ launcher.listedSgIds answers isLeader

variable {launcher answers isLeader}

/-- Whatever its source, the inventory is what has been found, in order. -/
theorem buildControllerServiceGroups_eq {serviceGroups : List ServiceGroupId}
    {source : InventorySource}
    (h : launcher.buildControllerServiceGroups answers isLeader = .ok (serviceGroups, source)) :
    serviceGroups =
      CoordinationManager.sortedServiceGroups (launcher.listedSgIds answers isLeader) := by
  unfold buildControllerServiceGroups at h
  unfold listedSgIds
  split at h
  · next hdiscover =>
    rw [if_pos hdiscover]
    unfold buildDiscoveredServiceGroups at h
    cases hdiscovery : answers.discovery with
    | error e => rw [hdiscovery] at h; cases h
    | ok discoveredSgIds => rw [hdiscovery] at h; cases h; rfl
  · next hdiscover =>
    rw [if_neg hdiscover]
    unfold loadInventorySnapshot at h
    cases hsnapshot : answers.snapshot with
    | unreadable => rw [hsnapshot] at h; cases h
    | invalid => rw [hsnapshot] at h; cases h
    | found discoveredSgIds => rw [hsnapshot] at h; cases h; rfl
    | absent =>
      -- the snapshot that a leader writes here lists what it returns
      rw [hsnapshot] at h
      dsimp only at h
      split at h
      · split at h
        · cases h
        · cases h; rfl
      · cases h; rfl

/-- The plan orders what it is made from. -/
theorem planControllerServiceGroups_fst (serviceGroups : List ServiceGroupId) :
    (launcher.planControllerServiceGroups serviceGroups).1 =
      CoordinationManager.sortedServiceGroups
        (if launcher.settings.serviceGroups = [] then serviceGroups
          else launcher.enabledSgIds) := by
  have hordered : ∀ descriptors : List ServiceGroupDescriptor,
      (ServiceGroupShardPlanner.plan descriptors launcher.settings.shardMode
        launcher.settings.targetServiceGroups launcher.settings.workerCap).1 =
      CoordinationManager.sortedServiceGroups
        ((descriptors.filter (·.enabled)).map (·.sgId)) := by
    intro descriptors
    unfold ServiceGroupShardPlanner.plan
    cases launcher.settings.shardMode <;> rfl
  unfold planControllerServiceGroups
  rw [hordered, buildPlannerDescriptors, ite_not]
  split
  · simp [List.filter_map, Function.comp_def]
  · rfl

/-- A controller's plan and its target, from the ids that it finds. -/
theorem buildInventoryAndPlan_cases (hmode : launcher.mode.isControllerEnabled = true)
    {plan : InventoryPlan} (h : launcher.buildInventoryAndPlan answers isLeader = .ok plan) :
    plan.serviceGroups =
      CoordinationManager.sortedServiceGroups (launcher.listedSgIds answers isLeader) ∧
    plan.desiredSgIds = CoordinationManager.sortedServiceGroups
      (if launcher.settings.serviceGroups = [] then plan.serviceGroups
        else launcher.enabledSgIds) ∧
    (plan.effectiveTarget ≤ plan.serviceGroups.length ∨
      plan.effectiveTarget = plan.desiredSgIds.length) := by
  unfold buildInventoryAndPlan at h
  rw [if_pos hmode] at h
  split at h
  · cases h
  · next serviceGroups source hbuilt =>
    obtain rfl := Except.ok.inj h
    rw [hmode, if_pos rfl, Bool.true_and]
    refine ⟨buildControllerServiceGroups_eq hbuilt, planControllerServiceGroups_fst _, ?_⟩
    dsimp only
    split
    · exact Or.inr rfl
    · rw [effectiveTargetServiceGroups_eq]
      exact Or.inl (min_le_right _ _)

/-- What a controller plans stays within the inventory just when the configured ids, if there are
any, have no repeats and are all found, and else the ids found have none. -/
theorem plan_within_inventory_iff (launcher : CmtsOrchestratorLauncher)
    (hmode : launcher.mode.isControllerEnabled = true) (answers : InventoryAnswers)
    (isLeader : Bool) (plan : InventoryPlan)
    (hplan : launcher.buildInventoryAndPlan answers isLeader = .ok plan) :
    plan.WithinInventory ↔ launcher.PlansListed answers isLeader := by
  obtain ⟨hgroups, hdesired, htarget⟩ := buildInventoryAndPlan_cases hmode hplan
  have hperm := CoordinationManager.sortedServiceGroups_perm
  have hfound : plan.serviceGroups.Perm (launcher.listedSgIds answers isLeader) := by
    rw [hgroups]
    exact hperm _
  have hplanned := hperm (if launcher.settings.serviceGroups = [] then plan.serviceGroups
    else launcher.enabledSgIds)
  rw [← hdesired] at hplanned
  -- the order is never in question, and the target is none once the rest holds
  have hwithin : plan.WithinInventory ↔
      plan.desiredSgIds.Nodup ∧ plan.desiredSgIds ⊆ plan.serviceGroups := by
    constructor
    · intro h
      exact ⟨h.nodup, h.subset⟩
    · intro ⟨hnodup, hsubset⟩
      refine ⟨?_, hnodup, hsubset, ?_⟩
      · rw [hdesired]
        exact List.pairwise_insertionSort _ _
      · have hle := (hnodup.subperm hsubset).length_le
        omega
  rw [hwithin, hplanned.nodup_iff, PlansListed]
  split
  · next hnone =>
    rw [if_pos hnone] at hplanned
    rw [hfound.nodup_iff]
    exact and_iff_left hplanned.subset
  · next hsome =>
    rw [if_neg hsome] at hplanned
    refine and_congr_right fun _ => ?_
    constructor
    · intro hsubset sgId hmem
      exact hfound.mem_iff.mp (hsubset (hplanned.mem_iff.mpr hmem))
    · intro hsubset sgId hmem
      exact hfound.mem_iff.mpr (hsubset (hplanned.mem_iff.mp hmem))

/-- The snapshot lists both configured groups, and another. -/
theorem plan_within_inventory_configured :
    (⟨[1, 2, 3], .discovery, [1, 2], 2, 2⟩ : InventoryPlan).WithinInventory :=
  (plan_within_inventory_iff configuredLauncher rfl ⟨.found [3, 1, 2], .ok [], .ok ()⟩ false _
    (by decide)).mpr ⟨by decide, by decide⟩

/-- The snapshot lists one of the two configured groups only. -/
theorem plan_beyond_inventory :
    ∃ plan, configuredLauncher.buildInventoryAndPlan ⟨.found [1], .ok [], .ok ()⟩ false =
      .ok plan ∧ ¬plan.WithinInventory := by
  refine ⟨⟨[1], .discovery, [1, 2], 2, 2⟩, by decide, ?_⟩
  intro hwithin
  exact absurd hwithin.target_le (by decide)

end CmtsOrchestratorLauncher
end PypnmCmts
