import PypnmCmts.CoordinationManager

/-! `orchestrator/launcher.py`: the inventory of an orchestrator, its plan and its target, and
`orchestrator/sg_shard_planner.py`. -/
namespace PypnmCmts

inductive OrchestratorMode
  | standalone
  | controller
  | worker
  | combined
deriving DecidableEq

namespace OrchestratorMode

def isControllerEnabled (mode : OrchestratorMode) : Bool := mode = controller || mode = combined

def isWorkerEnabled (mode : OrchestratorMode) : Bool := mode = worker || mode = combined

end OrchestratorMode

structure ServiceGroupDescriptor where
  sgId : ServiceGroupId
  enabled : Bool
deriving DecidableEq

/-- The settings that the inventory and its plan are made from. -/
structure CmtsOrchestratorSettings where
  serviceGroups : List ServiceGroupDescriptor
  autoDiscover : Bool
  hostname : String
  targetServiceGroups : ℕ
  shardMode : ShardMode
  workerCap : ℕ

inductive InventorySource
  | config
  | discovery
  | worker
deriving DecidableEq

/-- What `inventory/discovery.json` holds. -/
inductive SnapshotFile
  | absent
  | unreadable
  | invalid
  | found (discoveredSgIds : List ServiceGroupId)

/-- What the state directory and the CMTS answer while an inventory is built. A discovery or a
write that raises answers with the text of what it raises. -/
structure InventoryAnswers where
  snapshot : SnapshotFile
  discovery : Except String (List ServiceGroupId)
  persist : Except String Unit

/-- What `_build_inventory_and_plan` returns. -/
structure InventoryPlan where
  serviceGroups : List ServiceGroupId
  source : InventorySource
  desiredSgIds : List ServiceGroupId
  workerCount : ℕ
  effectiveTarget : ℕ
deriving DecidableEq

namespace ServiceGroupShardPlanner

/-- Both modes order by number. -/
def orderSgIds (sgIds : List ServiceGroupId) : ShardMode → List ServiceGroupId
  | .score => CoordinationManager.sortedServiceGroups sgIds
  | .sequential => CoordinationManager.sortedServiceGroups sgIds

def computeWorkerCount (sgCount targetServiceGroups workerCap : ℕ) : ℕ :=
  if sgCount = 0 then 0
  else
    let workerCount :=
      if targetServiceGroups = 0 then sgCount
      else
        let divisor := max 1 targetServiceGroups
        (sgCount+divisor-1)/divisor
    let workerCount := if workerCount < 1 then 1 else workerCount
    if 0 < workerCap then min workerCount workerCap else workerCount

def plan (descriptors : List ServiceGroupDescriptor) (shardMode : ShardMode)
    (targetServiceGroups workerCap : ℕ) : List ServiceGroupId × ℕ :=
  let enabled := descriptors.filter (·.enabled)
  let ordered := orderSgIds (enabled.map (·.sgId)) shardMode
  (ordered, computeWorkerCount ordered.length targetServiceGroups workerCap)

theorem length_plan (descriptors : List ServiceGroupDescriptor) (shardMode : ShardMode)
    (targetServiceGroups workerCap : ℕ) :
    (plan descriptors shardMode targetServiceGroups workerCap).1.length =
      (descriptors.filter (·.enabled)).length := by
  cases shardMode <;>
    simp [plan, orderSgIds, CoordinationManager.sortedServiceGroups, List.length_insertionSort]

end ServiceGroupShardPlanner

/-- A launcher with the settings that it has loaded. -/
structure CmtsOrchestratorLauncher where
  mode : OrchestratorMode
  sgId : Option ServiceGroupId
  settings : CmtsOrchestratorSettings

namespace CmtsOrchestratorLauncher
variable (launcher : CmtsOrchestratorLauncher) (answers : InventoryAnswers) (isLeader : Bool)

abbrev BuiltServiceGroups := Except String (List ServiceGroupId × InventorySource)

def shouldRefreshLeaderInventory : Bool :=
  launcher.mode.isControllerEnabled &&
    !(launcher.settings.autoDiscover && PyText.strip launcher.settings.hostname = "")

def loadInventorySnapshot : Except String (Option (List ServiceGroupId)) :=
  match answers.snapshot with
  | .absent => .ok none
  | .unreadable => .error "inventory snapshot could not be read."
  | .invalid => .error "inventory snapshot is invalid."
  | .found discoveredSgIds => .ok (some discoveredSgIds)

def buildConfigServiceGroups : List ServiceGroupId × InventorySource :=
  (CoordinationManager.sortedServiceGroups
    ((launcher.settings.serviceGroups.filter (·.enabled)).map (·.sgId)), .config)

def buildDiscoveredServiceGroups : BuiltServiceGroups :=
  match answers.discovery with
  | .error e => .error e
  | .ok discoveredSgIds =>
    .ok (CoordinationManager.sortedServiceGroups discoveredSgIds, .discovery)

def buildInventoryServiceGroups : BuiltServiceGroups :=
  if launcher.settings.autoDiscover then buildDiscoveredServiceGroups answers
  else .ok launcher.buildConfigServiceGroups

def buildWorkerServiceGroups : BuiltServiceGroups :=
  match launcher.sgId with
  | none =>
    match loadInventorySnapshot answers with
    | .error e => .error e
    | .ok (some discoveredSgIds) =>
      .ok (CoordinationManager.sortedServiceGroups discoveredSgIds, .discovery)
    | .ok none =>
      if launcher.settings.serviceGroups ≠ [] then .ok launcher.buildConfigServiceGroups
      else if launcher.settings.autoDiscover then
        .error "inventory snapshot not found for worker mode."
      else .ok ([], .worker)
  | some sgId =>
    if launcher.settings.serviceGroups ≠ [] then
      if sgId ∉ launcher.buildConfigServiceGroups.1 then
        .error "worker sg-id is not enabled in configuration."
      else .ok ([sgId], .config)
    else .ok ([sgId], .worker)

def buildServiceGroups : BuiltServiceGroups :=
  if launcher.mode = .worker then launcher.buildWorkerServiceGroups answers
  else launcher.buildInventoryServiceGroups answers

def buildControllerServiceGroups : BuiltServiceGroups :=
  if isLeader && launcher.settings.autoDiscover &&
      PyText.strip launcher.settings.hostname ≠ "" then
    buildDiscoveredServiceGroups answers
  else
    match loadInventorySnapshot answers with
    | .error e => .error e
    | .ok (some discoveredSgIds) =>
      .ok (CoordinationManager.sortedServiceGroups discoveredSgIds, .discovery)
    | .ok none =>
      if isLeader && launcher.buildConfigServiceGroups.1 ≠ [] then
        -- the configured groups become the snapshot
        match answers.persist with
        | .error e => .error e
        | .ok _ => .ok launcher.buildConfigServiceGroups
      else .ok launcher.buildConfigServiceGroups

def buildPlannerDescriptors (serviceGroups : List ServiceGroupId) : List ServiceGroupDescriptor :=
  if launcher.settings.serviceGroups ≠ [] then launcher.settings.serviceGroups
  else serviceGroups.map fun sgId => ⟨sgId, true⟩

def planControllerServiceGroups (serviceGroups : List ServiceGroupId) : List ServiceGroupId × ℕ :=
  ServiceGroupShardPlanner.plan (launcher.buildPlannerDescriptors serviceGroups)
    launcher.settings.shardMode launcher.settings.targetServiceGroups launcher.settings.workerCap

def requestedServiceGroups : ℕ :=
  if launcher.mode.isWorkerEnabled && launcher.sgId.isSome then 1
  else launcher.settings.targetServiceGroups

def effectiveTargetServiceGroups (inventoryCount : ℕ) : ℕ :=
  if inventoryCount = 0 then 0 else min launcher.requestedServiceGroups inventoryCount

def buildInventoryAndPlan : Except String InventoryPlan :=
  match (if launcher.mode.isControllerEnabled then
      launcher.buildControllerServiceGroups answers isLeader
    else launcher.buildServiceGroups answers) with
  | .error e => .error e
  | .ok (serviceGroups, source) =>
    let planned :=
      if launcher.mode.isControllerEnabled then launcher.planControllerServiceGroups serviceGroups
      else (serviceGroups, 0)
    let effectiveTarget := launcher.effectiveTargetServiceGroups serviceGroups.length
    -- a target of zero stands for all groups that are planned
    let effectiveTarget :=
      if launcher.mode.isControllerEnabled && launcher.settings.targetServiceGroups = 0 then
        planned.1.length
      else effectiveTarget
    .ok ⟨serviceGroups, source, planned.1, planned.2, effectiveTarget⟩

/-- The target that an inventory of `count` groups leads to. -/
def targetOf (count : ℕ) : ℕ :=
  if launcher.mode.isControllerEnabled && launcher.settings.targetServiceGroups = 0 then
    if launcher.settings.serviceGroups ≠ [] then
      (launcher.settings.serviceGroups.filter (·.enabled)).length
    else count
  else min launcher.requestedServiceGroups count

theorem length_planControllerServiceGroups (serviceGroups : List ServiceGroupId) :
    (launcher.planControllerServiceGroups serviceGroups).1.length =
      if launcher.settings.serviceGroups ≠ [] then
        (launcher.settings.serviceGroups.filter (·.enabled)).length
      else serviceGroups.length := by
  rw [planControllerServiceGroups, ServiceGroupShardPlanner.length_plan, buildPlannerDescriptors]
  split
  · rfl
  · simp [List.filter_map, Function.comp_def]

theorem effectiveTargetServiceGroups_eq (inventoryCount : ℕ) :
    launcher.effectiveTargetServiceGroups inventoryCount =
      min launcher.requestedServiceGroups inventoryCount := by
  rw [effectiveTargetServiceGroups]
  split
  · next h0 => rw [h0, Nat.min_zero]
  · rfl

/-- The target depends on the inventory through its size only. -/
theorem effectiveTarget_of_plan {plan : InventoryPlan}
    (h : launcher.buildInventoryAndPlan answers isLeader = .ok plan) :
    plan.effectiveTarget = launcher.targetOf plan.serviceGroups.length := by
  rw [buildInventoryAndPlan] at h
  split at h
  · cases h
  · next serviceGroups source _ =>
    obtain rfl := Except.ok.inj h
    rw [targetOf, ← length_planControllerServiceGroups]
    dsimp only
    split
    · next hall => rw [if_pos (Bool.and_eq_true_iff.mp hall).1]
    · exact launcher.effectiveTargetServiceGroups_eq _

end CmtsOrchestratorLauncher
end PypnmCmts
