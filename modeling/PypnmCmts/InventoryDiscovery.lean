import PypnmCmts.ServiceGroupJoin
import PypnmCmts.RegisteredModems

/-! The two ways to the ids of the service groups: `discover_inventory` of
`cmts/inventory_discovery.py`, which feeds the coordination, and the SNMP discovery of
`sgw/discovery.py`, which feeds the cache manager. -/
namespace PypnmCmts

structure InventoryDiscoveryResultModel where
  cmtsHost : String := ""
  discoveredSgIds : List ServiceGroupId := []
  perSg : List ServiceGroupCableModemInventoryModel := []
deriving DecidableEq

namespace InventoryDiscovery
open CmtsOperation

variable (env : SnmpEnvironment) (adapter : CmtsAdapterConfig)

/-- Discover service group inventory from the CMTS. -/
def discoverServiceGroups : Collecting (List CmtsServiceGroupModel) := do
  RegisteredModems.buildOperation env adapter
  Attempt.relabel (fun exc => s!"Failed to discover service groups: {exc}") (listServiceGroups env)

/-- The inventory of the listed rows. Every row brings its id, also one that is there already. -/
def inventoryFrom (serviceGroups : List CmtsServiceGroupModel) :
    Collecting InventoryDiscoveryResultModel := do
  let sgIds := serviceGroups.map CmtsServiceGroupModel.mdCmSgId
  let sortedSgIds := sgIds.insertionSort (· ≤ ·)
  let perSg ← RegisteredModems.discoverRegisteredCmsBySg env adapter sortedSgIds
  pure { cmtsHost := adapter.hostname, discoveredSgIds := sortedSgIds, perSg }

/-- Discover service groups and registered cable modems. What is kept on disk is not modelled: it
does not change the result, and its errors are caught. -/
def discoverInventory : Collecting InventoryDiscoveryResultModel := do
  let serviceGroups ← discoverServiceGroups env adapter
  inventoryFrom env adapter serviceGroups

/-- The ids of the listed rows, each of them once. -/
def orderedSgIds (serviceGroups : List CmtsServiceGroupModel) : List ServiceGroupId :=
  let sgIds := serviceGroups.map CmtsServiceGroupModel.mdCmSgId
  let unique := sgIds.foldl (fun unique sgId => unique.insert sgId sgId) OrderedDict.empty
  (unique.keys.insertionSort (· ≤ ·)).filterMap unique.lookup

/-- `SnmpServiceGroupDiscovery.discover`. -/
def discover : Collecting (List ServiceGroupId) :=
  if PyText.strip adapter.hostname = "" then
    Attempt.fail (.hostname .topology) "adapter.hostname must be set for snmp discovery."
  else if PyText.strip adapter.community = "" then
    Attempt.fail (.hostname .topology) "adapter.community must be set for snmp discovery."
  else do
    let serviceGroups ← Attempt.relabel (fun exc => s!"SNMP discovery failed: {exc}")
      (env.runAsyncio .topology (discoverServiceGroups env adapter))
    pure (orderedSgIds serviceGroups)

/-- The inventory has the set of the rows' ids, with one entry each, and the SNMP discovery has the
same. -/
structure InventoryIsSet (serviceGroups : List CmtsServiceGroupModel)
    (result : InventoryDiscoveryResultModel) (discovered : List ServiceGroupId) : Prop where
  ascending : result.discoveredSgIds.Pairwise (· < ·)
  mem_ids : ∀ sgId, sgId ∈ result.discoveredSgIds ↔
    ∃ group ∈ serviceGroups, group.mdCmSgId = sgId
  perSg : result.perSg.map ServiceGroupCableModemInventoryModel.sgId = result.discoveredSgIds
  agree : discovered = result.discoveredSgIds

section Ids
variable (serviceGroups : List CmtsServiceGroupModel)

theorem mem_sortedSgIds (sgId : ServiceGroupId) :
    sgId ∈ (serviceGroups.map CmtsServiceGroupModel.mdCmSgId).insertionSort (· ≤ ·) ↔
      ∃ group ∈ serviceGroups, group.mdCmSgId = sgId := by
  rw [(List.perm_insertionSort _ _).mem_iff, List.mem_map]

/-- The ids under which the rows are gathered. -/
def uniqueSgIds : OrderedDict ServiceGroupId ServiceGroupId :=
  (serviceGroups.map CmtsServiceGroupModel.mdCmSgId).foldl
    (fun unique sgId => unique.insert sgId sgId) OrderedDict.empty

theorem lookup_uniqueSgIds (sgId : ServiceGroupId) : (uniqueSgIds serviceGroups).lookup sgId =
    if sgId ∈ serviceGroups.map CmtsServiceGroupModel.mdCmSgId then some sgId else none :=
  OrderedDict.lookup_foldl_insert id _ _ sgId

theorem mem_keys_uniqueSgIds (sgId : ServiceGroupId) : sgId ∈ (uniqueSgIds serviceGroups).keys ↔
    sgId ∈ serviceGroups.map CmtsServiceGroupModel.mdCmSgId := by
  rw [← OrderedDict.lookup_isSome_iff, lookup_uniqueSgIds]
  split
  next hmem => exact iff_of_true ⟨sgId, rfl⟩ hmem
  next hmem => exact iff_of_false (fun ⟨_, hnone⟩ => by cases hnone) hmem

theorem orderedSgIds_eq :
    orderedSgIds serviceGroups = (uniqueSgIds serviceGroups).keys.insertionSort (· ≤ ·) := by
  have hself : ∀ sgId ∈ (uniqueSgIds serviceGroups).keys.insertionSort (· ≤ ·),
      (uniqueSgIds serviceGroups).lookup sgId = some sgId := by
    intro sgId hmem
    rw [(List.perm_insertionSort _ _).mem_iff, mem_keys_uniqueSgIds] at hmem
    rw [lookup_uniqueSgIds, if_pos hmem]
  change ((uniqueSgIds serviceGroups).keys.insertionSort (· ≤ ·)).filterMap
    (uniqueSgIds serviceGroups).lookup = _
  rw [List.filterMap_congr hself, List.filterMap_some]

theorem mem_orderedSgIds (sgId : ServiceGroupId) :
    sgId ∈ orderedSgIds serviceGroups ↔ ∃ group ∈ serviceGroups, group.mdCmSgId = sgId := by
  rw [orderedSgIds_eq, (List.perm_insertionSort _ _).mem_iff, mem_keys_uniqueSgIds, List.mem_map]

/-- A list that is sorted and has no repeats is strictly ascending. -/
theorem insertionSort_ascending_iff (sgIds : List ServiceGroupId) :
    (sgIds.insertionSort (· ≤ ·)).Pairwise (· < ·) ↔ sgIds.Nodup := by
  rw [← (List.perm_insertionSort (· ≤ ·) sgIds).nodup_iff]
  constructor
  · exact fun hlt => hlt.imp fun h => ne_of_lt h
  · intro hnodup
    have hle := List.pairwise_insertionSort (· ≤ ·) sgIds
    exact hle.imp₂ (fun _ _ => lt_of_le_of_ne) hnodup

theorem orderedSgIds_ascending : (orderedSgIds serviceGroups).Pairwise (· < ·) := by
  rw [orderedSgIds_eq, insertionSort_ascending_iff]
  exact (uniqueSgIds serviceGroups).nodup_keys

end Ids

section Runs
open Attempt
variable {env adapter}

/-- Each group that is asked for has one entry, in the order of the ids. -/
theorem discoverRegisteredCmsBySg_returns (sgIds : List ServiceGroupId) :
    Returns
      (fun perSg => perSg.map ServiceGroupCableModemInventoryModel.sgId =
        sgIds.insertionSort (· ≤ ·))
      (RegisteredModems.discoverRegisteredCmsBySg env adapter sgIds) := by
  apply Returns.after
  intro _
  refine Returns.mono (Returns.forEach
    (R := fun sgId (entry : ServiceGroupCableModemInventoryModel) => entry.sgId = sgId)
    (fun sgId => ?_) _) ?_
  · exact .after fun cmEntries => .pure rfl
  · intro perSg hentries
    -- the entries and the ids go along with each other, one by one
    generalize sgIds.insertionSort (· ≤ ·) = ordered at hentries ⊢
    induction hentries with
    | nil => rfl
    | cons hentry _ ih => rw [List.map_cons, hentry, ih]

theorem inventoryFrom_returns (serviceGroups : List CmtsServiceGroupModel) :
    Returns (fun result =>
      result.discoveredSgIds =
        (serviceGroups.map CmtsServiceGroupModel.mdCmSgId).insertionSort (· ≤ ·) ∧
      result.perSg.map ServiceGroupCableModemInventoryModel.sgId = result.discoveredSgIds)
      (inventoryFrom env adapter serviceGroups) := by
  refine (discoverRegisteredCmsBySg_returns _).bind fun perSg hperSg => .pure ⟨rfl, ?_⟩
  -- the ids are sorted a second time, which leaves them as they are
  rw [hperSg]
  exact (List.pairwise_insertionSort (· ≤ ·) _).insertionSort_eq

/-- The inventory of some rows is the set of their ids exactly if no id has two rows. -/
theorem discovered_inventory_iff {serviceGroups : List CmtsServiceGroupModel} {t : Trace _}
    {result : InventoryDiscoveryResultModel}
    (hrun : ((inventoryFrom env adapter serviceGroups).run t).1 = .ok result) :
    InventoryIsSet serviceGroups result (orderedSgIds serviceGroups) ↔
      (serviceGroups.map CmtsServiceGroupModel.mdCmSgId).Nodup := by
  obtain ⟨hids, hperSg⟩ := inventoryFrom_returns serviceGroups t result hrun
  rw [← insertionSort_ascending_iff, ← hids]
  constructor
  · exact fun h => h.ascending
  · intro hascending
    have hmem : ∀ sgId, sgId ∈ result.discoveredSgIds ↔
        ∃ group ∈ serviceGroups, group.mdCmSgId = sgId := by
      intro sgId
      rw [hids]
      exact mem_sortedSgIds serviceGroups sgId
    refine ⟨hascending, hmem, hperSg, ?_⟩
    -- two ascending lists with the same members are one list
    apply (orderedSgIds_ascending serviceGroups).eq_of_mem_iff hascending
    intro sgId
    rw [mem_orderedSgIds, hmem]

/-- A CMTS that lists the given rows of the downstream column and has no modems. -/
def discoveryEnvironment (dsRows : List VarBind) : SnmpEnvironment :=
  { statusEnvironment [] with
    parseInet := some
    answer := fun _ request => if request = .walk dsSgIdColumn then .ok dsRows else .ok [] }

def discoveryAdapter : CmtsAdapterConfig := { hostname := "192.168.0.100", community := "public" }

/-- One service group under each of two interfaces. -/
def distinctRows : List VarBind :=
  [⟨encodeIndex statusColumn 7 "N" 3, "11"⟩, ⟨encodeIndex statusColumn 8 "N" 2, "12"⟩]

theorem discovered_inventory_distinct :
    let serviceGroups := [groupOf (7, "N", 3) 11 0, groupOf (8, "N", 2) 12 0]
    InventoryIsSet serviceGroups
      { cmtsHost := "192.168.0.100", discoveredSgIds := [2, 3]
        perSg := [⟨2, 0, []⟩, ⟨3, 0, []⟩] } (orderedSgIds serviceGroups) := by
  intro serviceGroups
  have hrun : ((inventoryFrom (discoveryEnvironment distinctRows) discoveryAdapter
      serviceGroups).run {}).1 = .ok
        { cmtsHost := "192.168.0.100", discoveredSgIds := [2, 3]
          perSg := [⟨2, 0, []⟩, ⟨3, 0, []⟩] } := by decide +kernel
  exact (discovered_inventory_iff hrun).mpr (by decide)

/-- The same service group under both interfaces. -/
def repeatedRows : List VarBind :=
  [⟨encodeIndex statusColumn 7 "N" 3, "11"⟩, ⟨encodeIndex statusColumn 8 "N" 3, "12"⟩]

/-- The inventory has it twice, the SNMP discovery once. -/
theorem discovered_inventory_repeated :
    let env := discoveryEnvironment repeatedRows
    let serviceGroups := [groupOf (7, "N", 3) 11 0, groupOf (8, "N", 3) 12 0]
    let result : InventoryDiscoveryResultModel :=
      { cmtsHost := "192.168.0.100", discoveredSgIds := [3, 3]
        perSg := [⟨3, 0, []⟩, ⟨3, 0, []⟩] }
    ((listServiceGroups env).run {}).1 = .ok serviceGroups ∧
      ((discoverInventory env discoveryAdapter).run {}).1 = .ok result ∧
      ((discover env discoveryAdapter).run {}).1 = .ok [3] ∧
      ¬ InventoryIsSet serviceGroups result [3] := by
  intro env serviceGroups result
  refine ⟨by decide +kernel, by decide +kernel, by decide +kernel, ?_⟩
  intro h
  have hdistinct := h.agree
  revert hdistinct
  decide

end Runs
end InventoryDiscovery
end PypnmCmts
