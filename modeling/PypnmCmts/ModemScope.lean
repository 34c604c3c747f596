import PypnmCmts.CaptureRequest
import PypnmCmts.RunnerAccounting
import PypnmCmts.SgwCacheStore

/-! `api/common/service/pnm/scope.py`: the service groups and modems of a capture, and the work
items that the runner makes of them. -/
namespace PypnmCmts

open OperationRunner

/-- What a request selects of the cached rows. An empty list selects everything. -/
def CmtsRequestEnvelopeModel.Selects (request : CmtsRequestEnvelopeModel) (store : SgwCacheStore)
    (sgId : ServiceGroupId) (mac : MacAddressStr) : Prop :=
  (request.servingGroup.id = [] ∨ sgId ∈ request.servingGroup.id) ∧
  (request.cableModem.macAddress = [] ∨ mac ∈ request.cableModem.macAddress) ∧
  mac ∈ store.cachedMacs sgId

/-- Each requested address is cached in one of the requested groups only, and that is the group
at the address's own index, modulo the number of groups. -/
def CmtsRequestEnvelopeModel.RoundRobin (request : CmtsRequestEnvelopeModel)
    (store : SgwCacheStore) : Prop :=
  ∀ index mac, request.cableModem.macAddress[index]? = some mac →
    ∀ sgId ∈ request.servingGroup.id, (mac ∈ store.cachedMacs sgId ↔
      request.servingGroup.id[index%request.servingGroup.id.length]? = some sgId)

structure PnmOperationScopeResolver where
  sgwStore : Option SgwCacheStore := none
  /-- The answer of the loader of the runtime's store, where there is a loader. -/
  runtimeStoreLoader : Option (Option SgwCacheStore) := none

namespace PnmOperationScopeResolver

/-- Keeps a store that it has loaded. -/
def resolveStore (resolver : PnmOperationScopeResolver) :
    Option SgwCacheStore × PnmOperationScopeResolver :=
  match resolver.sgwStore, resolver.runtimeStoreLoader with
  | some store, _ => (some store, resolver)
  | none, some (some store) => (some store, { resolver with sgwStore := some store })
  | none, some none => (none, resolver)
  | none, none => (none, resolver)

def loadCacheEntries (resolver : PnmOperationScopeResolver) (sgIds : List ServiceGroupId) :
    List (ServiceGroupId × List SgwCableModemModel) :=
  match resolver.sgwStore with
  | none => []
  | some store => sgIds.filterMap fun sgId =>
    (store.getEntry sgId).map fun entry => (sgId, entry.snapshot.cableModems)

/-- The groups in which each address has a row, in the order of the entries. -/
def macToSgIds (cacheEntries : List (ServiceGroupId × List SgwCableModemModel)) :
    OrderedDict MacAddressStr (List ServiceGroupId) :=
  cacheEntries.foldl (fun d entry => entry.2.foldl (fun d modem => d.push modem.mac entry.1) d)
    .empty

def expandMacsWithWildcardSg (requestedMacAddresses : List MacAddressStr)
    (cacheEntries : List (ServiceGroupId × List SgwCableModemModel)) :
    List ServiceGroupId × List MacAddressStr :=
  List.unzip <| requestedMacAddresses.flatMap fun mac =>
    match (macToSgIds cacheEntries).lookup mac with
    | none => []
    | some sgIds => sgIds.map fun sgId => (sgId, mac)

def expandModemsForSgs (cacheEntries : List (ServiceGroupId × List SgwCableModemModel)) :
    List ServiceGroupId × List MacAddressStr :=
  List.unzip <| cacheEntries.flatMap fun entry => entry.2.map fun modem => (entry.1, modem.mac)

/-- Expand wildcard SG and MAC selections using SGW inventory. -/
def resolveModemScope (resolver : PnmOperationScopeResolver)
    (requestedSgIds : List ServiceGroupId) (requestedMacAddresses : List MacAddressStr) :
    (List ServiceGroupId × List MacAddressStr) × PnmOperationScopeResolver :=
  if requestedSgIds ≠ [] ∧ requestedMacAddresses ≠ [] then
    ((requestedSgIds, requestedMacAddresses), resolver)
  else
    match resolver.resolveStore with
    | (none, resolver) => ((requestedSgIds, requestedMacAddresses), resolver)
    | (some store, resolver) =>
      let sgIds := if requestedSgIds ≠ [] then requestedSgIds else store.getIds
      if sgIds = [] then (([], []), resolver)
      else
        let cacheEntries := resolver.loadCacheEntries sgIds
        if requestedMacAddresses ≠ [] then
          (expandMacsWithWildcardSg requestedMacAddresses cacheEntries, resolver)
        else (expandModemsForSgs cacheEntries, resolver)

/-- The summary of the request with which an operation is created. -/
def buildRequestSummary (resolver : PnmOperationScopeResolver) (cmts : CmtsRequestEnvelopeModel)
    (channelIds : List ChannelId) (execution : OperationExecutionModel) :
    OperationRequestSummaryModel :=
  let scope := (resolver.resolveModemScope cmts.servingGroup.id cmts.cableModem.macAddress).1
  { servingGroupIds := scope.1, macAddresses := scope.2, channelIds, execution }

end PnmOperationScopeResolver

/-- The work items of an operation. An empty scope has none. -/
def builtWorkItems (operationId : PnmCaptureOperationId) (summary : OperationRequestSummaryModel) :
    List OperationWorkItemModel :=
  if summary.macAddresses = [] ∨ summary.servingGroupIds = [] then []
  else workItems operationId summary

/-- The pair that a work item is for. -/
def OperationWorkItemModel.target (item : OperationWorkItemModel) :
    ServiceGroupId × MacAddressStr :=
  (item.sgId, item.macAddress)

/-- The work items are the selected pairs, each once. -/
def ExactlyPairs (items : List OperationWorkItemModel)
    (selects : ServiceGroupId → MacAddressStr → Prop) : Prop :=
  (items.map (·.target)).Nodup ∧ ∀ sgId mac, (sgId, mac) ∈ items.map (·.target) ↔ selects sgId mac

/-- The rows of the cache entries, in order. -/
def cachedRows (cacheEntries : List (ServiceGroupId × List SgwCableModemModel)) :
    List (ServiceGroupId × MacAddressStr) :=
  cacheEntries.flatMap fun entry => entry.2.map fun modem => (entry.1, modem.mac)

section Rows
variable {store : SgwCacheStore} {resolver : PnmOperationScopeResolver}
  {sgIds : List ServiceGroupId} {macs : List MacAddressStr}
  {sgId : ServiceGroupId} {mac : MacAddressStr}

theorem sgwStore_resolveStore (hstore : resolver.resolveStore.1 = some store) :
    resolver.resolveStore.2.sgwStore = some store := by
  unfold PnmOperationScopeResolver.resolveStore at hstore ⊢
  split at hstore
  next held => rw [held]; exact hstore
  next => exact hstore
  next => cases hstore
  next => cases hstore

theorem cachedRows_loadCacheEntries (hstore : resolver.sgwStore = some store) :
    cachedRows (resolver.loadCacheEntries sgIds) =
      sgIds.flatMap fun sgId => (store.cachedMacs sgId).map fun mac => (sgId, mac) := by
  simp only [PnmOperationScopeResolver.loadCacheEntries, hstore, cachedRows]
  induction sgIds with
  | nil => rfl
  | cons sgId sgIds ih =>
    rw [List.flatMap_cons, ← ih, List.filterMap_cons, SgwCacheStore.cachedMacs]
    cases store.getEntry sgId with
    | none => rfl
    | some entry => simp

theorem mem_cachedRows (hstore : resolver.sgwStore = some store) :
    (sgId, mac) ∈ cachedRows (resolver.loadCacheEntries sgIds) ↔
      sgId ∈ sgIds ∧ mac ∈ store.cachedMacs sgId := by
  rw [cachedRows_loadCacheEntries hstore, List.mem_flatMap]
  constructor
  · rintro ⟨group, hgroup, hrow⟩
    obtain ⟨row, hcached, heq⟩ := List.mem_map.mp hrow
    obtain ⟨rfl, rfl⟩ := Prod.mk.inj heq
    exact ⟨hgroup, hcached⟩
  · rintro ⟨hgroup, hrow⟩
    exact ⟨sgId, hgroup, List.mem_map_of_mem hrow⟩

/-- Distinct groups have distinct rows. -/
theorem nodup_cachedRows (hstore : resolver.sgwStore = some store) (hrows : store.OneRowPerMac)
    (hsgs : sgIds.Nodup) : (cachedRows (resolver.loadCacheEntries sgIds)).Nodup := by
  rw [cachedRows_loadCacheEntries hstore, List.nodup_flatMap]
  constructor
  · intro group _
    exact (hrows.nodup_cachedMacs group).map fun a b hab => (Prod.mk.inj hab).2
  · refine hsgs.imp fun {group other} hne => ?_
    intro row hrow hother
    obtain ⟨_, -, rfl⟩ := List.mem_map.mp hrow
    obtain ⟨_, -, heq⟩ := List.mem_map.mp hother
    exact hne (Prod.mk.inj heq).1.symm

theorem lookup_macToSgIds (cacheEntries : List (ServiceGroupId × List SgwCableModemModel))
    (mac : MacAddressStr) :
    ((PnmOperationScopeResolver.macToSgIds cacheEntries).lookup mac).getD [] =
      ((cachedRows cacheEntries).filter fun row => row.2 = mac).map Prod.fst := by
  have hfold : PnmOperationScopeResolver.macToSgIds cacheEntries =
      ((cachedRows cacheEntries).map Prod.swap).foldl (fun d p => d.push p.1 p.2) .empty := by
    rw [PnmOperationScopeResolver.macToSgIds, cachedRows, List.foldl_map, List.foldl_flatMap]
    simp only [List.foldl_map, Prod.fst_swap, Prod.snd_swap]
  rw [hfold, OrderedDict.lookup_foldl_push, List.filter_map, List.map_map]
  rfl

/-- The rows of the requested addresses, address by address. -/
theorem expandMacsWithWildcardSg_eq
    (cacheEntries : List (ServiceGroupId × List SgwCableModemModel)) :
    PnmOperationScopeResolver.expandMacsWithWildcardSg macs cacheEntries =
      (macs.flatMap fun mac => (cachedRows cacheEntries).filter fun row => row.2 = mac).unzip := by
  rw [PnmOperationScopeResolver.expandMacsWithWildcardSg]
  refine congrArg List.unzip (List.flatMap_congr fun mac _ => ?_)
  let rows := (cachedRows cacheEntries).filter fun row => row.2 = mac
  have hlookup := lookup_macToSgIds cacheEntries mac
  have hback : (rows.map Prod.fst).map (fun sgId => (sgId, mac)) = rows := by
    rw [List.map_map]
    calc rows.map ((fun sgId => (sgId, mac)) ∘ Prod.fst)
        = rows.map fun row => row := by
          refine List.map_congr_left fun row hrow => ?_
          have hmac : row.2 = mac := of_decide_eq_true (List.mem_filter.mp hrow).2
          exact Prod.ext rfl hmac.symm
      _ = rows := List.map_id' rows
  cases hentry : (PnmOperationScopeResolver.macToSgIds cacheEntries).lookup mac with
  | none =>
    rw [hentry, Option.getD_none] at hlookup
    exact (List.map_eq_nil_iff.mp hlookup.symm).symm
  | some sgIds =>
    rw [hentry, Option.getD_some] at hlookup
    rw [hlookup]
    exact hback

/-- Requesting addresses keeps their rows. -/
theorem mem_requestedRows {rows : List (ServiceGroupId × MacAddressStr)} :
    (sgId, mac) ∈ macs.flatMap (fun mac => rows.filter fun row => row.2 = mac) ↔
      mac ∈ macs ∧ (sgId, mac) ∈ rows := by
  simp only [List.mem_flatMap, List.mem_filter, decide_eq_true_eq]
  constructor
  · rintro ⟨_, hmac, hrow, rfl⟩
    exact ⟨hmac, hrow⟩
  · rintro ⟨hmac, hrow⟩
    exact ⟨mac, hmac, hrow, rfl⟩

theorem nodup_requestedRows {rows : List (ServiceGroupId × MacAddressStr)} (hrows : rows.Nodup)
    (hmacs : macs.Nodup) :
    (macs.flatMap fun mac => rows.filter fun row => row.2 = mac).Nodup := by
  rw [List.nodup_flatMap]
  constructor
  · exact fun mac _ => hrows.filter _
  · refine hmacs.imp fun {a b} hne row ha hb => ?_
    have hrowa := of_decide_eq_true (List.mem_filter.mp ha).2
    have hrowb := of_decide_eq_true (List.mem_filter.mp hb).2
    exact hne (hrowa.symm.trans hrowb)

end Rows

namespace PnmOperationScopeResolver
variable {store : SgwCacheStore} {resolver : PnmOperationScopeResolver}
  {request : CmtsRequestEnvelopeModel}

/-- With a wildcard, the scope comes from the cache. -/
theorem resolveModemScope_of_store {ids : List ServiceGroupId} {macs : List MacAddressStr}
    (hstore : resolver.resolveStore.1 = some store) (hwild : ids = [] ∨ macs = []) :
    (resolver.resolveModemScope ids macs).1 =
      let cacheEntries := resolver.resolveStore.2.loadCacheEntries (store.selectedSgIds ids)
      if macs ≠ [] then expandMacsWithWildcardSg macs cacheEntries
      else expandModemsForSgs cacheEntries := by
  have hnot : ¬ (ids ≠ [] ∧ macs ≠ []) := fun h => hwild.elim h.1 h.2
  rw [resolveModemScope, if_neg hnot]
  have hheld := sgwStore_resolveStore hstore
  generalize resolver.resolveStore = resolved at hstore hheld ⊢
  obtain ⟨answer, resolver'⟩ := resolved
  obtain rfl : answer = some store := hstore
  dsimp only
  rw [SgwCacheStore.selectedSgIds]
  generalize (if ids ≠ [] then ids else store.getIds) = sgIds
  by_cases hempty : sgIds = []
  · -- no group, hence no entry: both expansions of nothing are the empty scope
    have hentries : resolver'.loadCacheEntries [] = [] := by
      rw [loadCacheEntries, hheld]
      rfl
    have hnone : macs.flatMap (fun mac => (cachedRows []).filter fun row => row.2 = mac) = [] :=
      List.flatMap_eq_nil_iff.mpr fun _ _ => rfl
    rw [if_pos hempty, hempty, hentries, expandMacsWithWildcardSg_eq, hnone]
    split <;> rfl
  · rw [if_neg hempty]
    split <;> rfl

/-- With a wildcard, the scope is the two halves of the list of the selected pairs. -/
theorem resolveModemScope_wildcard (hstore : resolver.resolveStore.1 = some store)
    (hrows : store.OneRowPerMac)
    (hwild : request.servingGroup.id = [] ∨ request.cableModem.macAddress = []) :
    ∃ pairs : List (ServiceGroupId × MacAddressStr),
      (resolver.resolveModemScope request.servingGroup.id request.cableModem.macAddress).1 =
        pairs.unzip ∧
      pairs.Nodup ∧ ∀ sgId mac, (sgId, mac) ∈ pairs ↔ request.Selects store sgId mac := by
  obtain ⟨⟨ids, hids⟩, ⟨macs, hmacs⟩⟩ := request
  have hheld := sgwStore_resolveStore hstore
  have hscope := resolveModemScope_of_store hstore hwild
  let entries := resolver.resolveStore.2.loadCacheEntries (store.selectedSgIds ids)
  have hnodup : (cachedRows entries).Nodup :=
    nodup_cachedRows hheld hrows (store.nodup_selectedSgIds hids)
  have hmem (sgId : ServiceGroupId) (mac : MacAddressStr) :
      (sgId, mac) ∈ cachedRows entries ↔
        (ids = [] ∨ sgId ∈ ids) ∧ mac ∈ store.cachedMacs sgId :=
    (mem_cachedRows hheld).trans SgwCacheStore.mem_selectedSgIds_and
  by_cases hempty : macs = []
  · refine ⟨cachedRows entries, ?_, hnodup, fun sgId mac => ?_⟩
    · rw [hscope]
      exact if_neg (not_not.mpr hempty)
    · rw [hmem, CmtsRequestEnvelopeModel.Selects]
      simp only [hempty, true_or, true_and]
  · refine ⟨_, ?_, nodup_requestedRows hnodup hmacs, fun sgId mac => ?_⟩
    · rw [hscope]
      exact (if_pos hempty).trans (expandMacsWithWildcardSg_eq entries)
    · rw [mem_requestedRows, hmem, CmtsRequestEnvelopeModel.Selects, and_left_comm]
      simp only [hempty, false_or]

end PnmOperationScopeResolver

section Targets
variable {operationId : PnmCaptureOperationId} {sgIds : List ServiceGroupId}
  {macs : List MacAddressStr}

/-- The item at an index pairs the address there with the group at the index, modulo the number
of groups. -/
theorem getElem?_targets (hsgs : sgIds ≠ []) (index : ℕ) :
    ((buildWorkItems operationId macs sgIds).map (·.target))[index]? =
      macs[index]?.bind fun mac => (sgIds[index%sgIds.length]?).map fun sgId => (sgId, mac) := by
  have hlt : index%sgIds.length < sgIds.length :=
    Nat.mod_lt _ (List.length_pos_iff.mpr hsgs)
  rw [List.getElem?_map, buildWorkItems, List.getElem?_mapIdx, List.getElem?_eq_getElem hlt]
  simp only [List.getD_eq_getElem?_getD, List.getElem?_eq_getElem hlt, Option.getD_some]
  cases macs[index]? with
  | none => rfl
  | some mac => rfl

/-- Distinct addresses have distinct work items. -/
theorem nodup_targets (hmacs : macs.Nodup) :
    ((buildWorkItems operationId macs sgIds).map (·.target)).Nodup := by
  have hsnd : ((buildWorkItems operationId macs sgIds).map (·.target)).map Prod.snd = macs := by
    apply List.ext_getElem?
    intro index
    rw [List.getElem?_map, List.getElem?_map, buildWorkItems, List.getElem?_mapIdx, Option.map_map,
      Option.map_map]
    exact Option.map_id'
  apply List.Nodup.of_map Prod.snd
  rw [hsnd]
  exact hmacs

/-- The two halves of a list of pairs are paired up again. -/
theorem targets_unzip (pairs : List (ServiceGroupId × MacAddressStr)) (channelIds : List ChannelId)
    (execution : OperationExecutionModel) :
    (builtWorkItems operationId ⟨pairs.unzip.1, pairs.unzip.2, channelIds, execution⟩).map
      (·.target) = pairs := by
  rw [List.unzip_eq_map]
  by_cases hempty : pairs = []
  · subst hempty
    rfl
  have hfst : pairs.map Prod.fst ≠ [] := by
    rw [ne_eq, List.map_eq_nil_iff]
    exact hempty
  have hsnd : pairs.map Prod.snd ≠ [] := by
    rw [ne_eq, List.map_eq_nil_iff]
    exact hempty
  have hnot : ¬ (pairs.map Prod.snd = [] ∨ pairs.map Prod.fst = []) := not_or.mpr ⟨hsnd, hfst⟩
  rw [builtWorkItems, if_neg hnot]
  apply List.ext_getElem?
  intro index
  rw [workItems, getElem?_targets hfst, List.getElem?_map, List.length_map]
  cases hpair : pairs[index]? with
  | none => rfl
  | some pair =>
    have hlt : index < pairs.length := (List.getElem?_eq_some_iff.mp hpair).1
    rw [Nat.mod_eq_of_lt hlt, List.getElem?_map, hpair]
    rfl

/-- Exactly the selected pairs, for two lists that are both explicit: every address has its one
row at its own index. -/
theorem exactlyPairs_explicit_iff {store : SgwCacheStore} {request : CmtsRequestEnvelopeModel}
    (hids : request.servingGroup.id ≠ []) (hmacs : request.cableModem.macAddress ≠ []) :
    ExactlyPairs (buildWorkItems operationId request.cableModem.macAddress request.servingGroup.id)
      (request.Selects store) ↔ request.RoundRobin store := by
  obtain ⟨⟨ids, hids'⟩, ⟨macs, hnodup⟩⟩ := request
  have hmem (sgId : ServiceGroupId) (mac : MacAddressStr) :
      (sgId, mac) ∈ (buildWorkItems operationId macs ids).map (·.target) ↔
        ∃ index, macs[index]? = some mac ∧ ids[index%ids.length]? = some sgId := by
    rw [List.mem_iff_getElem?]
    apply exists_congr
    intro index
    rw [getElem?_targets hids, Option.bind_eq_some_iff]
    simp only [Option.map_eq_some_iff, Prod.mk.injEq]
    constructor
    · rintro ⟨_, hmac, _, hsg, rfl, rfl⟩
      exact ⟨hmac, hsg⟩
    · rintro ⟨hmac, hsg⟩
      exact ⟨mac, hmac, sgId, hsg, rfl, rfl⟩
  have hselects (sgId : ServiceGroupId) (mac : MacAddressStr) :
      CmtsRequestEnvelopeModel.Selects ⟨⟨ids, hids'⟩, ⟨macs, hnodup⟩⟩ store sgId mac ↔
        sgId ∈ ids ∧ mac ∈ macs ∧ mac ∈ store.cachedMacs sgId := by
    rw [CmtsRequestEnvelopeModel.Selects, or_iff_right hids, or_iff_right hmacs]
  constructor
  · rintro ⟨-, hpairs⟩ index mac hmac sgId hsg
    have hrequested : mac ∈ macs := List.mem_of_getElem? hmac
    constructor
    · intro hcached
      have hitem := (hpairs sgId mac).mpr ((hselects sgId mac).mpr ⟨hsg, hrequested, hcached⟩)
      obtain ⟨index', hmac', hsg'⟩ := (hmem sgId mac).mp hitem
      -- the address stands at one index only
      have hindex : index' = index := by
        have hlt := (List.getElem?_eq_some_iff.mp hmac').1
        exact (List.getElem?_inj hlt hnodup).mp (hmac'.trans hmac.symm)
      exact hindex ▸ hsg'
    · intro hat
      have hitem := (hmem sgId mac).mpr ⟨index, hmac, hat⟩
      exact ((hselects sgId mac).mp ((hpairs sgId mac).mp hitem)).2.2
  · intro hrobin
    refine ⟨nodup_targets hnodup, fun sgId mac => ?_⟩
    rw [hselects]
    refine (hmem sgId mac).trans ?_
    constructor
    · rintro ⟨index, hmac, hat⟩
      have hsg : sgId ∈ ids := List.mem_of_getElem? hat
      exact ⟨hsg, List.mem_of_getElem? hmac, (hrobin index mac hmac sgId hsg).mpr hat⟩
    · rintro ⟨hsg, hmac, hcached⟩
      obtain ⟨index, hindex⟩ := List.mem_iff_getElem?.mp hmac
      exact ⟨index, hindex, (hrobin index mac hindex sgId hsg).mp hcached⟩

end Targets

/-- The work items of a capture request are the selected pairs of a service group and a modem
cached in it, each once, if and only if one of the two lists is a wildcard or the two explicit
lists match round robin. -/
theorem work_items_pair_iff (resolver : PnmOperationScopeResolver) (store : SgwCacheStore)
    (hstore : resolver.resolveStore.1 = some store) (hrows : store.OneRowPerMac)
    (request : CmtsRequestEnvelopeModel) (operationId : PnmCaptureOperationId)
    (channelIds : List ChannelId) (execution : OperationExecutionModel) :
    ExactlyPairs (builtWorkItems operationId
        (resolver.buildRequestSummary request channelIds execution)) (request.Selects store) ↔
      request.servingGroup.id = [] ∨ request.cableModem.macAddress = [] ∨
        request.RoundRobin store := by
  rw [← or_assoc]
  by_cases hwild : request.servingGroup.id = [] ∨ request.cableModem.macAddress = []
  · obtain ⟨pairs, hscope, hnodup, hmem⟩ :=
      PnmOperationScopeResolver.resolveModemScope_wildcard hstore hrows hwild
    refine iff_of_true ?_ (Or.inl hwild)
    rw [PnmOperationScopeResolver.buildRequestSummary, hscope, ExactlyPairs, targets_unzip]
    exact ⟨hnodup, hmem⟩
  · obtain ⟨hids, hmacs⟩ := not_or.mp hwild
    have hbuilt : builtWorkItems operationId
        (resolver.buildRequestSummary request channelIds execution) =
        buildWorkItems operationId request.cableModem.macAddress request.servingGroup.id := by
      rw [PnmOperationScopeResolver.buildRequestSummary,
        PnmOperationScopeResolver.resolveModemScope, if_pos ⟨hids, hmacs⟩]
      exact if_neg (not_or.mpr ⟨hmacs, hids⟩)
    rw [hbuilt, or_iff_right hwild]
    exact exactlyPairs_explicit_iff hids hmacs

/-- Two cached service groups with a modem each. -/
def twoGroupStore : SgwCacheStore :=
  (SgwCacheStore.empty.upsertEntry
      ⟨1, { sgId := 1, cableModems := [{ mac := "aa:bb:cc:dd:ee:01" }] }⟩).upsertEntry
    ⟨2, { sgId := 2, cableModems := [{ mac := "aa:bb:cc:dd:ee:02" }] }⟩

/-- Both groups, and the modem that is cached in the second of them. -/
def secondGroupModem : CmtsRequestEnvelopeModel where
  servingGroup := ⟨[1, 2], by decide⟩
  cableModem := ⟨["aa:bb:cc:dd:ee:02"], by decide⟩

/-- The modem is paired with the first group, in which it is not cached. -/
theorem explicit_lists_mispaired :
    let resolver : PnmOperationScopeResolver := { sgwStore := some twoGroupStore }
    twoGroupStore.OneRowPerMac ∧ ¬ ExactlyPairs (builtWorkItems "op"
      (resolver.buildRequestSummary secondGroupModem [] {}))
      (secondGroupModem.Selects twoGroupStore) := by
  refine ⟨by decide, ?_⟩
  rintro ⟨-, hpairs⟩
  have hselected := (hpairs 1 "aa:bb:cc:dd:ee:02").mp (by decide)
  exact absurd hselected.2.2 (by decide)

/-- A store that is loaded from the runtime, and lists that match round robin. -/
theorem work_items_pair_two_groups :
    let resolver : PnmOperationScopeResolver := { runtimeStoreLoader := some (some twoGroupStore) }
    let request : CmtsRequestEnvelopeModel :=
      ⟨⟨[2, 1], by decide⟩, ⟨["aa:bb:cc:dd:ee:02", "aa:bb:cc:dd:ee:01"], by decide⟩⟩
    ExactlyPairs (builtWorkItems "op" (resolver.buildRequestSummary request [] {}))
      (request.Selects twoGroupStore) := by
  intro resolver request
  apply (work_items_pair_iff resolver twoGroupStore rfl (by decide) request "op" [] {}).mpr
  right
  right
  intro index mac hmac sgId hsg
  have hsgId : sgId = 2 ∨ sgId = 1 := by simpa [request] using hsg
  rcases index with _ | _ | index
  · obtain rfl : "aa:bb:cc:dd:ee:02" = mac := Option.some.inj hmac
    rcases hsgId with rfl | rfl <;> decide
  · obtain rfl : "aa:bb:cc:dd:ee:01" = mac := Option.some.inj hmac
    rcases hsgId with rfl | rfl <;> decide
  · cases hmac

end PypnmCmts
