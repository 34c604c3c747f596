import Mathlib.Data.String.Basic
import PypnmCmts.KeyedSort
import PypnmCmts.SnmpTable

/-! The registered modems of a service group: `getAllRegisterCm` of the CMTS operation and
`cmts/inventory_discovery.py` above it. -/
namespace PypnmCmts

structure RegisteredCableModemModel where
  mac : MacAddressStr
  ipv4 : IPv4Str
  ipv6 : IPv6Str
  ipv6LinkLocal : IPv6Str
  dsChannelSet : ChSetId
  usChannelSet : ChSetId
  registrationStatus : CmtsCmRegState
deriving DecidableEq

structure ServiceGroupCableModemInventoryModel where
  sgId : ServiceGroupId
  cmCount : ℕ
  cms : List RegisteredCableModemModel
deriving DecidableEq

namespace RegisteredModems

/-- The columns of docsIf3CmtsCmRegStatus behind its index. -/
def docsIf3CmtsCmRegStatusEntry : List SnmpColumn := [
  ⟨"docsIf3CmtsCmRegStatusMacAddr", .mac⟩,
  ⟨"docsIf3CmtsCmRegStatusIPv6Addr", .text⟩,
  ⟨"docsIf3CmtsCmRegStatusIPv6LinkLocal", .text⟩,
  ⟨"docsIf3CmtsCmRegStatusIPv4Addr", .text⟩,
  ⟨"docsIf3CmtsCmRegStatusValue", .intBase0⟩,
  ⟨"docsIf3CmtsCmRegStatusMdIfIndex", .intBase0⟩,
  ⟨"docsIf3CmtsCmRegStatusMdCmSgId", .intBase0⟩,
  ⟨"docsIf3CmtsCmRegStatusRcpId", .text⟩,
  ⟨"docsIf3CmtsCmRegStatusRccStatusId", .intBase0⟩,
  ⟨"docsIf3CmtsCmRegStatusRcsId", .intBase0⟩,
  ⟨"docsIf3CmtsCmRegStatusTcsId", .intBase0⟩,
  ⟨"docsIf3CmtsCmRegStatusQosVersion", .intBase0⟩,
  ⟨"docsIf3CmtsCmRegStatusLastRegTime", .text⟩,
  ⟨"docsIf3CmtsCmRegStatusAddrResolutionReqs", .intBase0⟩,
  ⟨"docsIf3CmtsCmRegStatusEnergyMgtEnabled", .intBase0⟩,
  ⟨"docsIf3CmtsCmRegStatusEnergyMgtOperStatus", .intBase0⟩]

/-- The rows of a walk that carry the service group. -/
def matchedIndices (target : ℤ) (indices : List ℤ) (values : List String) : List ℤ :=
  ((indices.zip values).filter fun row => PyConvert.parseInt row.2 = some target).map Prod.fst

variable (env : SnmpEnvironment)

/-- The helpers of the client are called within the `try` block of `_fetch_registered_cms`. -/
def helper {α : Type} (result : Except String α) : Collecting α :=
  Attempt.ofExcept (.helper .modems true) result

/-- `DocsIf3CmtsCmRegStatusIdEntry.get_entries`. An entry of index zero is none. -/
def getEntries (indices : List ℤ) : Collecting (List SnmpRow) := do
  let wrappers ← Attempt.forEach (SnmpTable.fromSnmp env .modems docsIf3CmtsCmRegStatusEntry)
    indices
  pure (wrappers.filter fun entry => entry.index ≠ 0)

/-- Fetch all registered CM entries for a given serving group ID. -/
def getAllRegisterCm (servingGroupId : ServiceGroupId) : Collecting (List SnmpRow) := do
  let sgResults ← (env.walk .modems "docsIf3CmtsCmRegStatusMdCmSgId").rescue []
  if sgResults = [] then pure []
  else
    -- neither helper stands in a `try` block of this function
    let indices ← helper (env.extractLastOidIndex sgResults)
    let values ← helper (env.snmpGetResultValue sgResults)
    (getEntries env (matchedIndices servingGroupId indices values)).rescue []

/-- An address in hexadecimal is put into its usual form where that succeeds. -/
def normalizeInetValue (rawValue : String) : String :=
  let value := PyText.strip rawValue
  if "0x".toList.isPrefixOf value.toList then
    (env.hexToInet (String.ofList (value.toList.drop 2))).getD value
  else value

/-- Map a registered CM entry into a discovery model. -/
def mapRegisterCm (entry : SnmpRow) : Option RegisteredCableModemModel :=
  let macValue := (entry.text "docsIf3CmtsCmRegStatusMacAddr").getD ""
  let inetValue (field : String) := normalizeInetValue env ((entry.text field).getD "")
  if PyText.strip macValue = "" then none
  else (env.parseMac macValue).map fun normalizedMac =>
    { mac := normalizedMac
      ipv4 := inetValue "docsIf3CmtsCmRegStatusIPv4Addr"
      ipv6 := inetValue "docsIf3CmtsCmRegStatusIPv6Addr"
      ipv6LinkLocal := inetValue "docsIf3CmtsCmRegStatusIPv6LinkLocal"
      dsChannelSet := (entry.int "docsIf3CmtsCmRegStatusRcsId").getD 0
      usChannelSet := (entry.int "docsIf3CmtsCmRegStatusTcsId").getD 0
      registrationStatus := (entry.int "docsIf3CmtsCmRegStatusValue").getD 1 }

/-- Fetch registered cable modems for a single service group. -/
def fetchRegisteredCms (sgId : ServiceGroupId) : Collecting (List RegisteredCableModemModel) := do
  let entries ← (getAllRegisterCm env sgId).rescue []
  pure (entries.filterMap (mapRegisterCm env))

/-- Build a CmtsOperation instance for SNMP operations. -/
def buildOperation (adapter : CmtsAdapterConfig) : Collecting Unit := do
  let hostnameValue := PyText.strip adapter.hostname
  if hostnameValue = "" then
    Attempt.fail (.hostname .modems) "cmts_hostname must be non-empty."
  else
    let inet ← env.resolveCmtsInet .modems hostnameValue
      (some s!"Failed to resolve CMTS hostname: {hostnameValue}")
    let effectiveWrite := PyText.strip adapter.writeCommunity
    -- here the read community is taken as it is, without stripping it
    env.openOperation .modems inet
      (if effectiveWrite = "" then adapter.community else effectiveWrite) adapter.port

/-- Discover registered cable modems for each service group. -/
def discoverRegisteredCmsBySg (adapter : CmtsAdapterConfig) (sgIds : List ServiceGroupId) :
    Collecting (List ServiceGroupCableModemInventoryModel) := do
  buildOperation env adapter
  Attempt.forEach (fun sgId => do
    let cmEntries ← fetchRegisteredCms env sgId
    let sortedEntries := KeyedSort.sortBy (fun entry => entry.mac.toLower) cmEntries
    pure { sgId, cmCount := sortedEntries.length, cms := sortedEntries })
    (sgIds.insertionSort (· ≤ ·))

section Rules
open Attempt SnmpEnvironment
variable {env}

theorem helper_within {α : Type} (result : Except String α) : Within Swallowed (helper result) :=
  .ofExcept SnmpTable.guarded_swallowed result

theorem getEntries_within (indices : List ℤ) : Within Swallowed (getEntries env indices) :=
  (Within.forEach (SnmpTable.fromSnmp_within _) indices).bind fun _ => .pure _

theorem getAllRegisterCm_within (servingGroupId : ServiceGroupId) :
    Within Swallowed (getAllRegisterCm env servingGroupId) := by
  refine ((send_within _).rescue []).bind fun sgResults => ?_
  split
  · exact .pure _
  · refine (helper_within _).bind fun indices => ?_
    refine (helper_within _).bind fun values => ?_
    exact (getEntries_within _).rescue []

/-- Nothing that goes wrong in fetching the modems of a group reaches the caller. -/
theorem fetchRegisteredCms_raises (sgId : ServiceGroupId) :
    RaisesThrough (fetchRegisteredCms env sgId) :=
  (FailsAt.rescue (getAllRegisterCm_within sgId) []).bind fun _ => .pure _

theorem buildOperation_raises (adapter : CmtsAdapterConfig) :
    RaisesThrough (buildOperation env adapter) := by
  unfold buildOperation
  dsimp only
  split
  · exact .fail (by rfl) _
  · exact (resolveCmtsInet_raises _ _).bind fun inet => openOperation_raises _ _ _

theorem discoverRegisteredCmsBySg_raises (adapter : CmtsAdapterConfig)
    (sgIds : List ServiceGroupId) :
      RaisesThrough (discoverRegisteredCmsBySg env adapter sgIds) := by
  refine (buildOperation_raises adapter).bind fun _ => ?_
  apply FailsAt.forEach
  intro sgId
  exact (fetchRegisteredCms_raises sgId).bind fun cmEntries => .pure _

end Rules
end RegisteredModems
end PypnmCmts
