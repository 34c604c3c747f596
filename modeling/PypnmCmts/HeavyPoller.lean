import PypnmCmts.CmtsOperation
import PypnmCmts.RegisteredModems
import PypnmCmts.RfChannels

/-! `sgw/pollers/heavy.py`: a heavy refresh of a service group, collected by SNMP. -/
namespace PypnmCmts

/-- Heavy refresh inventory payload prior to snapshot normalization. -/
structure SgwHeavyInventoryModel where
  dsChSetId : ChSetId := 0
  usChSetId : ChSetId := 0
  dsChannelIds : List ℤ := []
  usChannelIds : List ℤ := []
  dsRfChannels : List SgwRfChannelModel := []
  usRfChannels : List SgwRfChannelModel := []
  cableModems : List SgwCableModemModel := []

namespace HeavyPoller

/-- The channels of the first topology row of the group. -/
def extractChannels (topology : List CmtsServiceGroupTopologyModel) (sgId : ServiceGroupId) :
    List ℤ × List ℤ × ChSetId × ChSetId :=
  match topology.find? fun entry => entry.mdCmSgId = sgId with
  | some entry => (entry.dsChannels, entry.usChannels, entry.dsChSetId, entry.usChSetId)
  | none => ([], [], 0, 0)

variable (env : SnmpEnvironment) (adapter : CmtsAdapterConfig)

def fetchTopology : Collecting (List CmtsServiceGroupTopologyModel) :=
  Attempt.relabel (fun exc => s!"Failed to collect service group topology: {exc}")
    (env.runAsyncio .topology (CmtsOperation.fetchServiceGroupTopology env adapter))

def fetchChannelInventory : Collecting ChannelInventory :=
  Attempt.relabel (fun exc => s!"Failed to collect channel inventory: {exc}")
    (env.runAsyncio .channels (ChannelInventory.fetchChannelInventory env adapter))

def normalizeIpValue (rawValue : String) : String :=
  RegisteredModems.normalizeInetValue env rawValue

def resolveModemCommunity : Collecting String := do
  let answer ← Attempt.ask env.modemCommunity
  let community ← Attempt.ofExcept .requestDefaults answer
  pure (PyText.strip (community.getD ""))

/-- A modem that does not answer has the empty description. -/
def fetchModemSysdescr (mac : MacAddressStr) (ipAddress community : String) :
    Collecting SystemDescriptorModel :=
  if PyText.strip ipAddress = "" then pure {}
  else if PyText.strip community = "" then pure {}
  else do
    let sysdescrModel ← Attempt.rescue (do
      let answer ← Attempt.ask fun n => env.getSysDescr n mac ipAddress community
      Attempt.ofExcept .modemSysDescr answer) {}
    pure (if sysdescrModel.isEmpty = true then {} else sysdescrModel)

def fetchCableModem (modemCommunity : String) (cm : RegisteredCableModemModel) :
    Collecting SgwCableModemModel := do
  let normalizedIpv4 := normalizeIpValue env cm.ipv4
  let sysdescr ← fetchModemSysdescr env cm.mac normalizedIpv4 modemCommunity
  pure
    { mac := cm.mac, ipv4 := normalizedIpv4, ipv6 := normalizeIpValue env cm.ipv6
      dsChannelSet := cm.dsChannelSet, usChannelSet := cm.usChannelSet
      registrationStatus := cm.registrationStatus, sysdescr }

def fetchCableModems (sgId : ServiceGroupId) : Collecting (List SgwCableModemModel) := do
  let perSg ← Attempt.relabel (fun exc => s!"Failed to collect cable modem membership: {exc}")
    (env.runAsyncio .modems (RegisteredModems.discoverRegisteredCmsBySg env adapter [sgId]))
  match perSg with
  | [] => pure []
  | inventory :: _ => do
    -- the request defaults are read outside the `try` block of the discovery
    let modemCommunity ← resolveModemCommunity env
    Attempt.forEach (fetchCableModem env modemCommunity) inventory.cms

/-- `SnmpInventoryProvider.fetch_inventory`. -/
def fetchInventory (sgId : ServiceGroupId) : Collecting SgwHeavyInventoryModel :=
  Attempt.relabel (fun exc => s!"Heavy refresh inventory failed: {exc}") do
    let topology ← fetchTopology env adapter
    let (dsChannels, usChannels, dsChSetId, usChSetId) := extractChannels topology sgId
    let tables ← fetchChannelInventory env adapter
    let modems ← fetchCableModems env adapter sgId
    pure
      { dsChSetId, usChSetId, dsChannelIds := dsChannels, usChannelIds := usChannels
        dsRfChannels := buildDsRfChannels dsChannels tables.dsScQam tables.dsOfdm
        usRfChannels := buildUsRfChannels usChannels tables.usScQam tables.usOfdma
        cableModems := modems }

/-- The payload of an inventory. -/
def payloadOf (inventory : SgwHeavyInventoryModel) : SgwSnapshotPayloadModel :=
  let dsChannels := normalizeChannels inventory.dsChannelIds
  let usChannels := normalizeChannels inventory.usChannelIds
  { dsChSetId := inventory.dsChSetId
    usChSetId := inventory.usChSetId
    dsChannels := { count := dsChannels.length, channelIds := dsChannels }
    usChannels := { count := usChannels.length, channelIds := usChannels }
    dsRfChannels := normalizeRfChannels inventory.dsRfChannels dsChannels
    usRfChannels := normalizeRfChannels inventory.usRfChannels usChannels
    cableModems := normalizeModems inventory.cableModems }

/-- Perform a heavy refresh for a single service group. -/
def sgwHeavyPoller (sgId : ServiceGroupId) : Collecting SgwSnapshotPayloadModel := do
  let inventory ← fetchInventory env adapter sgId
  pure (payloadOf inventory)

section Rules
open Attempt SnmpEnvironment
variable {env}

theorem fetchModemSysdescr_raises (mac : MacAddressStr) (ipAddress community : String) :
    RaisesThrough (fetchModemSysdescr env mac ipAddress community) := by
  unfold fetchModemSysdescr
  split
  · exact .pure _
  · split
    · exact .pure _
    · have hsysdescr : Within Swallowed (do
          let answer ← Attempt.ask fun n => env.getSysDescr n mac ipAddress community
          Attempt.ofExcept .modemSysDescr answer : Collecting SystemDescriptorModel) :=
        (Within.ask _).bind fun answer => .ofExcept (by exact Bool.false_ne_true) answer
      exact (FailsAt.rescue hsysdescr _).bind fun sysdescrModel => .pure _

theorem fetchCableModems_raises (sgId : ServiceGroupId) :
    RaisesThrough (fetchCableModems env adapter sgId) := by
  refine ((runAsyncio_raises
    (RegisteredModems.discoverRegisteredCmsBySg_raises _ _)).relabel _).bind fun perSg => ?_
  split
  · exact .pure _
  · have hcommunity : RaisesThrough (resolveModemCommunity env) :=
      (FailsAt.ask _).bind fun answer => (FailsAt.ofExcept (by rfl) answer).bind fun _ => .pure _
    refine hcommunity.bind fun modemCommunity => ?_
    apply FailsAt.forEach
    intro cm
    exact (fetchModemSysdescr_raises _ _ _).bind fun sysdescr => .pure _

theorem fetchInventory_raises (sgId : ServiceGroupId) :
    RaisesThrough (fetchInventory env adapter sgId) := by
  apply FailsAt.relabel
  refine ((runAsyncio_raises
    (CmtsOperation.fetchServiceGroupTopology_raises adapter)).relabel _).bind fun topology => ?_
  refine ((runAsyncio_raises
    (ChannelInventory.fetchChannelInventory_raises adapter)).relabel _).bind fun tables => ?_
  exact (fetchCableModems_raises adapter sgId).bind fun modems => .pure _

/-- A heavy refresh raises exactly if it meets a failure that no `try` block beneath it catches. -/
theorem sgwHeavyPoller_raises (sgId : ServiceGroupId) :
    RaisesThrough (sgwHeavyPoller env adapter sgId) :=
  (fetchInventory_raises adapter sgId).bind fun _ => .pure _

end Rules
end HeavyPoller
end PypnmCmts
