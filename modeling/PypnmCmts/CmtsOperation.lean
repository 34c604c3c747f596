import Mathlib.Data.Prod.Lex
import Mathlib.Data.String.Basic
import PypnmCmts.KeyedSort
import PypnmCmts.OrderedDict
import PypnmCmts.PyConvert
import PypnmCmts.SnmpClient

/-! The service group topology of `docsis/cmts_operation.py`: the tables it walks, the join that
lists the service groups and the channel sets and channels that belong to them. -/
namespace PypnmCmts

abbrev MdNodeStatus := InterfaceIndex × NodeName × MdCmSgId

/-- An interface with a service group or a channel set of it. -/
abbrev ServiceGroupChSetKey := ℤ × ℤ

structure CmtsServiceGroupModel where
  ifIndex : InterfaceIndex := 0
  nodeName : NodeName := ""
  mdCmSgId : MdCmSgId := 0
  mdDsSgId : ℤ := 0
  mdUsSgId : ℤ := 0
deriving DecidableEq

/-- Service-group topology view. -/
structure CmtsServiceGroupTopologyModel where
  ifIndex : InterfaceIndex
  nodeName : NodeName
  mdCmSgId : MdCmSgId
  mdDsSgId : ℤ
  mdUsSgId : ℤ
  dsExists : Bool
  usExists : Bool
  dsChSetId : ChSetId
  usChSetId : ChSetId
  dsChannels : List ℤ
  usChannels : List ℤ
deriving DecidableEq

namespace CmtsOperation

/-- The index of a row of docsIf3MdNodeStatus behind the column: interface, length of the node
name, node name, service group. A name that is not made of octets is an error. -/
def parseNodeStatusSuffix : List ℕ → Except String (Option MdNodeStatus)
  | interfaceIndex :: nameLen :: rest =>
    -- numbers behind the service group are not looked at
    if rest.length < 2 ∨ rest.length ≤ nameLen then .ok none
    else if (rest.take nameLen).any fun octet => 255 < octet then
      .error "bytes must be in range(0, 256)"
    else .ok (rest[nameLen]?.map fun mdCmSgId =>
      ((interfaceIndex : ℤ), PyConvert.decodeUtf8 (rest.take nameLen), mdCmSgId))
  | _ => .ok none

/-- A channel list: the octets of a hexadecimal text, else the numbers in it. -/
def parseChannelList (rawValue : String) : List ℤ :=
  let text := rawValue.toList
  let numbers := (PyConvert.findNumbers text none).map Int.ofNat
  if "0x".toList.isPrefixOf text then
    let hexStr := text.drop 2
    if hexStr.length%2 = 0 then
      match PyConvert.fromHex hexStr with
      | some rawBytes => rawBytes.map Int.ofNat
      | none => numbers
    else numbers
  else numbers

/-- The first two numbers of an index below a column, and what they index. -/
def indexedRow {α : Type} (base : List ℕ) (parse : String → Option α) (row : VarBind) :
    Option (ServiceGroupChSetKey × α) :=
  if base.isPrefixOf row.oid then
    match row.oid.drop base.length with
    | first :: second :: _ => (parse row.value).map fun value =>
      (((first : ℤ), (second : ℤ)), value)
    | _ => none
  else none

/-- The join of the downstream and the upstream rows, sorted by key. -/
def mergeServiceGroups (dsRows usRows : List (MdNodeStatus × ℤ)) : List CmtsServiceGroupModel :=
  let merged := dsRows.foldl (fun merged row => merged.insert row.1
    { ifIndex := row.1.1, nodeName := row.1.2.1, mdCmSgId := row.1.2.2,
      mdDsSgId := row.2, mdUsSgId := 0 }) OrderedDict.empty
  -- a key that the downstream rows have already brought keeps its place
  let merged := usRows.foldl (fun merged row =>
    match merged.lookup row.1 with
    | none => merged.insert row.1
      { ifIndex := row.1.1, nodeName := row.1.2.1, mdCmSgId := row.1.2.2,
        mdDsSgId := 0, mdUsSgId := row.2 }
    | some group => merged.insert row.1 { group with mdUsSgId := row.2 }) merged
  let sortedKeys := KeyedSort.sortBy
    (fun key : MdNodeStatus => toLex (key.1, toLex (key.2.1, key.2.2))) merged.keys
  sortedKeys.filterMap merged.lookup

variable (env : SnmpEnvironment)

/-- A helper of the SNMP client outside every `try` block of the topology. -/
def helper {α : Type} (result : Except String α) : Collecting α :=
  Attempt.ofExcept (.helper .topology false) result

/-- The key of a row. An error in resolving the column is caught if it is about values or types,
and then the row has no key. -/
def parseMdNodeStatusKey (oidBase : String) (oid : List ℕ) : Collecting (Option MdNodeStatus) :=
  match env.resolveOid oidBase with
  | .ok base =>
    if oid.length ≤ base.length+2 then pure none
    else helper (parseNodeStatusSuffix (oid.drop base.length))
  | .error exc =>
    if exc.exceptionClass = .other then helper (.error exc.message)
    else Attempt.rescue (Attempt.fail (.helper .topology true) exc.message) none

/-- The keys and values of a column of docsIf3MdNodeStatus. -/
def collectMdNodeStatusValue (oidBase : String) : Collecting (List (MdNodeStatus × ℤ)) := do
  let walkResults ← (env.walk .topology oidBase).rescue []
  if walkResults = [] then pure []
  else
    let values ← helper (env.snmpGetResultValue walkResults)
    let rows ← Attempt.forEach (fun row : VarBind × String => do
      let parsedKey ← parseMdNodeStatusKey env oidBase row.1.oid
      pure (parsedKey.bind fun key => (PyConvert.parseInt row.2).map fun value => (key, value)))
      (walkResults.zip values)
    pure (rows.filterMap id)

def listServiceGroups : Collecting (List CmtsServiceGroupModel) := do
  let dsRows ← collectMdNodeStatusValue env "docsIf3MdNodeStatusMdDsSgId"
  let usRows ← collectMdNodeStatusValue env "docsIf3MdNodeStatusMdUsSgId"
  pure (mergeServiceGroups dsRows usRows)

/-- A table over an interface and a number, from a walk of its column. -/
def collectMap {α : Type} (oidBase : String) (parse : String → Option α) :
    Collecting (OrderedDict ServiceGroupChSetKey α) := do
  let walkResults ← (env.walk .topology oidBase).rescue []
  if walkResults = [] then pure OrderedDict.empty
  else
    let base ← helper ((env.resolveOid oidBase).mapError fun exc => exc.message)
    pure ((walkResults.filterMap (indexedRow base parse)).foldl
      (fun table row => table.insert row.1 row.2) OrderedDict.empty)

def collectChSetIdMap (oidBase : String) : Collecting (OrderedDict ServiceGroupChSetKey ChSetId) :=
  collectMap env oidBase PyConvert.parseInt

def collectChannelListMap (oidBase : String) :
    Collecting (OrderedDict ServiceGroupChSetKey (List ℤ)) :=
  collectMap env oidBase fun rawValue => some (parseChannelList rawValue)

/-- Whether a service group has a channel set, and which. -/
def getStatusChSetId (oidBase : String) (ifIndex : InterfaceIndex) (sgId : ℤ) :
    Collecting (Bool × ChSetId) := do
  let result ← (env.get .topology oidBase [ifIndex, sgId]).rescue []
  if result = [] then pure (false, 0)
  else
    let rawValue ← helper (env.getResultValue result)
    match rawValue.bind PyConvert.parseInt with
    | none => pure (false, 0)
    | some chSetId => pure (true, chSetId)

def getDocsIf3MdDsSgStatusChSetId : InterfaceIndex → ℤ → Collecting (Bool × ChSetId) :=
  getStatusChSetId env "docsIf3MdDsSgStatusChSetId"

def getDocsIf3MdUsSgStatusChSetId : InterfaceIndex → ℤ → Collecting (Bool × ChSetId) :=
  getStatusChSetId env "docsIf3MdUsSgStatusChSetId"

/-- The value of the first row. -/
def getResultValue (result : List VarBind) : Collecting (Option String) :=
  if result = [] then pure none else helper (env.getResultValue (result.take 1))

/-- The channels of a channel set, from a get or else from a walk. -/
def getChSetChList (oidBase : String) (ifIndex : InterfaceIndex) (chSetId : ChSetId) :
    Collecting (List ℤ) := do
  let result ← (env.get .topology oidBase [ifIndex, chSetId]).rescue []
  let rawValue ← getResultValue env result
  match rawValue with
  | some rawValue => pure (parseChannelList rawValue)
  | none =>
    -- the whole column is walked for the one row that the get did not bring
    let channelMap ← collectChannelListMap env oidBase
    pure ((channelMap.lookup (ifIndex, chSetId)).getD [])

def getDocsIf3DsChSetChList : InterfaceIndex → ChSetId → Collecting (List ℤ) :=
  getChSetChList env "docsIf3DsChSetChList"

def getDocsIf3UsChSetChList : InterfaceIndex → ChSetId → Collecting (List ℤ) :=
  getChSetChList env "docsIf3UsChSetChList"

/-- The channel set of one side of a service group: from the walked table if there is one, else
from a get. -/
def sideChSetId (chSetMap : OrderedDict ServiceGroupChSetKey ChSetId)
    (getStatus : InterfaceIndex → ℤ → Collecting (Bool × ChSetId)) (ifIndex : InterfaceIndex)
    (sgId : ℤ) : Collecting (Bool × ChSetId) :=
  if 0 < sgId then
    -- an empty table can also be that of a walk that failed
    if chSetMap.entries = [] then getStatus ifIndex sgId
    else match chSetMap.lookup (ifIndex, sgId) with
      | some chSetId => pure (true, chSetId)
      | none => pure (false, 0)
  else pure (false, 0)

/-- The channels of one side. -/
def sideChannels (channelMap : OrderedDict ServiceGroupChSetKey (List ℤ))
    (getChannels : InterfaceIndex → ChSetId → Collecting (List ℤ)) (ifIndex : InterfaceIndex)
    (found : Bool × ChSetId) : Collecting (List ℤ) :=
  match channelMap.lookup (ifIndex, found.2) with
  | some channels => pure channels
  | none => if found.1 = true ∧ 0 < found.2 then getChannels ifIndex found.2 else pure []

def getServiceGroupTopology : Collecting (List CmtsServiceGroupTopologyModel) := do
  let serviceGroups ← listServiceGroups env
  let dsChSetMap ← collectChSetIdMap env "docsIf3MdDsSgStatusChSetId"
  let usChSetMap ← collectChSetIdMap env "docsIf3MdUsSgStatusChSetId"
  let dsChannelMap ← collectChannelListMap env "docsIf3DsChSetChList"
  let usChannelMap ← collectChannelListMap env "docsIf3UsChSetChList"
  Attempt.forEach (fun group : CmtsServiceGroupModel => do
    let ds ← sideChSetId dsChSetMap (getDocsIf3MdDsSgStatusChSetId env) group.ifIndex
      group.mdDsSgId
    let us ← sideChSetId usChSetMap (getDocsIf3MdUsSgStatusChSetId env) group.ifIndex
      group.mdUsSgId
    let dsChannels ← sideChannels dsChannelMap (getDocsIf3DsChSetChList env) group.ifIndex ds
    let usChannels ← sideChannels usChannelMap (getDocsIf3UsChSetChList env) group.ifIndex us
    pure
      { ifIndex := group.ifIndex, nodeName := group.nodeName, mdCmSgId := group.mdCmSgId
        mdDsSgId := group.mdDsSgId, mdUsSgId := group.mdUsSgId
        dsExists := ds.1, usExists := us.1, dsChSetId := ds.2, usChSetId := us.2
        dsChannels := dsChannels, usChannels := usChannels }) serviceGroups

/-- `CmtsTopologyCollector.fetch_service_group_topology`. -/
def fetchServiceGroupTopology (adapter : CmtsAdapterConfig) :
    Collecting (List CmtsServiceGroupTopologyModel) := do
  env.connect .topology adapter
  getServiceGroupTopology env

/-! What the topology raises: a walk or a get that fails is taken for an empty answer, and only the
helpers of the client reach the caller. -/

section Rules
open Attempt SnmpEnvironment
variable {env}

theorem helper_raises {α : Type} (result : Except String α) : RaisesThrough (helper result) :=
  .ofExcept (by rfl) result

theorem parseMdNodeStatusKey_raises (oidBase : String) (oid : List ℕ) :
    RaisesThrough (parseMdNodeStatusKey env oidBase oid) := by
  unfold parseMdNodeStatusKey
  split
  · split
    · exact .pure _
    · exact helper_raises _
  · split
    · exact helper_raises _
    · exact .rescue (.fail (by exact Bool.false_ne_true) _) _

theorem collectMdNodeStatusValue_raises (oidBase : String) :
    RaisesThrough (collectMdNodeStatusValue env oidBase) := by
  refine (walk_rescue oidBase).bind fun walkResults => ?_
  split
  · exact .pure _
  · refine (helper_raises _).bind fun values => ?_
    refine (FailsAt.forEach (fun row => ?_) _).bind fun rows => .pure _
    exact (parseMdNodeStatusKey_raises _ _).bind fun parsedKey => .pure _

theorem listServiceGroups_raises : RaisesThrough (listServiceGroups env) :=
  (collectMdNodeStatusValue_raises _).bind fun _ =>
    (collectMdNodeStatusValue_raises _).bind fun _ => .pure _

theorem collectMap_raises {α : Type} (oidBase : String) (parse : String → Option α) :
    RaisesThrough (collectMap env oidBase parse) := by
  refine (walk_rescue oidBase).bind fun walkResults => ?_
  split
  · exact .pure _
  · exact (helper_raises _).bind fun base => .pure _

theorem getStatusChSetId_raises (oidBase : String) (ifIndex : InterfaceIndex) (sgId : ℤ) :
    RaisesThrough (getStatusChSetId env oidBase ifIndex sgId) := by
  refine (get_rescue oidBase _).bind fun result => ?_
  split
  · exact .pure _
  · refine (helper_raises _).bind fun rawValue => ?_
    split
    · exact .pure _
    · exact .pure _

theorem getResultValue_raises (result : List VarBind) :
    RaisesThrough (getResultValue env result) := by
  unfold getResultValue
  split
  · exact .pure _
  · exact helper_raises _

theorem getChSetChList_raises (oidBase : String) (ifIndex : InterfaceIndex) (chSetId : ChSetId) :
    RaisesThrough (getChSetChList env oidBase ifIndex chSetId) := by
  refine (get_rescue oidBase _).bind fun result => ?_
  refine (getResultValue_raises result).bind fun rawValue => ?_
  split
  · exact .pure _
  · exact (collectMap_raises _ _).bind fun channelMap => .pure _

theorem sideChSetId_raises {chSetMap : OrderedDict ServiceGroupChSetKey ChSetId}
    {getStatus : InterfaceIndex → ℤ → Collecting (Bool × ChSetId)}
    (h : ∀ ifIndex sgId, RaisesThrough (getStatus ifIndex sgId)) (ifIndex : InterfaceIndex)
    (sgId : ℤ) : RaisesThrough (sideChSetId chSetMap getStatus ifIndex sgId) := by
  unfold sideChSetId
  split
  · split
    · exact h ifIndex sgId
    · split
      · exact .pure _
      · exact .pure _
  · exact .pure _

theorem sideChannels_raises {channelMap : OrderedDict ServiceGroupChSetKey (List ℤ)}
    {getChannels : InterfaceIndex → ChSetId → Collecting (List ℤ)}
    (h : ∀ ifIndex chSetId, RaisesThrough (getChannels ifIndex chSetId))
    (ifIndex : InterfaceIndex) (found : Bool × ChSetId) :
    RaisesThrough (sideChannels channelMap getChannels ifIndex found) := by
  unfold sideChannels
  split
  · exact .pure _
  · split
    · exact h ifIndex found.2
    · exact .pure _

theorem getServiceGroupTopology_raises : RaisesThrough (getServiceGroupTopology env) := by
  refine listServiceGroups_raises.bind fun serviceGroups => ?_
  refine (collectMap_raises _ _).bind fun dsChSetMap => ?_
  refine (collectMap_raises _ _).bind fun usChSetMap => ?_
  refine (collectMap_raises _ _).bind fun dsChannelMap => ?_
  refine (collectMap_raises _ _).bind fun usChannelMap => ?_
  apply FailsAt.forEach
  intro group
  refine (sideChSetId_raises (getStatusChSetId_raises _) _ _).bind fun ds => ?_
  refine (sideChSetId_raises (getStatusChSetId_raises _) _ _).bind fun us => ?_
  refine (sideChannels_raises (getChSetChList_raises _) _ _).bind fun dsChannels => ?_
  exact (sideChannels_raises (getChSetChList_raises _) _ _).bind fun usChannels => .pure _

theorem fetchServiceGroupTopology_raises (adapter : CmtsAdapterConfig) :
    RaisesThrough (fetchServiceGroupTopology env adapter) :=
  (connect_raises adapter).bind fun _ => getServiceGroupTopology_raises

end Rules
end CmtsOperation
end PypnmCmts
