import PypnmCmts.ServiceGroupJoin

/-! The two ways in which `getServiceGroupTopology` comes to channel sets and channel lists: from
tables that it has walked, or cell by cell. They are compared over an agent that shows the same
tables to a walk and to a get. -/
namespace PypnmCmts
namespace CmtsOperation

/-- A table of the agent. Its rows are indexed by an interface and a number. -/
abbrev AgentTable := OrderedDict (ℕ × ℕ) String

/-- The row of one service group. -/
def topologyRow (env : SnmpEnvironment)
    (dsChSetMap usChSetMap : OrderedDict ServiceGroupChSetKey ChSetId)
    (dsChannelMap usChannelMap : OrderedDict ServiceGroupChSetKey (List ℤ))
    (group : CmtsServiceGroupModel) : Collecting CmtsServiceGroupTopologyModel := do
  let ds ← sideChSetId dsChSetMap (getDocsIf3MdDsSgStatusChSetId env) group.ifIndex group.mdDsSgId
  let us ← sideChSetId usChSetMap (getDocsIf3MdUsSgStatusChSetId env) group.ifIndex group.mdUsSgId
  let dsChannels ← sideChannels dsChannelMap (getDocsIf3DsChSetChList env) group.ifIndex ds
  let usChannels ← sideChannels usChannelMap (getDocsIf3UsChSetChList env) group.ifIndex us
  pure
    { ifIndex := group.ifIndex, nodeName := group.nodeName, mdCmSgId := group.mdCmSgId
      mdDsSgId := group.mdDsSgId, mdUsSgId := group.mdUsSgId
      dsExists := ds.1, usExists := us.1, dsChSetId := ds.2, usChSetId := us.2
      dsChannels := dsChannels, usChannels := usChannels }

theorem getServiceGroupTopology_eq (env : SnmpEnvironment) :
    getServiceGroupTopology env = (do
      let serviceGroups ← listServiceGroups env
      let dsChSetMap ← collectChSetIdMap env "docsIf3MdDsSgStatusChSetId"
      let usChSetMap ← collectChSetIdMap env "docsIf3MdUsSgStatusChSetId"
      let dsChannelMap ← collectChannelListMap env "docsIf3DsChSetChList"
      let usChannelMap ← collectChannelListMap env "docsIf3UsChSetChList"
      Attempt.forEach (topologyRow env dsChSetMap usChSetMap dsChannelMap usChannelMap)
        serviceGroups) := rfl

/-- The topology without a walked table: each channel set and each channel list is asked for. -/
def topologyByGetters (env : SnmpEnvironment) : Collecting (List CmtsServiceGroupTopologyModel) :=
  do
  let serviceGroups ← listServiceGroups env
  Attempt.forEach (topologyRow env .empty .empty .empty .empty) serviceGroups

namespace AgentTable

/-- What a walk of the column brings. -/
def rows (table : AgentTable) (base : List ℕ) : List VarBind :=
  table.entries.map fun e => ⟨base ++ [e.1.1, e.1.2], e.2⟩

def cell (table : AgentTable) (key : ServiceGroupChSetKey) : Option String :=
  -- no index of the agent has a negative part
  if 0 ≤ key.1 ∧ 0 ≤ key.2 then table.lookup (key.1.toNat, key.2.toNat) else none

theorem cell_eq_some_iff (table : AgentTable) (key : ServiceGroupChSetKey) (text : String) :
    table.cell key = some text ↔
      ∃ e ∈ table.entries, ((e.1.1 : ℤ), (e.1.2 : ℤ)) = key ∧ e.2 = text := by
  unfold cell
  constructor
  · intro h
    split at h
    next hnonneg =>
      refine ⟨_, (OrderedDict.lookup_eq_some_iff _ _ _).mp h, ?_, rfl⟩
      exact Prod.ext (Int.toNat_of_nonneg hnonneg.1) (Int.toNat_of_nonneg hnonneg.2)
    next => cases h
  · rintro ⟨e, he, rfl, rfl⟩
    rw [if_pos ⟨Int.natCast_nonneg _, Int.natCast_nonneg _⟩]
    exact (OrderedDict.lookup_eq_some_iff _ _ _).mpr he

theorem indexedRow_of_cell {α : Type} (base : List ℕ) (parse : String → Option α) (i j : ℕ)
    (text : String) :
    indexedRow base parse ⟨base ++ [i, j], text⟩ =
      (parse text).map fun value => (((i : ℤ), (j : ℤ)), value) := by
  have hprefix : base.isPrefixOf (base ++ [i, j]) = true :=
    List.isPrefixOf_iff_prefix.mpr (List.prefix_append _ _)
  unfold indexedRow
  dsimp only
  rw [if_pos hprefix, List.drop_left]

/-- The table that is made of the walked rows. -/
theorem lookup_indexedRows {α : Type} (table : AgentTable) (base : List ℕ)
    (parse : String → Option α) (key : ServiceGroupChSetKey) :
    (((table.rows base).filterMap (indexedRow base parse)).foldl
      (fun table row => table.insert row.1 row.2) OrderedDict.empty).lookup key =
      (table.cell key).bind parse := by
  have hpairs : (table.rows base).filterMap (indexedRow base parse) =
      table.entries.filterMap fun e =>
        (parse e.2).map fun value => (((e.1.1 : ℤ), (e.1.2 : ℤ)), value) := by
    unfold rows
    rw [List.filterMap_map]
    apply List.filterMap_congr
    intro e _
    exact indexedRow_of_cell base parse e.1.1 e.1.2 e.2
  -- the cells have different indices, so no walked row replaces an earlier one
  have hnodup : (((table.rows base).filterMap (indexedRow base parse)).map Prod.fst).Nodup := by
    have hkeys := table.nodup_keys
    unfold List.Nodup at hkeys ⊢
    rw [List.pairwise_map] at hkeys
    rw [hpairs, List.pairwise_map, List.pairwise_filterMap]
    refine hkeys.imp ?_
    intro a b hne p hp q hq heq
    obtain ⟨_, -, rfl⟩ := Option.map_eq_some_iff.mp hp
    obtain ⟨_, -, rfl⟩ := Option.map_eq_some_iff.mp hq
    obtain ⟨hfirst, hsecond⟩ := Prod.mk.inj heq
    exact hne (Prod.ext (Int.ofNat.inj hfirst) (Int.ofNat.inj hsecond))
  apply Option.ext
  intro value
  rw [OrderedDict.lookup_eq_some_iff, OrderedDict.entries_foldl_insert _ _ hnodup,
    OrderedDict.entries_empty, List.nil_append, hpairs, List.mem_filterMap, Option.bind_eq_some_iff]
  constructor
  · rintro ⟨e, he, hvalue⟩
    obtain ⟨v, hparse, hrow⟩ := Option.map_eq_some_iff.mp hvalue
    obtain ⟨rfl, rfl⟩ := Prod.mk.inj hrow
    exact ⟨e.2, (cell_eq_some_iff _ _ _).mpr ⟨e, he, rfl, rfl⟩, hparse⟩
  · rintro ⟨text, hcell, hparse⟩
    obtain ⟨e, he, rfl, rfl⟩ := (cell_eq_some_iff _ _ _).mp hcell
    exact ⟨e, he, Option.map_eq_some_iff.mpr ⟨value, hparse, rfl⟩⟩

end AgentTable

/-- What a cell of the status column says of a channel set. -/
def statusOf (cell : Option String) : Bool × ChSetId :=
  match cell.bind PyConvert.parseInt with
  | none => (false, 0)
  | some chSetId => (true, chSetId)

/-- The channels in a cell of the list column. -/
def channelsOf (cell : Option String) : List ℤ := (cell.map parseChannelList).getD []

section Agent
variable (env : SnmpEnvironment)

/-- The agent does not change between the requests. -/
def Steady : Prop := ∀ n request, env.answer n request = env.answer 0 request

/-- The rows of an answer. A request that fails is taken for one without rows. -/
def answered (request : SnmpRequest) : List VarBind :=
  match env.answer 0 request with
  | .ok rows => rows
  | .error _ => []

/-- A get brings the text of its cell. Of a cell that is not there it brings no value, or a text
without a number. -/
def GetTells (rows : List VarBind) : Option String → Prop
  | some text => ∃ row, rows = [row] ∧ env.getResultValue [row] = .ok (some text)
  | none => rows = [] ∨ ∃ row, rows = [row] ∧ (env.getResultValue [row] = .ok none ∨
    ∃ text, env.getResultValue [row] = .ok (some text) ∧ PyConvert.parseInt text = none ∧
      parseChannelList text = [])

/-- The agent shows a table to the gets, and to a walk of the column unless that brings nothing. -/
structure Serves (oidBase : String) (table : AgentTable) (walks : Bool) : Prop where
  walked : walks = true → ∃ base, env.resolveOid oidBase = .ok base ∧
    answered env (.walk oidBase) = table.rows base
  silent : walks = false → answered env (.walk oidBase) = []
  got : ∀ key : ServiceGroupChSetKey,
    GetTells env (answered env (.get oidBase [key.1, key.2])) (table.cell key)

end Agent

/-- The tables of one side of the service groups: the channel set of each service group, and the
channels of each channel set. -/
structure AgentSide where
  status : AgentTable
  channels : AgentTable
  walksStatus : Bool
  walksChannels : Bool

namespace AgentSide

/-- The agent serves both tables. -/
structure Served (side : AgentSide) (env : SnmpEnvironment)
    (statusColumn channelColumn : String) : Prop where
  status : Serves env statusColumn side.status side.walksStatus
  channels : Serves env channelColumn side.channels side.walksChannels

variable (side : AgentSide) (ifIndex : InterfaceIndex)

/-- The channel set of a service group. -/
def found (sgId : ℤ) : Bool × ChSetId :=
  if 0 < sgId then statusOf (side.status.cell (ifIndex, sgId)) else (false, 0)

/-- The channels as the getters bring them. -/
def gotChannels (found : Bool × ChSetId) : List ℤ :=
  if found.1 = true ∧ 0 < found.2 then channelsOf (side.channels.cell (ifIndex, found.2)) else []

/-- The channels as they are taken from a walked table, with the getters behind it. -/
def walkedChannels (found : Bool × ChSetId) : List ℤ :=
  if side.walksChannels = true ∨ found.1 = true ∧ 0 < found.2 then
    channelsOf (side.channels.cell (ifIndex, found.2))
  else []

/-- The walked table has no channels for a service group without a positive channel set. -/
def Sound (sgId : ℤ) : Prop :=
  ((side.found ifIndex sgId).1 = true ∧ 0 < (side.found ifIndex sgId).2) ∨
    side.walksChannels = false ∨
    channelsOf (side.channels.cell (ifIndex, (side.found ifIndex sgId).2)) = []

/-- A channel set that is positive and stands in both tables. -/
structure Backed (sgId : ℤ) (chSetId : ChSetId) : Prop where
  positive : 0 < chSetId
  ofGroup : (side.status.cell (ifIndex, sgId)).bind PyConvert.parseInt = some chSetId
  listed : (side.channels.cell (ifIndex, chSetId)).isSome

end AgentSide

section Getters
open Attempt
variable {env : SnmpEnvironment} {oidBase : String} {table : AgentTable} {walks : Bool}

theorem answered_answers (h : Steady env) (request : SnmpRequest) :
    Answers ((env.send .topology request).rescue []) (.ok (answered env request)) := by
  have hsend : Answers (env.send .topology request) (env.answer 0 request) :=
    Answers.bind (.ask fun n => h n request) (.ofExcept _ _)
  unfold answered
  cases hanswer : env.answer 0 request with
  | ok rows =>
    rw [hanswer] at hsend
    exact hsend.rescue []
  | error e =>
    rw [hanswer] at hsend
    exact hsend.rescue_error []

theorem helper_settled {α : Type} (result : Except String α) : Settled (helper result) :=
  .ofExcept _ result

theorem parseMdNodeStatusKey_settled (oidBase : String) (oid : List ℕ) :
    Settled (parseMdNodeStatusKey env oidBase oid) := by
  unfold parseMdNodeStatusKey
  split
  · split
    · exact .pure none
    · exact helper_settled _
  · split
    · exact helper_settled _
    · exact ⟨_, (Answers.fail _ _).rescue_error none⟩

theorem collectMdNodeStatusValue_settled (h : Steady env) (oidBase : String) :
    Settled (collectMdNodeStatusValue env oidBase) := by
  refine Settled.bind ⟨_, answered_answers h _⟩ fun walkResults => ?_
  split
  · exact .pure []
  · refine (helper_settled _).bind fun values => ?_
    refine (Settled.forEach (fun row => ?_) _).bind fun rows => .pure _
    exact (parseMdNodeStatusKey_settled _ _).bind fun parsedKey => .pure _

/-- A steady agent always lists the same service groups, or always makes the listing raise. -/
theorem listServiceGroups_settled (h : Steady env) : Settled (listServiceGroups env) :=
  (collectMdNodeStatusValue_settled h _).bind fun _ =>
    (collectMdNodeStatusValue_settled h _).bind fun _ => .pure _

theorem collectMap_silent (h : Steady env) (hserves : Serves env oidBase table false)
    {α : Type} (parse : String → Option α) :
    Answers (collectMap env oidBase parse) (.ok .empty) := by
  refine (answered_answers h _).bind ?_
  rw [if_pos (hserves.silent rfl)]
  exact .pure _

/-- The walked table holds what the cells say. -/
theorem collectMap_walked (h : Steady env) (hserves : Serves env oidBase table true)
    {α : Type} (parse : String → Option α) :
    ∃ map, Answers (collectMap env oidBase parse) (.ok map) ∧
      ∀ key, map.lookup key = (table.cell key).bind parse := by
  obtain ⟨base, hbase, hrows⟩ := hserves.walked rfl
  refine ⟨_, (answered_answers h _).bind ?_, table.lookup_indexedRows base parse⟩
  rw [hrows]
  split
  next hempty =>
    rw [hempty]
    exact .pure _
  next =>
    rw [hbase]
    exact (Answers.ofExcept _ _).bind (.pure _)

theorem getStatusChSetId_answers (h : Steady env) (hserves : Serves env oidBase table walks)
    (ifIndex : InterfaceIndex) (sgId : ℤ) :
    Answers (getStatusChSetId env oidBase ifIndex sgId)
      (.ok (statusOf (table.cell (ifIndex, sgId)))) := by
  have hgot := hserves.got (ifIndex, sgId)
  refine (answered_answers h _).bind ?_
  cases hcell : table.cell (ifIndex, sgId) with
  | some text =>
    rw [hcell] at hgot
    obtain ⟨row, hrow, hvalue⟩ := hgot
    rw [hrow, if_neg (List.cons_ne_nil row []), hvalue]
    refine (Answers.ofExcept _ _).bind ?_
    unfold statusOf
    rw [Option.bind_some]
    cases PyConvert.parseInt text with
    | none => exact .pure _
    | some chSetId => exact .pure _
  | none =>
    rw [hcell] at hgot
    -- the cell is not there: there is no row, or one without a number
    rcases hgot with hrow | ⟨row, hrow, hvalue⟩
    · rw [if_pos hrow]
      exact .pure _
    · rw [hrow, if_neg (List.cons_ne_nil row [])]
      rcases hvalue with hvalue | ⟨text, hvalue, hparse, -⟩
      · rw [hvalue]
        exact (Answers.ofExcept _ _).bind (.pure _)
      · rw [hvalue]
        refine (Answers.ofExcept _ _).bind ?_
        rw [Option.bind_some, hparse]
        exact .pure _

/-- A getter that finds no cell looks for it in a walk, which has none either. -/
theorem channelMap_answers (h : Steady env) (hserves : Serves env oidBase table walks)
    {key : ServiceGroupChSetKey} (hcell : table.cell key = none) :
    Answers (do
      let channelMap ← collectChannelListMap env oidBase
      pure ((channelMap.lookup key).getD [])) (.ok []) := by
  cases walks with
  | false => exact (collectMap_silent h hserves _).bind (.pure _)
  | true =>
    obtain ⟨map, hmap, hlookup⟩ := collectMap_walked h hserves fun rawValue =>
      some (parseChannelList rawValue)
    refine hmap.bind ?_
    rw [hlookup, hcell]
    exact .pure _

theorem getChSetChList_answers (h : Steady env) (hserves : Serves env oidBase table walks)
    (ifIndex : InterfaceIndex) (chSetId : ChSetId) :
    Answers (getChSetChList env oidBase ifIndex chSetId)
      (.ok (channelsOf (table.cell (ifIndex, chSetId)))) := by
  have hgot := hserves.got (ifIndex, chSetId)
  refine (answered_answers h _).bind ?_
  unfold getResultValue
  cases hcell : table.cell (ifIndex, chSetId) with
  | some text =>
    rw [hcell] at hgot
    obtain ⟨row, hrow, hvalue⟩ := hgot
    rw [hrow, if_neg (List.cons_ne_nil row []), List.take_succ_cons, List.take_zero, hvalue]
    exact (Answers.ofExcept _ _).bind (.pure _)
  | none =>
    rw [hcell] at hgot
    -- here the source walks the whole column before it gives up
    rcases hgot with hrow | ⟨row, hrow, hvalue⟩
    · rw [if_pos hrow]
      exact (Answers.pure none).bind (channelMap_answers h hserves hcell)
    · rw [hrow, if_neg (List.cons_ne_nil row []), List.take_succ_cons, List.take_zero]
      rcases hvalue with hvalue | ⟨text, hvalue, -, hparse⟩
      · rw [hvalue]
        exact (Answers.ofExcept _ _).bind (channelMap_answers h hserves hcell)
      · rw [hvalue]
        refine (Answers.ofExcept _ _).bind ?_
        dsimp only
        rw [hparse]
        exact .pure _

/-- The channel set of one side is the same from a walked table as from the getter. -/
theorem sideChSetId_answers (h : Steady env) {side : AgentSide} {statusColumn : String}
    (hserves : Serves env statusColumn side.status side.walksStatus)
    {chSetMap : OrderedDict ServiceGroupChSetKey ChSetId}
    (hmap : chSetMap.entries = [] ∨
      ∀ key, chSetMap.lookup key = (side.status.cell key).bind PyConvert.parseInt)
    (ifIndex : InterfaceIndex) (sgId : ℤ) :
    Answers (sideChSetId chSetMap (getStatusChSetId env statusColumn) ifIndex sgId)
      (.ok (side.found ifIndex sgId)) := by
  unfold sideChSetId AgentSide.found
  split
  · split
    next => exact getStatusChSetId_answers h hserves ifIndex sgId
    next hne =>
      rw [hmap.resolve_left hne]
      unfold statusOf
      cases (side.status.cell (ifIndex, sgId)).bind PyConvert.parseInt with
      | none => exact .pure _
      | some chSetId => exact .pure _
  · exact .pure _

/-- A table as the walk of its column leaves it. -/
def MapOf (table : AgentTable) (walks : Bool) {α : Type} (parse : String → Option α)
    (map : OrderedDict ServiceGroupChSetKey α) : Prop :=
  if walks = true then ∀ key, map.lookup key = (table.cell key).bind parse else map = .empty

theorem collectMap_mapOf (h : Steady env) (hserves : Serves env oidBase table walks) {α : Type}
    (parse : String → Option α) :
    ∃ map, Answers (collectMap env oidBase parse) (.ok map) ∧ MapOf table walks parse map := by
  unfold MapOf
  cases walks with
  | false => exact ⟨.empty, collectMap_silent h hserves parse, rfl⟩
  | true => exact collectMap_walked h hserves parse

theorem MapOf.entries_or {α : Type} {parse : String → Option α}
    {map : OrderedDict ServiceGroupChSetKey α} (h : MapOf table walks parse map) :
    map.entries = [] ∨ ∀ key, map.lookup key = (table.cell key).bind parse := by
  unfold MapOf at h
  split at h
  · exact Or.inr h
  · rw [h]
    exact Or.inl rfl

theorem sideChannels_got (h : Steady env) {side : AgentSide} {channelColumn : String}
    (hserves : Serves env channelColumn side.channels side.walksChannels)
    (ifIndex : InterfaceIndex) (found : Bool × ChSetId) :
    Answers (sideChannels .empty (getChSetChList env channelColumn) ifIndex found)
      (.ok (side.gotChannels ifIndex found)) := by
  have hempty : (OrderedDict.empty : OrderedDict ServiceGroupChSetKey (List ℤ)).lookup
      (ifIndex, found.2) = none := rfl
  unfold sideChannels AgentSide.gotChannels
  rw [hempty]
  dsimp only
  split
  · exact getChSetChList_answers h hserves ifIndex found.2
  · exact .pure []

theorem sideChannels_walked (h : Steady env) {side : AgentSide} {channelColumn : String}
    (hserves : Serves env channelColumn side.channels side.walksChannels)
    {channelMap : OrderedDict ServiceGroupChSetKey (List ℤ)}
    (hmap : MapOf side.channels side.walksChannels
      (fun rawValue => some (parseChannelList rawValue)) channelMap)
    (ifIndex : InterfaceIndex) (found : Bool × ChSetId) :
    Answers (sideChannels channelMap (getChSetChList env channelColumn) ifIndex found)
      (.ok (side.walkedChannels ifIndex found)) := by
  have hgot := sideChannels_got h hserves ifIndex found
  unfold MapOf at hmap
  split at hmap
  next hwalks =>
    unfold AgentSide.walkedChannels
    rw [if_pos (Or.inl hwalks)]
    unfold sideChannels
    rw [hmap]
    cases hcell : side.channels.cell (ifIndex, found.2) with
    | some text => exact .pure _
    | none =>
      -- a walked table without the row leaves it to the getter, which finds no cell either
      rw [Option.bind_none]
      dsimp only
      split
      · rw [← hcell]
        exact getChSetChList_answers h hserves ifIndex found.2
      · exact .pure []
  next hwalks =>
    -- nothing was walked, so both ways go through the getter
    have hsame : side.walkedChannels ifIndex found = side.gotChannels ifIndex found := by
      unfold AgentSide.walkedChannels AgentSide.gotChannels
      simp only [hwalks, Bool.false_eq_true, false_or]
    rw [hmap, hsame]
    exact hgot

end Getters

/-- The row of a service group, given how the channels are read. -/
def rowOf (channels : AgentSide → InterfaceIndex → Bool × ChSetId → List ℤ) (ds us : AgentSide)
    (group : CmtsServiceGroupModel) : CmtsServiceGroupTopologyModel :=
  let dsFound := ds.found group.ifIndex group.mdDsSgId
  let usFound := us.found group.ifIndex group.mdUsSgId
  { ifIndex := group.ifIndex, nodeName := group.nodeName, mdCmSgId := group.mdCmSgId
    mdDsSgId := group.mdDsSgId, mdUsSgId := group.mdUsSgId
    dsExists := dsFound.1, usExists := usFound.1, dsChSetId := dsFound.2, usChSetId := usFound.2
    dsChannels := channels ds group.ifIndex dsFound
    usChannels := channels us group.ifIndex usFound }

/-- Both ways end alike, and a channel list that is not empty belongs to a channel set that is
positive and in the tables. -/
def PathsAgree (env : SnmpEnvironment) (ds us : AgentSide) : Prop :=
  ∃ result, Attempt.Answers (getServiceGroupTopology env) result ∧
    Attempt.Answers (topologyByGetters env) result ∧
    ∀ topology, result = .ok topology → ∀ row ∈ topology,
      (row.dsChannels ≠ [] → ds.Backed row.ifIndex row.mdDsSgId row.dsChSetId) ∧
      (row.usChannels ≠ [] → us.Backed row.ifIndex row.mdUsSgId row.usChSetId)

section Sides
variable {side : AgentSide} {ifIndex : InterfaceIndex}

/-- Where the two readings of the channels differ. -/
theorem AgentSide.sound_iff (sgId : ℤ) :
    side.Sound ifIndex sgId ↔ side.walkedChannels ifIndex (side.found ifIndex sgId) =
      side.gotChannels ifIndex (side.found ifIndex sgId) := by
  unfold AgentSide.Sound AgentSide.walkedChannels AgentSide.gotChannels
  by_cases hset : (side.found ifIndex sgId).1 = true ∧ 0 < (side.found ifIndex sgId).2
  · rw [if_pos (Or.inr hset), if_pos hset]
    exact iff_of_true (Or.inl hset) rfl
  · rw [if_neg hset]
    cases hwalks : side.walksChannels with
    | false =>
      rw [if_neg (not_or.mpr ⟨Bool.false_ne_true, hset⟩)]
      exact iff_of_true (Or.inr (Or.inl rfl)) rfl
    | true =>
      rw [if_pos (Or.inl rfl)]
      constructor
      · rintro (h | h | h)
        · exact absurd h hset
        · cases h
        · exact h
      · exact fun h => Or.inr (Or.inr h)

theorem AgentSide.backed_of_got {sgId : ℤ}
    (h : side.gotChannels ifIndex (side.found ifIndex sgId) ≠ []) :
    side.Backed ifIndex sgId (side.found ifIndex sgId).2 := by
  unfold AgentSide.gotChannels at h
  split at h
  next hset =>
    refine ⟨hset.2, ?_, ?_⟩
    · have hfound := hset.1
      unfold AgentSide.found at hfound ⊢
      split at hfound
      next hsgId =>
        rw [if_pos hsgId]
        unfold statusOf at hfound ⊢
        cases hcell : (side.status.cell (ifIndex, sgId)).bind PyConvert.parseInt with
        | none =>
          rw [hcell] at hfound
          cases hfound
        | some chSetId => rfl
      next => cases hfound
    · by_contra hnone
      rw [Option.not_isSome_iff_eq_none] at hnone
      rw [hnone] at h
      exact h rfl
  next => exact absurd rfl h

end Sides

section Paths
open Attempt
variable {env : SnmpEnvironment} {ds us : AgentSide}

theorem topologyByGetters_answers (h : Steady env)
    (hds : ds.Served env "docsIf3MdDsSgStatusChSetId" "docsIf3DsChSetChList")
    (hus : us.Served env "docsIf3MdUsSgStatusChSetId" "docsIf3UsChSetChList")
    {groups : List CmtsServiceGroupModel} (hlist : Answers (listServiceGroups env) (.ok groups)) :
    Answers (topologyByGetters env) (.ok (groups.map (rowOf AgentSide.gotChannels ds us))) := by
  refine hlist.bind (.forEach ?_)
  intro group _
  refine (sideChSetId_answers h hds.status (Or.inl rfl) _ _).bind ?_
  refine (sideChSetId_answers h hus.status (Or.inl rfl) _ _).bind ?_
  refine (sideChannels_got h hds.channels _ _).bind ?_
  exact (sideChannels_got h hus.channels _ _).bind (.pure _)

theorem getServiceGroupTopology_answers (h : Steady env)
    (hds : ds.Served env "docsIf3MdDsSgStatusChSetId" "docsIf3DsChSetChList")
    (hus : us.Served env "docsIf3MdUsSgStatusChSetId" "docsIf3UsChSetChList")
    {groups : List CmtsServiceGroupModel} (hlist : Answers (listServiceGroups env) (.ok groups)) :
    Answers (getServiceGroupTopology env)
      (.ok (groups.map (rowOf AgentSide.walkedChannels ds us))) := by
  obtain ⟨dsChSetMap, hdsMap, hdsStatus⟩ := collectMap_mapOf h hds.status PyConvert.parseInt
  obtain ⟨usChSetMap, husMap, husStatus⟩ := collectMap_mapOf h hus.status PyConvert.parseInt
  obtain ⟨dsChannelMap, hdsList, hdsChannels⟩ := collectMap_mapOf h hds.channels fun rawValue =>
    some (parseChannelList rawValue)
  obtain ⟨usChannelMap, husList, husChannels⟩ := collectMap_mapOf h hus.channels fun rawValue =>
    some (parseChannelList rawValue)
  rw [getServiceGroupTopology_eq]
  refine hlist.bind (hdsMap.bind (husMap.bind (hdsList.bind (husList.bind (.forEach ?_)))))
  intro group _
  refine (sideChSetId_answers h hds.status hdsStatus.entries_or _ _).bind ?_
  refine (sideChSetId_answers h hus.status husStatus.entries_or _ _).bind ?_
  refine (sideChannels_walked h hds.channels hdsChannels _ _).bind ?_
  exact (sideChannels_walked h hus.channels husChannels _ _).bind (.pure _)

theorem rowOf_eq_iff (group : CmtsServiceGroupModel) :
    rowOf AgentSide.walkedChannels ds us group = rowOf AgentSide.gotChannels ds us group ↔
      ds.Sound group.ifIndex group.mdDsSgId ∧ us.Sound group.ifIndex group.mdUsSgId := by
  rw [AgentSide.sound_iff, AgentSide.sound_iff]
  constructor
  · intro heq
    exact ⟨congrArg CmtsServiceGroupTopologyModel.dsChannels heq,
      congrArg CmtsServiceGroupTopologyModel.usChannels heq⟩
  · intro ⟨hds, hus⟩
    unfold rowOf
    dsimp only
    rw [hds, hus]

/-- The walked tables and the getters bring the same topology exactly if no walked table lists
channels for a service group that has no positive channel set. -/
theorem topology_paths_iff (h : Steady env)
    (hds : ds.Served env "docsIf3MdDsSgStatusChSetId" "docsIf3DsChSetChList")
    (hus : us.Served env "docsIf3MdUsSgStatusChSetId" "docsIf3UsChSetChList") :
    PathsAgree env ds us ↔ ∀ groups, Answers (listServiceGroups env) (.ok groups) →
      ∀ group ∈ groups, ds.Sound group.ifIndex group.mdDsSgId ∧
        us.Sound group.ifIndex group.mdUsSgId := by
  constructor
  · rintro ⟨result, hwalked, hgot, -⟩ groups hlist group hgroup
    have hfast := hwalked.unique (getServiceGroupTopology_answers h hds hus hlist)
    have hslow := hgot.unique (topologyByGetters_answers h hds hus hlist)
    -- equal lists of rows are equal group by group
    have hrows := List.map_eq_map_iff.mp (Except.ok.inj (hfast.symm.trans hslow))
    exact (rowOf_eq_iff group).mp (hrows group hgroup)
  · intro hsound
    obtain ⟨listing, hlist⟩ := listServiceGroups_settled h
    cases listing with
    -- a listing that raises ends both ways before any table is read
    | error e =>
      refine ⟨.error e, hlist.bind_error _, hlist.bind_error _, ?_⟩
      intro topology htopology
      cases htopology
    | ok groups =>
      have hrows : groups.map (rowOf AgentSide.walkedChannels ds us) =
          groups.map (rowOf AgentSide.gotChannels ds us) := by
        apply List.map_congr_left
        intro group hgroup
        exact (rowOf_eq_iff group).mpr (hsound groups hlist group hgroup)
      have hfast := getServiceGroupTopology_answers h hds hus hlist
      rw [hrows] at hfast
      refine ⟨_, hfast, topologyByGetters_answers h hds hus hlist, ?_⟩
      intro topology htopology row hrow
      rw [← Except.ok.inj htopology] at hrow
      obtain ⟨group, -, rfl⟩ := List.mem_map.mp hrow
      exact ⟨AgentSide.backed_of_got, AgentSide.backed_of_got⟩

/-- What an agent with a table answers, where walks of it can be refused. -/
def tableAnswer (table : AgentTable) (walks : Bool) :
    SnmpRequest → Except String (List VarBind)
  | .walk _ => if walks then .ok (table.rows statusColumn) else .error "timeout"
  | .get _ [i, j] =>
    .ok ((table.cell (i, j)).map (VarBind.mk (statusColumn ++ [i.toNat, j.toNat]))).toList
  | .get _ _ => .ok []

theorem serves_tableAnswer {oidBase : String} (table : AgentTable) (walks : Bool)
    (hbase : env.resolveOid oidBase = .ok statusColumn)
    (hvalue : ∀ row, env.getResultValue [row] = .ok (some row.value))
    (hwalk : env.answer 0 (.walk oidBase) = tableAnswer table walks (.walk oidBase))
    (hget : ∀ i j, env.answer 0 (.get oidBase [i, j]) =
      tableAnswer table walks (.get oidBase [i, j])) : Serves env oidBase table walks := by
  refine ⟨?_, ?_, ?_⟩
  · rintro rfl
    refine ⟨statusColumn, hbase, ?_⟩
    unfold answered
    rw [hwalk]
    rfl
  · rintro rfl
    unfold answered
    rw [hwalk]
    rfl
  · intro key
    unfold answered
    rw [hget]
    unfold tableAnswer
    dsimp only
    cases table.cell (key.1, key.2) with
    | none => exact Or.inl rfl
    | some text => exact ⟨_, rfl, hvalue _⟩

/-- An agent that lists one service group, with the tables of both sides. -/
def sideEnvironment (ds us : AgentSide) : SnmpEnvironment :=
  { statusEnvironment [] with
    getResultValue := fun rows => .ok (rows.head?.map VarBind.value)
    answer := fun _ request =>
      match request with
      | .walk column =>
        if column = "docsIf3MdDsSgStatusChSetId" then tableAnswer ds.status ds.walksStatus request
        else if column = "docsIf3DsChSetChList" then
          tableAnswer ds.channels ds.walksChannels request
        else if column = "docsIf3MdUsSgStatusChSetId" then
          tableAnswer us.status us.walksStatus request
        else if column = "docsIf3UsChSetChList" then
          tableAnswer us.channels us.walksChannels request
        else .ok [⟨encodeIndex statusColumn 7 "N" 3, "11"⟩]
      | .get column _ =>
        if column = "docsIf3MdDsSgStatusChSetId" then tableAnswer ds.status ds.walksStatus request
        else if column = "docsIf3DsChSetChList" then
          tableAnswer ds.channels ds.walksChannels request
        else if column = "docsIf3MdUsSgStatusChSetId" then
          tableAnswer us.status us.walksStatus request
        else tableAnswer us.channels us.walksChannels request }

theorem served_sideEnvironment (ds us : AgentSide) :
    Steady (sideEnvironment ds us) ∧
    ds.Served (sideEnvironment ds us) "docsIf3MdDsSgStatusChSetId" "docsIf3DsChSetChList" ∧
    us.Served (sideEnvironment ds us) "docsIf3MdUsSgStatusChSetId" "docsIf3UsChSetChList" :=
  ⟨fun _ _ => rfl,
    ⟨serves_tableAnswer _ _ rfl (fun _ => rfl) rfl fun _ _ => rfl,
      serves_tableAnswer _ _ rfl (fun _ => rfl) rfl fun _ _ => rfl⟩,
    ⟨serves_tableAnswer _ _ rfl (fun _ => rfl) rfl fun _ _ => rfl,
      serves_tableAnswer _ _ rfl (fun _ => rfl) rfl fun _ _ => rfl⟩⟩

/-- A side whose tables the agent does not let be walked. -/
def unwalkedSide : AgentSide := ⟨.empty, .empty, false, false⟩

/-- Channel set 2 of service group 11, with the channels 1 and 2. -/
def walkedSide : AgentSide :=
  ⟨OrderedDict.empty.insert (7, 11) "2", OrderedDict.empty.insert (7, 2) "0x0102", true, true⟩

theorem topology_paths_walked :
    PathsAgree (sideEnvironment walkedSide unwalkedSide) walkedSide unwalkedSide := by
  obtain ⟨hsteady, hds, hus⟩ := served_sideEnvironment walkedSide unwalkedSide
  refine (topology_paths_iff hsteady hds hus).mpr ?_
  intro groups hgroups
  have hlist : ((listServiceGroups (sideEnvironment walkedSide unwalkedSide)).run {}).1 =
      .ok [groupOf (7, "N", 3) 11 11] := by decide +kernel
  rw [Except.ok.inj ((hgroups {}).symm.trans hlist)]
  intro group hgroup
  rw [List.mem_singleton.mp hgroup]
  exact ⟨Or.inl (by decide), Or.inr (Or.inl rfl)⟩

/-- No channel set for the service group, and channels under the number that stands for none. -/
def defaultSide : AgentSide := ⟨.empty, OrderedDict.empty.insert (7, 0) "0x0102", true, true⟩

/-- The walked table gives channels to a service group of which it says that it has no channel
set. -/
theorem topology_paths_differ :
    Steady (sideEnvironment defaultSide unwalkedSide) ∧
    defaultSide.Served (sideEnvironment defaultSide unwalkedSide) "docsIf3MdDsSgStatusChSetId"
      "docsIf3DsChSetChList" ∧
    unwalkedSide.Served (sideEnvironment defaultSide unwalkedSide) "docsIf3MdUsSgStatusChSetId"
      "docsIf3UsChSetChList" ∧
    ((getServiceGroupTopology (sideEnvironment defaultSide unwalkedSide)).run {}).1.map
      (fun rows => rows.map fun row => (row.dsExists, row.dsChSetId, row.dsChannels)) =
        .ok [(false, 0, [1, 2])] ∧
    ¬ PathsAgree (sideEnvironment defaultSide unwalkedSide) defaultSide unwalkedSide := by
  obtain ⟨hsteady, hds, hus⟩ := served_sideEnvironment defaultSide unwalkedSide
  refine ⟨hsteady, hds, hus, by decide +kernel, ?_⟩
  rintro ⟨result, hwalked, hgot, -⟩
  have hsame := (hwalked {}).trans (hgot {}).symm
  revert hsame
  decide +kernel

end Paths
end CmtsOperation
end PypnmCmts
