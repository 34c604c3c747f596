import PypnmCmts.LightMembership

/-! The payload of a heavy refresh, for any topology, channel tables and modems that have been
collected: which channels it lists, how it describes them and in what order the modems stand. -/
namespace PypnmCmts
namespace HeavyPoller

/-- The inventory that is made of what has been collected. -/
def inventoryOf (topology : List CmtsServiceGroupTopologyModel) (sgId : ServiceGroupId)
    (tables : ChannelInventory) (modems : List SgwCableModemModel) : SgwHeavyInventoryModel :=
  let (dsChannels, usChannels, dsChSetId, usChSetId) := extractChannels topology sgId
  { dsChSetId, usChSetId, dsChannelIds := dsChannels, usChannelIds := usChannels
    dsRfChannels := buildDsRfChannels dsChannels tables.dsScQam tables.dsOfdm
    usRfChannels := buildUsRfChannels usChannels tables.usScQam tables.usOfdma
    cableModems := modems }

theorem sgwHeavyPoller_eq (env : SnmpEnvironment) (adapter : CmtsAdapterConfig)
    (sgId : ServiceGroupId) :
    sgwHeavyPoller env adapter sgId = (do
      let inventory ← Attempt.relabel (fun exc => s!"Heavy refresh inventory failed: {exc}") do
        let topology ← fetchTopology env adapter
        let tables ← fetchChannelInventory env adapter
        let modems ← fetchCableModems env adapter sgId
        pure (inventoryOf topology sgId tables modems)
      pure (payloadOf inventory)) := rfl

/-- The topology row that the channels are taken from. -/
def firstRow (topology : List CmtsServiceGroupTopologyModel) (sgId : ServiceGroupId) :
    Option CmtsServiceGroupTopologyModel :=
  topology.find? fun entry => entry.mdCmSgId = sgId

/-- The channels of one side are those of all the rows of the group, each of them once. -/
structure EveryRowCounts (topology : List CmtsServiceGroupTopologyModel) (sgId : ServiceGroupId)
    (channels : CmtsServiceGroupTopologyModel → List ℤ) (channelIds : List ℤ) : Prop where
  once : channelIds.Nodup
  complete : ∀ entry ∈ topology, entry.mdCmSgId = sgId → ∀ channelId ∈ channels entry,
    0 < channelId → channelId ∈ channelIds
  own : ∀ channelId ∈ channelIds, 0 < channelId ∧
    ∃ entry ∈ topology, entry.mdCmSgId = sgId ∧ channelId ∈ channels entry

/-- The first row of the group has every positive channel of the others. -/
def FirstRowCovers (topology : List CmtsServiceGroupTopologyModel) (sgId : ServiceGroupId)
    (channels : CmtsServiceGroupTopologyModel → List ℤ) : Prop :=
  ∀ first, firstRow topology sgId = some first → ∀ entry ∈ topology, entry.mdCmSgId = sgId →
    ∀ channelId ∈ channels entry, 0 < channelId → channelId ∈ channels first

/-- The last row of a channel in a table. -/
def lastRow (table : SnmpTable) (rows : List SnmpRow) (channelId : ℤ) : Option SnmpRow :=
  (rows.filter fun row => ChannelInventory.channelId table row = channelId).getLast?

/-- One record for each channel, from the OFDM table where that has a row of the channel. -/
structure DescribedOnce (channelIds : List ℤ) (ofdmRow : ℤ → Option SnmpRow)
    (ofdm : ℤ → SnmpRow → SgwRfChannelModel) (scQam : ℤ → SgwRfChannelModel)
    (records : List SgwRfChannelModel) : Prop where
  channelIds : records.map SgwRfChannelModel.channelId = channelIds
  precedence : ∀ record ∈ records, ∀ row, ofdmRow record.channelId = some row →
    record = ofdm record.channelId row
  otherwise : ∀ record ∈ records, ofdmRow record.channelId = none →
    record = scQam record.channelId

/-- The order of the modems. -/
def modemKey (modem : SgwCableModemModel) : String ×ₗ (String ×ₗ String) :=
  toLex (modem.mac, toLex (modem.ipv4, modem.ipv6))

/-- The channels of one side with their records. -/
structure SideWellFormed (summary : SgwChannelSummaryModel) (ofdmRow : ℤ → Option SnmpRow)
    (ofdm : ℤ → SnmpRow → SgwRfChannelModel) (scQam : ℤ → SgwRfChannelModel)
    (records : List SgwRfChannelModel) : Prop where
  ascending : summary.channelIds.Pairwise (· < ·)
  positive : ∀ channelId ∈ summary.channelIds, 0 < channelId
  count : summary.count = summary.channelIds.length
  described : DescribedOnce summary.channelIds ofdmRow ofdm scQam records
  channels_stable : normalizeChannels summary.channelIds = summary.channelIds
  records_stable : normalizeRfChannels records summary.channelIds = records

structure ModemsWellFormed (modems : List SgwCableModemModel) : Prop where
  ascending : modems.Pairwise fun a b => modemKey a < modemKey b
  unique : (modems.map SgwCableModemModel.addresses).Nodup
  stable : normalizeModems modems = modems

section Channels

theorem mem_normalizeChannels {channelIds : List ℤ} {channelId : ℤ} :
    channelId ∈ normalizeChannels channelIds ↔ channelId ∈ channelIds ∧ 0 < channelId := by
  unfold normalizeChannels
  rw [(KeyedSort.sortBy_perm id _).mem_iff, List.mem_dedup, List.mem_filter, decide_eq_true_eq]

theorem normalizeChannels_ascending (channelIds : List ℤ) :
    (normalizeChannels channelIds).Pairwise (· < ·) := by
  have hnodup : ((channelIds.filter fun channelId => 0 < channelId).dedup.map id).Nodup := by
    rw [List.map_id]
    exact List.nodup_dedup _
  exact KeyedSort.sortBy_lt hnodup

/-- Channels that are positive and in order are left as they are. -/
theorem normalizeChannels_eq_self {channelIds : List ℤ} (hsorted : channelIds.Pairwise (· < ·))
    (hpos : ∀ channelId ∈ channelIds, 0 < channelId) :
      normalizeChannels channelIds = channelIds := by
  have hfilter : (channelIds.filter fun channelId => 0 < channelId) = channelIds :=
    List.filter_eq_self.mpr fun channelId hmem => decide_eq_true (hpos channelId hmem)
  have hnodup : channelIds.Nodup := hsorted.imp fun hlt => ne_of_lt hlt
  unfold normalizeChannels
  rw [hfilter, hnodup.dedup]
  exact KeyedSort.sortBy_eq_self (hsorted.imp fun hlt => le_of_lt hlt)

/-- So are the records of such channels. -/
theorem normalizeRfChannels_eq_self {records : List SgwRfChannelModel} {channelIds : List ℤ}
    (hids : records.map SgwRfChannelModel.channelId = channelIds)
    (hsorted : channelIds.Pairwise (· < ·))
    (hpos : ∀ channelId ∈ channelIds, 0 < channelId) :
    normalizeRfChannels records channelIds = records := by
  have hmem : ∀ record ∈ records, record.channelId ∈ channelIds := fun record hrecord =>
    hids ▸ List.mem_map_of_mem hrecord
  have hfilter : (records.filter fun channel => 0 < channel.channelId ∧
      ((channelIds.filter fun value => 0 < value) = [] ∨
        channel.channelId ∈ channelIds.filter fun value => 0 < value)) = records := by
    apply List.filter_eq_self.mpr
    intro record hrecord
    have hrecord := hmem record hrecord
    have hrecordPos := hpos _ hrecord
    exact decide_eq_true ⟨hrecordPos,
      Or.inr (List.mem_filter.mpr ⟨hrecord, decide_eq_true hrecordPos⟩)⟩
  unfold normalizeRfChannels
  dsimp only
  rw [hfilter]
  apply KeyedSort.sortBy_eq_self
  rw [← hids, List.pairwise_map] at hsorted
  exact hsorted.imp fun hlt => le_of_lt (Prod.Lex.toLex_lt_toLex.mpr (Or.inl hlt))

theorem lookup_channelMap (table : SnmpTable) (rows : List SnmpRow) {channelId : ℤ}
    (hpos : 0 < channelId) :
    (channelMap table rows).lookup channelId = lastRow table rows channelId := by
  -- the rows of a positive channel all pass the first filter
  have hrows : ((rows.filter fun row => 0 < ChannelInventory.channelId table row).filter
      fun row => ChannelInventory.channelId table row = channelId) =
      rows.filter fun row => ChannelInventory.channelId table row = channelId := by
    rw [List.filter_filter]
    apply List.filter_congr
    intro row _
    by_cases hrow : ChannelInventory.channelId table row = channelId
    · rw [hrow, decide_eq_true hpos, decide_eq_true rfl]
      rfl
    · rw [decide_eq_false hrow]
      rfl
  have hempty : (OrderedDict.empty : OrderedDict ℤ SnmpRow).lookup channelId = none := rfl
  unfold channelMap lastRow
  rw [OrderedDict.lookup_foldl_insert_key, hrows, hempty, Option.or_none]

/-- The records that both builders make. -/
theorem describedOnce_map (channelIds : List ℤ) {ofdmRow : ℤ → Option SnmpRow}
    {ofdm : ℤ → SnmpRow → SgwRfChannelModel} {scQam built : ℤ → SgwRfChannelModel}
    (hbuilt : ∀ channelId, 0 < channelId →
      built channelId = ((ofdmRow channelId).map (ofdm channelId)).getD (scQam channelId))
    (hofdm : ∀ channelId row, (ofdm channelId row).channelId = channelId)
    (hscQam : ∀ channelId, (scQam channelId).channelId = channelId) :
    DescribedOnce (normalizeChannels channelIds) ofdmRow ofdm scQam
      ((normalizeChannels channelIds).map built) := by
  have hrecord : ∀ channelId ∈ normalizeChannels channelIds, built channelId =
      ((ofdmRow channelId).map (ofdm channelId)).getD (scQam channelId) :=
    fun channelId hmem => hbuilt channelId (mem_normalizeChannels.mp hmem).2
  have hid : ∀ channelId,
      (((ofdmRow channelId).map (ofdm channelId)).getD (scQam channelId)).channelId =
        channelId := by
    intro channelId
    cases ofdmRow channelId with
    | none => exact hscQam channelId
    | some row => exact hofdm channelId row
  rw [List.map_congr_left hrecord]
  constructor
  · rw [List.map_map]
    exact (List.map_congr_left fun channelId _ => hid channelId).trans (List.map_id _)
  · intro record hmem row hrow
    obtain ⟨channelId, -, rfl⟩ := List.mem_map.mp hmem
    rw [hid] at hrow ⊢
    rw [hrow]
    rfl
  · intro record hmem hrow
    obtain ⟨channelId, -, rfl⟩ := List.mem_map.mp hmem
    rw [hid] at hrow ⊢
    rw [hrow]
    rfl

/-- A side is well formed if each of its channels is described once before the last sort. -/
theorem sideWellFormed_normalize (channelIds : List ℤ) {ofdmRow : ℤ → Option SnmpRow}
    {ofdm : ℤ → SnmpRow → SgwRfChannelModel} {scQam : ℤ → SgwRfChannelModel}
    {records : List SgwRfChannelModel}
    (h : DescribedOnce (normalizeChannels channelIds) ofdmRow ofdm scQam records) :
    SideWellFormed
      { count := (normalizeChannels channelIds).length, channelIds := normalizeChannels channelIds }
      ofdmRow ofdm scQam (normalizeRfChannels records (normalizeChannels channelIds)) := by
  have hsorted := normalizeChannels_ascending channelIds
  have hpos : ∀ channelId ∈ normalizeChannels channelIds, 0 < channelId :=
    fun channelId hmem => (mem_normalizeChannels.mp hmem).2
  have hstable := normalizeRfChannels_eq_self h.channelIds hsorted hpos
  rw [hstable]
  exact ⟨hsorted, hpos, rfl, h, normalizeChannels_eq_self hsorted hpos, hstable⟩

end Channels

section Modems
open SgwCableModemModel

theorem modemKey_injective {a b : SgwCableModemModel} (h : modemKey a = modemKey b) :
    a.addresses = b.addresses := by
  obtain ⟨hmac, hrest⟩ := Prod.mk.inj (toLex_inj.mp h)
  obtain ⟨hipv4, hipv6⟩ := Prod.mk.inj (toLex_inj.mp hrest)
  exact Prod.ext hmac (Prod.ext hipv4 hipv6)

theorem normalizeModems_ascending (modems : List SgwCableModemModel) :
    (normalizeModems modems).Pairwise fun a b => modemKey a < modemKey b := by
  have hnodup := OrderedDict.nodup_values_foldl_new addresses modems
  apply KeyedSort.sortBy_lt
  unfold List.Nodup at hnodup ⊢
  rw [List.pairwise_map] at hnodup ⊢
  exact hnodup.imp fun hne hkey => hne (modemKey_injective hkey)

/-- Modems that are in order and unlike are left as they are. -/
theorem normalizeModems_eq_self {modems : List SgwCableModemModel}
    (hsorted : modems.Pairwise fun a b => modemKey a < modemKey b)
    (hnodup : (modems.map addresses).Nodup) : normalizeModems modems = modems := by
  have hkept := OrderedDict.entries_foldl_new addresses modems .empty hnodup
  -- no modem meets another one with its addresses, and all are kept in their order
  have hvalues : (modems.foldl (fun seen modem =>
      if (seen.lookup (addresses modem)).isSome then seen
      else seen.insert (addresses modem) modem) OrderedDict.empty).values = modems := by
    rw [OrderedDict.values, hkept, OrderedDict.entries_empty, List.nil_append, List.map_map]
    exact List.map_id _
  have hsame : normalizeModems modems = KeyedSort.sortBy modemKey (modems.foldl (fun seen modem =>
      if (seen.lookup (addresses modem)).isSome then seen
      else seen.insert (addresses modem) modem) OrderedDict.empty).values := rfl
  rw [hsame, hvalues]
  exact KeyedSort.sortBy_eq_self (hsorted.imp fun hlt => le_of_lt hlt)

theorem modemsWellFormed_normalize (modems : List SgwCableModemModel) :
    ModemsWellFormed (normalizeModems modems) := by
  have hsorted := normalizeModems_ascending modems
  have hunique := nodup_normalizeModems modems
  exact ⟨hsorted, hunique, normalizeModems_eq_self hsorted hunique⟩

end Modems

/-- The payload of a heavy refresh over the given channel tables. -/
structure WellFormed (tables : ChannelInventory) (payload : SgwSnapshotPayloadModel) : Prop where
  ds : SideWellFormed payload.dsChannels
    (lastRow ChannelInventory.docsIf31CmtsDsOfdmChanRecord tables.dsOfdm) ofdmChannel
    (fun channelId => scQamChannel channelId
      (lastRow ChannelInventory.docsIfDownstreamChannelEntry tables.dsScQam channelId)
      "docsIfDownChannelFrequency" "docsIfDownChannelWidth") payload.dsRfChannels
  us : SideWellFormed payload.usChannels
    (lastRow ChannelInventory.docsIf31CmtsUsOfdmaChanRecord tables.usOfdma) ofdmaChannel
    (fun channelId => scQamChannel channelId
      (lastRow ChannelInventory.docsIfUpstreamChannelEntry tables.usScQam channelId)
      "docsIfUpChannelFrequency" "docsIfUpChannelWidth") payload.usRfChannels
  modems : ModemsWellFormed payload.cableModems

section Payload
variable (topology : List CmtsServiceGroupTopologyModel) (sgId : ServiceGroupId)
  (tables : ChannelInventory) (modems : List SgwCableModemModel)

theorem describedOnce_buildDsRfChannels (channelIds : List ℤ) :
    DescribedOnce (normalizeChannels channelIds)
      (lastRow ChannelInventory.docsIf31CmtsDsOfdmChanRecord tables.dsOfdm) ofdmChannel
      (fun channelId => scQamChannel channelId
        (lastRow ChannelInventory.docsIfDownstreamChannelEntry tables.dsScQam channelId)
        "docsIfDownChannelFrequency" "docsIfDownChannelWidth")
      (buildDsRfChannels channelIds tables.dsScQam tables.dsOfdm) := by
  refine describedOnce_map channelIds ?_ (fun _ _ => rfl) fun _ => rfl
  intro channelId hpos
  rw [lookup_channelMap _ _ hpos, lookup_channelMap _ _ hpos]
  cases lastRow ChannelInventory.docsIf31CmtsDsOfdmChanRecord tables.dsOfdm channelId <;> rfl

theorem describedOnce_buildUsRfChannels (channelIds : List ℤ) :
    DescribedOnce (normalizeChannels channelIds)
      (lastRow ChannelInventory.docsIf31CmtsUsOfdmaChanRecord tables.usOfdma) ofdmaChannel
      (fun channelId => scQamChannel channelId
        (lastRow ChannelInventory.docsIfUpstreamChannelEntry tables.usScQam channelId)
        "docsIfUpChannelFrequency" "docsIfUpChannelWidth")
      (buildUsRfChannels channelIds tables.usScQam tables.usOfdma) := by
  refine describedOnce_map channelIds ?_ (fun _ _ => rfl) fun _ => rfl
  intro channelId hpos
  rw [lookup_channelMap _ _ hpos, lookup_channelMap _ _ hpos]
  cases lastRow ChannelInventory.docsIf31CmtsUsOfdmaChanRecord tables.usOfdma channelId <;> rfl

theorem extractChannels_eq : extractChannels topology sgId =
    (((firstRow topology sgId).map CmtsServiceGroupTopologyModel.dsChannels).getD [],
      ((firstRow topology sgId).map CmtsServiceGroupTopologyModel.usChannels).getD [],
      ((firstRow topology sgId).map CmtsServiceGroupTopologyModel.dsChSetId).getD 0,
      ((firstRow topology sgId).map CmtsServiceGroupTopologyModel.usChSetId).getD 0) := by
  unfold extractChannels firstRow
  cases topology.find? fun entry => entry.mdCmSgId = sgId <;> rfl

variable {topology sgId} in
theorem mem_of_firstRow {first : CmtsServiceGroupTopologyModel}
    (h : firstRow topology sgId = some first) : first ∈ topology ∧ first.mdCmSgId = sgId := by
  have hfound := List.find?_some h
  exact ⟨List.mem_of_find?_eq_some h, of_decide_eq_true hfound⟩

variable {topology sgId} in
theorem exists_firstRow {entry : CmtsServiceGroupTopologyModel} (hmem : entry ∈ topology)
    (hgroup : entry.mdCmSgId = sgId) : ∃ first, firstRow topology sgId = some first := by
  apply Option.isSome_iff_exists.mp
  exact List.find?_isSome.mpr ⟨entry, hmem, decide_eq_true hgroup⟩

/-- The channels of the first row are all channels of the group only if it covers the others. -/
theorem everyRowCounts_iff (channels : CmtsServiceGroupTopologyModel → List ℤ) :
    EveryRowCounts topology sgId channels
      (normalizeChannels (((firstRow topology sgId).map channels).getD [])) ↔
    FirstRowCovers topology sgId channels := by
  constructor
  · intro h first hfirst entry hentry hgroup channelId hmem hpos
    have hlisted := h.complete entry hentry hgroup channelId hmem hpos
    rw [hfirst] at hlisted
    exact (mem_normalizeChannels.mp hlisted).1
  · intro h
    refine ⟨(normalizeChannels_ascending _).imp fun hlt => ne_of_lt hlt, ?_, ?_⟩
    · intro entry hentry hgroup channelId hmem hpos
      -- some row of the group comes first, and it has the channel too
      obtain ⟨first, hfirst⟩ := exists_firstRow hentry hgroup
      rw [hfirst]
      exact mem_normalizeChannels.mpr ⟨h first hfirst entry hentry hgroup channelId hmem hpos, hpos⟩
    · intro channelId hlisted
      obtain ⟨hmem, hpos⟩ := mem_normalizeChannels.mp hlisted
      cases hfirst : firstRow topology sgId with
      | none =>
        rw [hfirst] at hmem
        cases hmem
      | some first =>
        rw [hfirst] at hmem
        obtain ⟨hin, hgroup⟩ := mem_of_firstRow hfirst
        exact ⟨hpos, first, hin, hgroup, hmem⟩

/-- Both sides have the channels of every row of the group exactly if the first one covers the
others. -/
theorem every_row_counts_iff :
    let payload := payloadOf (inventoryOf topology sgId tables modems)
    EveryRowCounts topology sgId CmtsServiceGroupTopologyModel.dsChannels
        payload.dsChannels.channelIds ∧
      EveryRowCounts topology sgId CmtsServiceGroupTopologyModel.usChannels
        payload.usChannels.channelIds ↔
    FirstRowCovers topology sgId CmtsServiceGroupTopologyModel.dsChannels ∧
      FirstRowCovers topology sgId CmtsServiceGroupTopologyModel.usChannels := by
  intro payload
  have hds : payload.dsChannels.channelIds = normalizeChannels
      (((firstRow topology sgId).map CmtsServiceGroupTopologyModel.dsChannels).getD []) := by
    change normalizeChannels (extractChannels topology sgId).1 = _
    rw [extractChannels_eq]
  have hus : payload.usChannels.channelIds = normalizeChannels
      (((firstRow topology sgId).map CmtsServiceGroupTopologyModel.usChannels).getD []) := by
    change normalizeChannels (extractChannels topology sgId).2.1 = _
    rw [extractChannels_eq]
  rw [hds, hus]
  exact and_congr (everyRowCounts_iff topology sgId _) (everyRowCounts_iff topology sgId _)

/-- A service group that stands under two interfaces. -/
def twoRows : List CmtsServiceGroupTopologyModel :=
  [{ ifIndex := 7, nodeName := "N", mdCmSgId := 3, mdDsSgId := 11, mdUsSgId := 21
     dsExists := true, usExists := true, dsChSetId := 1, usChSetId := 1
     dsChannels := [1, 2], usChannels := [5] },
   { ifIndex := 8, nodeName := "N", mdCmSgId := 3, mdDsSgId := 12, mdUsSgId := 22
     dsExists := true, usExists := true, dsChSetId := 2, usChSetId := 2
     dsChannels := [2, 4], usChannels := [6] }]

/-- The channels of its second row are missing. -/
theorem every_row_counts_second :
    let payload := payloadOf (inventoryOf twoRows 3 {} [])
    payload.dsChannels.channelIds = [1, 2] ∧ payload.usChannels.channelIds = [5] ∧
    ¬ (EveryRowCounts twoRows 3 CmtsServiceGroupTopologyModel.dsChannels
        payload.dsChannels.channelIds ∧
      EveryRowCounts twoRows 3 CmtsServiceGroupTopologyModel.usChannels
        payload.usChannels.channelIds) := by
  intro payload
  have hds : payload.dsChannels.channelIds = [1, 2] := by decide
  refine ⟨hds, by decide, ?_⟩
  rintro ⟨h, -⟩
  have hfour := h.complete _ (List.mem_cons_of_mem _ List.mem_cons_self) rfl 4
    (List.mem_cons_of_mem _ List.mem_cons_self) (by decide)
  rw [hds] at hfour
  revert hfour
  decide

/-- Whatever has been collected, the payload is well formed. -/
theorem heavy_payload_wellFormed :
    WellFormed tables (payloadOf (inventoryOf topology sgId tables modems)) where
  ds := sideWellFormed_normalize _ (describedOnce_buildDsRfChannels tables _)
  us := sideWellFormed_normalize _ (describedOnce_buildUsRfChannels tables _)
  modems := modemsWellFormed_normalize modems

end Payload
end HeavyPoller
end PypnmCmts
