import PypnmCmts.HeavyPoller
import PypnmCmts.SgwMetadata

/-! What a light refresh does to the membership that a heavy one found. The heavy refresh tells
modems apart by all three addresses, the merge of the light one by the MAC address alone. -/
namespace PypnmCmts

/-- The placeholder light poller of `sgw/pollers/light.py`. -/
def sgwLightPoller (cableModems : List SgwCableModemModel) : List SgwCableModemModel := cableModems

namespace SgwCableModemModel

def addresses (modem : SgwCableModemModel) : MacAddressStr × IPv4Str × IPv6Str :=
  (modem.mac, modem.ipv4, modem.ipv6)

end SgwCableModemModel

open SgwCableModemModel

/-- A heavy refresh leaves no two rows with the same three addresses. -/
theorem HeavyPoller.nodup_normalizeModems (modems : List SgwCableModemModel) :
    ((HeavyPoller.normalizeModems modems).map addresses).Nodup := by
  have hperm := KeyedSort.sortBy_perm
    (fun modem : SgwCableModemModel => toLex (modem.mac, toLex (modem.ipv4, modem.ipv6)))
    (modems.foldl (fun seen modem =>
      if (seen.lookup (addresses modem)).isSome then seen
      else seen.insert (addresses modem) modem) OrderedDict.empty).values
  exact (hperm.map addresses).nodup_iff.mpr (OrderedDict.nodup_values_foldl_new addresses modems)

namespace SgwManager

/-- The row that the merge puts in the place of a row. -/
def replacement (updatedModems : List SgwCableModemModel) (modem : SgwCableModemModel) :
    SgwCableModemModel :=
  ((updatedModems.filter fun updated => updated.mac = modem.mac).getLast?).getD modem

theorem mergeLightUpdates_eq (existingModems updatedModems : List SgwCableModemModel) :
    mergeLightUpdates existingModems updatedModems =
      existingModems.map (replacement updatedModems) := by
  unfold mergeLightUpdates
  split
  next hnone =>
    subst hnone
    exact List.map_id'' (fun _ => rfl) existingModems |>.symm
  next =>
    apply List.map_congr_left
    intro modem _
    rw [OrderedDict.lookup_foldl_insert_key]
    exact congrArg (Option.getD · modem) (Option.or_none)

section Merge
variable {existingModems updatedModems : List SgwCableModemModel}

/-- With a row for each existing row, there is an update for each MAC address. -/
theorem exists_lastUpdate (hone : (updatedModems.map addresses).Perm (existingModems.map addresses))
    {modem : SgwCableModemModel} (hmodem : modem ∈ existingModems) :
    ∃ update ∈ updatedModems, update.mac = modem.mac ∧
      (updatedModems.filter fun updated => updated.mac = modem.mac).getLast? = some update := by
  have hmem : modem.addresses ∈ updatedModems.map addresses :=
    hone.mem_iff.mpr (List.mem_map_of_mem hmodem)
  obtain ⟨updated, hupdated, haddresses⟩ := List.mem_map.mp hmem
  have hfilter : updated ∈ updatedModems.filter fun updated => updated.mac = modem.mac :=
    List.mem_filter.mpr ⟨hupdated, decide_eq_true (Prod.ext_iff.mp haddresses).1⟩
  have hne := List.ne_nil_of_mem hfilter
  obtain ⟨hin, hmac⟩ := List.mem_filter.mp (List.getLast_mem hne)
  exact ⟨_, hin, of_decide_eq_true hmac, List.getLast?_eq_some_getLast hne⟩

theorem replacement_spec (hone : (updatedModems.map addresses).Perm (existingModems.map addresses))
    {modem : SgwCableModemModel} (hmodem : modem ∈ existingModems) :
    replacement updatedModems modem ∈ updatedModems ∧
      (replacement updatedModems modem).mac = modem.mac := by
  obtain ⟨update, hupdate, hmac, hlast⟩ := exists_lastUpdate hone hmodem
  rw [replacement, hlast, Option.getD_some]
  exact ⟨hupdate, hmac⟩

/-- Rows of one MAC address have one replacement. -/
theorem replacement_congr (hone : (updatedModems.map addresses).Perm (existingModems.map addresses))
    {modem modem' : SgwCableModemModel} (hmodem : modem ∈ existingModems)
    (hmac : modem.mac = modem'.mac) :
    replacement updatedModems modem = replacement updatedModems modem' := by
  obtain ⟨update, -, -, hlast⟩ := exists_lastUpdate hone hmodem
  rw [replacement, replacement, ← hmac, hlast, Option.getD_some, Option.getD_some]

/-- The merge keeps the addresses of distinct rows exactly if no MAC address occurs twice. -/
theorem merge_addresses_iff (hdistinct : (existingModems.map addresses).Nodup)
    (hone : (updatedModems.map addresses).Perm (existingModems.map addresses)) :
    (mergeLightUpdates existingModems updatedModems).map addresses =
      existingModems.map addresses ↔
      (existingModems.map fun modem => modem.mac).Nodup := by
  rw [mergeLightUpdates_eq, List.map_map]
  constructor
  · intro h
    have hkept := List.map_inj_left.mp h
    refine List.Nodup.map_on ?_ (List.Nodup.of_map _ hdistinct)
    intro modem hmodem modem' hmodem' hmac
    apply List.inj_on_of_nodup_map hdistinct hmodem hmodem'
    have hsame := replacement_congr hone hmodem hmac
    calc modem.addresses = (replacement updatedModems modem).addresses := (hkept modem hmodem).symm
      _ = (replacement updatedModems modem').addresses := by rw [hsame]
      _ = modem'.addresses := hkept modem' hmodem'
  · intro hmacs
    apply List.map_congr_left
    intro modem hmodem
    obtain ⟨hin, hmac⟩ := replacement_spec hone hmodem
    -- the update has the addresses of some row, and its MAC address tells which
    have hmem : (replacement updatedModems modem).addresses ∈ existingModems.map addresses :=
      hone.mem_iff.mp (List.mem_map_of_mem hin)
    obtain ⟨modem', hmodem', haddresses⟩ := List.mem_map.mp hmem
    have hmac' : modem'.mac = modem.mac := (Prod.ext_iff.mp haddresses).1.trans hmac
    have hsame := List.inj_on_of_nodup_map hmacs hmodem' hmodem hmac'
    rw [Function.comp_apply, ← haddresses, hsame]

/-- With the placeholder poller the merge is the identity exactly then. -/
theorem merge_placeholder_iff (hdistinct : (existingModems.map addresses).Nodup) :
    mergeLightUpdates existingModems (sgwLightPoller existingModems) = existingModems ↔
      (existingModems.map fun modem => modem.mac).Nodup := by
  constructor
  · intro h
    have hmap := congrArg (List.map addresses) h
    exact (merge_addresses_iff hdistinct (List.Perm.refl _)).mp hmap
  · intro hmacs
    have hone : ((sgwLightPoller existingModems).map addresses).Perm
        (existingModems.map addresses) := List.Perm.refl _
    rw [mergeLightUpdates_eq]
    have hid : existingModems.map (replacement (sgwLightPoller existingModems)) =
        existingModems.map id := by
      apply List.map_congr_left
      intro modem hmodem
      obtain ⟨hin, hmac⟩ := replacement_spec hone hmodem
      exact List.inj_on_of_nodup_map hmacs hin hmodem hmac
    rw [hid, List.map_id]

end Merge

/-- The modems of a group's snapshot after a light poll that was answered. -/
theorem cableModems_pollTurn_light (manager : SgwManager) {pollers : SgwPollers} {turn : SgwTurn}
    (hmode : turn.refreshMode = .light) {updatedModems : List SgwCableModemModel}
    (hanswer : pollers.light turn.sgId turn.entry.snapshot.cableModems = .ok updatedModems) :
    ((manager.pollTurn pollers turn).2.store.getEntry turn.sgId).map
      (fun entry => entry.snapshot.cableModems) =
      some (mergeLightUpdates turn.entry.snapshot.cableModems updatedModems) := by
  unfold pollTurn
  rw [hmode]
  simp only [hanswer]
  rw [getEntry_refreshLight, if_pos rfl]
  rfl

/-- A light refresh of what a heavy one found, polled with one row for each cached row under the
same addresses, keeps the sequence of the addresses exactly if no MAC address occurs twice; and
exactly then the placeholder poller keeps the rows themselves. -/
theorem light_refresh_membership_iff (manager : SgwManager) (pollers : SgwPollers)
    (turn : SgwTurn) (inventory : SgwHeavyInventoryModel) (hmode : turn.refreshMode = .light)
    (hsnapshot : turn.entry.snapshot.cableModems =
      (HeavyPoller.payloadOf inventory).cableModems)
    {updatedModems : List SgwCableModemModel}
    (hanswer : pollers.light turn.sgId turn.entry.snapshot.cableModems = .ok updatedModems)
    (hone : (updatedModems.map addresses).Perm
      (turn.entry.snapshot.cableModems.map addresses)) :
    let cached := turn.entry.snapshot.cableModems
    let refreshed := ((manager.pollTurn pollers turn).2.store.getEntry turn.sgId).map
      fun entry => entry.snapshot.cableModems
    (refreshed.map (List.map addresses) = some (cached.map addresses) ↔
      (cached.map fun modem => modem.mac).Nodup) ∧
    (updatedModems = sgwLightPoller cached →
      (refreshed = some cached ↔ (cached.map fun modem => modem.mac).Nodup)) := by
  intro cached refreshed
  have hdistinct : (cached.map addresses).Nodup := by
    have hcached : cached = (HeavyPoller.payloadOf inventory).cableModems := hsnapshot
    rw [hcached]
    exact HeavyPoller.nodup_normalizeModems inventory.cableModems
  have hrefreshed : refreshed = some (mergeLightUpdates cached updatedModems) :=
    cableModems_pollTurn_light manager hmode hanswer
  rw [hrefreshed, Option.map_some, Option.some_inj, Option.some_inj]
  refine ⟨merge_addresses_iff hdistinct hone, ?_⟩
  intro hplaceholder
  rw [hplaceholder]
  exact merge_placeholder_iff hdistinct

/-- One modem under two IPv4 addresses, as a CMTS can list it after it has moved. -/
def movedModem : SgwHeavyInventoryModel :=
  { cableModems :=
      [{ mac := "aa:bb:cc:dd:ee:01", ipv4 := "192.168.0.1" },
       { mac := "aa:bb:cc:dd:ee:01", ipv4 := "192.168.0.2" }] }

/-- The light turn of a group whose snapshot is that of an inventory. -/
def lightTurn (inventory : SgwHeavyInventoryModel) : SgwTurn where
  sgId := 1
  nowEpoch := 300
  entry := heavyRefreshed (newEntry 1 0) 0 (HeavyPoller.payloadOf inventory)
  refreshMode := .light
  sgId_entry := rfl

def placeholderPollers : SgwPollers where
  heavy _ := .ok {}
  light _ cableModems := .ok (sgwLightPoller cableModems)

/-- The placeholder poller loses the first address of the modem and doubles the second. -/
theorem light_refresh_doubles_row :
    let turn := lightTurn movedModem
    let manager := create .default .empty [1] fun _ _ => 0
    let refreshed := ((manager.pollTurn placeholderPollers turn).2.store.getEntry 1).map
      fun entry => entry.snapshot.cableModems
    (turn.entry.snapshot.cableModems.map addresses) =
        [("aa:bb:cc:dd:ee:01", "192.168.0.1", ""), ("aa:bb:cc:dd:ee:01", "192.168.0.2", "")] ∧
      refreshed.map (List.map addresses) =
        some [("aa:bb:cc:dd:ee:01", "192.168.0.2", ""),
          ("aa:bb:cc:dd:ee:01", "192.168.0.2", "")] ∧
      refreshed ≠ some turn.entry.snapshot.cableModems := by
  decide +kernel

/-- Modems under one address each, not in the order in which they are cached. -/
def settledModems : SgwHeavyInventoryModel :=
  { cableModems :=
      [{ mac := "aa:bb:cc:dd:ee:02", ipv4 := "192.168.0.1" },
       { mac := "aa:bb:cc:dd:ee:01", ipv4 := "192.168.0.3" },
       { mac := "aa:bb:cc:dd:ee:03", ipv4 := "192.168.0.2" }] }

theorem light_refresh_settledModem :
    let turn := lightTurn settledModems
    let manager := create .default .empty [1] fun _ _ => 0
    let refreshed := ((manager.pollTurn placeholderPollers turn).2.store.getEntry 1).map
      fun entry => entry.snapshot.cableModems
    refreshed.map (List.map addresses) =
        some (turn.entry.snapshot.cableModems.map addresses) ∧
      refreshed = some turn.entry.snapshot.cableModems := by
  intro turn manager refreshed
  have hiff := light_refresh_membership_iff manager placeholderPollers turn
    settledModems rfl rfl rfl
    (List.Perm.refl _)
  have hmacs : (turn.entry.snapshot.cableModems.map fun modem => modem.mac).Nodup := by
    decide +kernel
  exact ⟨hiff.1.mpr hmacs, (hiff.2 rfl).mpr hmacs⟩

end SgwManager
end PypnmCmts
