import PypnmCmts.NodeStatusIndex

/-! `listServiceGroups` as a join. The downstream and the upstream rows of docsIf3MdNodeStatus are
brought together by their keys, and a key that only one side has gets zero for the other side. -/
namespace PypnmCmts
namespace CmtsOperation

/-- The last value of a key. -/
def lastValue (rows : List (MdNodeStatus × ℤ)) (key : MdNodeStatus) : Option ℤ :=
  ((rows.filter fun row => row.1 = key).getLast?).map Prod.snd

def groupOf (key : MdNodeStatus) (dsSgId usSgId : ℤ) : CmtsServiceGroupModel :=
  { ifIndex := key.1, nodeName := key.2.1, mdCmSgId := key.2.2
    mdDsSgId := dsSgId, mdUsSgId := usSgId }

def groupKey (group : CmtsServiceGroupModel) : MdNodeStatus :=
  (group.ifIndex, group.nodeName, group.mdCmSgId)

/-- The order of the keys: interface, node name, service group. -/
def keyOrder (key : MdNodeStatus) : ℤ ×ₗ (String ×ₗ ℕ) := toLex (key.1, toLex (key.2.1, key.2.2))

/-- The full outer join of two lists of rows: one group for each key of either side, with the last
value of each side or else zero, in increasing order of the keys. -/
structure OuterJoin (dsRows usRows : List (MdNodeStatus × ℤ))
    (groups : List CmtsServiceGroupModel) : Prop where
  ordered : groups.Pairwise fun a b => keyOrder (groupKey a) < keyOrder (groupKey b)
  mem_keys : ∀ key, key ∈ groups.map groupKey ↔
    key ∈ dsRows.map Prod.fst ∨ key ∈ usRows.map Prod.fst
  ds : ∀ group ∈ groups, group.mdDsSgId = (lastValue dsRows (groupKey group)).getD 0
  us : ∀ group ∈ groups, group.mdUsSgId = (lastValue usRows (groupKey group)).getD 0

theorem lastValue_concat (rows : List (MdNodeStatus × ℤ)) (row : MdNodeStatus × ℤ)
    (key : MdNodeStatus) :
    lastValue (rows ++ [row]) key = if key = row.1 then some row.2 else lastValue rows key := by
  unfold lastValue
  rw [List.filter_append, List.filter_cons, List.filter_nil]
  by_cases hkey : key = row.1
  · rw [if_pos hkey, if_pos (decide_eq_true hkey.symm), List.getLast?_concat]
    rfl
  · rw [if_neg hkey, if_neg (by simpa using Ne.symm hkey), List.append_nil]

theorem lastValue_isSome_iff (rows : List (MdNodeStatus × ℤ)) (key : MdNodeStatus) :
    (lastValue rows key).isSome ↔ key ∈ rows.map Prod.fst := by
  unfold lastValue
  rw [Option.isSome_map, List.getLast?_isSome, List.mem_map]
  constructor
  · intro h
    obtain ⟨row, hrow⟩ := List.exists_mem_of_ne_nil _ h
    exact ⟨row, List.mem_of_mem_filter hrow, of_decide_eq_true (List.mem_filter.mp hrow).2⟩
  · rintro ⟨row, hrow, rfl⟩
    exact List.ne_nil_of_mem (List.mem_filter.mpr ⟨hrow, decide_eq_true rfl⟩)

/-- What is merged when the given rows of both sides have been read. -/
def Joined (dsRows usRows : List (MdNodeStatus × ℤ))
    (merged : OrderedDict MdNodeStatus CmtsServiceGroupModel) : Prop :=
  ∀ key, merged.lookup key =
    if (lastValue dsRows key).isSome ∨ (lastValue usRows key).isSome then
      some (groupOf key ((lastValue dsRows key).getD 0) ((lastValue usRows key).getD 0))
    else none

section Merging
variable {dsRows usRows : List (MdNodeStatus × ℤ)}
  {merged : OrderedDict MdNodeStatus CmtsServiceGroupModel}

theorem joined_empty : Joined [] [] OrderedDict.empty := fun _ => rfl

/-- A downstream row replaces what its key has, while no upstream row has been read. -/
theorem Joined.insert_ds (h : Joined dsRows [] merged) (row : MdNodeStatus × ℤ) :
    Joined (dsRows ++ [row]) [] (merged.insert row.1 (groupOf row.1 row.2 0)) := by
  intro key
  rw [OrderedDict.lookup_insert, lastValue_concat]
  by_cases hkey : key = row.1
  · rw [if_pos hkey, if_pos hkey, hkey]
    rfl
  · rw [if_neg hkey, if_neg hkey]
    exact h key

/-- An upstream row keeps the downstream value of its key. -/
theorem Joined.insert_us (h : Joined dsRows usRows merged) (row : MdNodeStatus × ℤ) :
    Joined dsRows (usRows ++ [row]) (match merged.lookup row.1 with
      | none => merged.insert row.1 (groupOf row.1 0 row.2)
      | some group => merged.insert row.1 { group with mdUsSgId := row.2 }) := by
  have hinsert (group : CmtsServiceGroupModel)
      (hgroup : group = groupOf row.1 ((lastValue dsRows row.1).getD 0) row.2) :
      Joined dsRows (usRows ++ [row]) (merged.insert row.1 group) := by
    intro key
    rw [OrderedDict.lookup_insert, lastValue_concat]
    by_cases hkey : key = row.1
    · rw [if_pos hkey, if_pos hkey, hkey, hgroup, if_pos (Or.inr Option.isSome_some)]
      rfl
    · rw [if_neg hkey, if_neg hkey]
      exact h key
  -- the branches of the source differ only in where the downstream value comes from
  have hrow := h row.1
  cases hlookup : merged.lookup row.1 with
  | none =>
    rw [hlookup] at hrow
    apply hinsert
    -- no group is merged under the key yet, so no downstream row had it
    have hds : lastValue dsRows row.1 = none := by
      by_contra hne
      rw [if_pos (Or.inl (Option.isSome_iff_ne_none.mpr hne))] at hrow
      cases hrow
    rw [hds]
    rfl
  | some group =>
    rw [hlookup] at hrow
    apply hinsert
    split at hrow
    · rw [Option.some.inj hrow]
      rfl
    · cases hrow

theorem Joined.foldl_ds (h : Joined dsRows [] merged) (rows : List (MdNodeStatus × ℤ)) :
    Joined (dsRows ++ rows) []
      (rows.foldl (fun merged row => merged.insert row.1 (groupOf row.1 row.2 0)) merged) := by
  induction rows generalizing dsRows merged with
  | nil => rwa [List.append_nil]
  | cons row rows ih =>
    rw [List.foldl_cons, List.append_cons]
    exact ih (h.insert_ds row)

theorem Joined.foldl_us (h : Joined dsRows usRows merged) (rows : List (MdNodeStatus × ℤ)) :
    Joined dsRows (usRows ++ rows) (rows.foldl (fun merged row =>
      match merged.lookup row.1 with
      | none => merged.insert row.1 (groupOf row.1 0 row.2)
      | some group => merged.insert row.1 { group with mdUsSgId := row.2 }) merged) := by
  induction rows generalizing usRows merged with
  | nil => rwa [List.append_nil]
  | cons row rows ih =>
    rw [List.foldl_cons, List.append_cons]
    exact ih (h.insert_us row)

end Merging

theorem groupKey_groupOf (key : MdNodeStatus) (dsSgId usSgId : ℤ) :
    groupKey (groupOf key dsSgId usSgId) = key := rfl

theorem keyOrder_injective : Function.Injective keyOrder := by
  intro a b h
  obtain ⟨hif, hrest⟩ := Prod.mk.inj (toLex_inj.mp h)
  obtain ⟨hname, hsg⟩ := Prod.mk.inj (toLex_inj.mp hrest)
  exact Prod.ext hif (Prod.ext hname hsg)

theorem joined_mergeServiceGroups (dsRows usRows : List (MdNodeStatus × ℤ)) :
    ∃ merged, Joined dsRows usRows merged ∧ mergeServiceGroups dsRows usRows =
      (KeyedSort.sortBy keyOrder merged.keys).filterMap merged.lookup :=
  ⟨_, (joined_empty.foldl_ds dsRows).foldl_us usRows, rfl⟩

/-- The merge of any two lists of rows is their full outer join. -/
theorem mergeServiceGroups_outerJoin (dsRows usRows : List (MdNodeStatus × ℤ)) :
    OuterJoin dsRows usRows (mergeServiceGroups dsRows usRows) := by
  obtain ⟨merged, hjoined, hmerge⟩ := joined_mergeServiceGroups dsRows usRows
  have hperm := KeyedSort.sortBy_perm keyOrder merged.keys
  have hkeys (key : MdNodeStatus) : key ∈ merged.keys ↔
      key ∈ dsRows.map Prod.fst ∨ key ∈ usRows.map Prod.fst := by
    rw [← OrderedDict.lookup_isSome_iff, hjoined key, ← lastValue_isSome_iff,
      ← lastValue_isSome_iff]
    split
    next h => exact iff_of_true ⟨_, rfl⟩ h
    next h => exact iff_of_false (fun ⟨_, hnone⟩ => by cases hnone) h
  have hlookup : ∀ key ∈ merged.keys, merged.lookup key =
      some (groupOf key ((lastValue dsRows key).getD 0) ((lastValue usRows key).getD 0)) := by
    intro key hkey
    have hside := (hkeys key).mp hkey
    rw [← lastValue_isSome_iff, ← lastValue_isSome_iff] at hside
    rw [hjoined key, if_pos hside]
  have hgroups : mergeServiceGroups dsRows usRows =
      (KeyedSort.sortBy keyOrder merged.keys).map fun key =>
        groupOf key ((lastValue dsRows key).getD 0) ((lastValue usRows key).getD 0) := by
    rw [hmerge, ← List.filterMap_eq_map]
    apply List.filterMap_congr
    intro key hkey
    exact hlookup key (hperm.mem_iff.mp hkey)
  rw [hgroups]
  constructor
  · -- the keys of a dictionary differ, so their order is strict
    have hnodup : (merged.keys.map keyOrder).Nodup := merged.nodup_keys.map keyOrder_injective
    rw [List.pairwise_map]
    exact KeyedSort.sortBy_lt hnodup
  · intro key
    rw [List.map_map]
    have hid : (groupKey ∘ fun key =>
        groupOf key ((lastValue dsRows key).getD 0) ((lastValue usRows key).getD 0)) = id :=
      funext fun key => groupKey_groupOf key _ _
    rw [hid, List.map_id, hperm.mem_iff, hkeys]
  · intro group hgroup
    obtain ⟨key, -, rfl⟩ := List.mem_map.mp hgroup
    rfl
  · intro group hgroup
    obtain ⟨key, -, rfl⟩ := List.mem_map.mp hgroup
    rfl

section Listing
open Attempt
variable {env : SnmpEnvironment}

def usSgIdColumn : String := "docsIf3MdNodeStatusMdUsSgId"

/-- The rows of a walk that have a key and a value. -/
def entriesOf (base : List ℕ) (rows : List (VarBind × String)) : List (MdNodeStatus × ℤ) :=
  rows.filterMap (readRow readKeySuffix Prod.mk base)

theorem collectMdNodeStatusValue_answers {oidBase : String} {base : List ℕ}
    (hbase : env.resolveOid oidBase = .ok base) {rows : List VarBind} {values : List String}
    (hwalk : Walked env oidBase rows values)
    (hquiet : ∀ row ∈ rows.zip values, ¬ Overflows (row.1.oid.drop base.length)) :
    Answers (collectMdNodeStatusValue env oidBase) (.ok (entriesOf base (rows.zip values))) :=
  ((collected_iff hbase hwalk).mpr hquiet).values

theorem collectMdNodeStatusValue_overflow {oidBase : String} {base : List ℕ}
    (hbase : env.resolveOid oidBase = .ok base) {rows : List VarBind} {values : List String}
    (hwalk : Walked env oidBase rows values)
    (hover : ¬ ∀ row ∈ rows.zip values, ¬ Overflows (row.1.oid.drop base.length)) :
    ∃ e, Answers (collectMdNodeStatusValue env oidBase) (.error e) := by
  push Not at hover
  obtain ⟨row, hrow, hover⟩ := hover
  exact reads_key.collect_raises hbase hwalk Prod.mk hrow hover

/-- Listing the service groups joins the rows of the two walks, exactly if no walked row has a
number of the node name that is not an octet. -/
theorem list_service_groups_iff {dsBase usBase : List ℕ}
    (hdsBase : env.resolveOid dsSgIdColumn = .ok dsBase)
    (husBase : env.resolveOid usSgIdColumn = .ok usBase)
    {dsRows usRows : List VarBind} {dsValues usValues : List String}
    (hds : Walked env dsSgIdColumn dsRows dsValues)
    (hus : Walked env usSgIdColumn usRows usValues) :
    (∃ groups, Answers (listServiceGroups env) (.ok groups) ∧
      OuterJoin (entriesOf dsBase (dsRows.zip dsValues)) (entriesOf usBase (usRows.zip usValues))
        groups) ↔
    (∀ row ∈ dsRows.zip dsValues, ¬ Overflows (row.1.oid.drop dsBase.length)) ∧
      ∀ row ∈ usRows.zip usValues, ¬ Overflows (row.1.oid.drop usBase.length) := by
  constructor
  · rintro ⟨groups, hgroups, -⟩
    by_contra h
    rw [not_and_or] at h
    by_cases hdsQuiet : ∀ row ∈ dsRows.zip dsValues, ¬ Overflows (row.1.oid.drop dsBase.length)
    · have husOver := h.resolve_left (not_not_intro hdsQuiet)
      obtain ⟨e, he⟩ := collectMdNodeStatusValue_overflow husBase hus husOver
      have hraise : Answers (listServiceGroups env) (.error e) :=
        (collectMdNodeStatusValue_answers hdsBase hds hdsQuiet).bind (he.bind_error _)
      cases hgroups.unique hraise
    · obtain ⟨e, he⟩ := collectMdNodeStatusValue_overflow hdsBase hds hdsQuiet
      have hraise : Answers (listServiceGroups env) (.error e) := he.bind_error _
      cases hgroups.unique hraise
  · rintro ⟨hdsQuiet, husQuiet⟩
    refine ⟨_, ?_, mergeServiceGroups_outerJoin _ _⟩
    exact (collectMdNodeStatusValue_answers hdsBase hds hdsQuiet).bind
      ((collectMdNodeStatusValue_answers husBase hus husQuiet).bind (.pure _))

/-- A CMTS with the given rows in the two columns. -/
def joinEnvironment (dsRows usRows : List VarBind) : SnmpEnvironment :=
  { statusEnvironment [] with
    answer := fun _ request => if request = .walk dsSgIdColumn then .ok dsRows else .ok usRows }

/-- A key twice downstream, another one upstream only, and a row that is too short. -/
theorem list_service_groups_oneSided :
    let dsRows : List VarBind := [⟨encodeIndex statusColumn 7 "N" 3, "11"⟩,
      ⟨encodeIndex statusColumn 7 "N" 3, "12"⟩]
    let usRows : List VarBind := [⟨encodeIndex statusColumn 7 "N" 2, "21"⟩,
      ⟨statusColumn ++ [7, 2, 78, 49], "22"⟩]
    ∃ groups, Answers (listServiceGroups (joinEnvironment dsRows usRows)) (.ok groups) ∧
      OuterJoin (entriesOf statusColumn (dsRows.zip ["11", "12"]))
        (entriesOf statusColumn (usRows.zip ["21", "22"])) groups := by
  intro dsRows usRows
  have hds : Walked (joinEnvironment dsRows usRows) dsSgIdColumn dsRows ["11", "12"] :=
    ⟨fun _ => rfl, rfl⟩
  have hus : Walked (joinEnvironment dsRows usRows) usSgIdColumn usRows ["21", "22"] :=
    ⟨fun _ => rfl, rfl⟩
  refine (list_service_groups_iff rfl rfl hds hus).mpr ⟨?_, ?_⟩
  · intro row hrow
    rcases List.mem_pair.mp hrow with rfl | rfl
    · exact not_overflows_encodeIndex statusColumn 7 "N" 3
    · exact not_overflows_encodeIndex statusColumn 7 "N" 3
  · intro row hrow
    rcases List.mem_pair.mp hrow with rfl | rfl
    · exact not_overflows_encodeIndex statusColumn 7 "N" 2
    · exact not_overflows_of_tooShort (le_refl 2)

/-- A row that does not parse is not left out: the group of the row before it is lost. -/
theorem list_service_groups_raises :
    let dsRows : List VarBind := [⟨encodeIndex statusColumn 7 "N" 3, "11"⟩,
      ⟨statusColumn ++ [7, 1, 300, 3], "12"⟩]
    ((listServiceGroups (joinEnvironment dsRows [])).run {}).1 =
        .error "bytes must be in range(0, 256)" ∧
      ¬ ∃ groups, Answers (listServiceGroups (joinEnvironment dsRows [])) (.ok groups) := by
  intro dsRows
  have hraise : ((listServiceGroups (joinEnvironment dsRows [])).run {}).1 =
      .error "bytes must be in range(0, 256)" := by decide +kernel
  refine ⟨hraise, ?_⟩
  rintro ⟨groups, hgroups⟩
  cases hraise.symm.trans (hgroups {})

end Listing
end CmtsOperation
end PypnmCmts
