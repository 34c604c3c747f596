import PypnmCmts.RxMerResults

/-! What becomes of the stage records of a modem in the structured results. The records are
gathered by the address alone, so a modem that occurs in two service groups is reported once. -/
namespace PypnmCmts
namespace RxMerResults

section Decoding

theorem mem_appendNew {α : Type} [DecidableEq α] (seen values : List α) (a : α) :
    a ∈ appendNew seen values ↔ a ∈ seen ∨ a ∈ values := by
  unfold appendNew
  induction values generalizing seen with
  | nil => simp
  | cons value values ih =>
    rw [List.foldl_cons, ih, List.mem_cons]
    by_cases hvalue : value ∈ seen
    · rw [if_pos hvalue]
      constructor
      · rintro (h | h)
        · exact Or.inl h
        · exact Or.inr (Or.inr h)
      · rintro (h | rfl | h)
        · exact Or.inl h
        · exact Or.inl hvalue
        · exact Or.inr h
    · rw [if_neg hvalue, List.mem_append, List.mem_singleton, or_assoc]

theorem mem_modemTransactionIds (records : List PerModemLinkageRecordModel) (t : TransactionId) :
    t ∈ modemTransactionIds records ↔ ∃ r ∈ sourceRecords records, t ∈ r.transactionIds := by
  have hfold (rs : List PerModemLinkageRecordModel) (seen : List TransactionId) :
      t ∈ rs.foldl (fun seen record => appendNew seen record.transactionIds) seen ↔
        t ∈ seen ∨ ∃ r ∈ rs, t ∈ r.transactionIds := by
    induction rs generalizing seen with
    | nil => simp
    | cons r rs ih => rw [List.foldl_cons, ih, mem_appendNew, List.exists_mem_cons_iff, or_assoc]
  have hsource := hfold (sourceRecords records) []
  simpa [modemTransactionIds] using hsource

/-- A successful capture of a transaction. -/
def Captures (record : PerModemLinkageRecordModel) (t : TransactionId) : Prop :=
  record.stage = .capture ∧ record.statusCode = .success ∧ t ∈ record.transactionIds

theorem mem_capturedTransactionIds (records : List PerModemLinkageRecordModel)
    (t : TransactionId) : t ∈ capturedTransactionIds records ↔ ∃ r ∈ records, Captures r t := by
  simp [capturedTransactionIds, List.mem_flatMap, Captures, and_assoc]

variable {Value : Type} (values : PayloadValues Value)
  (stored : TransactionId → StoredAnalysis Value)

theorem lookup_analyzeTransactionsBasic (ids : List TransactionId) (t : TransactionId) :
    (analyzeTransactionsBasic stored ids).lookup t =
      if t ∈ ids then some (analyzeTransactionBasic stored t) else none := by
  have hmem := mem_appendNew [] ids t
  simp only [List.not_mem_nil, false_or] at hmem
  simp only [← hmem, analyzeTransactionsBasic]
  split
  next h =>
    rw [h, if_neg List.not_mem_nil]
    rfl
  next u h =>
    rw [h, OrderedDict.lookup_insert]
    by_cases ht : t = u
    · subst ht
      simp [analyzeTransactionBasic]
    · simp [analyzeTransactionBasic, ht, OrderedDict.lookup, OrderedDict.empty]
  next =>
    rw [OrderedDict.lookup_foldl_insert]
    rfl

theorem lookup_decodeRecordsBasicAnalysis (request : Option RxMerServiceGroupResultsRequest)
    (records : List PerModemLinkageRecordModel) (t : TransactionId) :
    (decodeRecordsBasicAnalysis stored request records).lookup t =
      if analysisRequested request = true ∧ t ∈ capturedTransactionIds records
      then some (analyzeTransactionBasic stored t) else none := by
  unfold decodeRecordsBasicAnalysis
  by_cases hrequest : analysisRequested request = false
  · rw [if_pos hrequest, if_neg (by simp [hrequest])]
    rfl
  · have hrequested := Bool.eq_true_of_not_eq_false hrequest
    rw [if_neg hrequest]
    by_cases hnone : capturedTransactionIds records = []
    · rw [if_pos hnone, if_neg (by simp [hnone])]
      rfl
    · rw [if_neg hnone, lookup_analyzeTransactionsBasic]
      simp [hrequested]

/-- Of the decoded transactions, the entry of a modem is about its own only. -/
theorem modemEntry_congr
    {d d' : OrderedDict TransactionId (PnmStoredCaptureAnalysisResultModel Value)}
    (request : Option RxMerServiceGroupResultsRequest) (mac : MacAddressStr)
    {records : List PerModemLinkageRecordModel}
    (h : ∀ t ∈ modemTransactionIds records, d.lookup t = d'.lookup t) :
    modemEntry values d request mac records = modemEntry values d' request mac records := by
  have hfind {β : Type} (f f' : TransactionId → Option β) (ids : List TransactionId)
      (hf : ∀ t ∈ ids, f t = f' t) : ids.findSome? f = ids.findSome? f' := by
    induction ids with
    | nil => rfl
    | cons t ids ih =>
      rw [List.findSome?_cons, List.findSome?_cons, hf t List.mem_cons_self,
        ih fun u hu => hf u (List.mem_cons_of_mem _ hu)]
  have hanalysis (status : PnmCaptureStatus) :
      resolveModemAnalysis d request status (modemTransactionIds records) =
        resolveModemAnalysis d' request status (modemTransactionIds records) := by
    unfold resolveModemAnalysis
    rw [hfind _ _ _ fun t ht => by rw [h t ht]]
  have hdescription (analyzed : Option TransactionId)
      (hanalyzed : ∀ t, analyzed = some t → t ∈ modemTransactionIds records) :
      resolveModemSystemDescription values d (modemTransactionIds records) analyzed =
        resolveModemSystemDescription values d' (modemTransactionIds records) analyzed := by
    unfold resolveModemSystemDescription
    dsimp only
    rw [hfind]
    intro t ht
    have hown : t ∈ modemTransactionIds records := by
      rcases List.mem_append.mp ht with ht | ht
      · exact hanalyzed t (Option.mem_toList.mp ht)
      · exact List.mem_of_mem_filter ht
    rw [h t hown]
  have hfound (status : PnmCaptureStatus) (t : TransactionId)
      (ht : (resolveModemAnalysis d' request status (modemTransactionIds records)).map
        (fun found => found.1) = some t) : t ∈ modemTransactionIds records := by
    obtain ⟨found, hresolved, heq⟩ := Option.map_eq_some_iff.mp ht
    unfold resolveModemAnalysis at hresolved
    split at hresolved
    · cases hresolved
    · split at hresolved
      · cases hresolved
      · obtain ⟨u, hu, hdecoded⟩ := List.exists_of_findSome?_eq_some hresolved
        obtain ⟨decoded, -, hpair⟩ := Option.map_eq_some_iff.mp hdecoded
        rw [← heq, ← hpair]
        exact hu
  unfold modemEntry
  dsimp only
  rw [hanalysis, hdescription _ (hfound _)]

end Decoding

section Grouping
variable {Value : Type}

abbrev ModemRow (Value : Type) := Option ServiceGroupId × RxMerResultsCableModemModel Value

def channelRows (sgId : Option ServiceGroupId) (channel : RxMerResultsChannelModel Value) :
    List (ModemRow Value) := channel.cableModems.map fun modem => (sgId, modem)

/-- The modems of the structured results, each with the group it stands in. -/
def resultRows (results : RxMerServiceGroupResultsModel Value) : List (ModemRow Value) :=
  results.servingGroups.flatMap fun group =>
    group.channels.flatMap (channelRows group.serviceGroupId)

/-- A channel belongs to the group of its key, and the channels together hold every row once. -/
theorem groupModems_spec (rows : List (GroupKey × RxMerResultsCableModemModel Value))
    (d : OrderedDict GroupKey (RxMerResultsChannelModel Value))
    (hd : ∀ e ∈ d.entries, e.2.serviceGroupId = e.1.1) :
    let d' := rows.foldl (fun d row => addModem d row.1 row.2) d
    (∀ e ∈ d'.entries, e.2.serviceGroupId = e.1.1) ∧
      (d'.entries.flatMap fun e => channelRows e.1.1 e.2).Perm
        ((d.entries.flatMap fun e => channelRows e.1.1 e.2) ++
          rows.map fun row => (row.1.1, row.2)) := by
  induction rows generalizing d with
  | nil => exact ⟨hd, by rw [List.map_nil, List.append_nil]; rfl⟩
  | cons row rows ih =>
    have hgroup : ∀ e ∈ (addModem d row.1 row.2).entries, e.2.serviceGroupId = e.1.1 := by
      intro e he
      rcases OrderedDict.mem_entries_insert.mp he with rfl | ⟨-, he⟩
      · cases hlookup : d.lookup row.1 with
        | none => rfl
        | some channel =>
          have hold := hd (row.1, channel) ((d.lookup_eq_some_iff row.1 channel).mp hlookup)
          exact hold
      · exact hd e he
    have hadd : ((addModem d row.1 row.2).entries.flatMap fun e => channelRows e.1.1 e.2).Perm
        ((d.entries.flatMap fun e => channelRows e.1.1 e.2) ++ [(row.1.1, row.2)]) := by
      apply OrderedDict.perm_flatMap_insert
      cases hlookup : d.lookup row.1 with
      | none => rfl
      | some channel => simp [channelRows]
    obtain ⟨hkeys, hrows⟩ := ih _ hgroup
    refine ⟨hkeys, hrows.trans ?_⟩
    rw [List.map_cons]
    refine (hadd.append_right _).trans ?_
    rw [List.append_assoc, List.singleton_append]

theorem groupChannels_perm (channels : List (RxMerResultsChannelModel Value))
    (d : OrderedDict (Option ServiceGroupId) (List (RxMerResultsChannelModel Value))) :
    ((channels.foldl (fun d c => d.push c.serviceGroupId c) d).entries.flatMap fun e =>
      e.2.flatMap (channelRows e.1)).Perm
      ((d.entries.flatMap fun e => e.2.flatMap (channelRows e.1)) ++
        channels.flatMap fun c => channelRows c.serviceGroupId c) := by
  induction channels generalizing d with
  | nil => rw [List.flatMap_nil, List.append_nil]; rfl
  | cons c channels ih =>
    have hpush : ((d.push c.serviceGroupId c).entries.flatMap fun e =>
        e.2.flatMap (channelRows e.1)).Perm
        ((d.entries.flatMap fun e => e.2.flatMap (channelRows e.1)) ++
          channelRows c.serviceGroupId c) := by
      apply OrderedDict.perm_flatMap_insert
      cases hlookup : d.lookup c.serviceGroupId with
      | none => simp
      | some cs => simp
    refine (ih _).trans ?_
    rw [List.flatMap_cons, ← List.append_assoc]
    exact hpush.append_right _

/-- Sorting the groups and looking them up again loses no channel. -/
theorem rows_buildServingGroups (channels : List (RxMerResultsChannelModel Value)) :
    ((buildServingGroupsFromChannels channels).flatMap fun group =>
      group.channels.flatMap (channelRows group.serviceGroupId)).Perm
      (channels.flatMap fun c => channelRows c.serviceGroupId c) := by
  have hgrouped := groupChannels_perm channels OrderedDict.empty
  simp only [buildServingGroupsFromChannels, List.flatMap_map]
  generalize channels.foldl (fun d c => d.push c.serviceGroupId c) OrderedDict.empty = d
    at hgrouped ⊢
  refine ((KeyedSort.sortBy_perm orderOf d.keys).flatMap_right _).trans ?_
  have hentries : (d.keys.flatMap fun sgId => ((d.lookup sgId).getD []).flatMap
      (channelRows sgId)) = d.entries.flatMap fun e => e.2.flatMap (channelRows e.1) := by
    have hread := congrArg (fun l => l.flatMap fun e : Option ServiceGroupId ×
      Option (List (RxMerResultsChannelModel Value)) =>
        (e.2.getD []).flatMap (channelRows e.1)) d.map_lookup_keys
    simpa only [List.flatMap_map, Option.getD_some] using hread
  rw [hentries]
  exact hgrouped

/-- The channels in sorted order are the channels of the dictionary. -/
theorem sortedChannels_perm (d : OrderedDict GroupKey (RxMerResultsChannelModel Value)) :
    ((KeyedSort.sortBy groupOrder d.keys).filterMap d.lookup).Perm d.values := by
  refine ((KeyedSort.sortBy_perm groupOrder d.keys).filterMap _).trans ?_
  have hread := congrArg (fun l => l.filterMap fun e : GroupKey ×
    Option (RxMerResultsChannelModel Value) => e.2) d.map_lookup_keys
  simp only [List.filterMap_map] at hread
  have hvalues : d.keys.filterMap d.lookup = d.values := by
    rw [OrderedDict.values, ← List.filterMap_eq_map]
    exact hread
  rw [hvalues]

end Grouping

section Rows
variable {Value : Type} (values : PayloadValues Value)
  (stored : TransactionId → StoredAnalysis Value)
  (request : Option RxMerServiceGroupResultsRequest)

theorem lookup_modemRecords (records : List PerModemLinkageRecordModel) (mac : MacAddressStr) :
    ((modemRecords records).lookup mac).getD [] =
      records.filter fun record => record.macAddress = mac := by
  have hfold := OrderedDict.lookup_foldl_push
    (records.map fun record => (record.macAddress, record)) OrderedDict.empty mac
  rw [List.foldl_map, List.filter_map, List.map_map] at hfold
  rw [modemRecords, hfold]
  simp [OrderedDict.lookup, OrderedDict.empty, Function.comp_def]

theorem mem_keys_modemRecords (records : List PerModemLinkageRecordModel) (mac : MacAddressStr) :
    mac ∈ (modemRecords records).keys ↔ ∃ record ∈ records, record.macAddress = mac := by
  have hfold := OrderedDict.mem_keys_foldl_push
    (records.map fun record => (record.macAddress, record)) OrderedDict.empty mac
  rw [List.foldl_map] at hfold
  rw [modemRecords, hfold]
  simp

/-- The group that a modem is reported in, and its entry. -/
def reportedRow (records : List PerModemLinkageRecordModel) (mac : MacAddressStr) :
    ModemRow Value :=
  let own := records.filter fun record => record.macAddress = mac
  let row := modemRow values request (decodeRecordsBasicAnalysis stored request records) mac own
  (row.1.1, row.2)

/-- The structured results hold one row for each address. -/
theorem resultRows_perm (records : List PerModemLinkageRecordModel)
    (cmtsHostname : Option String) :
    (resultRows (buildStructuredResults values stored records request cmtsHostname)).Perm
      ((modemRecords records).keys.map (reportedRow values stored request records)) := by
  unfold resultRows buildStructuredResults
  dsimp only
  refine (rows_buildServingGroups _).trans ?_
  generalize hrows : ((KeyedSort.sortBy id (modemRecords records).keys).map fun mac =>
    modemRow values request (decodeRecordsBasicAnalysis stored request records) mac
      (((modemRecords records).lookup mac).getD [])) = rows
  have hspec := groupModems_spec rows OrderedDict.empty (fun e he => by cases he)
  rw [OrderedDict.entries_empty, List.flatMap_nil, List.nil_append] at hspec
  obtain ⟨hgroup, hall⟩ := hspec
  refine ((sortedChannels_perm _).flatMap_right _).trans ?_
  have hvalues : ((groupModems rows).values.flatMap fun c => channelRows c.serviceGroupId c) =
      (groupModems rows).entries.flatMap fun e => channelRows e.1.1 e.2 := by
    rw [OrderedDict.values, List.flatMap_map]
    apply List.flatMap_congr
    intro e he
    rw [hgroup e he]
  rw [hvalues]
  refine hall.trans ?_
  rw [← hrows, List.map_map]
  refine ((KeyedSort.sortBy_perm id _).map _).trans (List.Perm.of_eq ?_)
  apply List.map_congr_left
  intro mac _
  simp only [Function.comp_apply, lookup_modemRecords, reportedRow]

end Rows

/-- The records of a modem within one service group. -/
def ownRecords (records : List PerModemLinkageRecordModel) (sgId : ServiceGroupId)
    (mac : MacAddressStr) : List PerModemLinkageRecordModel :=
  records.filter fun record => record.sgId = sgId ∧ record.macAddress = mac

/-- The record of the most advanced stage, and the latest of these. -/
def FinalRecord (records : List PerModemLinkageRecordModel)
    (record : PerModemLinkageRecordModel) : Prop :=
  (∀ r ∈ records, stageOrder r.stage ≤ stageOrder record.stage) ∧
    (records.filter fun r => r.stage = record.stage).getLast? = some record

/-- Each pair of the records stands in the results once, under its group, with the entry that its
own records alone give, whose status is that of their final record; and no other pair does. -/
structure Attributed {Value : Type} (values : PayloadValues Value)
    (stored : TransactionId → StoredAnalysis Value)
    (request : Option RxMerServiceGroupResultsRequest)
    (records : List PerModemLinkageRecordModel)
    (results : RxMerServiceGroupResultsModel Value) : Prop where
  once : ∀ record ∈ records,
    let own := ownRecords records record.sgId record.macAddress
    (resultRows results).filter (fun row =>
      row.1 = some record.sgId ∧ row.2.macAddress = some record.macAddress) =
      [(some record.sgId, (modemEntry values (decodeRecordsBasicAnalysis stored request own) request
        record.macAddress own).2)]
  final : ∀ row ∈ resultRows results, ∀ sgId mac,
    row.1 = some sgId → row.2.macAddress = some mac →
    ∃ record, FinalRecord (ownRecords records sgId mac) record ∧
      (row.2.status = .success ↔ record.statusCode = .success)
  nothingElse : ∀ row ∈ resultRows results, ∃ record ∈ records,
    row.1 = some record.sgId ∧ row.2.macAddress = some record.macAddress

/-- No address occurs under two service groups. -/
def OneGroupPerModem (records : List PerModemLinkageRecordModel) : Prop :=
  ∀ r ∈ records, ∀ r' ∈ records, r.macAddress = r'.macAddress → r.sgId = r'.sgId

/-- A transaction that some capture of the operation brought in was brought in by a capture of
each modem that names it. -/
def OwnTransactions (records : List PerModemLinkageRecordModel) : Prop :=
  ∀ sgId mac, ∀ r ∈ sourceRecords (ownRecords records sgId mac), ∀ t ∈ r.transactionIds,
    (∃ r' ∈ records, Captures r' t) → ∃ r' ∈ ownRecords records sgId mac, Captures r' t

theorem finalRecord_of_select {records : List PerModemLinkageRecordModel}
    {record : PerModemLinkageRecordModel} (h : selectFinalStageRecord records = some record) :
    FinalRecord records record := by
  obtain ⟨hmax, hlast⟩ := KeyedSort.getLast?_sortBy _ _ h
  refine ⟨hmax, ?_⟩
  have hstage (r : PerModemLinkageRecordModel) :
      stageOrder r.stage = stageOrder record.stage ↔ r.stage = record.stage := by
    cases r.stage <;> cases record.stage <;> decide
  simpa only [hstage] using hlast

section Attribution
variable {Value : Type} {values : PayloadValues Value}
  {stored : TransactionId → StoredAnalysis Value}
  {request : Option RxMerServiceGroupResultsRequest} {records : List PerModemLinkageRecordModel}

/-- With one group for each modem, the records of an address are those of the pair. -/
theorem ownRecords_eq (hone : OneGroupPerModem records) {record : PerModemLinkageRecordModel}
    (hrecord : record ∈ records) :
    ownRecords records record.sgId record.macAddress =
      records.filter fun r => r.macAddress = record.macAddress := by
  apply List.filter_congr
  intro r hr
  have hgroup : r.macAddress = record.macAddress → r.sgId = record.sgId :=
    hone r hr record hrecord
  simpa using hgroup

theorem mem_ownRecords {record : PerModemLinkageRecordModel} (hrecord : record ∈ records) :
    record ∈ ownRecords records record.sgId record.macAddress := by
  simp [ownRecords, hrecord]

/-- The group in which a modem is reported is that of one of its records. -/
theorem reportedRow_group (values : PayloadValues Value)
    (stored : TransactionId → StoredAnalysis Value)
    (request : Option RxMerServiceGroupResultsRequest) {mac : MacAddressStr}
    (hmac : mac ∈ (modemRecords records).keys) :
    ∃ record ∈ records, record.macAddress = mac ∧
      (reportedRow values stored request records mac).1 = some record.sgId := by
  obtain ⟨r, hr, hrmac⟩ := (mem_keys_modemRecords records mac).mp hmac
  have hmem : r ∈ records.filter fun record => record.macAddress = mac := by
    simp [hr, hrmac]
  cases hown : records.filter fun record => record.macAddress = mac with
  | nil =>
    rw [hown] at hmem
    cases hmem
  | cons first rest =>
    have hfirst : first ∈ records.filter fun record => record.macAddress = mac := by
      rw [hown]
      exact List.mem_cons_self
    obtain ⟨hfirst, hfirstmac⟩ := List.mem_filter.mp hfirst
    refine ⟨first, hfirst, by simpa using hfirstmac, ?_⟩
    simp [reportedRow, modemRow, hown]

theorem reportedRow_of_record (values : PayloadValues Value)
    (stored : TransactionId → StoredAnalysis Value)
    (request : Option RxMerServiceGroupResultsRequest) (hone : OneGroupPerModem records)
    {record : PerModemLinkageRecordModel} (hrecord : record ∈ records) :
    reportedRow values stored request records record.macAddress =
      (some record.sgId, (modemEntry values (decodeRecordsBasicAnalysis stored request records)
        request record.macAddress (ownRecords records record.sgId record.macAddress)).2) := by
  have hmac : record.macAddress ∈ (modemRecords records).keys :=
    (mem_keys_modemRecords records _).mpr ⟨record, hrecord, rfl⟩
  obtain ⟨r, hr, hrmac, hgroup⟩ := reportedRow_group values stored request hmac
  rw [hone r hr record hrecord hrmac] at hgroup
  rw [ownRecords_eq hone hrecord]
  exact Prod.ext hgroup rfl

/-- With one group for each modem, the rows of a pair are its one row. -/
theorem filter_resultRows (hone : OneGroupPerModem records) {record : PerModemLinkageRecordModel}
    (hrecord : record ∈ records) (cmtsHostname : Option String) :
    (resultRows (buildStructuredResults values stored records request cmtsHostname)).filter
      (fun row => row.1 = some record.sgId ∧ row.2.macAddress = some record.macAddress) =
      [reportedRow values stored request records record.macAddress] := by
  have hrow := reportedRow_of_record values stored request hone hrecord
  have hmac : record.macAddress ∈ (modemRecords records).keys :=
    (mem_keys_modemRecords records _).mpr ⟨record, hrecord, rfl⟩
  apply List.perm_singleton.mp
  refine ((resultRows_perm values stored request records cmtsHostname).filter _).trans ?_
  rw [List.filter_map]
  have hfilter : (modemRecords records).keys.filter ((fun row : ModemRow Value =>
      decide (row.1 = some record.sgId ∧ row.2.macAddress = some record.macAddress)) ∘
      reportedRow values stored request records) =
      (modemRecords records).keys.filter fun mac => mac = record.macAddress := by
    apply List.filter_congr
    intro mac _
    have hname : (reportedRow values stored request records mac).2.macAddress = some mac := rfl
    simp only [Function.comp_apply, hname, Option.some.injEq, decide_eq_decide]
    constructor
    · exact fun h => h.2
    · rintro rfl
      exact ⟨by rw [hrow], rfl⟩
  have hcount : (modemRecords records).keys.count record.macAddress = 1 :=
    List.count_eq_one_of_mem (modemRecords records).nodup_keys hmac
  have hkey : (modemRecords records).keys.filter (fun mac => mac = record.macAddress) =
      [record.macAddress] := by
    have hfilter_eq := List.filter_eq (l := (modemRecords records).keys) record.macAddress
    rw [hcount, List.replicate_one] at hfilter_eq
    simpa [eq_comm] using hfilter_eq
  rw [hfilter, hkey]
  rfl

theorem mem_resultRows {cmtsHostname : Option String} {row : ModemRow Value}
    (h : row ∈ resultRows (buildStructuredResults values stored records request cmtsHostname)) :
    ∃ mac ∈ (modemRecords records).keys, row = reportedRow values stored request records mac := by
  have hmem := (resultRows_perm values stored request records cmtsHostname).mem_iff.mp h
  obtain ⟨mac, hmac, heq⟩ := List.mem_map.mp hmem
  exact ⟨mac, hmac, heq.symm⟩

/-- A pair that stands in the results stands under the group in which its modem is reported. -/
theorem reportedRow_of_once {cmtsHostname : Option String}
    (h : Attributed values stored request records
      (buildStructuredResults values stored records request cmtsHostname))
    {record : PerModemLinkageRecordModel} (hrecord : record ∈ records) :
    (reportedRow values stored request records record.macAddress).1 = some record.sgId := by
  have honce := h.once record hrecord
  dsimp only at honce
  have hrow := List.mem_singleton.mpr (rfl : (some record.sgId, (modemEntry values
    (decodeRecordsBasicAnalysis stored request
      (ownRecords records record.sgId record.macAddress)) request record.macAddress
      (ownRecords records record.sgId record.macAddress)).2) = _)
  rw [← honce, List.mem_filter] at hrow
  obtain ⟨mac, -, heq⟩ := mem_resultRows hrow.1
  have hname : some record.macAddress = some mac :=
    congrArg (fun row : ModemRow Value => row.2.macAddress) heq
  rw [Option.some.inj hname, ← heq]

theorem selectFinalStageRecord_isSome (hne : records ≠ []) :
    ∃ record, selectFinalStageRecord records = some record := by
  have hsorted : KeyedSort.sortBy (fun record => stageOrder record.stage) records ≠ [] := by
    intro hnil
    have hperm := KeyedSort.sortBy_perm (fun record => stageOrder record.stage) records
    rw [hnil] at hperm
    exact hne hperm.nil_eq.symm
  exact ⟨_, List.getLast?_eq_some_getLast hsorted⟩

/-- What was decoded for the operation is, for the transactions of a pair, what is decoded for the
pair. -/
theorem lookup_decode_own (stored : TransactionId → StoredAnalysis Value)
    (hown : analysisRequested request = true → OwnTransactions records)
    (sgId : ServiceGroupId) (mac : MacAddressStr) {t : TransactionId}
    (ht : t ∈ modemTransactionIds (ownRecords records sgId mac)) :
    (decodeRecordsBasicAnalysis stored request records).lookup t =
      (decodeRecordsBasicAnalysis stored request (ownRecords records sgId mac)).lookup t := by
  rw [lookup_decodeRecordsBasicAnalysis, lookup_decodeRecordsBasicAnalysis]
  by_cases hrequest : analysisRequested request = true
  · have hiff : t ∈ capturedTransactionIds records ↔
        t ∈ capturedTransactionIds (ownRecords records sgId mac) := by
      rw [mem_capturedTransactionIds, mem_capturedTransactionIds]
      constructor
      · obtain ⟨r, hr, hrt⟩ := (mem_modemTransactionIds _ t).mp ht
        exact hown hrequest sgId mac r hr t hrt
      · rintro ⟨r, hr, hcaptures⟩
        exact ⟨r, List.mem_of_mem_filter hr, hcaptures⟩
    simp only [hiff]
  · rw [if_neg fun h => hrequest h.1, if_neg fun h => hrequest h.1]

/-- A package that knows the description of one transaction and nothing else. -/
def describing [Inhabited Value] (t u : TransactionId) : StoredAnalysis Value :=
  if u = t then { systemDescription := some (OrderedDict.empty.insert "" default) } else {}

theorem systemDescription_describing [Inhabited Value] (hrequest : analysisRequested request = true)
    (ids : List TransactionId) (analyzed : Option TransactionId) (t : TransactionId) :
    (resolveModemSystemDescription values
      (decodeRecordsBasicAnalysis (describing t) request records) ids analyzed).isSome = true ↔
      (t ∈ ids ∨ analyzed = some t) ∧ t ∈ capturedTransactionIds records := by
  have hlookup (u : TransactionId) :
      ((decodeRecordsBasicAnalysis (describing t) request records).lookup u).bind
        (fun decoded => decoded.systemDescription) =
        if u = t ∧ t ∈ capturedTransactionIds records
        then some (OrderedDict.empty.insert "" (default : Value)) else none := by
    rw [lookup_decodeRecordsBasicAnalysis]
    by_cases hu : u = t
    · subst hu
      by_cases hcaptured : u ∈ capturedTransactionIds records
      · simp [hrequest, hcaptured, analyzeTransactionBasic, describing]
      · simp [hcaptured]
    · simp only [hu, false_and, if_false]
      split
      · simp [analyzeTransactionBasic, describing, hu]
      · rfl
  have hselected : (t ∈ analyzed.toList ++ ids.filter fun u => some u ≠ analyzed) ↔
      t ∈ ids ∨ analyzed = some t := by
    by_cases ht : analyzed = some t
    · simp [ht]
    · simp [ht, eq_comm]
  unfold resolveModemSystemDescription
  dsimp only
  simp only [hlookup]
  constructor
  · intro h
    obtain ⟨normalized, hnormalized⟩ := Option.isSome_iff_exists.mp h
    obtain ⟨description, hfound, -⟩ := Option.bind_eq_some_iff.mp hnormalized
    obtain ⟨u, hu, hdescription⟩ := List.exists_of_findSome?_eq_some hfound
    split at hdescription
    next hcond => exact ⟨hselected.mp (hcond.1 ▸ hu), hcond.2⟩
    next => cases hdescription
  · rintro ⟨hids, hcaptured⟩
    have hsome : ((analyzed.toList ++ ids.filter fun u => some u ≠ analyzed).findSome? fun u =>
        if u = t ∧ t ∈ capturedTransactionIds records
        then some (OrderedDict.empty.insert "" (default : Value)) else none).isSome = true := by
      rw [List.findSome?_isSome_iff]
      exact ⟨t, hselected.mpr hids, by simp [hcaptured]⟩
    obtain ⟨description, hfound⟩ := Option.isSome_iff_exists.mp hsome
    obtain ⟨u, -, hdescription⟩ := List.exists_of_findSome?_eq_some hfound
    rw [hfound, Option.bind_some]
    split at hdescription
    next =>
      rw [← Option.some.inj hdescription]
      rfl
    next => cases hdescription

/-- Two service groups under one address cannot both be reported. -/
theorem oneGroup_of_attributed {cmtsHostname : Option String}
    (h : Attributed values stored request records
      (buildStructuredResults values stored records request cmtsHostname)) :
    OneGroupPerModem records := by
  intro r hr r' hr' hmac
  have hgroup := reportedRow_of_once h hr
  have hgroup' := reportedRow_of_once h hr'
  rw [hmac, hgroup'] at hgroup
  exact (Option.some.inj hgroup).symm

/-- A transaction that only another pair has captured would show its description in the entry. -/
theorem ownTransactions_of_attributed [Inhabited Value] {cmtsHostname : Option String}
    (hrequest : analysisRequested request = true)
    (h : ∀ stored, Attributed values stored request records
      (buildStructuredResults values stored records request cmtsHostname)) :
    OwnTransactions records := by
  intro sgId mac r hr t ht hcaptured
  have hmem : r ∈ ownRecords records sgId mac := by
    unfold sourceRecords at hr
    dsimp only at hr
    split at hr
    · exact hr
    · exact List.mem_of_mem_filter hr
  obtain ⟨hrecord, hpair⟩ := List.mem_filter.mp hmem
  obtain ⟨rfl, rfl⟩ : r.sgId = sgId ∧ r.macAddress = mac := by simpa using hpair
  have hone := oneGroup_of_attributed (h (describing t))
  have honce := (h (describing t)).once r hrecord
  dsimp only at honce
  rw [filter_resultRows hone hrecord, reportedRow_of_record _ _ _ hone hrecord] at honce
  have hentry := congrArg (fun row : ModemRow Value => row.2.systemDescription.isSome)
    (List.singleton_inj.mp honce)
  have hids := (mem_modemTransactionIds _ t).mpr ⟨r, hr, ht⟩
  have hall : (modemEntry values (decodeRecordsBasicAnalysis (describing t) request records)
      request r.macAddress (ownRecords records r.sgId r.macAddress)).2.systemDescription.isSome =
      true :=
    (systemDescription_describing hrequest _ _ t).mpr
      ⟨Or.inl hids, (mem_capturedTransactionIds records t).mpr hcaptured⟩
  have hown := (systemDescription_describing hrequest _ _ t).mp (hentry.symm.trans hall)
  exact (mem_capturedTransactionIds _ t).mp hown.2

theorem attributed_of_own (hone : OneGroupPerModem records)
    (hown : analysisRequested request = true → OwnTransactions records)
    (cmtsHostname : Option String) :
    Attributed values stored request records
      (buildStructuredResults values stored records request cmtsHostname) where
  once record hrecord := by
    have hentry := modemEntry_congr values request record.macAddress
      fun t ht => lookup_decode_own stored hown record.sgId record.macAddress ht
    rw [filter_resultRows hone hrecord, reportedRow_of_record _ _ _ hone hrecord, hentry]
  final row hrow sgId mac hgroup hname := by
    obtain ⟨mac', hmac', rfl⟩ := mem_resultRows hrow
    obtain rfl : mac' = mac := Option.some.inj hname
    obtain ⟨r, hr, rfl, hreported⟩ := reportedRow_group values stored request hmac'
    obtain rfl : r.sgId = sgId := Option.some.inj (hreported.symm.trans hgroup)
    obtain ⟨final, hfinal⟩ := selectFinalStageRecord_isSome
      (List.ne_nil_of_mem (mem_ownRecords hr))
    refine ⟨final, finalRecord_of_select hfinal, ?_⟩
    rw [reportedRow_of_record _ _ _ hone hr]
    simp only [modemEntry, modemStatus, hfinal]
    split
    next hsuccess => simp [hsuccess]
    next hfailed => simp [hfailed]
  nothingElse row hrow := by
    obtain ⟨mac, hmac, rfl⟩ := mem_resultRows hrow
    obtain ⟨r, hr, rfl, hgroup⟩ := reportedRow_group values stored request hmac
    exact ⟨r, hr, hgroup, rfl⟩

end Attribution

/-- Whatever the stored files hold, the structured results attribute every pair of the records
exactly if no address occurs under two service groups and, where an analysis is asked for, no
modem names a transaction that only another one has captured. -/
theorem results_attributed_iff {Value : Type} [Inhabited Value] (values : PayloadValues Value)
    (request : Option RxMerServiceGroupResultsRequest)
    (records : List PerModemLinkageRecordModel) (cmtsHostname : Option String) :
    (∀ stored, Attributed values stored request records
      (buildStructuredResults values stored records request cmtsHostname)) ↔
      OneGroupPerModem records ∧
        (analysisRequested request = true → OwnTransactions records) := by
  constructor
  · intro h
    exact ⟨oneGroup_of_attributed (h fun _ => {}), fun hrequest =>
      ownTransactions_of_attributed hrequest h⟩
  · rintro ⟨hone, hown⟩ stored
    exact attributed_of_own hone hown cmtsHostname

/-- A modem with a failed capture in one group and a good one in another. -/
def twoGroupRecords : List PerModemLinkageRecordModel :=
  [{ pnmCaptureOperationId := "op", sgId := 1, macAddress := "aa:bb:cc:dd:ee:ff",
     stage := .capture, statusCode := .failure },
   { pnmCaptureOperationId := "op", sgId := 2, macAddress := "aa:bb:cc:dd:ee:ff",
     stage := .capture, transactionIds := ["t1"], filenames := ["f1"] }]

/-- The second group is not in the results, and its good capture stands under the first. -/
theorem second_group_lost :
    ((resultRows (buildStructuredResults (⟨fun _ => none, fun _ => ""⟩ : PayloadValues Unit)
      (fun _ => {}) twoGroupRecords none none)).map fun row => (row.1, row.2.status)) =
        [(some 1, .success)] ∧
      ¬ Attributed (⟨fun _ => none, fun _ => ""⟩ : PayloadValues Unit) (fun _ => {}) none
        twoGroupRecords
        (buildStructuredResults ⟨fun _ => none, fun _ => ""⟩ (fun _ => {}) twoGroupRecords none
          none) := by
  refine ⟨by decide +kernel, ?_⟩
  intro h
  have hgroups := oneGroup_of_attributed h
  exact absurd (hgroups _ List.mem_cons_self _ (List.mem_cons_of_mem _ List.mem_cons_self) rfl)
    (by decide)

end RxMerResults
end PypnmCmts
