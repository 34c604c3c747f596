import Mathlib.Data.List.Dedup
import PypnmCmts.PreEqualizationResults

/-! The file links of the structured results. The transactions and the file names of a modem are
gathered in two lists, each without repeats, and a link takes one of each at the same place. -/
namespace PypnmCmts
namespace RxMerResults

section Places
variable {α : Type} [DecidableEq α]

/-- The number of different values that a list has before the first `a`. -/
def distinctBefore (l : List α) (a : α) : ℕ := (l.takeWhile (· ≠ a)).dedup.length

theorem appendNew_append (seen l l' : List α) :
    appendNew seen (l ++ l') = appendNew (appendNew seen l) l' := List.foldl_append

theorem appendNew_concat (l : List α) (b : α) :
    appendNew [] (l ++ [b]) =
      if b ∈ l then appendNew [] l else appendNew [] l ++ [b] := by
  have hmem := mem_appendNew [] l b
  rw [appendNew_append]
  simp only [List.not_mem_nil, false_or] at hmem
  simp only [← hmem]
  rfl

theorem nodup_appendNew (l : List α) : (appendNew [] l).Nodup := by
  induction l using List.reverseRecOn with
  | nil => exact List.nodup_nil
  | append_singleton l b ih =>
    rw [appendNew_concat]
    split
    next => exact ih
    next hb =>
      refine List.Nodup.append ih (List.nodup_singleton b) ?_
      rw [List.disjoint_singleton, mem_appendNew]
      simpa using hb

theorem length_appendNew (l : List α) : (appendNew [] l).length = l.dedup.length := by
  apply List.Perm.length_eq
  refine (List.perm_ext_iff_of_nodup (nodup_appendNew l) (List.nodup_dedup l)).mpr ?_
  intro a
  rw [mem_appendNew, List.mem_dedup]
  simp

theorem takeWhile_concat_of_mem {l : List α} {a : α} (h : a ∈ l) (b : α) :
    (l ++ [b]).takeWhile (· ≠ a) = l.takeWhile (· ≠ a) := by
  induction l with
  | nil => cases h
  | cons c l ih =>
    rw [List.cons_append, List.takeWhile_cons, List.takeWhile_cons]
    by_cases hc : c = a
    · simp [hc]
    · have hmem : a ∈ l := (List.mem_cons.mp h).resolve_left (Ne.symm hc)
      rw [ih hmem]

/-- Without repeats, a value stands at the number of different values before it. -/
theorem getElem?_appendNew (l : List α) (n : ℕ) (a : α) :
    (appendNew [] l)[n]? = some a ↔ a ∈ l ∧ distinctBefore l a = n := by
  -- the last value matters only if it is new, and then it is the last one of the result
  induction l using List.reverseRecOn with
  | nil => simp [appendNew]
  | append_singleton l b ih =>
    have hkept (ha : a ∈ l) : distinctBefore (l ++ [b]) a = distinctBefore l a := by
      unfold distinctBefore
      rw [takeWhile_concat_of_mem ha]
    rw [appendNew_concat, List.mem_append, List.mem_singleton]
    split
    next hb =>
      have hold : a ∈ l ∨ a = b ↔ a ∈ l := or_iff_left_of_imp fun h => h ▸ hb
      rw [ih, hold]
      exact and_congr_right fun ha => by rw [hkept ha]
    next hb =>
      by_cases hab : a = b
      · subst hab
        have hall : (l ++ [a]).takeWhile (· ≠ a) = l := by
          rw [List.takeWhile_append_of_pos]
          · simp
          · intro c hc
            exact decide_eq_true fun h : c = a => hb (h ▸ hc)
        have hplace : distinctBefore (l ++ [a]) a = (appendNew [] l).length := by
          rw [distinctBefore, hall, length_appendNew]
        rw [hplace, List.getElem?_append]
        constructor
        · intro h
          refine ⟨Or.inr rfl, ?_⟩
          split at h
          next => exact absurd (ih.mp h).1 hb
          next hn =>
            have hlast := (List.getElem?_eq_some_iff.mp h).1
            rw [List.length_singleton] at hlast
            omega
        · intro h
          rw [if_neg (by omega), ← h.2, Nat.sub_self]
          rfl
      · have hold : a ∈ l ∨ a = b ↔ a ∈ l := or_iff_left hab
        have hnew : (appendNew [] l ++ [b])[n]? = some a ↔ (appendNew [] l)[n]? = some a := by
          rw [List.getElem?_append]
          split
          next => rfl
          next hn =>
            rw [List.getElem?_eq_none (by omega : (appendNew [] l).length ≤ n),
              List.getElem?_singleton]
            split
            · simp [Ne.symm hab]
            · simp
        rw [hnew, ih, hold]
        exact and_congr_right fun ha => by rw [hkept ha]

theorem find?_appendNew (p : α → Bool) (seen l : List α) :
    (appendNew seen l).find? p = (seen ++ l).find? p := by
  induction l generalizing seen with
  | nil => rw [List.append_nil]; rfl
  | cons a l ih =>
    have hstep : appendNew seen (a :: l) =
        appendNew (if a ∈ seen then seen else seen ++ [a]) l := rfl
    rw [hstep, ih]
    split
    next ha =>
      -- a repeat is found no later than where it stands first
      rw [List.find?_append, List.find?_append, List.find?_cons]
      cases hfind : seen.find? p with
      | some b => rfl
      | none =>
        have hpa := List.find?_eq_none.mp hfind a ha
        simp only [hpa, Option.none_or]
    next => rw [List.append_assoc, List.singleton_append]

theorem head?_appendNew (l : List α) : (appendNew [] l).head? = l.head? := by
  have hfind := find?_appendNew (fun _ => true) [] l
  rw [List.nil_append] at hfind
  have hhead (xs : List α) : xs.find? (fun _ => true) = xs.head? := by
    cases xs with
    | nil => rfl
    | cons x xs => rfl
  rwa [hhead, hhead] at hfind

theorem getElem?_zero_iff {l : List α} {a : α} :
    l[0]? = some a ↔ a ∈ l ∧ distinctBefore l a = 0 := by
  rw [← getElem?_appendNew, ← List.head?_eq_getElem?, ← List.head?_eq_getElem?, head?_appendNew]

end Places

/-- The transactions that a modem's records name, in their order and with their repeats. -/
def recordedIds (own : List PerModemLinkageRecordModel) : List TransactionId :=
  (sourceRecords own).flatMap fun record => record.transactionIds

/-- The file names of a modem's records. -/
def recordedNames (own : List PerModemLinkageRecordModel) : List FileNameStr :=
  (sourceRecords own).flatMap fun record => record.filenames

theorem modemTransactionIds_eq (own : List PerModemLinkageRecordModel) :
    modemTransactionIds own = appendNew [] (recordedIds own) := by
  unfold modemTransactionIds recordedIds appendNew
  rw [List.foldl_flatMap]

theorem modemFilenames_eq (own : List PerModemLinkageRecordModel) :
    modemFilenames own = appendNew [] (recordedNames own) := by
  unfold modemFilenames recordedNames appendNew
  rw [List.foldl_flatMap]

/-- The transaction that comes first in a modem's records: where an analysis is asked for and the
modem ended well, the first one with a good capture, if there is one. -/
def leadingTransaction (request : Option RxMerServiceGroupResultsRequest)
    (records own : List PerModemLinkageRecordModel) : Option TransactionId :=
  let decoded := if analysisRequested request = true ∧ (modemStatus own).1 = .success
    then (recordedIds own).find? fun t => t ∈ capturedTransactionIds records else none
  decoded.or (recordedIds own).head?

theorem mem_of_mem_sourceRecords {own : List PerModemLinkageRecordModel}
    {record : PerModemLinkageRecordModel} (h : record ∈ sourceRecords own) : record ∈ own := by
  unfold sourceRecords at h
  dsimp only at h
  split at h
  · exact h
  · exact List.mem_of_mem_filter h

/-- The records name the leading transaction. -/
theorem mem_recordedIds_of_leading {request : Option RxMerServiceGroupResultsRequest}
    {records own : List PerModemLinkageRecordModel} {t : TransactionId}
    (h : leadingTransaction request records own = some t) : t ∈ recordedIds own := by
  rcases Option.or_eq_some_iff.mp h with hdecoded | hfirst
  · split at hdecoded
    · exact List.mem_of_find?_eq_some hdecoded
    · cases hdecoded
  · exact List.mem_of_mem_head? hfirst.2

/-- Where all transactions have good captures, the first one leads. -/
theorem head_of_leading {request : Option RxMerServiceGroupResultsRequest}
    {records own : List PerModemLinkageRecordModel}
    (h : ∀ t ∈ recordedIds own, t ∈ capturedTransactionIds records) :
    leadingTransaction request records own = (recordedIds own).head? := by
  unfold leadingTransaction
  cases hids : recordedIds own with
  | nil => simp
  | cons t ids =>
    have ht : t ∈ capturedTransactionIds records := h t (hids ▸ List.mem_cons_self)
    dsimp only
    split
    · rw [List.find?_cons, decide_eq_true ht]
      rfl
    · rfl

/-- The transaction and the file stand at one position of a capture record of the modem. -/
def RecordedTogether (records : List PerModemLinkageRecordModel) (mac : MacAddressStr)
    (t : TransactionId) (f : FileNameStr) : Prop :=
  ∃ record ∈ records, record.macAddress = mac ∧ record.stage = .capture ∧
    ∃ i : ℕ, record.transactionIds[i]? = some t ∧ record.filenames[i]? = some f

/-- A link that names both a transaction and a file names a pair of the modem's records. -/
def RealPairs (records : List PerModemLinkageRecordModel) (mac : MacAddressStr)
    (links : List (Option MacAddressStr × Option PnmAnalyzedFileLinkModel)) : Prop :=
  ∀ link, (some mac, some link) ∈ links →
    ∀ t ∈ link.transactionId, ∀ f ∈ link.filename, RecordedTogether records mac t f

/-- Some capture record of the modem has beside the leading transaction a file that comes after as
many different files as the transaction comes after different ones, or there are no more files than
different transactions before it. -/
def FilesInStep (request : Option RxMerServiceGroupResultsRequest)
    (records : List PerModemLinkageRecordModel) (mac : MacAddressStr) : Prop :=
  let own := records.filter fun record => record.macAddress = mac
  ∀ t ∈ leadingTransaction request records own,
    (recordedNames own).dedup.length ≤ distinctBefore (recordedIds own) t ∨
      ∃ record ∈ own, record.stage = .capture ∧ ∃ (i : ℕ) (f : FileNameStr),
        record.transactionIds[i]? = some t ∧ record.filenames[i]? = some f ∧
          distinctBefore (recordedNames own) f = distinctBefore (recordedIds own) t

theorem mem_sourceRecords_of_capture {own : List PerModemLinkageRecordModel}
    {record : PerModemLinkageRecordModel} (h : record ∈ own) (hstage : record.stage = .capture) :
    record ∈ sourceRecords own := by
  have hcapture : record ∈ own.filter fun record => record.stage = .capture :=
    List.mem_filter.mpr ⟨h, decide_eq_true hstage⟩
  unfold sourceRecords
  dsimp only
  rw [if_neg (List.ne_nil_of_mem hcapture)]
  exact hcapture

/-- One value at most comes after a given number of different ones. -/
theorem eq_of_distinctBefore {α : Type} [DecidableEq α] {l : List α} {a b : α} (ha : a ∈ l)
    (hb : b ∈ l) (h : distinctBefore l a = distinctBefore l b) : a = b := by
  have hfirst := (getElem?_appendNew l _ a).mpr ⟨ha, rfl⟩
  rw [(getElem?_appendNew l _ b).mpr ⟨hb, h.symm⟩] at hfirst
  exact (Option.some.inj hfirst).symm

theorem exists_distinctBefore {α : Type} [DecidableEq α] {l : List α} {n : ℕ}
    (h : n < l.dedup.length) : ∃ a ∈ l, distinctBefore l a = n := by
  rw [← length_appendNew] at h
  obtain ⟨ha, hplace⟩ := (getElem?_appendNew l n _).mp (List.getElem?_eq_getElem h)
  exact ⟨_, ha, hplace⟩

/-- Files are in step where the file in the place of the leading transaction is recorded with it. -/
theorem filesInStep_iff (request : Option RxMerServiceGroupResultsRequest)
    {records own : List PerModemLinkageRecordModel} {mac : MacAddressStr}
    (hown : (records.filter fun record => record.macAddress = mac) = own) :
    FilesInStep request records mac ↔
      ∀ t ∈ leadingTransaction request records own, ∀ f ∈ recordedNames own,
        distinctBefore (recordedNames own) f = distinctBefore (recordedIds own) t →
          RecordedTogether records mac t f := by
  have hmem (record : PerModemLinkageRecordModel) :
      record ∈ own ↔ record ∈ records ∧ record.macAddress = mac := by
    rw [← hown, List.mem_filter, decide_eq_true_iff]
  unfold FilesInStep
  dsimp only
  rw [hown]
  refine forall₂_congr fun t ht => ?_
  constructor
  · intro h f hf hplace
    rcases h with hshort | ⟨record, hrecord, hstage, i, f', hti, hfi, hplace'⟩
    · -- `f` would be one of the names that are too few
      have hlt := (List.getElem?_eq_some_iff.mp ((getElem?_appendNew _ _ f).mpr ⟨hf, hplace⟩)).1
      rw [length_appendNew] at hlt
      omega
    · have hsource := mem_sourceRecords_of_capture hrecord hstage
      have hf' : f' ∈ recordedNames own :=
        List.mem_flatMap.mpr ⟨record, hsource, List.mem_of_getElem? hfi⟩
      obtain rfl := eq_of_distinctBefore hf' hf (hplace'.trans hplace.symm)
      obtain ⟨hrecords, hmac⟩ := (hmem record).mp hrecord
      exact ⟨record, hrecords, hmac, hstage, i, hti, hfi⟩
  · intro h
    rcases Nat.lt_or_ge (distinctBefore (recordedIds own) t) (recordedNames own).dedup.length with
      hlt | hge
    · obtain ⟨f, hf, hplace⟩ := exists_distinctBefore hlt
      obtain ⟨record, hrecord, hmac, hstage, i, hti, hfi⟩ := h f hf hplace
      exact Or.inr ⟨record, (hmem record).mpr ⟨hrecord, hmac⟩, hstage, i, f, hti, hfi, hplace⟩
    · exact Or.inl hge

theorem find?_of_findSome? {α β : Type} (p : α → Bool) (g : α → β) (l : List α) :
    ((l.findSome? fun a => if p a = true then some (a, g a) else none).map fun found =>
      found.1) = l.find? p := by
  induction l with
  | nil => rfl
  | cons a l ih =>
    rw [List.findSome?_cons, List.find?_cons]
    cases hp : p a with
    | true => rfl
    | false => exact ih

/-- The transaction that a modem's analysis is taken from. -/
theorem analyzed_eq {Value : Type} (stored : TransactionId → StoredAnalysis Value)
    (request : Option RxMerServiceGroupResultsRequest)
    (records : List PerModemLinkageRecordModel) (status : PnmCaptureStatus)
    (ids : List TransactionId) :
    ((resolveModemAnalysis (decodeRecordsBasicAnalysis stored request records) request status
      (appendNew [] ids)).map fun found => found.1) =
      if analysisRequested request = true ∧ status = .success
      then ids.find? (fun t => t ∈ capturedTransactionIds records) else none := by
  unfold resolveModemAnalysis
  by_cases hrequest : analysisRequested request = true
  · by_cases hstatus : status = .success
    · have hlookup (t : TransactionId) :
          ((decodeRecordsBasicAnalysis stored request records).lookup t).map
            (fun decoded => (t, decoded)) =
          if decide (t ∈ capturedTransactionIds records) = true
          then some (t, analyzeTransactionBasic stored t) else none := by
        rw [lookup_decodeRecordsBasicAnalysis]
        by_cases ht : t ∈ capturedTransactionIds records
        · simp [hrequest, ht]
        · simp [ht]
      rw [if_neg (by simp [hrequest]), if_neg (by simp [hstatus]), if_pos ⟨hrequest, hstatus⟩]
      simp only [hlookup]
      rw [find?_of_findSome?, find?_appendNew, List.nil_append]
    · rw [if_neg (by simp [hrequest]), if_pos hstatus, if_neg fun h => hstatus h.2]
      rfl
  · rw [if_pos (Bool.eq_false_of_not_eq_true hrequest), if_neg fun h => hrequest h.1]
    rfl

/-- The place at which a link looks into the two lists. -/
def selectedIndex (ids : List TransactionId) (analyzed : Option TransactionId) : ℕ :=
  analyzed.elim 0 fun a => if a ∈ ids then ids.idxOf a else 0

theorem buildModemFileLink_eq (ids : List TransactionId) (names : List FileNameStr)
    (analyzed : Option TransactionId) :
    buildModemFileLink ids names analyzed =
      if ids = [] ∧ names = [] then none
      else if ids[selectedIndex ids analyzed]? = none ∧ names[selectedIndex ids analyzed]? = none
      then none
      else some { transactionId := ids[selectedIndex ids analyzed]?
                  filename := names[selectedIndex ids analyzed]? } := by
  cases analyzed with
  | none => rfl
  | some a => rfl

theorem getElem?_selectedIndex {ids : List TransactionId} {analyzed : Option TransactionId}
    (hanalyzed : ∀ a ∈ analyzed, a ∈ ids) :
    ids[selectedIndex ids analyzed]? = analyzed.or ids.head? := by
  cases analyzed with
  | none => rw [Option.none_or, List.head?_eq_getElem?]; rfl
  | some a =>
    have ha := hanalyzed a rfl
    simp only [selectedIndex, Option.elim_some, if_pos ha, Option.some_or]
    exact List.getElem?_idxOf ha

/-- A link names a transaction and a file that stand at the same place of the two lists. -/
theorem link_pair_iff {ids : List TransactionId} (hids : ids.Nodup) (names : List FileNameStr)
    {analyzed : Option TransactionId} (hanalyzed : ∀ a ∈ analyzed, a ∈ ids)
    (t : TransactionId) (f : FileNameStr) :
    (∃ link, buildModemFileLink ids names analyzed = some link ∧ link.transactionId = some t ∧
      link.filename = some f) ↔
      analyzed.or ids.head? = some t ∧
        ∃ n : ℕ, ids[n]? = some t ∧ names[n]? = some f := by
  rw [buildModemFileLink_eq, ← getElem?_selectedIndex hanalyzed]
  generalize selectedIndex ids analyzed = n
  constructor
  · intro h
    obtain ⟨link, hlink, ht, hf⟩ := h
    split at hlink
    · cases hlink
    · split at hlink
      · cases hlink
      · obtain rfl := Option.some.inj hlink
        exact ⟨ht, n, ht, hf⟩
  · intro h
    obtain ⟨ht, m, hm, hf⟩ := h
    obtain ⟨hlt, hget⟩ := List.getElem?_eq_some_iff.mp ht
    obtain ⟨hmlt, hmget⟩ := List.getElem?_eq_some_iff.mp hm
    -- without repeats the transaction has one place only
    have hsame : n = m := hids.getElem_inj_iff.mp (hget.trans hmget.symm)
    subst hsame
    have hne : ids ≠ [] := List.ne_nil_of_mem (List.mem_of_getElem? ht)
    rw [if_neg fun hnil => hne hnil.1, ht, hf, if_neg (by simp)]
    exact ⟨_, rfl, rfl, rfl⟩

/-- The link that both services make of a modem's own records. -/
def recordedLink {Value : Type} (stored : TransactionId → StoredAnalysis Value)
    (request : Option RxMerServiceGroupResultsRequest)
    (records own : List PerModemLinkageRecordModel) : Option PnmAnalyzedFileLinkModel :=
  buildModemFileLink (modemTransactionIds own) (modemFilenames own)
    ((resolveModemAnalysis (decodeRecordsBasicAnalysis stored request records) request
      (modemStatus own).1 (modemTransactionIds own)).map fun found => found.1)

/-- The link of a modem pairs the leading transaction with the file that comes after as many
different ones. -/
theorem recordedLink_pair_iff {Value : Type} (stored : TransactionId → StoredAnalysis Value)
    (request : Option RxMerServiceGroupResultsRequest)
    (records own : List PerModemLinkageRecordModel) (t : TransactionId) (f : FileNameStr) :
    (∃ link, recordedLink stored request records own = some link ∧
      link.transactionId = some t ∧ link.filename = some f) ↔
      leadingTransaction request records own = some t ∧ f ∈ recordedNames own ∧
        distinctBefore (recordedNames own) f = distinctBefore (recordedIds own) t := by
  rw [recordedLink, modemTransactionIds_eq, modemFilenames_eq, analyzed_eq]
  rw [link_pair_iff (nodup_appendNew _), head?_appendNew]
  · simp only [getElem?_appendNew]
    constructor
    · intro h
      obtain ⟨hleading, n, ht, hf⟩ := h
      exact ⟨hleading, hf.1, hf.2.trans ht.2.symm⟩
    · intro h
      obtain ⟨hleading, hf, hplace⟩ := h
      exact ⟨hleading, _, ⟨mem_recordedIds_of_leading hleading, rfl⟩, hf, hplace⟩
  · intro a ha
    rw [mem_appendNew]
    split at ha
    · exact Or.inr (List.mem_of_find?_eq_some ha)
    · cases ha

/-- The links of an endpoint's modems, one for each address of the records. -/
theorem realPairs_iff {Value : Type} (stored : TransactionId → StoredAnalysis Value)
    (request : Option RxMerServiceGroupResultsRequest)
    (records : List PerModemLinkageRecordModel) (mac : MacAddressStr)
    {links : List (Option MacAddressStr × Option PnmAnalyzedFileLinkModel)}
    (hlinks : links.Perm ((modemRecords records).keys.map fun mac =>
      (some mac, recordedLink stored request records
        (records.filter fun record => record.macAddress = mac)))) :
    RealPairs records mac links ↔ FilesInStep request records mac := by
  obtain ⟨own, hown⟩ : ∃ own, (records.filter fun record => record.macAddress = mac) = own :=
    ⟨_, rfl⟩
  rw [filesInStep_iff request hown]
  have hpair := recordedLink_pair_iff stored request records own
  have hmem (link : PnmAnalyzedFileLinkModel) : (some mac, some link) ∈ links ↔
      mac ∈ (modemRecords records).keys ∧ recordedLink stored request records own = some link := by
    rw [hlinks.mem_iff, List.mem_map]
    constructor
    · intro h
      obtain ⟨mac', hmac', heq⟩ := h
      obtain ⟨hname, hlink⟩ := Prod.ext_iff.mp heq
      obtain rfl := Option.some.inj hname
      rw [← hown]
      exact ⟨hmac', hlink⟩
    · intro h
      rw [← hown] at h
      exact ⟨mac, h.1, Prod.ext rfl h.2⟩
  constructor
  · intro h t ht f hf hplace
    obtain ⟨link, hlink, hlinkt, hlinkf⟩ := (hpair t f).mpr ⟨ht, hf, hplace⟩
    refine h link ((hmem link).mpr ⟨?_, hlink⟩) t hlinkt f hlinkf
    -- a modem with a link has records
    rw [mem_keys_modemRecords]
    obtain ⟨record, hrecord, -⟩ := List.mem_flatMap.mp hf
    rw [← hown] at hrecord
    obtain ⟨hrecords, hmac⟩ := List.mem_filter.mp (mem_of_mem_sourceRecords hrecord)
    exact ⟨record, hrecords, of_decide_eq_true hmac⟩
  · intro h link hlink t ht f hf
    obtain ⟨hleading, hname, hplace⟩ := (hpair t f).mp ⟨link, ((hmem link).mp hlink).2, ht, hf⟩
    exact h t hleading f hname hplace

section Aligned

/-- In lists of equal lengths laid end to end, one place is one place of one of them. -/
theorem exists_of_getElem?_flatMap {α β γ : Type} (g : α → List β) (g' : α → List γ) (rs : List α)
    (h : ∀ r ∈ rs, (g r).length = (g' r).length) {n : ℕ} {b : β} {c : γ}
    (hb : (rs.flatMap g)[n]? = some b) (hc : (rs.flatMap g')[n]? = some c) :
    ∃ r ∈ rs, ∃ i : ℕ, (g r)[i]? = some b ∧ (g' r)[i]? = some c := by
  induction rs generalizing n with
  | nil => simp at hb
  | cons r rs ih =>
    have hlength := h r List.mem_cons_self
    rw [List.flatMap_cons, List.getElem?_append] at hb hc
    by_cases hn : n < (g r).length
    · rw [if_pos hn] at hb
      rw [if_pos (by omega)] at hc
      exact ⟨r, List.mem_cons_self, n, hb, hc⟩
    · rw [if_neg hn] at hb
      rw [if_neg (by omega), ← hlength] at hc
      obtain ⟨r', hr', hplace⟩ := ih (fun r' hr' => h r' (List.mem_cons_of_mem _ hr')) hb hc
      exact ⟨r', List.mem_cons_of_mem _ hr', hplace⟩

/-- The links are right where every record names as many files as transactions, and only the
captures that went well name any: the link then names the first of both. -/
theorem filesInStep_of_captures (request : Option RxMerServiceGroupResultsRequest)
    {records : List PerModemLinkageRecordModel} {mac : MacAddressStr}
    (hrecords : ∀ r ∈ records, r.transactionIds.length = r.filenames.length ∧
      (r.transactionIds ≠ [] → r.stage = .capture ∧ r.statusCode = .success)) :
    FilesInStep request records mac := by
  obtain ⟨own, hown⟩ : ∃ own, (records.filter fun record => record.macAddress = mac) = own :=
    ⟨_, rfl⟩
  rw [filesInStep_iff request hown]
  intro t ht f hf hplace
  have hsource {r : PerModemLinkageRecordModel} (hr : r ∈ sourceRecords own) :
      r ∈ records ∧ r.macAddress = mac := by
    rw [← hown] at hr
    obtain ⟨hrecord, hmac⟩ := List.mem_filter.mp (mem_of_mem_sourceRecords hr)
    exact ⟨hrecord, of_decide_eq_true hmac⟩
  have hall : ∀ u ∈ recordedIds own, u ∈ capturedTransactionIds records := by
    intro u hu
    obtain ⟨r, hr, hur⟩ := List.mem_flatMap.mp hu
    obtain ⟨hstage, hstatus⟩ := (hrecords r (hsource hr).1).2 (List.ne_nil_of_mem hur)
    exact (mem_capturedTransactionIds records u).mpr ⟨r, (hsource hr).1, hstage, hstatus, hur⟩
  have hfirst : (recordedIds own)[0]? = some t := by
    rw [← List.head?_eq_getElem?, ← head_of_leading hall]
    exact ht
  -- both stand at the first place of their lists, which is one place of one record
  have hid := (getElem?_zero_iff.mp hfirst).2
  have hname := getElem?_zero_iff.mpr ⟨hf, hplace.trans hid⟩
  obtain ⟨r, hr, i, hti, hfi⟩ := exists_of_getElem?_flatMap _ _ _
    (fun r hr => (hrecords r (hsource hr).1).1) hfirst hname
  have hcapture := (hrecords r (hsource hr).1).2 (List.ne_nil_of_mem (List.mem_of_getElem? hti))
  exact ⟨r, (hsource hr).1, (hsource hr).2, hcapture.1, i, hti, hfi⟩

end Aligned

/-- The address and the file link of each modem of the results. -/
def fileLinks {Value : Type} (results : RxMerServiceGroupResultsModel Value) :
    List (Option MacAddressStr × Option PnmAnalyzedFileLinkModel) :=
  (resultRows results).map fun row => (row.2.macAddress, row.2.rxmerData.file)

theorem fileLinks_perm {Value : Type} (values : PayloadValues Value)
    (stored : TransactionId → StoredAnalysis Value)
    (request : Option RxMerServiceGroupResultsRequest)
    (records : List PerModemLinkageRecordModel) (cmtsHostname : Option String) :
    (fileLinks (buildStructuredResults values stored records request cmtsHostname)).Perm
      ((modemRecords records).keys.map fun mac =>
        (some mac, recordedLink stored request records
          (records.filter fun record => record.macAddress = mac))) := by
  have hrows := (resultRows_perm values stored request records cmtsHostname).map
    fun row => (row.2.macAddress, row.2.rxmerData.file)
  rw [List.map_map] at hrows
  exact hrows

end RxMerResults

namespace PreEqualizationResults

/-- The address and the file link of each modem of the results. -/
def fileLinks {Value : Type} (results : PreEqualizationServiceGroupResultsModel Value) :
    List (Option MacAddressStr × Option PnmAnalyzedFileLinkModel) :=
  (listedModems results).map fun modem => (modem.macAddress, modem.preEqualizationData.file)

theorem transactionId_resolveModemAnalysis {Value : Type} (values : PreEqualizationValues Value)
    (decodedByTxn : OrderedDict TransactionId (PnmStoredCaptureAnalysisResultModel Value))
    (request : Option RxMerServiceGroupResultsRequest) (status : PnmCaptureStatus)
    (ids : List TransactionId) :
    (resolveModemAnalysis values decodedByTxn request status ids).transactionId =
      (RxMerResults.resolveModemAnalysis decodedByTxn request status ids).map
        fun found => found.1 := by
  unfold resolveModemAnalysis
  dsimp only
  split
  next hrequest =>
    rw [RxMerResults.resolveModemAnalysis, if_pos hrequest]
    rfl
  next =>
    split
    next hnone =>
      rw [hnone]
      rfl
    next t decoded hfound =>
      rw [hfound]
      rfl

theorem fileLinks_perm {Value : Type} (values : PreEqualizationValues Value)
    (stored : TransactionId → StoredAnalysis Value)
    (request : Option RxMerServiceGroupResultsRequest)
    (records : List PerModemLinkageRecordModel) (cmtsHostname : Option String) :
    (fileLinks (buildStructuredResults values stored records request cmtsHostname)).Perm
      ((RxMerResults.modemRecords records).keys.map fun mac =>
        (some mac, RxMerResults.recordedLink stored request records
          (records.filter fun record => record.macAddress = mac))) := by
  have hmodems := (listedModems_perm values stored records request cmtsHostname).map
    fun modem => (modem.macAddress, modem.preEqualizationData.file)
  rw [List.map_map] at hmodems
  refine hmodems.trans (List.Perm.of_eq ?_)
  apply List.map_congr_left
  intro mac _
  simp only [Function.comp_apply, modemEntry, transactionId_resolveModemAnalysis]
  rfl

end PreEqualizationResults

/-- In the results of either endpoint the file link of a modem is a pair of its records exactly
if the files of the modem's records are in step with the leading transaction. -/
theorem file_links_iff {Value : Type} (values : PayloadValues Value)
    (preEqualizationValues : PreEqualizationValues Value)
    (stored : TransactionId → StoredAnalysis Value)
    (request : Option RxMerServiceGroupResultsRequest)
    (records : List PerModemLinkageRecordModel) (cmtsHostname : Option String)
    (mac : MacAddressStr) :
    (RxMerResults.RealPairs records mac (RxMerResults.fileLinks
      (RxMerResults.buildStructuredResults values stored records request cmtsHostname)) ↔
        RxMerResults.FilesInStep request records mac) ∧
    (RxMerResults.RealPairs records mac (PreEqualizationResults.fileLinks
      (PreEqualizationResults.buildStructuredResults preEqualizationValues stored records request
        cmtsHostname)) ↔
        RxMerResults.FilesInStep request records mac) := by
  constructor
  · apply RxMerResults.realPairs_iff stored request records mac
    exact RxMerResults.fileLinks_perm values stored request records cmtsHostname
  · apply RxMerResults.realPairs_iff stored request records mac
    exact PreEqualizationResults.fileLinks_perm preEqualizationValues stored request records
      cmtsHostname

namespace RxMerResults

/-- A capture whose file name is missing, and a complete one. -/
def missingNameRecords : List PerModemLinkageRecordModel :=
  [{ pnmCaptureOperationId := "op", sgId := 1, macAddress := "aa:bb:cc:dd:ee:ff",
     stage := .capture, transactionIds := ["t1"] },
   { pnmCaptureOperationId := "op", sgId := 1, macAddress := "aa:bb:cc:dd:ee:ff",
     stage := .capture, transactionIds := ["t2"], filenames := ["b.bin"] }]

/-- The link names the transaction of the first capture and the file of the second. -/
theorem link_of_missingName :
    let values : PayloadValues Unit := { asInt := fun _ => none, asText := fun _ => "" }
    let results := buildStructuredResults values (fun _ => {}) missingNameRecords (some {}) none
    fileLinks results = [(some "aa:bb:cc:dd:ee:ff",
        some { transactionId := some "t1", filename := some "b.bin" })] ∧
      ¬ RealPairs missingNameRecords "aa:bb:cc:dd:ee:ff" (fileLinks results) := by
  intro values results
  have hlinks : fileLinks results = [(some "aa:bb:cc:dd:ee:ff",
      some { transactionId := some "t1", filename := some "b.bin" })] := by decide +kernel
  refine ⟨hlinks, ?_⟩
  intro h
  rw [hlinks] at h
  obtain ⟨record, hrecord, -, -, i, ht, hf⟩ := h _ List.mem_cons_self "t1" rfl "b.bin" rfl
  have happart : ∀ r ∈ missingNameRecords, "t1" ∈ r.transactionIds → "b.bin" ∉ r.filenames := by
    decide
  exact happart record hrecord (List.mem_of_getElem? ht) (List.mem_of_getElem? hf)

end RxMerResults
end PypnmCmts
