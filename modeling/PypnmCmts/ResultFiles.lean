import Mathlib
import PypnmCmts.KeyedSort
import PypnmCmts.OperationStore
import PypnmCmts.OrderedDict
import PypnmCmts.PyText
import PypnmCmts.TextLines

/-! `api/common/operations/store.py`: the result files of the operations, as the text that is in
them. -/
namespace PypnmCmts

open KeyedSort PyText TextLines

/-- What the store needs to know of a linkage record. `model_validate_json` raises an error where
it is given no record. -/
structure RecordModel (R E : Type*) where
  operationId : R → PnmCaptureOperationId
  sgId : R → ℤ
  modelDumpJson : R → String
  modelValidateJson : String → Except E R

/-- The directory `results` of an operation: the text of each file. -/
abbrev ResultsDir := OrderedDict String String

/-- The directories `results`, as far as they exist. -/
abbrev ResultStore := PnmCaptureOperationId → Option ResultsDir

namespace ResultFiles

def resultFilePrefix : String := "sg-"
def resultFileSuffix : String := ".jsonl"

def resultPath (sgId : ℤ) : String := resultFilePrefix ++ sgId.repr ++ resultFileSuffix

/-- `sg-*.jsonl`. -/
def matchesResultGlob (name : String) : Bool :=
  startsWith name resultFilePrefix &&
    resultFileSuffix.toList.isSuffixOf (dropPrefix name resultFilePrefix).toList

/-- The files that `sorted(results_dir.glob(..))` lists, with their texts. -/
def listResultFiles : Option ResultsDir → List (String × String)
  | none => []
  | some dir => sortBy Prod.fst (dir.entries.filter fun file => matchesResultGlob file.1)

def limitReached (maxRecords : Option ℤ) (count : ℕ) : Bool :=
  maxRecords.any fun limit => limit ≤ (count : ℤ)

section
variable {R E : Type*} (m : RecordModel R E)

/-- The directory and the file are made for the first line. -/
def appendResultRecord (store : ResultStore) (record : R) : ResultStore :=
  let operationId := m.operationId record
  let dir := (store operationId).getD .empty
  let path := resultPath (m.sgId record)
  let text := (dir.lookup path).getD ""
  Function.update store operationId (dir.insert path (text ++ (m.modelDumpJson record ++ "\n")))

/-- The loop over the lines of a file. The flag tells whether the whole load returns there. -/
def loadLines (maxRecords : Option ℤ) : List String → List R → Except E (List R × Bool)
  | [], records => .ok (records, false)
  | line :: rest, records =>
    if limitReached maxRecords records.length then .ok (records, true)
    else
      let trimmed := strip line
      if trimmed = "" then loadLines maxRecords rest records
      else
        match m.modelValidateJson trimmed with
        | .error e => .error e
        | .ok record => loadLines maxRecords rest (records ++ [record])

/-- The loop over the files, given their texts. -/
def loadFiles (maxRecords : Option ℤ) : List String → List R → Except E (List R)
  | [], records => .ok records
  | text :: rest, records =>
    match loadLines m maxRecords (readLines text) records with
    | .error e => .error e
    | .ok (records, true) => .ok records
    | .ok (records, false) => loadFiles maxRecords rest records

def loadResultRecords (store : ResultStore) (operationId : PnmCaptureOperationId)
    (maxRecords : Option ℤ) : Except E (List R) :=
  loadFiles m maxRecords ((listResultFiles (store operationId)).map Prod.snd) []

end

def countResultRecords (store : ResultStore) (operationId : PnmCaptureOperationId) : ℕ :=
  ((listResultFiles (store operationId)).map fun file =>
    (readLines file.2).countP fun line => strip line ≠ "").sum

theorem resultPath_inj {sg sg' : ℤ} : resultPath sg = resultPath sg' ↔ sg = sg' := by
  rw [resultPath, resultPath, String.append_left_inj, String.append_right_inj, Int.repr_inj]

theorem matchesResultGlob_resultPath (sg : ℤ) : matchesResultGlob (resultPath sg) = true := by
  have hstart : startsWith (resultPath sg) resultFilePrefix = true :=
    startsWith_iff.mpr ⟨sg.repr ++ resultFileSuffix, String.append_assoc⟩
  have hend : resultFileSuffix.toList <:+ (sg.repr ++ resultFileSuffix).toList := by
    rw [String.toList_append]
    exact List.suffix_append _ _
  rw [matchesResultGlob, hstart, Bool.true_and, resultPath, String.append_assoc,
    dropPrefix_append, List.isSuffixOf_iff_suffix]
  exact hend

section
variable {R E : Type*} {m : RecordModel R E}

/-- The JSON text of the record is an object on one line, and it is read back as the record. -/
structure Faithful (m : RecordModel R E) (record : R) : Prop where
  validate_dump : m.modelValidateJson (m.modelDumpJson record) = .ok record
  object : ∃ body, m.modelDumpJson record = "\x7b" ++ body ++ "\x7d"
  no_newline : '\n' ∉ (m.modelDumpJson record).toList
  no_return : '\r' ∉ (m.modelDumpJson record).toList

theorem Faithful.strip_line {record : R} (h : Faithful m record) :
    strip (m.modelDumpJson record ++ "\n") = m.modelDumpJson record ∧
      m.modelDumpJson record ≠ "" := by
  obtain ⟨body, hbody⟩ := h.object
  have hdump : (m.modelDumpJson record).toList = '{' :: body.toList ++ ['}'] := by
    rw [hbody, String.toList_append, String.toList_append]
    rfl
  have hline : (m.modelDumpJson record ++ "\n").toList =
      ('{' :: body.toList ++ ['}']) ++ ['\n'] := by
    rw [String.toList_append, hdump]
    rfl
  constructor
  · -- the brackets are no spaces, so only the newline goes
    have hopen : (('{' :: body.toList ++ ['}']) ++ ['\n']).dropWhile isSpace =
        ('{' :: body.toList ++ ['}']) ++ ['\n'] := by
      rw [List.cons_append, List.cons_append, List.dropWhile_cons_of_neg (by decide)]
    rw [← String.toList_inj, strip, String.toList_ofList, hline, hopen,
      List.rdropWhile_concat_pos _ _ _ (by decide), List.rdropWhile_concat_neg _ _ _ (by decide),
      hdump]
  · intro hempty
    rw [hempty] at hdump
    cases hdump

/-- The lines that the records are written as. -/
def recordLines (m : RecordModel R E) (records : List R) : List String :=
  records.map fun record => m.modelDumpJson record ++ "\n"

/-- The text of the file that the records are appended to. -/
def fileText (m : RecordModel R E) (records : List R) : String :=
  String.join (recordLines m records)

theorem readLines_fileText {records : List R} (h : ∀ r ∈ records, Faithful m r) :
    readLines (fileText m records) = recordLines m records := by
  have hclean : ∀ line ∈ records.map m.modelDumpJson,
      '\n' ∉ line.toList ∧ '\r' ∉ line.toList := by
    intro line hline
    obtain ⟨r, hr, rfl⟩ := List.mem_map.mp hline
    exact ⟨(h r hr).no_newline, (h r hr).no_return⟩
  have hjoin := readLines_join hclean
  rw [List.map_map] at hjoin
  exact hjoin

/-- Without a limit a file gives all its records. -/
theorem loadLines_unbounded {written : List R} (h : ∀ r ∈ written, Faithful m r)
    (records : List R) :
    loadLines m none (recordLines m written) records = .ok (records ++ written, false) := by
  induction written generalizing records with
  | nil => rw [recordLines, List.map_nil, loadLines, List.append_nil]
  | cons r written ih =>
    have hr := h r List.mem_cons_self
    have hrest := ih fun r' hr' => h r' (List.mem_cons_of_mem _ hr')
    obtain ⟨hstrip, hne⟩ := hr.strip_line
    rw [recordLines, List.map_cons, loadLines, limitReached, Option.any_none]
    simp only [Bool.false_eq_true, if_false, hstrip, if_neg hne, hr.validate_dump]
    rw [← recordLines, hrest, List.append_assoc, List.singleton_append]

/-- With a limit the load of a file stops at the line that would pass it. -/
theorem loadLines_bounded {written : List R} (h : ∀ r ∈ written, Faithful m r) (limit : ℕ)
    (records : List R) (hlimit : records.length ≤ limit) :
    loadLines m (some (limit : ℤ)) (recordLines m written) records =
      .ok (records ++ written.take (limit-records.length),
        decide (limit < records.length+written.length)) := by
  induction written generalizing records with
  | nil =>
    have hnot : ¬ limit < records.length := by omega
    simp [recordLines, loadLines, hnot]
  | cons r written ih =>
    have hr := h r List.mem_cons_self
    obtain ⟨hstrip, hne⟩ := hr.strip_line
    rw [recordLines, List.map_cons, loadLines, limitReached, Option.any_some]
    by_cases hfull : limit = records.length
    · -- a line is left and the limit is reached
      have hle : ((limit : ℤ) ≤ records.length) := by omega
      have hflag : limit < records.length+(r :: written).length := by
        rw [List.length_cons]
        omega
      rw [decide_eq_true hle, if_pos rfl, decide_eq_true hflag, hfull, Nat.sub_self,
        List.take_zero, List.append_nil]
    · have hlt : records.length < limit := by omega
      have hnot : ¬ ((limit : ℤ) ≤ records.length) := by omega
      have hrest := ih (fun r' hr' => h r' (List.mem_cons_of_mem _ hr')) (records ++ [r]) (by
        rw [List.length_append, List.length_singleton]
        omega)
      have htake : limit-records.length = limit-(records.length+1)+1 := by omega
      have hflag : (limit < records.length+1+written.length) ↔
          limit < records.length+(written.length+1) := by omega
      simp only [decide_eq_false hnot, Bool.false_eq_true, if_false, hstrip, if_neg hne,
        hr.validate_dump]
      rw [← recordLines, hrest, List.append_assoc, List.singleton_append, List.length_append,
        List.length_singleton, List.length_cons, htake, List.take_succ_cons,
        decide_eq_decide.mpr hflag]

theorem loadFiles_unbounded {groups : List (List R)} (h : ∀ g ∈ groups, ∀ r ∈ g, Faithful m r)
    (records : List R) :
    loadFiles m none (groups.map (fileText m)) records = .ok (records ++ groups.flatten) := by
  induction groups generalizing records with
  | nil => rw [List.map_nil, loadFiles, List.flatten_nil, List.append_nil]
  | cons g groups ih =>
    have hg := h g List.mem_cons_self
    have hrest := ih fun g' hg' => h g' (List.mem_cons_of_mem _ hg')
    rw [List.map_cons, loadFiles, readLines_fileText hg, loadLines_unbounded hg]
    dsimp only
    rw [hrest, List.flatten_cons, List.append_assoc]

theorem loadFiles_bounded {groups : List (List R)} (h : ∀ g ∈ groups, ∀ r ∈ g, Faithful m r)
    (limit : ℕ) (records : List R) (hlimit : records.length ≤ limit) :
    loadFiles m (some (limit : ℤ)) (groups.map (fileText m)) records =
      .ok (records ++ groups.flatten.take (limit-records.length)) := by
  induction groups generalizing records with
  | nil => rw [List.map_nil, loadFiles, List.flatten_nil, List.take_nil, List.append_nil]
  | cons g groups ih =>
    have hg := h g List.mem_cons_self
    have hrest := ih fun g' hg' => h g' (List.mem_cons_of_mem _ hg')
    rw [List.map_cons, loadFiles, readLines_fileText hg, loadLines_bounded hg limit records hlimit,
      List.flatten_cons, List.take_append]
    by_cases hstop : limit < records.length+g.length
    · have hnone : limit-records.length-g.length = 0 := by omega
      rw [decide_eq_true hstop]
      dsimp only
      rw [hnone, List.take_zero, List.append_nil]
    · have hall : g.take (limit-records.length) = g := List.take_of_length_le (by omega)
      have hnext : (records ++ g).length ≤ limit := by
        rw [List.length_append]
        omega
      rw [decide_eq_false hstop, hall]
      dsimp only
      rw [hrest _ hnext, List.length_append, Nat.sub_add_eq, List.append_assoc]

theorem countP_readLines {records : List R} (h : ∀ r ∈ records, Faithful m r) :
    (readLines (fileText m records)).countP (fun line => strip line ≠ "") = records.length := by
  have hlength : records.length = (recordLines m records).length := (List.length_map _).symm
  rw [readLines_fileText h, hlength, List.countP_eq_length]
  intro line hline
  obtain ⟨r, hr, rfl⟩ := List.mem_map.mp hline
  obtain ⟨hstrip, hne⟩ := (h r hr).strip_line
  rw [hstrip]
  exact decide_eq_true hne

variable (m)

/-- The records of one group. -/
def ofGroup (records : List R) (sg : ℤ) : List R := records.filter fun r => m.sgId r = sg

/-- The directory has one file for each group that has records, with its records in order. -/
structure Holds (dir : ResultsDir) (records : List R) : Prop where
  names : ∀ name ∈ dir.keys, ∃ sg, name = resultPath sg
  lookup : ∀ sg, dir.lookup (resultPath sg) =
    if ofGroup m records sg = [] then none else some (fileText m (ofGroup m records sg))

variable {m}

theorem holds_append {dir : ResultsDir} {records : List R} (h : Holds m dir records) (r : R) :
    let path := resultPath (m.sgId r)
    Holds m (dir.insert path ((dir.lookup path).getD "" ++ (m.modelDumpJson r ++ "\n")))
      (records ++ [r]) := by
  intro path
  constructor
  · intro name hname
    rcases (dir.mem_keys_insert _ _ _).mp hname with rfl | hold
    · exact ⟨m.sgId r, rfl⟩
    · exact h.names name hold
  · intro sg
    rw [OrderedDict.lookup_insert, ofGroup, List.filter_append]
    by_cases hsg : m.sgId r = sg
    · -- the line goes behind the text that is there, or into a new file
      have hold : (dir.lookup path).getD "" = fileText m (ofGroup m records sg) := by
        rw [show path = resultPath sg from resultPath_inj.mpr hsg, h.lookup sg]
        split
        next hnone =>
          rw [hnone]
          rfl
        next => rfl
      have hnew : [r].filter (fun r => m.sgId r = sg) = [r] := by simp [hsg]
      rw [if_pos (resultPath_inj.mpr hsg).symm, hold, hnew, if_neg (List.concat_ne_nil _ _),
        fileText, fileText, recordLines, recordLines, List.map_append, String.join_append]
      simp [ofGroup]
    · have hpath : resultPath sg ≠ path := fun heq => hsg (resultPath_inj.mp heq).symm
      have hnone : [r].filter (fun r => m.sgId r = sg) = [] := by simp [hsg]
      rw [if_neg hpath, h.lookup sg, hnone, List.append_nil, ofGroup]

/-- The files of the directory, sorted by their names, are those of the groups. -/
theorem Holds.exists_groups {dir : ResultsDir} {records : List R} (h : Holds m dir records) :
    ∃ sgs : List ℤ, sgs.Nodup ∧ (∀ sg, sg ∉ sgs → ofGroup m records sg = []) ∧
      (listResultFiles (some dir)).map Prod.snd =
        sgs.map fun sg => fileText m (ofGroup m records sg) := by
  have hfile : ∀ file ∈ dir.entries, ∃ sg,
      (resultPath sg, fileText m (ofGroup m records sg)) = file := by
    intro file hmem
    obtain ⟨sg, hsg⟩ := h.names file.1 (OrderedDict.mem_keys_of_mem (v := file.2) hmem)
    have hlookup := (dir.lookup_eq_some_iff file.1 file.2).mpr hmem
    rw [hsg, h.lookup sg] at hlookup
    split at hlookup
    · cases hlookup
    · exact ⟨sg, Prod.ext hsg.symm (Option.some_inj.mp hlookup)⟩
  have hall : dir.entries.filter (fun file => matchesResultGlob file.1) = dir.entries := by
    apply List.filter_eq_self.mpr
    intro file hmem
    obtain ⟨sg, rfl⟩ := hfile file hmem
    exact matchesResultGlob_resultPath sg
  have hperm : (listResultFiles (some dir)).Perm dir.entries := by
    rw [listResultFiles, hall]
    exact sortBy_perm _ _
  have hrange : listResultFiles (some dir) ∈
      Set.range (List.map fun sg => (resultPath sg, fileText m (ofGroup m records sg))) := by
    rw [Set.range_list_map]
    exact fun file hmem => hfile file (hperm.mem_iff.mp hmem)
  obtain ⟨sgs, hsgs⟩ := hrange
  refine ⟨sgs, ?_, ?_, ?_⟩
  · have hnodup := (hperm.map Prod.fst).nodup_iff.mpr dir.nodup_keys
    rw [← hsgs, List.map_map] at hnodup
    exact hnodup.of_map _
  · intro sg hsg
    by_contra hne
    have hlookup := h.lookup sg
    rw [if_neg hne] at hlookup
    have hmem := hperm.mem_iff.mpr ((dir.lookup_eq_some_iff _ _).mp hlookup)
    rw [← hsgs] at hmem
    obtain ⟨sg', hsg', heq⟩ := List.mem_map.mp hmem
    have hpath : resultPath sg' = resultPath sg := congrArg Prod.fst heq
    exact hsg (resultPath_inj.mp hpath ▸ hsg')
  · rw [← hsgs, List.map_map]
    rfl

theorem listResultFiles_getD (dir : Option ResultsDir) :
    listResultFiles dir = listResultFiles (some (dir.getD .empty)) := by
  cases dir with
  | none => rfl
  | some dir => rfl

/-- An operation without result files to which `records` have been appended. -/
theorem holds_foldl_append {operationId : PnmCaptureOperationId} {store : ResultStore}
    {written records : List R} (hrecords : ∀ r ∈ records, m.operationId r = operationId)
    (h : Holds m ((store operationId).getD .empty) written) :
    Holds m ((records.foldl (appendResultRecord m) store operationId).getD .empty)
      (written ++ records) := by
  induction records generalizing store written with
  | nil =>
    rw [List.append_nil]
    exact h
  | cons r records ih =>
    have hop := hrecords r List.mem_cons_self
    have hstep : Holds m ((appendResultRecord m store r operationId).getD .empty)
        (written ++ [r]) := by
      simp only [appendResultRecord, hop, Function.update_self, Option.getD_some]
      exact holds_append h r
    have hrest := ih (fun r' hr' => hrecords r' (List.mem_cons_of_mem _ hr')) hstep
    rw [List.append_assoc, List.singleton_append] at hrest
    exact hrest

theorem load_after_appends {operationId : PnmCaptureOperationId} {store : ResultStore}
    (hnew : (store operationId).getD .empty = .empty) {records : List R}
    (hrecords : ∀ r ∈ records, m.operationId r = operationId)
    (hfaithful : ∀ r ∈ records, Faithful m r) :
    let after := records.foldl (appendResultRecord m) store
    ∃ loaded, loadResultRecords m after operationId none = .ok loaded ∧
      (∀ sg, (loaded.filter fun r => m.sgId r = sg) = records.filter fun r => m.sgId r = sg) ∧
      countResultRecords after operationId = loaded.length ∧
      ∀ limit : ℕ, loadResultRecords m after operationId (some (limit : ℤ)) =
        .ok (loaded.take limit) := by
  intro after
  have hempty : Holds m ((store operationId).getD .empty) ([] : List R) := by
    rw [hnew]
    exact ⟨fun name hname => absurd hname List.not_mem_nil, fun sg => rfl⟩
  have hholds : Holds m ((after operationId).getD .empty) records :=
    holds_foldl_append hrecords hempty
  obtain ⟨sgs, hnodup, hcovered, hfiles⟩ := hholds.exists_groups
  rw [← listResultFiles_getD] at hfiles
  have hgroups : ∀ g ∈ sgs.map (ofGroup m records), ∀ r ∈ g, Faithful m r := by
    intro g hg r hr
    obtain ⟨sg, -, rfl⟩ := List.mem_map.mp hg
    exact hfaithful r (List.mem_of_mem_filter hr)
  have htexts : (listResultFiles (after operationId)).map Prod.snd =
      (sgs.map (ofGroup m records)).map (fileText m) := by
    rw [hfiles, List.map_map]
    rfl
  have hfilter : ∀ sg, ((sgs.map (ofGroup m records)).flatten.filter fun r => m.sgId r = sg) =
      records.filter fun r => m.sgId r = sg := by
    intro sg
    rw [← List.flatMap_def]
    refine (filter_flatMap_groups m.sgId records hnodup sg).trans ?_
    split
    next => rfl
    next hsg => exact (hcovered sg hsg).symm
  refine ⟨(sgs.map (ofGroup m records)).flatten, ?_, hfilter, ?_, ?_⟩
  · rw [loadResultRecords, htexts, loadFiles_unbounded hgroups, List.nil_append]
  · have hcount : ((listResultFiles (after operationId)).map fun file =>
        (readLines file.2).countP fun line => strip line ≠ "") =
        (sgs.map (ofGroup m records)).map List.length := by
      calc ((listResultFiles (after operationId)).map fun file =>
            (readLines file.2).countP fun line => strip line ≠ "")
          = ((listResultFiles (after operationId)).map Prod.snd).map fun text =>
            (readLines text).countP fun line => strip line ≠ "" := by rw [List.map_map]; rfl
        _ = (sgs.map (ofGroup m records)).map fun g =>
            (readLines (fileText m g)).countP fun line => strip line ≠ "" := by
          rw [htexts, List.map_map]
          rfl
        _ = (sgs.map (ofGroup m records)).map List.length :=
          List.map_congr_left fun g hg => countP_readLines (hgroups g hg)
    rw [countResultRecords, hcount, List.length_flatten]
  · intro limit
    rw [loadResultRecords, htexts, loadFiles_bounded hgroups limit [] (Nat.zero_le _),
      List.nil_append, List.length_nil, Nat.sub_zero]

/-- The records of an operation are read back: all of them, each as it was, and those of a group
in the order in which they were appended. A limit cuts the same list short, and the count is its
length. -/
theorem result_store_round_trip (operationId : PnmCaptureOperationId) (store : ResultStore)
    (hnew : (store operationId).getD .empty = .empty) (records : List R)
    (hrecords : ∀ r ∈ records, m.operationId r = operationId)
    (hfaithful : ∀ r ∈ records, Faithful m r) :
    let after := records.foldl (appendResultRecord m) store
    ∃ loaded, loadResultRecords m after operationId none = .ok loaded ∧
      loaded.Perm records ∧
      (∀ sg, (loaded.filter fun r => m.sgId r = sg) = records.filter fun r => m.sgId r = sg) ∧
      countResultRecords after operationId = loaded.length ∧
      ∀ limit : ℕ, loadResultRecords m after operationId (some (limit : ℤ)) =
        .ok (loaded.take limit) := by
  intro after
  obtain ⟨loaded, hload, hfilter, hcount, hlimit⟩ := load_after_appends hnew hrecords hfaithful
  exact ⟨loaded, hload, perm_of_filter_key m.sgId hfilter, hfilter, hcount, hlimit⟩

end

/-- The linkage records, with a JSON text and a way to read it. -/
def linkageRecords {E : Type*} (modelDumpJson : PerModemLinkageRecordModel → String)
    (modelValidateJson : String → Except E PerModemLinkageRecordModel) :
    RecordModel PerModemLinkageRecordModel E where
  operationId r := r.pnmCaptureOperationId
  sgId r := r.sgId
  modelDumpJson := modelDumpJson
  modelValidateJson := modelValidateJson

theorem results_foldl_append (dir : OperationDir) (records : List PerModemLinkageRecordModel)
    (sg : ServiceGroupId) :
    (records.foldl OperationStore.appendResultRecord dir).results sg =
      dir.results sg ++ records.filter fun r => r.sgId = sg := by
  induction records generalizing dir with
  | nil => rw [List.foldl_nil, List.filter_nil, List.append_nil]
  | cons r records ih =>
    rw [List.foldl_cons, ih, OperationStore.appendResultRecord]
    dsimp only
    rw [Function.update_apply]
    by_cases hsg : r.sgId = sg
    · simp [hsg]
    · simp [hsg, Ne.symm hsg]

/-- What a load finds in the files of a group is what the operation's directory keeps for it. -/
theorem load_refines_results {E : Type*} {modelDumpJson : PerModemLinkageRecordModel → String}
    {modelValidateJson : String → Except E PerModemLinkageRecordModel}
    {operationId : PnmCaptureOperationId} {store : ResultStore} {dir : OperationDir}
    (hnew : (store operationId).getD .empty = .empty) (hdir : ∀ sg, dir.results sg = [])
    {records : List PerModemLinkageRecordModel}
    (hrecords : ∀ r ∈ records, r.pnmCaptureOperationId = operationId)
    (hfaithful : ∀ r ∈ records, Faithful (linkageRecords modelDumpJson modelValidateJson) r) :
    let m := linkageRecords modelDumpJson modelValidateJson
    ∃ loaded, loadResultRecords m (records.foldl (appendResultRecord m) store) operationId none =
        .ok loaded ∧
      ∀ sg, (loaded.filter fun r => r.sgId = sg) =
        (records.foldl OperationStore.appendResultRecord dir).results sg := by
  intro m
  obtain ⟨loaded, hload, hfilter, -, -⟩ := load_after_appends (m := m) hnew hrecords hfaithful
  refine ⟨loaded, hload, ?_⟩
  intro sg
  have hgroup := hfilter sg
  simp only [m, linkageRecords, Nat.cast_inj] at hgroup
  rw [results_foldl_append, hdir sg, List.nil_append, hgroup]

/-- Two groups; the name of the file of group 10 comes first. -/
def threeRecords : List PerModemLinkageRecordModel :=
  [{ pnmCaptureOperationId := "op", sgId := 9, macAddress := "aa" },
    { pnmCaptureOperationId := "op", sgId := 10, macAddress := "bb" },
    { pnmCaptureOperationId := "op", sgId := 9, macAddress := "cc", stage := .precheck }]

/-- The members of the JSON object, for records like the three. -/
def membersPlain (r : PerModemLinkageRecordModel) : String :=
  "\"pnm_capture_operation_id\":\"" ++ r.pnmCaptureOperationId ++ "\",\"sg_id\":" ++ r.sgId.repr ++
    ",\"mac_address\":\"" ++ r.macAddress ++ "\",\"ip_address\":null,\"stage\":" ++
    (if r.stage = .precheck then "\"precheck\"" else "\"eligibility\"") ++
    ",\"status_code\":0,\"failure_reason\":null,\"channel_id\":null,\"transaction_ids\":[]," ++
    "\"filenames\":[],\"started_epoch\":0,\"finished_epoch\":0,\"message\":\"\""

def dumpPlain (r : PerModemLinkageRecordModel) : String := "\x7b" ++ membersPlain r ++ "\x7d"

def validatePlain (text : String) : Except Unit PerModemLinkageRecordModel :=
  match threeRecords.find? fun r => dumpPlain r = text with
  | some r => .ok r
  | none => .error ()

theorem validate_dumpPlain : ∀ r ∈ threeRecords, validatePlain (dumpPlain r) = .ok r := by
  decide +kernel

/-- A text without control characters. -/
def isPlain (text : String) : Bool := text.toList.all fun c => ' ' ≤ c

theorem isPlain_append (a b : String) : isPlain (a ++ b) = (isPlain a && isPlain b) := by
  rw [isPlain, String.toList_append, List.all_append]
  rfl

theorem notMem_of_isPlain {text : String} (h : isPlain text = true) {c : Char} (hc : c < ' ') :
    c ∉ text.toList := by
  intro hmem
  have hle := of_decide_eq_true (List.all_eq_true.mp h c hmem)
  exact absurd hc hle.not_gt

theorem isPlain_dumpPlain {r : PerModemLinkageRecordModel}
    (hoperation : isPlain r.pnmCaptureOperationId = true) (hgroup : isPlain r.sgId.repr = true)
    (hmac : isPlain r.macAddress = true) : isPlain (dumpPlain r) = true := by
  have hstage : isPlain (if r.stage = .precheck then "\"precheck\"" else "\"eligibility\"") =
      true := by
    split
    · decide +kernel
    · decide +kernel
  unfold dumpPlain membersPlain
  rw [isPlain_append, isPlain_append, isPlain_append, isPlain_append, isPlain_append,
    isPlain_append, isPlain_append, isPlain_append, isPlain_append, isPlain_append,
    isPlain_append, hoperation, hgroup, hmac, hstage]
  decide +kernel

theorem dumpPlain_oneLine :
    ∀ r ∈ threeRecords, '\n' ∉ (dumpPlain r).toList ∧ '\r' ∉ (dumpPlain r).toList := by
  have hparts : ∀ r ∈ threeRecords, isPlain r.pnmCaptureOperationId = true ∧
      isPlain r.sgId.repr = true ∧ isPlain r.macAddress = true := by decide +kernel
  intro r hr
  obtain ⟨hoperation, hgroup, hmac⟩ := hparts r hr
  have hplain := isPlain_dumpPlain hoperation hgroup hmac
  exact ⟨notMem_of_isPlain hplain (by decide), notMem_of_isPlain hplain (by decide)⟩

/-- The three records are read back, those of group 9 in their order. -/
theorem round_trip_threeRecords :
    let m := linkageRecords dumpPlain validatePlain
    let after := threeRecords.foldl (appendResultRecord m) fun _ => none
    ∃ loaded, loadResultRecords m after "op" none = .ok loaded ∧ loaded.Perm threeRecords ∧
      loadResultRecords m after "op" (some 1) = .ok (loaded.take 1) ∧
      (loaded.filter fun r => r.sgId = 9).map (·.macAddress) = ["aa", "cc"] := by
  intro m after
  have hfaithful : ∀ r ∈ threeRecords, Faithful m r := by
    intro r hr
    have hdump : m.modelDumpJson r = dumpPlain r := rfl
    have hvalidate : m.modelValidateJson = validatePlain := rfl
    have hline := dumpPlain_oneLine r hr
    rw [← hdump] at hline
    constructor
    · rw [hvalidate, hdump]
      exact validate_dumpPlain r hr
    · exact ⟨membersPlain r, hdump⟩
    · exact hline.1
    · exact hline.2
  obtain ⟨loaded, hload, hperm, hfilter, -, hlimit⟩ := result_store_round_trip (m := m) "op"
    (fun _ => none) rfl threeRecords (by decide) hfaithful
  refine ⟨loaded, hload, hperm, hlimit 1, ?_⟩
  have hgroup : (loaded.filter fun r => r.sgId = 9) = threeRecords.filter fun r => r.sgId = 9 := by
    have h9 := hfilter 9
    have hcast (n : ℕ) : (n : ℤ) = 9 ↔ n = 9 := by omega
    simpa only [m, linkageRecords, hcast] using h9
  rw [hgroup]
  decide

end ResultFiles
end PypnmCmts
