import PypnmCmts.CmtsOperation
import PypnmCmts.PyCodecs

/-! The index of docsIf3MdNodeStatus. Three parsers of `docsis/cmts_operation.py` decode it, each
for walks of its own: what they make of an index that is written as the table says and of one that
is not, and what becomes of a walk that meets such rows. -/
namespace PypnmCmts
namespace CmtsOperation

/-- Interface, node name and the numbers behind the name: the part that two of the parsers share. -/
def parseNodeName : List ℕ → Except String (Option (InterfaceIndex × NodeName × List ℕ))
  | interfaceIndex :: nameLen :: rest =>
    if rest.length < 1 ∨ rest.length < nameLen+1 then .ok none
    -- the octets are made outside the `try` block, which guards their decoding only
    else if (rest.take nameLen).any fun octet => 255 < octet then
      .error "bytes must be in range(0, 256)"
    else .ok (some ((interfaceIndex : ℤ), PyConvert.decodeUtf8 (rest.take nameLen),
      rest.drop nameLen))
  | _ => .ok none

def parseNodeNameSgId (suffix : List ℕ) : Except String (Option MdNodeStatus) :=
  (parseNodeName suffix).map fun parsed => parsed.bind fun p =>
    p.2.2.head?.map fun cmRegSgId => (p.1, p.2.1, cmRegSgId)

variable (env : SnmpEnvironment)

/-- What a parser makes of an identifier in the column. It is not compared with the column. -/
def parseBelow {α : Type} (oidBase : String) (oid : List ℕ)
    (parse : List ℕ → Except String (Option α)) : Collecting (Option α) :=
  match env.resolveOid oidBase with
  | .ok base =>
    if oid.length ≤ base.length+2 then pure none
    else helper (parse (oid.drop base.length))
  | .error exc =>
    if exc.exceptionClass = .other then helper (.error exc.message)
    else Attempt.rescue (Attempt.fail (.helper .topology true) exc.message) none

def parseMdNodeStatusOid (oidBase : String) (oid : List ℕ) :
    Collecting (Option (InterfaceIndex × NodeName)) :=
  parseBelow env oidBase oid fun suffix =>
    (parseNodeName suffix).map fun parsed => parsed.map fun p => (p.1, p.2.1)

def parseMdNodeStatusOidWithSgId (oidBase : String) (oid : List ℕ) :
    Collecting (Option MdNodeStatus) :=
  parseBelow env oidBase oid parseNodeNameSgId

theorem parseMdNodeStatusKey_eq (oidBase : String) (oid : List ℕ) :
    parseMdNodeStatusKey env oidBase oid = parseBelow env oidBase oid parseNodeStatusSuffix := rfl

/-- The key of a row together with its value, if it has both. -/
def collectRow {α β : Type} (parse : List ℕ → Collecting (Option α)) (entry : α → ℤ → β)
    (row : VarBind × String) : Collecting (Option β) := do
  let parsed ← parse row.1.oid
  pure (parsed.bind fun key => (PyConvert.parseInt row.2).map fun value => entry key value)

def collectRows {α β : Type} (oidBase : String) (parse : List ℕ → Collecting (Option α))
    (entry : α → ℤ → β) : Collecting (List β) := do
  let walkResults ← (env.walk .topology oidBase).rescue []
  if walkResults = [] then pure []
  else
    let values ← helper (env.snmpGetResultValue walkResults)
    let rows ← Attempt.forEach (collectRow parse entry) (walkResults.zip values)
    pure (rows.filterMap id)

def collectMdNodeStatus (oidBase : String) : Collecting (List (InterfaceIndex × NodeName × ℤ)) :=
  collectRows env oidBase (parseMdNodeStatusOid env oidBase) fun key value => (key.1, key.2, value)

theorem collectMdNodeStatusValue_eq (oidBase : String) :
    collectMdNodeStatusValue env oidBase =
      collectRows env oidBase (parseMdNodeStatusKey env oidBase) Prod.mk := rfl

/-- The first row that the search is for. Rows that are not wanted are not parsed. -/
def findRow {α ρ : Type} (parse : List ℕ → Collecting (Option α)) (oid : ρ → List ℕ)
    (wanted : ρ → Bool) (accepts : α → Bool) : List ρ → Collecting (Option α)
  | [] => pure none
  | row :: rows =>
    if wanted row then do
      let parsed ← parse (oid row)
      match parsed.filter accepts with
      | some found => pure (some found)
      | none => findRow parse oid wanted accepts rows
    else findRow parse oid wanted accepts rows

/-- Whether a row was found, and its service group. -/
def cmRegSgId : Option MdNodeStatus → Bool × MdCmSgId
  | some found => (true, found.2.2)
  | none => (false, 0)

def dsSgIdColumn : String := "docsIf3MdNodeStatusMdDsSgId"

def getCmRegStatusSgIdFromNodeName (nodeName : NodeName) : Collecting (Bool × MdCmSgId) :=
  let nameValue := PyText.strip nodeName
  if nameValue = "" then pure (false, 0)
  else do
    let result ← (env.walk .topology dsSgIdColumn).rescue []
    let found ← findRow (parseMdNodeStatusOidWithSgId env dsSgIdColumn) VarBind.oid
      (fun _ => true) (fun key => key.2.1 = nameValue) result
    pure (cmRegSgId found)

def getCmRegStatusSgIdFromDsSgId (dsSgId : ℤ) : Collecting (Bool × MdCmSgId) := do
  let result ← (env.walk .topology dsSgIdColumn).rescue []
  if result = [] then pure (false, 0)
  else
    let values ← helper (env.snmpGetResultValue result)
    let found ← findRow (parseMdNodeStatusOidWithSgId env dsSgIdColumn)
      (fun row : VarBind × String => row.1.oid) (fun row => PyConvert.parseInt row.2 = some dsSgId)
      (fun _ => true) (result.zip values)
    pure (cmRegSgId found)

/-! The index as the table defines it, and what is wrong with the others. -/

/-- The identifier of a row: interface, length of the node name, its octets, service group. -/
def encodeIndex (base : List ℕ) (ifIndex : ℕ) (name : NodeName) (sgId : ℕ) : List ℕ :=
  base ++ ifIndex :: (PyConvert.utf8Octets name).length :: (PyConvert.utf8Octets name ++ [sgId])

def Malformed (base oid : List ℕ) : Prop :=
  ¬ ∃ ifIndex octets sgId, (∀ octet ∈ octets, octet ≤ 255) ∧
    oid = base ++ ifIndex :: octets.length :: (octets ++ [sgId])

/-- No number is left behind the name. -/
def TooShort : List ℕ → Prop
  | _ :: nameLen :: rest => rest.length ≤ nameLen
  | _ => True

/-- More than one number is left behind the name. -/
def TooLong : List ℕ → Prop
  | _ :: nameLen :: rest => nameLen+1 < rest.length
  | _ => False

/-- A number of the name is not an octet. -/
def Overflows : List ℕ → Prop
  | _ :: nameLen :: rest => nameLen < rest.length ∧ ∃ octet ∈ rest.take nameLen, 255 < octet
  | _ => False

/-- The index of a row that has room for one, whatever stands before it and behind it. -/
def readSuffix : List ℕ → Option MdNodeStatus
  | ifIndex :: nameLen :: rest => rest[nameLen]?.map fun sgId =>
    ((ifIndex : ℤ), PyConvert.decodeUtf8 (rest.take nameLen), sgId)
  | _ => none

section Suffixes

/-- What an index is that is none of the malformed ones. -/
theorem wellFormed_iff (suffix : List ℕ) :
    (∃ ifIndex octets sgId, (∀ octet ∈ octets, octet ≤ 255) ∧
      suffix = ifIndex :: octets.length :: (octets ++ [sgId])) ↔
    ¬ (TooShort suffix ∨ TooLong suffix ∨ Overflows suffix) := by
  constructor
  · rintro ⟨ifIndex, octets, sgId, hoctets, rfl⟩
    have hlength : (octets ++ [sgId]).length = octets.length+1 := by
      rw [List.length_append, List.length_singleton]
    rintro (hshort | hlong | ⟨-, octet, hoctet, hover⟩)
    · change _ ≤ octets.length at hshort
      omega
    · change octets.length+1 < _ at hlong
      omega
    · rw [List.take_left] at hoctet
      have hle := hoctets octet hoctet
      omega
  · intro h
    match suffix with
    | [] => exact absurd (Or.inl trivial) h
    | [_] => exact absurd (Or.inl trivial) h
    | ifIndex :: nameLen :: rest =>
      have hroom : nameLen < rest.length := not_le.mp fun hshort => h (Or.inl hshort)
      have hend : rest.length ≤ nameLen+1 := not_lt.mp fun hlong => h (Or.inr (Or.inl hlong))
      have htake : (rest.take nameLen).length = nameLen := List.length_take_of_le hroom.le
      obtain ⟨sgId, hsgId⟩ : ∃ sgId, rest.drop nameLen = [sgId] := by
        apply List.length_eq_one_iff.mp
        rw [List.length_drop]
        omega
      refine ⟨ifIndex, rest.take nameLen, sgId, ?_, ?_⟩
      · intro octet hoctet
        exact not_lt.mp fun hover => h (Or.inr (Or.inr ⟨hroom, octet, hoctet, hover⟩))
      · rw [htake, ← hsgId, List.take_append_drop]

/-- The ways in which an identifier can be malformed. -/
theorem malformed_iff (base oid : List ℕ) :
    Malformed base oid ↔ ¬ base <+: oid ∨ TooShort (oid.drop base.length) ∨
      TooLong (oid.drop base.length) ∨ Overflows (oid.drop base.length) := by
  by_cases hbase : base <+: oid
  · obtain ⟨suffix, rfl⟩ := hbase
    have hwell := not_congr (wellFormed_iff suffix)
    rw [not_not] at hwell
    unfold Malformed
    simp only [List.append_cancel_left_eq]
    rw [List.drop_left, hwell]
    exact ⟨Or.inr, fun h => h.resolve_left fun hprefix => hprefix (List.prefix_append _ _)⟩
  · refine iff_of_true ?_ (Or.inl hbase)
    rintro ⟨ifIndex, octets, sgId, -, rfl⟩
    exact hbase (List.prefix_append _ _)

theorem readSuffix_eq_none (suffix : List ℕ) : readSuffix suffix = none ↔ TooShort suffix := by
  match suffix with
  | [] => exact iff_of_true rfl trivial
  | [_] => exact iff_of_true rfl trivial
  | ifIndex :: nameLen :: rest =>
    rw [readSuffix, Option.map_eq_none_iff, List.getElem?_eq_none_iff]
    rfl

theorem not_overflows_of_tooShort {suffix : List ℕ} (h : TooShort suffix) :
    ¬ Overflows suffix := by
  match suffix, h with
  | [], _ => exact id
  | [_], _ => exact id
  | ifIndex :: nameLen :: rest, h => exact fun hover => hover.1.not_ge h

/-- The index of a row is read back from its identifier. -/
theorem readSuffix_encodeIndex (base : List ℕ) (ifIndex : ℕ) (name : NodeName) (sgId : ℕ) :
    readSuffix ((encodeIndex base ifIndex name sgId).drop base.length) =
      some ((ifIndex : ℤ), name, sgId) := by
  rw [encodeIndex, List.drop_left, readSuffix, List.getElem?_append_right le_rfl, Nat.sub_self,
    List.take_left, PyConvert.decodeUtf8_utf8Octets]
  rfl

theorem not_overflows_encodeIndex (base : List ℕ) (ifIndex : ℕ) (name : NodeName) (sgId : ℕ) :
    ¬ Overflows ((encodeIndex base ifIndex name sgId).drop base.length) := by
  rw [encodeIndex, List.drop_left]
  rintro ⟨-, octet, hoctet, hover⟩
  rw [List.take_left] at hoctet
  have hle := PyConvert.le_of_mem_utf8Octets hoctet
  omega

/-- A parser that raises where the name is not made of octets, and elsewhere answers with a view
of the index. -/
structure Reads {α : Type} (parse : List ℕ → Except String (Option α))
    (view : List ℕ → Option α) : Prop where
  short : ∀ suffix, suffix.length ≤ 2 → view suffix = none
  fails : ∀ suffix, Overflows suffix → ∃ e, parse suffix = .error e
  reads : ∀ suffix, ¬ Overflows suffix → parse suffix = .ok (view suffix)

theorem tooShort_of_length {suffix : List ℕ} (h : suffix.length ≤ 2) : TooShort suffix := by
  match suffix, h with
  | [], _ => trivial
  | [_], _ => trivial
  | [_, _], _ => exact Nat.zero_le _

theorem readSuffix_of_length {suffix : List ℕ} (h : suffix.length ≤ 2) :
    readSuffix suffix = none := (readSuffix_eq_none suffix).mpr (tooShort_of_length h)

/-- The numbers behind the name, as the first two parsers see them. -/
theorem parseNodeName_cases (suffix : List ℕ) :
    (Overflows suffix ∧ ∃ e, parseNodeName suffix = .error e) ∨
    (readSuffix suffix = none ∧ parseNodeName suffix = .ok none) ∨
    (¬ Overflows suffix ∧ ∃ ifIndex name sgId rest,
      readSuffix suffix = some (ifIndex, name, sgId) ∧
      parseNodeName suffix = .ok (some (ifIndex, name, sgId :: rest))) := by
  match suffix with
  | [] => exact Or.inr (Or.inl ⟨rfl, rfl⟩)
  | [_] => exact Or.inr (Or.inl ⟨rfl, rfl⟩)
  | ifIndex :: nameLen :: rest =>
    rw [parseNodeName]
    by_cases hroom : nameLen < rest.length
    · rw [if_neg (by omega)]
      split
      next hany =>
        obtain ⟨octet, hoctet, hover⟩ := List.any_eq_true.mp hany
        exact Or.inl ⟨⟨hroom, octet, hoctet, of_decide_eq_true hover⟩, _, rfl⟩
      next hall =>
        refine Or.inr (Or.inr ⟨?_, (ifIndex : ℤ), PyConvert.decodeUtf8 (rest.take nameLen),
          rest[nameLen], rest.drop (nameLen+1), ?_, ?_⟩)
        · rintro ⟨-, octet, hoctet, hover⟩
          exact hall (List.any_eq_true.mpr ⟨octet, hoctet, decide_eq_true hover⟩)
        · rw [readSuffix, List.getElem?_eq_getElem hroom]
          rfl
        · rw [List.drop_eq_getElem_cons hroom]
    · rw [if_pos (by omega)]
      exact Or.inr (Or.inl ⟨(readSuffix_eq_none _).mpr (not_lt.mp hroom), rfl⟩)

/-- A parser that goes on from the name reads a view of the index. -/
theorem reads_name {α : Type} {goOn : Option (InterfaceIndex × NodeName × List ℕ) → Option α}
    {v : MdNodeStatus → α} (hnone : goOn none = none)
    (hsome : ∀ ifIndex name sgId rest,
      goOn (some (ifIndex, name, sgId :: rest)) = some (v (ifIndex, name, sgId))) :
    Reads (fun suffix => (parseNodeName suffix).map goOn)
      (fun suffix => (readSuffix suffix).map v) where
  short suffix h := by
    rw [readSuffix_of_length h]
    rfl
  fails suffix h := by
    rcases parseNodeName_cases suffix with ⟨-, e, he⟩ | ⟨hshort, -⟩ | ⟨hquiet, -⟩
    · rw [he]
      exact ⟨e, rfl⟩
    · exact absurd h (not_overflows_of_tooShort ((readSuffix_eq_none suffix).mp hshort))
    · exact absurd h hquiet
  reads suffix h := by
    rcases parseNodeName_cases suffix with
      ⟨hover, -⟩ | ⟨hshort, hparse⟩ | ⟨-, ifIndex, name, sgId, rest, hread, hparse⟩
    · exact absurd hover h
    · rw [hshort, hparse, Except.map, hnone]
      rfl
    · rw [hread, hparse, Except.map, hsome]
      rfl

theorem reads_oid : Reads
    (fun suffix => (parseNodeName suffix).map fun parsed => parsed.map fun p => (p.1, p.2.1))
    (fun suffix => (readSuffix suffix).map fun key => (key.1, key.2.1)) :=
  reads_name rfl fun _ _ _ _ => rfl

theorem reads_sgId : Reads parseNodeNameSgId readSuffix := by
  have h : Reads parseNodeNameSgId fun suffix => (readSuffix suffix).map id :=
    reads_name rfl fun _ _ _ _ => rfl
  simpa only [Option.map_id_fun, id] using h

/-- The parser of the keys differs from its sibling in that it asks for four numbers. -/
theorem parseNodeStatusSuffix_eq (suffix : List ℕ) :
    parseNodeStatusSuffix suffix =
      if suffix.length < 4 then .ok none else parseNodeNameSgId suffix := by
  match suffix with
  | [] => rfl
  | [_] => rfl
  | ifIndex :: nameLen :: rest =>
    rw [parseNodeStatusSuffix, parseNodeNameSgId, parseNodeName, List.length_cons,
      List.length_cons]
    by_cases hfour : rest.length < 2
    · rw [if_pos (Or.inl hfour), if_pos (by omega)]
    · rw [if_neg (by omega : ¬ rest.length+1+1 < 4)]
      by_cases hroom : nameLen < rest.length
      · have hcut : ¬ (rest.length < 1 ∨ rest.length < nameLen+1) := by omega
        rw [if_neg (by omega), if_neg hcut]
        split
        · rfl
        · rw [← List.head?_drop]
          rfl
      · have hcut : rest.length < 1 ∨ rest.length < nameLen+1 := by omega
        rw [if_pos (by omega), if_pos hcut]
        rfl

/-- The index of a row as the parser of the keys sees it. -/
def readKeySuffix (suffix : List ℕ) : Option MdNodeStatus :=
  if suffix.length < 4 then none else readSuffix suffix

theorem reads_key : Reads parseNodeStatusSuffix readKeySuffix where
  short suffix h := if_pos (by omega)
  fails suffix h := by
    have hfour : ¬ suffix.length < 4 := by
      match suffix, h with
      | ifIndex :: nameLen :: rest, ⟨hroom, octet, hoctet, _⟩ =>
        -- a name with an octet and the service group behind it make four numbers
        have hname := List.length_pos_of_mem hoctet
        rw [List.length_take] at hname
        rw [List.length_cons, List.length_cons]
        omega
    rw [parseNodeStatusSuffix_eq, if_neg hfour]
    exact reads_sgId.fails suffix h
  reads suffix h := by
    rw [parseNodeStatusSuffix_eq, readKeySuffix]
    split
    · rfl
    · exact reads_sgId.reads suffix h

end Suffixes

/-- What a walk of the column brings, whenever it is asked for, and the values taken from it. -/
structure Walked (oidBase : String) (rows : List VarBind) (values : List String) : Prop where
  answer : ∀ n, env.answer n (.walk oidBase) = .ok rows
  extracted : env.snmpGetResultValue rows = .ok values

/-- What a row says to a reader with the given view of the index. -/
def readRow {α β : Type} (view : List ℕ → Option α) (entry : α → ℤ → β) (base : List ℕ)
    (row : VarBind × String) : Option β :=
  (view (row.1.oid.drop base.length)).bind fun key =>
    (PyConvert.parseInt row.2).map fun value => entry key value

section Walks
open Attempt
variable {env} {oidBase : String} {base : List ℕ} {α β : Type}
  {parse : List ℕ → Except String (Option α)} {view : List ℕ → Option α}

theorem Reads.answers (h : Reads parse view) (hbase : env.resolveOid oidBase = .ok base)
    {oid : List ℕ} (hquiet : ¬ Overflows (oid.drop base.length)) :
    Answers (parseBelow env oidBase oid parse) (.ok (view (oid.drop base.length))) := by
  unfold parseBelow
  rw [hbase]
  dsimp only
  split
  next hlength =>
    have hnone := h.short (oid.drop base.length) (by rw [List.length_drop]; omega)
    rw [hnone]
    exact .pure none
  next =>
    rw [h.reads _ hquiet]
    exact .ofExcept _ _

theorem Reads.answers_error (h : Reads parse view) (hbase : env.resolveOid oidBase = .ok base)
    {oid : List ℕ} (hover : Overflows (oid.drop base.length)) :
    ∃ e, Answers (parseBelow env oidBase oid parse) (.error e) := by
  have hlength : ¬ oid.length ≤ base.length+2 := by
    intro hshort
    refine not_overflows_of_tooShort (tooShort_of_length ?_) hover
    rw [List.length_drop]
    omega
  obtain ⟨e, he⟩ := h.fails _ hover
  unfold parseBelow
  rw [hbase]
  dsimp only
  rw [if_neg hlength, he]
  exact ⟨e, .ofExcept _ _⟩

theorem walk_answers {rows : List VarBind}
    (h : ∀ n, env.answer n (.walk oidBase) = .ok rows) :
    Answers ((env.walk .topology oidBase).rescue []) (.ok rows) :=
  (Answers.bind (.ask h) (.ofExcept _ _)).rescue []

theorem Reads.row_answers (h : Reads parse view) (hbase : env.resolveOid oidBase = .ok base)
    (entry : α → ℤ → β) {row : VarBind × String}
    (hquiet : ¬ Overflows (row.1.oid.drop base.length)) :
    Answers (collectRow (fun oid => parseBelow env oidBase oid parse) entry row)
      (.ok (readRow view entry base row)) :=
  (h.answers hbase hquiet).bind (.pure _)

theorem Reads.row_answers_error (h : Reads parse view) (hbase : env.resolveOid oidBase = .ok base)
    (entry : α → ℤ → β) {row : VarBind × String}
    (hover : Overflows (row.1.oid.drop base.length)) :
    ∃ e, Answers (collectRow (fun oid => parseBelow env oidBase oid parse) entry row)
      (.error e) := by
  obtain ⟨e, he⟩ := h.answers_error hbase hover
  exact ⟨e, he.bind_error _⟩

theorem Walked.values_answers {rows : List VarBind} {values : List String}
    (h : Walked env oidBase rows values) :
    Answers (helper (env.snmpGetResultValue rows)) (.ok values) := by
  rw [h.extracted]
  exact .ofExcept _ _

/-- A name that overflows is raised out of the walk, for nobody on the way catches it. -/
theorem Reads.collect_raises (h : Reads parse view) (hbase : env.resolveOid oidBase = .ok base)
    {rows : List VarBind} {values : List String} (hwalk : Walked env oidBase rows values)
    (entry : α → ℤ → β) {row : VarBind × String} (hrow : row ∈ rows.zip values)
    (hover : Overflows (row.1.oid.drop base.length)) :
    ∃ e, Answers (collectRows env oidBase (fun oid => parseBelow env oidBase oid parse) entry)
      (.error e) := by
  have hrows : rows ≠ [] := by
    rintro rfl
    cases hrow
  have hturns : ∀ row ∈ rows.zip values, ∃ r,
      Answers (collectRow (fun oid => parseBelow env oidBase oid parse) entry row) r := by
    intro row _
    by_cases hover : Overflows (row.1.oid.drop base.length)
    · obtain ⟨e, he⟩ := h.row_answers_error hbase entry hover
      exact ⟨_, he⟩
    · exact ⟨_, h.row_answers hbase entry hover⟩
  obtain ⟨e, he⟩ := h.row_answers_error hbase entry hover
  obtain ⟨e', he'⟩ := Answers.forEach_error hturns hrow he
  refine ⟨e', (walk_answers hwalk.answer).bind ?_⟩
  rw [if_neg hrows]
  exact hwalk.values_answers.bind (he'.bind_error _)

/-- A walk that collects reads row by row exactly if no name overflows. -/
theorem Reads.collect_iff (h : Reads parse view) (hbase : env.resolveOid oidBase = .ok base)
    {rows : List VarBind} {values : List String} (hwalk : Walked env oidBase rows values)
    (entry : α → ℤ → β) :
    Answers (collectRows env oidBase (fun oid => parseBelow env oidBase oid parse) entry)
      (.ok ((rows.zip values).filterMap (readRow view entry base))) ↔
    ∀ row ∈ rows.zip values, ¬ Overflows (row.1.oid.drop base.length) := by
  constructor
  · intro hread row hrow hover
    obtain ⟨e, hraise⟩ := h.collect_raises hbase hwalk entry hrow hover
    cases hread.unique hraise
  · intro hquiet
    refine (walk_answers hwalk.answer).bind ?_
    split
    next hrows =>
      rw [hrows]
      exact .pure []
    next =>
      have hturns := Answers.forEach fun row hrow =>
        h.row_answers hbase entry (hquiet row hrow)
      have hentries : ((rows.zip values).map (readRow view entry base)).filterMap id =
          (rows.zip values).filterMap (readRow view entry base) := List.filterMap_map
      rw [← hentries]
      exact hwalk.values_answers.bind (hturns.bind (.pure _))

section Search
variable {ρ : Type}

/-- The entry a search ends with: that of the first wanted row whose index is accepted. -/
def firstRow (view : List ℕ → Option α) (base : List ℕ) (oid : ρ → List ℕ) (wanted : ρ → Bool)
    (accepts : α → Bool) (rows : List ρ) : Option α :=
  rows.findSome? fun row =>
    if wanted row then (view ((oid row).drop base.length)).filter accepts else none

/-- Whether a search ends at the row. -/
def IsFound (view : List ℕ → Option α) (base : List ℕ) (oid : ρ → List ℕ) (wanted : ρ → Bool)
    (accepts : α → Bool) (row : ρ) : Prop :=
  wanted row ∧ ¬ Overflows ((oid row).drop base.length) ∧
    ∃ key, view ((oid row).drop base.length) = some key ∧ accepts key

/-- The search for a row is over before it comes to a name that overflows. -/
def EndsBeforeOverflow (view : List ℕ → Option α) (base : List ℕ) (oid : ρ → List ℕ)
    (wanted : ρ → Bool) (accepts : α → Bool) (rows : List ρ) : Prop :=
  ∀ earlier row later, rows = earlier ++ row :: later → wanted row →
    Overflows ((oid row).drop base.length) →
    ∃ found ∈ earlier, IsFound view base oid wanted accepts found

variable {oid : ρ → List ℕ} {wanted : ρ → Bool} {accepts : α → Bool}

theorem endsBeforeOverflow_of_isFound {row : ρ}
    (h : IsFound view base oid wanted accepts row) (rows : List ρ) :
    EndsBeforeOverflow view base oid wanted accepts (row :: rows) := by
  intro earlier last later hrows hwanted hover
  cases earlier with
  | nil =>
    rw [List.nil_append] at hrows
    obtain ⟨rfl, -⟩ := List.cons.inj hrows
    exact absurd hover h.2.1
  | cons first earlier =>
    obtain ⟨rfl, -⟩ := List.cons.inj hrows
    exact ⟨row, List.mem_cons_self, h⟩

/-- A row that is passed over says nothing about the end of the search. -/
theorem endsBeforeOverflow_cons {row : ρ}
    (hquiet : wanted row → ¬ Overflows ((oid row).drop base.length))
    (hpassed : ¬ IsFound view base oid wanted accepts row) (rows : List ρ) :
    EndsBeforeOverflow view base oid wanted accepts (row :: rows) ↔
      EndsBeforeOverflow view base oid wanted accepts rows := by
  constructor
  · intro h earlier last later hrows hwanted hover
    obtain ⟨found, hmem, hfound⟩ := h (row :: earlier) last later (by rw [hrows]; rfl) hwanted hover
    rcases List.mem_cons.mp hmem with rfl | hmem
    · exact absurd hfound hpassed
    · exact ⟨found, hmem, hfound⟩
  · intro h earlier last later hrows hwanted hover
    cases earlier with
    | nil =>
      rw [List.nil_append] at hrows
      obtain ⟨rfl, -⟩ := List.cons.inj hrows
      exact absurd hover (hquiet hwanted)
    | cons first earlier =>
      obtain ⟨rfl, hrest⟩ := List.cons.inj hrows
      obtain ⟨found, hmem, hfound⟩ := h earlier last later hrest hwanted hover
      exact ⟨found, List.mem_cons_of_mem _ hmem, hfound⟩

/-- A search answers or raises, depending on what it comes to first. -/
theorem Reads.findRow_answers (h : Reads parse view) (hbase : env.resolveOid oidBase = .ok base)
    (rows : List ρ) :
    (EndsBeforeOverflow view base oid wanted accepts rows ∧
      Answers (findRow (fun oid => parseBelow env oidBase oid parse) oid wanted accepts rows)
        (.ok (firstRow view base oid wanted accepts rows))) ∨
    (¬ EndsBeforeOverflow view base oid wanted accepts rows ∧ ∃ e,
      Answers (findRow (fun oid => parseBelow env oidBase oid parse) oid wanted accepts rows)
        (.error e)) := by
  induction rows with
  | nil =>
    refine Or.inl ⟨?_, .pure none⟩
    intro earlier row later hrows
    exact absurd hrows.symm (List.append_ne_nil_of_right_ne_nil _ (List.cons_ne_nil _ _))
  | cons row rows ih =>
    rw [findRow, firstRow, List.findSome?_cons]
    -- a wanted row raises, ends the search or is passed over like one that is not wanted
    by_cases hwanted : wanted row
    · rw [if_pos hwanted, if_pos hwanted]
      by_cases hover : Overflows ((oid row).drop base.length)
      · obtain ⟨e, he⟩ := h.answers_error hbase hover
        refine Or.inr ⟨?_, e, he.bind_error _⟩
        intro hends
        obtain ⟨found, hmem, -⟩ := hends [] row rows rfl hwanted hover
        cases hmem
      · have hparse := h.answers hbase hover
        cases hfound : (view ((oid row).drop base.length)).filter accepts with
        | some key =>
          obtain ⟨hkey, haccepts⟩ := Option.filter_eq_some_iff.mp hfound
          refine Or.inl ⟨endsBeforeOverflow_of_isFound ⟨hwanted, hover, key, hkey, haccepts⟩ rows,
            hparse.bind ?_⟩
          rw [hfound]
          exact .pure _
        | none =>
          have hpassed : ¬ IsFound view base oid wanted accepts row := by
            rintro ⟨-, -, key, hkey, haccepts⟩
            rw [hkey, Option.filter_some, if_pos haccepts] at hfound
            cases hfound
          rw [endsBeforeOverflow_cons (fun _ => hover) hpassed]
          rcases ih with ⟨hends, hok⟩ | ⟨hends, e, he⟩
          · refine Or.inl ⟨hends, hparse.bind ?_⟩
            rw [hfound]
            exact hok
          · refine Or.inr ⟨hends, e, hparse.bind ?_⟩
            rw [hfound]
            exact he
    · rw [if_neg hwanted, if_neg hwanted,
        endsBeforeOverflow_cons (fun h => absurd h hwanted) fun h => hwanted h.1]
      exact ih

end Search

/-- The rows that a search by node name ends at. -/
abbrev NodeNameEnds (base : List ℕ) (nodeName : NodeName) (rows : List VarBind) : Prop :=
  EndsBeforeOverflow readSuffix base VarBind.oid (fun _ => true)
    (fun key => key.2.1 = PyText.strip nodeName) rows

abbrev DsSgIdEnds (base : List ℕ) (dsSgId : ℤ) (rows : List (VarBind × String)) : Prop :=
  EndsBeforeOverflow readSuffix base (fun row => row.1.oid)
    (fun row => PyConvert.parseInt row.2 = some dsSgId) (fun _ => true) rows

/-- The service group of the first row with the node name. -/
def nodeNameSgId (base : List ℕ) (nodeName : NodeName) (rows : List VarBind) : Bool × MdCmSgId :=
  cmRegSgId (firstRow readSuffix base VarBind.oid (fun _ => true)
    (fun key => key.2.1 = PyText.strip nodeName) rows)

/-- The service group of the first row with the value. -/
def dsSgIdSgId (base : List ℕ) (dsSgId : ℤ) (rows : List (VarBind × String)) : Bool × MdCmSgId :=
  cmRegSgId (firstRow readSuffix base (fun row => row.1.oid)
    (fun row => PyConvert.parseInt row.2 = some dsSgId) (fun _ => true) rows)

theorem nodeName_search_iff (hbase : env.resolveOid dsSgIdColumn = .ok base)
    {rows : List VarBind} (hrows : ∀ n, env.answer n (.walk dsSgIdColumn) = .ok rows)
    {nodeName : NodeName} (hname : PyText.strip nodeName ≠ "") :
    Answers (getCmRegStatusSgIdFromNodeName env nodeName)
      (.ok (nodeNameSgId base nodeName rows)) ↔ NodeNameEnds base nodeName rows := by
  have hanswer := walk_answers hrows
  rcases reads_sgId.findRow_answers hbase rows with ⟨hends, hok⟩ | ⟨hends, e, he⟩
  · refine iff_of_true ?_ hends
    unfold getCmRegStatusSgIdFromNodeName
    dsimp only
    rw [if_neg hname]
    exact hanswer.bind (hok.bind (.pure _))
  · have hraise : Answers (getCmRegStatusSgIdFromNodeName env nodeName) (.error e) := by
      unfold getCmRegStatusSgIdFromNodeName
      dsimp only
      rw [if_neg hname]
      exact hanswer.bind (he.bind_error _)
    refine iff_of_false ?_ hends
    intro hread
    cases hread.unique hraise

theorem dsSgId_search_iff (hbase : env.resolveOid dsSgIdColumn = .ok base)
    {rows : List VarBind} {values : List String} (hwalk : Walked env dsSgIdColumn rows values)
    (dsSgId : ℤ) :
    Answers (getCmRegStatusSgIdFromDsSgId env dsSgId)
      (.ok (dsSgIdSgId base dsSgId (rows.zip values))) ↔
        DsSgIdEnds base dsSgId (rows.zip values) := by
  have hanswer := walk_answers hwalk.answer
  have hvalues := hwalk.values_answers
  rcases reads_sgId.findRow_answers hbase (rows.zip values) with ⟨hends, hok⟩ | ⟨hends, e, he⟩
  · refine iff_of_true (hanswer.bind ?_) hends
    split
    next hrows =>
      rw [hrows]
      exact .pure _
    next => exact hvalues.bind (hok.bind (.pure _))
  · have hrows : rows ≠ [] := by
      rintro rfl
      cases he.unique (.pure none)
    have hraise : Answers (getCmRegStatusSgIdFromDsSgId env dsSgId) (.error e) := by
      refine hanswer.bind ?_
      rw [if_neg hrows]
      exact hvalues.bind (he.bind_error _)
    refine iff_of_false ?_ hends
    intro hread
    cases hread.unique hraise

end Walks

/-- Each parser recovers what it reports of the index, so that they agree with one another. -/
structure Recovered (oidBase : String) (base : List ℕ) (ifIndex : ℕ) (name : NodeName)
    (sgId : ℕ) : Prop where
  interfaceAndName : Attempt.Answers
    (parseMdNodeStatusOid env oidBase (encodeIndex base ifIndex name sgId))
    (.ok (some ((ifIndex : ℤ), name)))
  withSgId : Attempt.Answers
    (parseMdNodeStatusOidWithSgId env oidBase (encodeIndex base ifIndex name sgId))
    (.ok (some ((ifIndex : ℤ), name, sgId)))
  key : Attempt.Answers
    (parseMdNodeStatusKey env oidBase (encodeIndex base ifIndex name sgId))
    (.ok (some ((ifIndex : ℤ), name, sgId)))

/-- No parser finds an index, and none raises. -/
structure Rejected (oidBase : String) (oid : List ℕ) : Prop where
  interfaceAndName : Attempt.Answers (parseMdNodeStatusOid env oidBase oid) (.ok none)
  withSgId : Attempt.Answers (parseMdNodeStatusOidWithSgId env oidBase oid) (.ok none)
  key : Attempt.Answers (parseMdNodeStatusKey env oidBase oid) (.ok none)

/-- The walks that collect the rows leave out those without an index or a value, and no others. -/
structure Collected (oidBase : String) (base : List ℕ) (rows : List (VarBind × String)) : Prop where
  status : Attempt.Answers (collectMdNodeStatus env oidBase)
    (.ok (rows.filterMap (readRow (fun suffix => (readSuffix suffix).map fun key =>
      (key.1, key.2.1)) (fun key value => (key.1, key.2, value)) base)))
  values : Attempt.Answers (collectMdNodeStatusValue env oidBase)
    (.ok (rows.filterMap (readRow readKeySuffix Prod.mk base)))

section Index
variable {env} {oidBase : String} {base : List ℕ}

theorem recovered_iff (hbase : env.resolveOid oidBase = .ok base) (ifIndex : ℕ)
    (name : NodeName) (sgId : ℕ) :
    Recovered env oidBase base ifIndex name sgId ↔ name ≠ "" := by
  have hquiet := not_overflows_encodeIndex base ifIndex name sgId
  have hread := readSuffix_encodeIndex base ifIndex name sgId
  have hkey := reads_key.answers hbase hquiet
  rw [← parseMdNodeStatusKey_eq] at hkey
  have hlength : ((encodeIndex base ifIndex name sgId).drop base.length).length =
      (PyConvert.utf8Octets name).length+3 := by
    rw [encodeIndex, List.drop_left, List.length_cons, List.length_cons, List.length_append,
      List.length_singleton]
  constructor
  · rintro h rfl
    rw [readKeySuffix, if_pos (by rw [hlength]; decide)] at hkey
    cases hkey.unique h.key
  · intro hname
    have hoctets := List.length_pos_iff.mpr (mt PyConvert.utf8Octets_eq_nil.mp hname)
    have hoid := reads_oid.answers hbase hquiet
    have hsgId := reads_sgId.answers hbase hquiet
    rw [readKeySuffix, if_neg (by omega), hread] at hkey
    rw [hread] at hoid hsgId
    exact ⟨hoid, hsgId, hkey⟩

theorem rejected_iff (hbase : env.resolveOid oidBase = .ok base) (oid : List ℕ) :
    Rejected env oidBase oid ↔ TooShort (oid.drop base.length) := by
  constructor
  · intro h
    have hquiet : ¬ Overflows (oid.drop base.length) := by
      intro hover
      obtain ⟨e, he⟩ := reads_sgId.answers_error hbase hover
      cases he.unique h.withSgId
    have hread := (reads_sgId.answers hbase hquiet).unique h.withSgId
    exact (readSuffix_eq_none _).mp (Except.ok.inj hread)
  · intro hshort
    have hquiet := not_overflows_of_tooShort hshort
    have hread := (readSuffix_eq_none _).mpr hshort
    have hoid := reads_oid.answers hbase hquiet
    have hsgId := reads_sgId.answers hbase hquiet
    have hkey := reads_key.answers hbase hquiet
    rw [hread] at hoid hsgId
    rw [readKeySuffix, hread, ite_self, ← parseMdNodeStatusKey_eq] at hkey
    exact ⟨hoid, hsgId, hkey⟩

theorem collected_iff (hbase : env.resolveOid oidBase = .ok base) {rows : List VarBind}
    {values : List String} (hwalk : Walked env oidBase rows values) :
    Collected env oidBase base (rows.zip values) ↔
      ∀ row ∈ rows.zip values, ¬ Overflows (row.1.oid.drop base.length) := by
  constructor
  · exact fun h => (reads_oid.collect_iff hbase hwalk _).mp h.status
  · intro hquiet
    have hvalues := (reads_key.collect_iff hbase hwalk Prod.mk).mpr hquiet
    simp only [← parseMdNodeStatusKey_eq] at hvalues
    rw [← collectMdNodeStatusValue_eq] at hvalues
    exact ⟨(reads_oid.collect_iff hbase hwalk _).mpr hquiet, hvalues⟩

/-- The codec of the index in a column that resolves. An empty name is lost to the keys alone. Of
the malformed identifiers only those that are too short are rejected. A name that overflows is
raised out of the walks that collect, and out of a search that comes to it. -/
theorem node_status_index_iff (hbase : env.resolveOid oidBase = .ok base) :
    (∀ ifIndex name sgId, Recovered env oidBase base ifIndex name sgId ↔ name ≠ "") ∧
    (∀ oid, Malformed base oid →
      (Rejected env oidBase oid ↔ TooShort (oid.drop base.length))) ∧
    ∀ rows values, Walked env oidBase rows values →
      (Collected env oidBase base (rows.zip values) ↔
        ∀ row ∈ rows.zip values, ¬ Overflows (row.1.oid.drop base.length)) ∧
      (oidBase = dsSgIdColumn →
        (∀ nodeName, PyText.strip nodeName ≠ "" →
          (Attempt.Answers (getCmRegStatusSgIdFromNodeName env nodeName)
            (.ok (nodeNameSgId base nodeName rows)) ↔ NodeNameEnds base nodeName rows)) ∧
        ∀ dsSgId, Attempt.Answers (getCmRegStatusSgIdFromDsSgId env dsSgId)
          (.ok (dsSgIdSgId base dsSgId (rows.zip values))) ↔
            DsSgIdEnds base dsSgId (rows.zip values)) := by
  refine ⟨recovered_iff hbase, fun oid _ => rejected_iff hbase oid, ?_⟩
  intro rows values hwalk
  refine ⟨collected_iff hbase hwalk, ?_⟩
  rintro rfl
  exact ⟨fun nodeName hname => nodeName_search_iff hbase hwalk.answer hname,
    dsSgId_search_iff hbase hwalk⟩

end Index

def statusColumn : List ℕ := [1, 3, 6, 1, 4, 1, 4491, 2, 1, 20, 1, 12, 1, 3]

/-- A CMTS whose node status table has the given rows in each column. -/
def statusEnvironment (rows : List VarBind) : SnmpEnvironment where
  insideEventLoop := false
  resolveHost _ _ := .error ⟨.valueError, "unknown host"⟩
  openClient _ _ _ _ := .ok ()
  answer _ _ := .ok rows
  modemCommunity _ := .ok none
  getSysDescr _ _ _ _ := .error "timeout"
  parseInet _ := none
  parseMac _ := none
  hexToInet _ := none
  resolveOid _ := .ok statusColumn
  snmpGetResultValue rows := .ok (rows.map VarBind.value)
  extractLastOidIndex _ := .ok []
  getResultValue _ := .ok none

/-- A row with a node name, and one of which nothing is left behind the name. -/
def statusRows : List VarBind :=
  [⟨encodeIndex statusColumn 7 "Nö1" 3, "11"⟩, ⟨statusColumn ++ [7, 2, 78, 49], "12"⟩]

theorem node_status_index_rows :
    Recovered (statusEnvironment statusRows) dsSgIdColumn statusColumn 7 "Nö1" 3 ∧
    Rejected (statusEnvironment statusRows) dsSgIdColumn (statusColumn ++ [7, 2, 78, 49]) ∧
    Collected (statusEnvironment statusRows) dsSgIdColumn statusColumn
      (statusRows.zip ["11", "12"]) := by
  have hbase : (statusEnvironment statusRows).resolveOid dsSgIdColumn = .ok statusColumn := rfl
  have hshort : TooShort ((statusColumn ++ [7, 2, 78, 49]).drop statusColumn.length) := le_rfl
  obtain ⟨hrecovered, hrejected, hwalks⟩ := node_status_index_iff hbase
  refine ⟨(hrecovered 7 "Nö1" 3).mpr (by decide), (hrejected _ ?_).mpr hshort, ?_⟩
  · exact (malformed_iff _ _).mpr (Or.inr (Or.inl hshort))
  · refine (hwalks statusRows ["11", "12"] ⟨fun _ => rfl, rfl⟩).1.mpr ?_
    intro row hrow
    rcases List.mem_pair.mp hrow with rfl | rfl
    · exact not_overflows_encodeIndex statusColumn 7 "Nö1" 3
    · exact not_overflows_of_tooShort hshort

/-- An index with an empty name, one below another column, one with a number too many and one whose
name is not made of octets. A walk raises at the last one, and the row before it is lost. -/
theorem node_status_index_inexact :
    ¬ Recovered (statusEnvironment []) dsSgIdColumn statusColumn 7 "" 3 ∧
    (∀ oid ∈ [9 :: (statusColumn.drop 1 ++ [7, 1, 78, 3]), statusColumn ++ [7, 1, 78, 3, 4],
      statusColumn ++ [7, 1, 300, 3]],
      Malformed statusColumn oid ∧ ¬ Rejected (statusEnvironment []) dsSgIdColumn oid) ∧
    ((collectMdNodeStatusValue (statusEnvironment
      [⟨encodeIndex statusColumn 7 "N" 3, "11"⟩, ⟨statusColumn ++ [7, 1, 300, 3], "12"⟩])
      dsSgIdColumn).run {}).1 = .error "bytes must be in range(0, 256)" := by
  refine ⟨?_, ?_, by decide +kernel⟩
  · intro h
    have hkey := h.key {}
    revert hkey
    decide +kernel
  · have hanswers : ∀ oid ∈ [9 :: (statusColumn.drop 1 ++ [7, 1, 78, 3]),
        statusColumn ++ [7, 1, 78, 3, 4], statusColumn ++ [7, 1, 300, 3]],
        ((parseMdNodeStatusOid (statusEnvironment []) dsSgIdColumn oid).run {}).1 ≠ .ok none := by
      decide +kernel
    intro oid hoid
    refine ⟨(malformed_iff _ _).mpr ?_, fun h => hanswers oid hoid (h.interfaceAndName {})⟩
    rcases List.mem_cons.mp hoid with rfl | hoid
    · exact Or.inl (by decide)
    rcases List.mem_pair.mp hoid with rfl | rfl
    · exact Or.inr (Or.inr (Or.inl (Nat.lt_succ_self 2)))
    · exact Or.inr (Or.inr (Or.inr ⟨by decide, 300, by decide, by decide⟩))

end CmtsOperation
end PypnmCmts
