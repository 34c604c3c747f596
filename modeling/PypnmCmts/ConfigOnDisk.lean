import PypnmCmts.ConfigMerge
import PypnmCmts.JsonLoads
import PypnmCmts.OrderedDict

/-! The configuration file over the starts of the program: what one start has written the next one
reads, and leaves alone. -/

namespace PyJson
open PyNumber

/-- What holds of a value if it holds of its parts. -/
theorem Json.induction {P : Json → Prop} (hleaf : ∀ value, (∀ items, value ≠ .array items) →
      (∀ members, value ≠ .object members) → P value)
    (harray : ∀ items, (∀ item ∈ items, P item) → P (.array items))
    (hobject : ∀ members, (∀ member ∈ members, P member.2) → P (.object members)) (value : Json) :
    P value := by
  induction hsize : sizeOf value using Nat.strongRecOn generalizing value with
  | _ n ih =>
    subst hsize
    cases value with
    | array items =>
      apply harray
      intro item hitem
      have hlt := List.sizeOf_lt_of_mem hitem
      exact ih _ (by rw [Json.array.sizeOf_spec]; omega) item rfl
    | object members =>
      apply hobject
      intro member hmember
      have hlt := List.sizeOf_lt_of_mem hmember
      have hpair : sizeOf member.2 < sizeOf member := by
        obtain ⟨key, value⟩ := member
        simp only [Prod.mk.sizeOf_spec]
        omega
      exact ih _ (by rw [Json.object.sizeOf_spec]; omega) member.2 rfl
    | _ => exact hleaf _ (fun items h => by cases h) (fun members h => by cases h)

section Parts
variable {limits : Limits} {style : JsonStyle} {depth : ℕ}

theorem writableItems_iff {items : List Json} : WritableItems limits style depth items ↔
    ∀ item ∈ items, Writable limits style depth item := by
  induction items with
  | nil => simp [WritableItems]
  | cons item items ih => rw [WritableItems, ih, List.forall_mem_cons]

theorem writableMembers_iff {members : List (PyStr × Json)} :
    WritableMembers limits style depth members ↔
      ∀ member ∈ members, Text member.1 ∧ Writable limits style depth member.2 := by
  induction members with
  | nil => simp [WritableMembers]
  | cons member members ih =>
    obtain ⟨key, value⟩ := member
    rw [WritableMembers, ih, List.forall_mem_cons, and_assoc]

end Parts

/-- The members that a `dict` has that was made of these. -/
def dictOf (members : List (PyStr × Json)) : List (PyStr × Json) :=
  (members.foldl (fun d member => d.insert member.1 member.2) OrderedDict.empty).entries

mutual

/-- A value as `json.loads` builds it, with every key of an object once. -/
def built : Json → Json
  | .array items => .array (builtItems items)
  | .object members => .object (dictOf (builtMembers members))
  | .null => .null
  | .bool b => .bool b
  | .int n => .int n
  | .float x => .float x
  | .str s => .str s

def builtItems : List Json → List Json
  | [] => []
  | item :: items => built item :: builtItems items

def builtMembers : List (PyStr × Json) → List (PyStr × Json)
  | [] => []
  | (key, value) :: members => (key, built value) :: builtMembers members

end

section Built

theorem builtItems_eq (items : List Json) : builtItems items = items.map built := by
  induction items with
  | nil => rfl
  | cons item items ih => rw [builtItems, ih, List.map_cons]

theorem builtMembers_eq (members : List (PyStr × Json)) :
    builtMembers members = members.map fun member => (member.1, built member.2) := by
  induction members with
  | nil => rfl
  | cons member members ih =>
    obtain ⟨key, value⟩ := member
    rw [builtMembers, ih, List.map_cons]

theorem dictOf_of_nodup {members : List (PyStr × Json)} (h : (members.map Prod.fst).Nodup) :
    dictOf members = members := by
  rw [dictOf, OrderedDict.entries_foldl_insert members OrderedDict.empty h,
    OrderedDict.entries_empty, List.nil_append]

theorem nodup_dictOf (members : List (PyStr × Json)) : ((dictOf members).map Prod.fst).Nodup :=
  OrderedDict.nodup_keys _

theorem mem_entries_foldl {members : List (PyStr × Json)} {member : PyStr × Json}
    {d : OrderedDict PyStr Json}
    (h : member ∈ (members.foldl (fun d member => d.insert member.1 member.2) d).entries) :
    member ∈ d.entries ∨ member ∈ members := by
  induction members generalizing d with
  | nil => exact Or.inl h
  | cons first members ih =>
    rcases ih h with hinsert | htail
    · rcases OrderedDict.mem_entries_insert.mp hinsert with hfirst | hold
      · exact Or.inr (hfirst ▸ List.mem_cons_self)
      · exact Or.inl hold.2
    · exact Or.inr (List.mem_cons_of_mem _ htail)

theorem mem_dictOf {members : List (PyStr × Json)} {member : PyStr × Json}
    (h : member ∈ dictOf members) : member ∈ members :=
  (mem_entries_foldl h).resolve_left List.not_mem_nil

/-- What is built has no key twice. -/
theorem built_built (value : Json) : built (built value) = built value := by
  induction value using Json.induction with
  | hleaf value harray hobject =>
    cases value with
    | array items => exact absurd rfl (harray items)
    | object members => exact absurd rfl (hobject members)
    | _ => rfl
  | harray items ih =>
    rw [built, built, builtItems_eq, builtItems_eq, List.map_map]
    congr 1
    exact List.map_congr_left ih
  | hobject members ih =>
    have hsame : (dictOf (builtMembers members)).map (fun member => (member.1, built member.2)) =
        dictOf (builtMembers members) := by
      conv_rhs => rw [← List.map_id (dictOf (builtMembers members))]
      apply List.map_congr_left
      intro member hmember
      have hbuilt := mem_dictOf hmember
      rw [builtMembers_eq] at hbuilt
      obtain ⟨old, hold, rfl⟩ := List.mem_map.mp hbuilt
      rw [ih old hold]
      rfl
    rw [built, built, builtMembers_eq, hsame, dictOf_of_nodup (nodup_dictOf _)]

theorem writable_built {limits : Limits} {style : JsonStyle} {value : Json} {depth : ℕ}
    (h : Writable limits style depth value) : Writable limits style depth (built value) := by
  induction value using Json.induction generalizing depth with
  | hleaf value harray hobject =>
    cases value with
    | array items => exact absurd rfl (harray items)
    | object members => exact absurd rfl (hobject members)
    | _ => exact h
  | harray items ih =>
    refine ⟨h.1, ?_⟩
    rw [writableItems_iff, builtItems_eq]
    intro item hitem
    obtain ⟨old, hold, rfl⟩ := List.mem_map.mp hitem
    exact ih old hold (writableItems_iff.mp h.2 old hold)
  | hobject members ih =>
    refine ⟨h.1, ?_⟩
    rw [writableMembers_iff, builtMembers_eq]
    intro member hmember
    obtain ⟨old, hold, rfl⟩ := List.mem_map.mp (mem_dictOf hmember)
    obtain ⟨hkey, hvalue⟩ := writableMembers_iff.mp h.2 old hold
    exact ⟨hkey, ih old hold hvalue⟩

end Built
end PyJson

namespace JsonValue
open KeyedTree PyJson PyNumber

/-- The value that `json.dumps` writes. -/
def toJson : JsonValue → Json
  | .leaf j => built j.1
  | .node keys _ child => .object (keys.attach.map fun key => (key.1, toJson (child key)))

/-- A value that can be written, and all that is in it. -/
def Writes (limits : Limits) (style : JsonStyle) : JsonValue → ℕ → Prop
  | .leaf j, depth => Writable limits style depth j.1
  | .node _ _ child, depth => 0 < depth ∧
      ∀ key, Text key.1 ∧ Writes limits style (child key) (depth-1)

section Writing
variable {limits : Limits} {style : JsonStyle}

theorem writes_iff_of_isNode {value : JsonValue} (h : value.isNode = true) (depth : ℕ) :
    Writes limits style value depth ↔ 0 < depth ∧ ∀ key sub, value.lookup key = some sub →
      Text key ∧ Writes limits style sub (depth-1) := by
  cases value with
  | leaf j => cases h
  | node keys nodup child =>
    rw [Writes]
    apply and_congr_right
    intro _
    constructor
    · intro hall key sub hsub
      have hmem : key ∈ keys := mem_keys_of_lookup hsub
      rw [lookup, dif_pos hmem] at hsub
      obtain rfl := Option.some.inj hsub
      exact hall ⟨key, hmem⟩
    · intro hall key
      exact hall key.1 (child key) (by rw [lookup, dif_pos key.2])

theorem writable_toJson {value : JsonValue} {depth : ℕ} (h : Writes limits style value depth) :
    Writable limits style depth value.toJson := by
  induction value generalizing depth with
  | leaf j => exact writable_built h
  | node keys nodup child ih =>
    refine ⟨h.1, ?_⟩
    rw [writableMembers_iff]
    intro member hmember
    obtain ⟨key, -, rfl⟩ := List.mem_map.mp hmember
    exact ⟨(h.2 key).1, ih key (h.2 key).2⟩

theorem isNode_ofMembers (members : List (PyStr × Json)) (object : JsonValue) :
    (ofMembers object members).isNode = object.isNode := by
  induction members generalizing object with
  | nil => rw [ofMembers]
  | cons member members ih =>
    obtain ⟨key, value⟩ := member
    rw [ofMembers, ih, isNode_insert]

theorem writes_ofMembers {members : List (PyStr × Json)} {object : JsonValue} {depth : ℕ}
    (hnode : object.isNode = true) (hobject : Writes limits style object depth)
    (hmembers : ∀ member ∈ members, Text member.1 ∧
      Writes limits style (ofJson member.2) (depth-1)) :
    Writes limits style (ofMembers object members) depth := by
  induction members generalizing object with
  | nil =>
    rw [ofMembers]
    exact hobject
  | cons member members ih =>
    obtain ⟨key, value⟩ := member
    have hfirst := hmembers _ List.mem_cons_self
    rw [ofMembers]
    apply ih (by rw [isNode_insert, hnode])
    · rw [writes_iff_of_isNode (by rw [isNode_insert, hnode])]
      obtain ⟨hdepth, hold⟩ := (writes_iff_of_isNode hnode depth).mp hobject
      refine ⟨hdepth, ?_⟩
      intro other sub hsub
      rw [lookup_insert hnode] at hsub
      split_ifs at hsub with hother
      · obtain rfl := Option.some.inj hsub
        rw [hother]
        exact hfirst
      · exact hold other sub hsub
    · exact fun m hm => hmembers m (List.mem_cons_of_mem _ hm)

theorem writes_ofJson {value : Json} {depth : ℕ} (h : Writable limits style depth value) :
    Writes limits style (ofJson value) depth := by
  induction value using Json.induction generalizing depth with
  | hleaf value harray hobject =>
    cases value with
    | array items => exact absurd rfl (harray items)
    | object members => exact absurd rfl (hobject members)
    | _ => exact h
  | harray items ih => exact h
  | hobject members ih =>
    rw [ofJson]
    apply writes_ofMembers rfl
    · exact ⟨h.1, fun key => absurd key.2 List.not_mem_nil⟩
    · intro member hmember
      obtain ⟨hkey, hvalue⟩ := writableMembers_iff.mp h.2 member hmember
      exact ⟨hkey, ih member hmember hvalue⟩

end Writing

section Reading

/-- Members under new keys, each under one of its own, are the children behind those that are
there. -/
theorem ofMembers_spec {members : List (PyStr × Json)} {object : JsonValue}
    (hnode : object.isNode = true) (hnodup : (object.keys ++ members.map Prod.fst).Nodup) :
    (ofMembers object members).keys = object.keys ++ members.map Prod.fst ∧
      ∀ key, (ofMembers object members).lookup key =
        ((members.find? fun member => member.1 = key).map fun member => ofJson member.2).or
          (object.lookup key) := by
  induction members generalizing object with
  | nil => simp [ofMembers]
  | cons member members ih =>
    obtain ⟨key, value⟩ := member
    have hnew : key ∉ object.keys := fun hmem =>
      (List.nodup_append.mp hnodup).2.2 key hmem key List.mem_cons_self rfl
    have hkeys := keys_insert_of_notMem hnode hnew (ofJson value)
    have hnode' : (object.insert key (ofJson value)).isNode = true := by rw [isNode_insert, hnode]
    rw [List.map_cons, List.append_cons, ← hkeys] at hnodup
    obtain ⟨hk, hl⟩ := ih hnode' hnodup
    rw [ofMembers]
    refine ⟨?_, ?_⟩
    · rw [hk, hkeys, List.map_cons, ← List.append_cons]
    · intro other
      rw [hl, lookup_insert hnode]
      by_cases hother : key = other
      · -- the key is not among the members behind it
        have hnone : (members.find? fun member => member.1 = other) = none := by
          rw [List.find?_eq_none]
          intro member hmember heq
          have hmem : key ∈ members.map Prod.fst := by
            rw [hother, ← of_decide_eq_true heq]
            exact List.mem_map_of_mem hmember
          rw [hkeys, List.append_assoc] at hnodup
          exact (List.nodup_cons.mp (List.nodup_append.mp hnodup).2.1).1 hmem
        have hfirst : ((key, value) :: members).find? (fun member => member.1 = other) =
            some (key, value) := by
          rw [List.find?_cons, decide_eq_true hother]
        rw [hnone, hfirst, if_pos hother.symm]
        rfl
      · have hrest : ((key, value) :: members).find? (fun member => member.1 = other) =
            members.find? fun member => member.1 = other := by
          rw [List.find?_cons, decide_eq_false hother]
        rw [hrest, if_neg (Ne.symm hother)]

theorem find?_attach {keys : List PyStr} {key : PyStr} (h : key ∈ keys) :
    keys.attach.find? (fun k => k.1 = key) = some ⟨key, h⟩ := by
  cases hfind : keys.attach.find? (fun k => k.1 = key) with
  | none =>
    have hnone := List.find?_eq_none.mp hfind ⟨key, h⟩ (List.mem_attach _ _)
    exact absurd (decide_eq_true rfl) hnone
  | some k =>
    have hk : k.1 = key := of_decide_eq_true
      (List.find?_some (p := fun k : {k // k ∈ keys} => decide (k.1 = key)) hfind)
    exact congrArg some (Subtype.ext hk)

theorem noKey (k : {k : PyStr // k ∈ ([] : List PyStr)}) : False := List.not_mem_nil k.2

def emptyObject : JsonValue := .node [] List.nodup_nil fun k => (noKey k).elim

theorem ofJson_object (members : List (PyStr × Json)) :
    ofJson (.object members) = ofMembers emptyObject members := by
  have hempty (child : {k // k ∈ ([] : List PyStr)} → JsonValue) :
      (KeyedTree.node [] List.nodup_nil child : JsonValue) = emptyObject := by
    rw [emptyObject]
    congr 1
    funext k
    exact absurd k.2 List.not_mem_nil
  rw [ofJson, hempty]

/-- What is read back has the same keys, with what is read back under each. -/
theorem read_back_of_isNode {value : JsonValue} (h : value.isNode = true) :
    (ofJson (toJson value)).isNode = true ∧ (ofJson (toJson value)).keys = value.keys ∧
      ∀ key, (ofJson (toJson value)).lookup key =
        (value.lookup key).map fun sub => ofJson (toJson sub) := by
  cases value with
  | leaf j => cases h
  | node keys nodup child =>
    have hfirst : (keys.attach.map fun key => (key.1, toJson (child key))).map Prod.fst = keys := by
      rw [List.map_map]
      exact List.attach_map_subtype_val keys
    have hnodup : (emptyObject.keys ++
        (keys.attach.map fun key => (key.1, toJson (child key))).map Prod.fst).Nodup := by
      rw [hfirst]
      exact nodup
    obtain ⟨hk, hl⟩ := ofMembers_spec rfl hnodup
    rw [toJson, ofJson_object]
    refine ⟨?_, ?_, ?_⟩
    · rw [isNode_ofMembers]
      rfl
    · rw [hk, hfirst]
      rfl
    · intro key
      rw [hl, List.find?_map]
      by_cases hmem : key ∈ keys
      · have hfound := find?_attach hmem
        rw [show ((fun member : PyStr × Json => decide (member.1 = key)) ∘
          fun k : {k // k ∈ keys} => (k.1, toJson (child k))) = fun k =>
            decide (k.1 = key) from rfl,
          hfound, lookup, dif_pos hmem]
        rfl
      · have hnone : keys.attach.find? (fun k => k.1 = key) = none := by
          rw [List.find?_eq_none]
          intro k _ heq
          exact hmem (of_decide_eq_true heq ▸ k.2)
        rw [show ((fun member : PyStr × Json => decide (member.1 = key)) ∘
          fun k : {k // k ∈ keys} => (k.1, toJson (child k))) = fun k =>
            decide (k.1 = key) from rfl,
          hnone, lookup, dif_neg hmem]
        rfl

theorem ofJson_built {j : JsonLeaf} : ∃ j', ofJson (built j.1) = .leaf j' ∧ j'.1 = built j.1 := by
  obtain ⟨value, hvalue⟩ := j
  cases value with
  | object members => exact absurd rfl (hvalue members)
  | _ => exact ⟨_, rfl, rfl⟩

theorem toJson_congr {value value' : JsonValue} (h : value.isNode = true)
    (h' : value'.isNode = true)
    (hkeys : value.keys = value'.keys)
    (hsub : ∀ key sub sub', value.lookup key = some sub → value'.lookup key = some sub' →
      toJson sub = toJson sub') : toJson value = toJson value' := by
  cases value with
  | leaf j => cases h
  | node keys nodup child =>
    cases value' with
    | leaf j => cases h'
    | node keys' nodup' child' =>
      obtain rfl : keys = keys' := hkeys
      rw [toJson, toJson]
      congr 1
      apply List.map_congr_left
      intro key _
      have hchild := hsub key.1 (child key) (child' key) (by rw [lookup, dif_pos key.2])
        (by rw [lookup, dif_pos key.2])
      rw [hchild]

/-- What is read back is written as the same text again. -/
theorem toJson_read_back (value : JsonValue) : toJson (ofJson (toJson value)) = toJson value := by
  induction value using induction_lookup with
  | h value ih =>
    by_cases hnode : value.isNode = true
    · obtain ⟨hisNode, hkeys, hlookup⟩ := read_back_of_isNode hnode
      apply toJson_congr hisNode hnode hkeys
      intro key sub sub' hsub hsub'
      rw [hlookup, hsub', Option.map_some] at hsub
      rw [← Option.some.inj hsub]
      exact ih key sub' hsub'
    · cases value with
      | leaf j =>
        obtain ⟨j', hread, hj'⟩ := ofJson_built (j := j)
        rw [toJson, hread, toJson, hj', built_built]
      | node keys nodup child => exact absurd rfl hnode

end Reading
end JsonValue

namespace StartUp
open KeyedTree PyJson PyNumber JsonValue

section Merging
variable {limits : Limits} {style : JsonStyle}

/-- The merge makes nothing that could not be written. -/
theorem writes_mergeAt {target template : JsonValue} {depth : ℕ}
    (ht : Writes limits style target depth)
    (hp : Writes limits style template depth) :
    Writes limits style (mergeAt target template).1 depth := by
  induction template using induction_lookup generalizing target depth with
  | h template ih =>
    by_cases hnode : target.isNode = true
    · have hmerged : (mergeAt target template).1.isNode = true := by rw [isNode_mergeAt, hnode]
      obtain ⟨hdepth, htsub⟩ := (writes_iff_of_isNode hnode depth).mp ht
      rw [writes_iff_of_isNode hmerged]
      refine ⟨hdepth, ?_⟩
      intro key sub hsub
      cases hk : template.lookup key with
      | none =>
        rw [lookup_mergeAt_of_none hk] at hsub
        exact htsub key sub hsub
      | some value =>
        obtain ⟨htext, hvalue⟩ :=
          ((writes_iff_of_isNode (isNode_of_lookup hk) depth).mp hp).2 key value hk
        rw [lookup_mergeAt_of_some hnode hk] at hsub
        obtain rfl := Option.some.inj hsub
        refine ⟨htext, ?_⟩
        cases hold : target.lookup key with
        | none => exact hvalue
        | some old => exact ih key value hk (htsub key old hold).2 hvalue
    · rw [mergeAt_of_target_leaf (Bool.eq_false_of_not_eq_true hnode)]
      exact ht

/-- For the merge it is the same whether the target was written and read back before. -/
theorem changed_read_back (target template : JsonValue) :
    (mergeAt (ofJson (toJson target)) template).2 = (mergeAt target template).2 := by
  induction template using induction_lookup generalizing target with
  | h template ih =>
    by_cases hnode : target.isNode = true
    · obtain ⟨hisNode, -, hlookup⟩ := read_back_of_isNode hnode
      have hkey (key : PyStr) (value : JsonValue) (hk : template.lookup key = some value) :
          (keyResult ((ofJson (toJson target)).lookup key) value).2 =
            (keyResult (target.lookup key) value).2 := by
        rw [hlookup]
        cases hold : target.lookup key with
        | none => rfl
        | some old => exact ih key value hk old
      rw [Bool.eq_iff_iff, changed_mergeAt hisNode, changed_mergeAt hnode]
      constructor
      · intro ⟨key, value, hk, hchanged⟩
        exact ⟨key, value, hk, (hkey key value hk).symm.trans hchanged⟩
      · intro ⟨key, value, hk, hchanged⟩
        exact ⟨key, value, hk, (hkey key value hk).trans hchanged⟩
    · cases target with
      | leaf j =>
        obtain ⟨j', hread, -⟩ := ofJson_built (j := j)
        rw [toJson, hread, mergeAt_of_target_leaf rfl, mergeAt_of_target_leaf rfl]
      | node keys nodup child => exact absurd rfl hnode

end Merging

section Starts
variable (limits : Limits) (style : JsonStyle)

/-- `json.dumps(system_data, indent=4) + "\n"` in UTF-8. -/
def configText (value : JsonObject) : List UInt8 :=
  asciiOctets (style.dumpsText (toJson value.1) ++ [10])

/-- How many calls of `_merge_missing` stand in each other: a value of the template is merged where
it and the target's value of its key are objects. -/
def mergeCalls (target : JsonValue) : JsonValue → ℕ
  | .leaf _ => 1
  | .node keys _ child =>
    keys.attach.foldl (fun calls key =>
      match target.lookup key.1 with
      | none => calls
      | some targetValue =>
        if targetValue.isNode && (child key).isNode then
          max calls (mergeCalls targetValue (child key)+1)
        else calls) 1

/-- How many calls may stand in each other where the configuration is merged and where it is
dumped. -/
structure CallsLeft where
  merge : ℕ
  dumps : ℕ

variable (left : CallsLeft)

/-- A start: the configuration file behind it. What raises here is outside the `try`. -/
def start (cmtsTemplate systemConfig : Option (List UInt8)) :
    Except Raised (Option (List UInt8)) := do
  if let (some template, some system) :=
      (cmtsTemplate.bind (readObject limits), systemConfig.bind (readObject limits)) then
    if left.merge < mergeCalls system.1 template.1 then throw .recursion
  match ensureCmtsSystemConfig limits cmtsTemplate systemConfig with
  | none => return systemConfig
  | some written =>
    let text ← style.dumps left.dumps (toJson written.1)
    return some (asciiOctets (text ++ [10]))

/-- A start that raises leaves the file as it was. -/
def afterStart (cmtsTemplate systemConfig : Option (List UInt8)) : Option (List UInt8) :=
  match start limits style left cmtsTemplate systemConfig with
  | .ok file => file
  | .error _ => systemConfig

/-- The calls that are left are enough for the merge, and for the text if one is written. -/
def Suffices (system template : JsonObject) : Prop :=
  mergeCalls system.1 template.1 ≤ left.merge ∧
    ((mergeMissing system template).2 = true →
      callsOf (toJson (mergeMissing system template).1.1) ≤ left.dumps)

/-- The floats of the value in a file are written as texts that are read back. -/
def FloatsWritten (octets : List UInt8) : Prop :=
  ∀ text value, readText octets = .ok text → loads limits text = .ok value → Represented style value

variable {limits style left}

theorem writes_of_readObject {octets : List UInt8} {value : JsonObject}
    (hfloats : FloatsWritten limits style octets) (h : readObject limits octets = some value) :
    Writes limits style value.1 (limits.recursionLeft+1) := by
  rw [readObject] at h
  split at h
  · cases h
  next text htext =>
  split at h
  · cases h
  next json hjson =>
  rw [toObject] at h
  split_ifs at h
  obtain rfl := Option.some.inj h
  exact writes_ofJson (writable_of_loads (chars_readText htext) hjson
    (hfloats text json htext hjson))

/-- The file that is written holds the object that it was written from. -/
theorem readObject_configText {value : JsonObject}
    (h : Writes limits style value.1 (limits.recursionLeft+1)) :
    ∃ read, readObject limits (configText style value) = some read ∧
      read.1 = ofJson (toJson value.1) := by
  have hblank : Blank [10] := by
    intro c hc
    rw [List.mem_singleton.mp hc]
    rfl
  obtain ⟨text, htext, hloads⟩ := loads_octets (writable_toJson h) hblank
  have hnode := (read_back_of_isNode value.2).1
  refine ⟨⟨_, hnode⟩, ?_, rfl⟩
  simp only [readObject, configText, htext, hloads, toObject, dif_pos hnode]

theorem writes_merged {cmtsTemplate systemConfig : List UInt8} {template system : JsonObject}
    (htemplate : readObject limits cmtsTemplate = some template)
    (hsystem : readObject limits systemConfig = some system)
    (hfloats : FloatsWritten limits style cmtsTemplate)
    (hfloats' : FloatsWritten limits style systemConfig) :
    Writes limits style (mergeMissing system template).1.1 (limits.recursionLeft+1) := by
  rw [mergeMissing_fst]
  exact writes_mergeAt (writes_of_readObject hfloats' hsystem)
    (writes_of_readObject hfloats htemplate)

/-- A file that a start has written is left alone by the next one. -/
theorem ensure_configText {cmtsTemplate systemConfig : Option (List UInt8)} {written : JsonObject}
    (hfloats : ∀ octets, cmtsTemplate = some octets ∨ systemConfig = some octets →
      FloatsWritten limits style octets)
    (h : ensureCmtsSystemConfig limits cmtsTemplate systemConfig = some written) :
    ensureCmtsSystemConfig limits cmtsTemplate (some (configText style written)) = none := by
  rw [ensureCmtsSystemConfig, Option.bind_eq_bind, Option.bind_eq_some_iff] at h
  obtain ⟨template, htemplate, h⟩ := h
  rw [Option.bind_eq_some_iff] at h
  obtain ⟨system, hsystem, h⟩ := h
  obtain ⟨templateOctets, htmpl, htemplate'⟩ := Option.bind_eq_some_iff.mp htemplate
  obtain ⟨systemOctets, hsys, hsystem'⟩ := Option.bind_eq_some_iff.mp hsystem
  dsimp only at h
  split_ifs at h
  obtain rfl := Option.some.inj h
  have hwrites := writes_merged htemplate' hsystem' (hfloats _ (Or.inl htmpl))
    (hfloats _ (Or.inr hsys))
  obtain ⟨read, hread, hsame⟩ := readObject_configText hwrites
  have hunchanged : (mergeMissing read template).2 = false := by
    rw [mergeMissing_snd, hsame, changed_read_back, mergeMissing_fst]
    exact mergeAt_again system.1 template.1
  rw [ensureCmtsSystemConfig, htemplate, Option.bind_some, hread, Option.bind_eq_bind,
    Option.bind_some, Option.bind_some]
  exact if_neg (by rw [hunchanged]; exact Bool.false_ne_true)

theorem ensure_of_reads {cmtsTemplate systemConfig : Option (List UInt8)}
    {template system : JsonObject}
    (htemplate : cmtsTemplate.bind (readObject limits) = some template)
    (hsystem : systemConfig.bind (readObject limits) = some system) :
    ensureCmtsSystemConfig limits cmtsTemplate systemConfig =
      if (mergeMissing system template).2 then some (mergeMissing system template).1 else none := by
  simp only [ensureCmtsSystemConfig, htemplate, hsystem, Option.bind_eq_bind, Option.bind_some]

theorem start_of_reads {cmtsTemplate systemConfig : Option (List UInt8)}
    {template system : JsonObject}
    (htemplate : cmtsTemplate.bind (readObject limits) = some template)
    (hsystem : systemConfig.bind (readObject limits) = some system) :
    start limits style left cmtsTemplate systemConfig =
      if left.merge < mergeCalls system.1 template.1 then .error .recursion
      else if (mergeMissing system template).2 = false then .ok systemConfig
      else if left.dumps < callsOf (toJson (mergeMissing system template).1.1)
        then .error .recursion
      else .ok (some (configText style (mergeMissing system template).1)) := by
  rw [start, htemplate, hsystem, ensure_of_reads htemplate hsystem]
  dsimp only
  by_cases hmerge : left.merge < mergeCalls system.1 template.1
  · rw [if_pos hmerge, if_pos hmerge]
    rfl
  rw [if_neg hmerge, if_neg hmerge]
  cases (mergeMissing system template).2 with
  | false => rfl
  | true =>
    rw [if_pos rfl, if_neg (Ne.symm Bool.false_ne_true)]
    simp only [JsonStyle.dumps]
    split_ifs <;> rfl

/-- The file behind a start is the one before it, or it holds the text that the start wrote. -/
theorem afterStart_cases (cmtsTemplate systemConfig : Option (List UInt8)) :
    afterStart limits style left cmtsTemplate systemConfig = systemConfig ∨
      ∃ written, ensureCmtsSystemConfig limits cmtsTemplate systemConfig = some written ∧
        afterStart limits style left cmtsTemplate systemConfig =
          some (configText style written) := by
  cases htemplate : cmtsTemplate.bind (readObject limits) with
  | none =>
    have hensure : ensureCmtsSystemConfig limits cmtsTemplate systemConfig = none := by
      simp only [ensureCmtsSystemConfig, htemplate, Option.bind_eq_bind, Option.bind_none]
    rw [afterStart, start, htemplate, hensure]
    exact Or.inl rfl
  | some template =>
    cases hsystem : systemConfig.bind (readObject limits) with
    | none =>
      have hensure : ensureCmtsSystemConfig limits cmtsTemplate systemConfig = none := by
        simp only [ensureCmtsSystemConfig, htemplate, hsystem, Option.bind_eq_bind,
          Option.bind_some, Option.bind_none]
      rw [afterStart, start, htemplate, hsystem, hensure]
      exact Or.inl rfl
    | some system =>
      rw [afterStart, start_of_reads htemplate hsystem]
      split_ifs with hmerge hsame hdumps
      · exact Or.inl rfl
      · exact Or.inl rfl
      · exact Or.inl rfl
      · refine Or.inr ⟨_, ?_, rfl⟩
        rw [ensure_of_reads htemplate hsystem, if_pos (Bool.eq_true_of_not_eq_false hsame)]

/-- Where the calls suffice, the file reads as the merged configuration. -/
theorem start_reads {cmtsTemplate systemConfig : List UInt8} {template system : JsonObject}
    (htemplate : readObject limits cmtsTemplate = some template)
    (hsystem : readObject limits systemConfig = some system)
    (hfloats : FloatsWritten limits style cmtsTemplate)
    (hfloats' : FloatsWritten limits style systemConfig) (h : Suffices left system template) :
    ∃ octets read,
      start limits style left (some cmtsTemplate) (some systemConfig) = .ok (some octets) ∧
      readObject limits octets = some read ∧
      toJson read.1 = toJson (mergeMissing system template).1.1 := by
  obtain ⟨hmerge, hdumps⟩ := h
  have hstart : start limits style left (some cmtsTemplate) (some systemConfig) = _ :=
    start_of_reads htemplate hsystem
  rw [if_neg (not_lt.mpr hmerge)] at hstart
  cases hchanged : (mergeMissing system template).2 with
  | false =>
    rw [hchanged, if_pos rfl] at hstart
    refine ⟨systemConfig, system, hstart, hsystem, ?_⟩
    rw [mergeMissing_of_unchanged hchanged]
  | true =>
    rw [hchanged, if_neg (Ne.symm Bool.false_ne_true),
      if_neg (not_lt.mpr (hdumps hchanged))] at hstart
    obtain ⟨read, hread, hsame⟩ :=
      readObject_configText (writes_merged htemplate hsystem hfloats hfloats')
    refine ⟨_, read, hstart, hread, ?_⟩
    rw [hsame, toJson_read_back]

/-- Where they do not, the start raises. -/
theorem start_raises {cmtsTemplate systemConfig : Option (List UInt8)}
    {template system : JsonObject}
    (htemplate : cmtsTemplate.bind (readObject limits) = some template)
    (hsystem : systemConfig.bind (readObject limits) = some system)
    (h : ¬Suffices left system template) :
    start limits style left cmtsTemplate systemConfig = .error .recursion := by
  rw [start_of_reads htemplate hsystem]
  split_ifs with hmerge hsame hdumps
  · rfl
  · refine absurd ⟨not_lt.mp hmerge, fun hchanged => ?_⟩ h
    rw [hsame] at hchanged
    cases hchanged
  · rfl
  · exact absurd ⟨not_lt.mp hmerge, fun _ => not_lt.mp hdumps⟩ h

/-- The first start brings the file to the merged configuration, or it raises for want of calls and
leaves it, and no later start changes an octet of the file. -/
theorem restarts_keep_config (cmtsTemplate systemConfig : Option (List UInt8))
    (hfloats : ∀ octets, cmtsTemplate = some octets ∨ systemConfig = some octets →
      FloatsWritten limits style octets) (n : ℕ) :
    (afterStart limits style left cmtsTemplate)^[n+1] systemConfig =
        afterStart limits style left cmtsTemplate systemConfig ∧
      ∀ template system, cmtsTemplate.bind (readObject limits) = some template →
        systemConfig.bind (readObject limits) = some system →
        (Suffices left system template → ∃ octets read,
          start limits style left cmtsTemplate systemConfig = .ok (some octets) ∧
          readObject limits octets = some read ∧
          toJson read.1 = toJson (mergeMissing system template).1.1) ∧
        (¬Suffices left system template →
          start limits style left cmtsTemplate systemConfig = .error .recursion ∧
          afterStart limits style left cmtsTemplate systemConfig = systemConfig) := by
  have hagain :
      afterStart limits style left cmtsTemplate
        (afterStart limits style left cmtsTemplate systemConfig) =
        afterStart limits style left cmtsTemplate systemConfig := by
    rcases afterStart_cases cmtsTemplate systemConfig with hsame | ⟨written, hensure, hwritten⟩
    · rw [hsame, hsame]
    · rw [hwritten]
      -- what was written reads back as the merged object, in which nothing is missing
      rcases afterStart_cases cmtsTemplate (some (configText style written)) with
        hsame | ⟨rewritten, hensure', -⟩
      · exact hsame
      · rw [ensure_configText hfloats hensure] at hensure'
        cases hensure'
  refine ⟨?_, ?_⟩
  · induction n with
    | zero => rfl
    | succ n ih => rw [Function.iterate_succ_apply', ih, hagain]
  · intro template system htemplate hsystem
    refine ⟨?_, ?_⟩
    · intro h
      obtain ⟨templateOctets, rfl, htemplate'⟩ := Option.bind_eq_some_iff.mp htemplate
      obtain ⟨systemOctets, rfl, hsystem'⟩ := Option.bind_eq_some_iff.mp hsystem
      exact start_reads htemplate' hsystem' (hfloats _ (Or.inl rfl)) (hfloats _ (Or.inr rfl)) h
    · intro h
      have hraises : start limits style left cmtsTemplate systemConfig = .error .recursion :=
        start_raises htemplate hsystem h
      exact ⟨hraises, by rw [afterStart, hraises]⟩

theorem floatsWritten_dumps {value : Json}
    (hwritable : Writable limits style (limits.recursionLeft+1) value)
    (hfloats : Represented style value) :
    FloatsWritten limits style (asciiOctets (style.dumpsText value ++ [])) := by
  intro text value' htext hvalue
  have hnil : Blank [] := fun c hc => by cases hc
  obtain ⟨text', htext', hloads⟩ := loads_octets hwritable hnil
  obtain rfl := Except.ok.inj (htext.symm.trans htext')
  obtain rfl := Except.ok.inj (hvalue.symm.trans hloads)
  exact hfloats

end Starts

def plainStyle : JsonStyle := ⟨some 4, fun _ => codePoints "0.5"⟩

theorem floatText_half : FloatText (plainStyle.floatRepr 2⁻¹) 2⁻¹ := by
  have hdigits : Digits (codePoints "5") := ⟨by decide, by decide⟩
  refine ⟨⟨[], codePoints "0", codePoints ".5", [], rfl, Or.inl rfl, Or.inl rfl,
    Or.inr ⟨codePoints "5", hdigits, rfl⟩, Or.inl rfl, by decide⟩, ?_⟩
  decide +kernel

def objectOf (members : List (PyStr × Json)) : JsonObject :=
  ⟨ofJson (.object members), by rw [ofJson_object, isNode_ofMembers]; rfl⟩

def someTemplate : List (PyStr × Json) :=
  [(codePoints "pypnm-cmts", .object [(codePoints "cmts", .array [.object []])]),
    (codePoints "PnmFileRetrieval", .object [(codePoints "retrieval_method", .object [])])]

def someConfig : List (PyStr × Json) :=
  [(codePoints "PnmFileRetrieval", .object [(codePoints "retries", .int 5),
    (codePoints "wait", .float (.finite (1/2)))])]

def fileOf (members : List (PyStr × Json)) : List UInt8 :=
  asciiOctets (plainStyle.dumpsText (.object members) ++ [])

theorem readObject_fileOf {limits : Limits} {members : List (PyStr × Json)}
    (h : Writable limits plainStyle (limits.recursionLeft+1) (.object members)) :
    readObject limits (fileOf members) = some (objectOf members) := by
  have hnil : Blank [] := fun c hc => by cases hc
  obtain ⟨text, htext, hloads⟩ := loads_octets h hnil
  have hnode := (objectOf members).2
  rw [objectOf] at hnode
  simp only [readObject, fileOf, htext, hloads, toObject, dif_pos hnode]
  rfl

/-- A template with an object that the configuration lacks and with a key in one that it has. -/
theorem restarts_keep_config_some :
    (afterStart ⟨4300, 900⟩ plainStyle ⟨900, 900⟩ (some (fileOf someTemplate)))^[3]
        (some (fileOf someConfig)) =
      afterStart ⟨4300, 900⟩ plainStyle ⟨900, 900⟩ (some (fileOf someTemplate))
        (some (fileOf someConfig)) ∧
    ∃ octets read,
      start ⟨4300, 900⟩ plainStyle ⟨900, 900⟩ (some (fileOf someTemplate))
        (some (fileOf someConfig)) =
        .ok (some octets) ∧
      readObject ⟨4300, 900⟩ octets = some read ∧
      toJson read.1 = toJson (mergeMissing (objectOf someConfig) (objectOf someTemplate)).1.1 := by
  have htext (key : String) : Text (codePoints key) := text_codePoints key
  have hfive : Convertible ⟨4300, 900⟩ 5 := Or.inr (by decide)
  have hrep : Represented plainStyle (.object someTemplate) := by
    simp [someTemplate, Represented, RepresentedMembers, RepresentedItems]
  have hrep' : Represented plainStyle (.object someConfig) := by
    simp [someConfig, Represented, RepresentedMembers, floatText_half]
  have hwrites : Writable ⟨4300, 900⟩ plainStyle 901 (.object someTemplate) := by
    simp [someTemplate, Writable, WritableMembers, WritableItems, htext]
  have hwrites' : Writable ⟨4300, 900⟩ plainStyle 901 (.object someConfig) := by
    simp [someConfig, Writable, WritableMembers, htext, hfive, floatText_half]
  have hsuffices : Suffices ⟨900, 900⟩ (objectOf someConfig) (objectOf someTemplate) :=
    ⟨by decide +kernel, fun _ => by decide +kernel⟩
  have hfloats (octets : List UInt8)
      (h : some (fileOf someTemplate) = some octets ∨ some (fileOf someConfig) = some octets) :
      FloatsWritten ⟨4300, 900⟩ plainStyle octets := by
    rcases h with h | h
    · rw [← Option.some.inj h]
      exact floatsWritten_dumps hwrites hrep
    · rw [← Option.some.inj h]
      exact floatsWritten_dumps hwrites' hrep'
  have htemplate : (some (fileOf someTemplate)).bind (readObject ⟨4300, 900⟩) =
      some (objectOf someTemplate) := by rw [Option.bind_some, readObject_fileOf hwrites]
  have hsystem : (some (fileOf someConfig)).bind (readObject ⟨4300, 900⟩) =
      some (objectOf someConfig) := by rw [Option.bind_some, readObject_fileOf hwrites']
  refine ⟨(restarts_keep_config _ _ hfloats 2).1, ?_⟩
  exact ((restarts_keep_config _ _ hfloats 2).2 _ _ htemplate hsystem).1 hsuffices

end StartUp
