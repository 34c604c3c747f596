import PypnmCmts.KeyedTree
import PypnmCmts.PyJson

/-! The merge of the CMTS template into the configuration that the installed package reads
(`startup/startup.py`). -/

open PyNumber

/-- A JSON value that is no object. -/
abbrev JsonLeaf := {j : PyJson.Json // ∀ members, j ≠ .object members}

/-- A JSON value, its objects as dictionaries. -/
abbrev JsonValue := KeyedTree PyStr JsonLeaf

abbrev JsonObject := {value : JsonValue // value.isNode = true}

namespace JsonValue

mutual

/-- What `json.loads` builds: of equal keys the last one counts, at the place of the first. -/
def ofJson : PyJson.Json → JsonValue
  | .object members => ofMembers (.node [] List.nodup_nil fun k => nomatch k.2) members
  | .null => .leaf ⟨.null, nofun⟩
  | .bool b => .leaf ⟨.bool b, nofun⟩
  | .int n => .leaf ⟨.int n, nofun⟩
  | .float x => .leaf ⟨.float x, nofun⟩
  | .str s => .leaf ⟨.str s, nofun⟩
  | .array items => .leaf ⟨.array items, nofun⟩

def ofMembers (object : JsonValue) : List (PyStr × PyJson.Json) → JsonValue
  | [] => object
  | (key, value) :: members => ofMembers (object.insert key (ofJson value)) members

end

def toObject (value : JsonValue) : Option JsonObject :=
  if h : value.isNode = true then some ⟨value, h⟩ else none

end JsonValue

namespace StartUp
open KeyedTree

/-- One turn of the loop over the template; `merge` is the call on the two values of the key. -/
def mergeKey (key : PyStr) (value : JsonValue) (merge : JsonValue → JsonValue × Bool)
    (state : JsonValue × Bool) : JsonValue × Bool :=
  match state.1.lookup key with
  | none => (state.1.insert key value, true)
  | some targetValue =>
    if targetValue.isNode && value.isNode then
      (state.1.insert key (merge targetValue).1, state.2 || (merge targetValue).2)
    else state

/-- `_merge_missing`: the target as it is afterwards, and whether the function returns `True`. The
callers pass objects only. -/
def mergeValues (target : JsonValue) : JsonValue → JsonValue × Bool
  | .leaf _ => (target, false)
  | .node keys _ child =>
    keys.attach.foldl (fun state key =>
      mergeKey key.1 (child key) (fun targetValue => mergeValues targetValue (child key)) state)
      (target, false)

/-- What a turn makes of the target's value of the key. -/
def keyResult (old : Option JsonValue) (value : JsonValue) : JsonValue × Bool :=
  match old with
  | none => (value, true)
  | some targetValue =>
    if targetValue.isNode && value.isNode then mergeValues targetValue value
    else (targetValue, false)

theorem mergeKey_eq (key : PyStr) (value : JsonValue) (state : JsonValue × Bool) :
    mergeKey key value (fun targetValue => mergeValues targetValue value) state =
      (state.1.insert key (keyResult (state.1.lookup key) value).1,
        state.2 || (keyResult (state.1.lookup key) value).2) := by
  rw [mergeKey]
  split
  · next hkey => rw [hkey, keyResult, Bool.or_true]
  · next targetValue hkey =>
    rw [hkey, keyResult]
    split
    · rfl
    · rw [insert_of_lookup hkey, Bool.or_false]

section loop
variable {ι : Type} (key : ι → PyStr) (value : ι → JsonValue)

/-- The loop over the rows of the template. -/
def mergeRows (rows : List ι) (state : JsonValue × Bool) : JsonValue × Bool :=
  rows.foldl (fun state row =>
    mergeKey (key row) (value row) (fun targetValue => mergeValues targetValue (value row)) state)
    state

theorem mergeValues_node (target : JsonValue) (keys : List PyStr) (nodup : keys.Nodup)
    (child : {k // k ∈ keys} → JsonValue) :
    mergeValues target (.node keys nodup child) =
      mergeRows Subtype.val child keys.attach (target, false) := by
  rw [mergeValues, mergeRows]

theorem mergeRows_cons (row : ι) (rows : List ι) (state : JsonValue × Bool) :
    mergeRows key value (row :: rows) state = mergeRows key value rows
      (state.1.insert (key row) (keyResult (state.1.lookup (key row)) (value row)).1,
        state.2 || (keyResult (state.1.lookup (key row)) (value row)).2) := by
  rw [mergeRows, List.foldl_cons, mergeKey_eq, ← mergeRows]

theorem isNode_mergeRows (rows : List ι) (state : JsonValue × Bool) :
    (mergeRows key value rows state).1.isNode = state.1.isNode := by
  induction rows generalizing state with
  | nil => rfl
  | cons row rows ih => rw [mergeRows_cons, ih, isNode_insert]

theorem lookup_mergeRows_of_notMem (rows : List ι) (state : JsonValue × Bool)
    (ht : state.1.isNode = true) (k : PyStr) (hk : k ∉ rows.map key) :
    (mergeRows key value rows state).1.lookup k = state.1.lookup k := by
  induction rows generalizing state with
  | nil => rfl
  | cons row rows ih =>
    rw [List.map_cons, List.mem_cons, not_or] at hk
    rw [mergeRows_cons, ih _ (by rw [isNode_insert, ht]) hk.2, lookup_insert ht, if_neg hk.1]

/-- The keys are distinct, so that each turn finds its key as the target had it. -/
theorem lookup_mergeRows_of_mem (rows : List ι) (hrows : (rows.map key).Nodup)
    (state : JsonValue × Bool) (ht : state.1.isNode = true) (row : ι) (hrow : row ∈ rows) :
    (mergeRows key value rows state).1.lookup (key row) =
      some (keyResult (state.1.lookup (key row)) (value row)).1 := by
  induction rows generalizing state with
  | nil => cases hrow
  | cons first rows ih =>
    rw [List.map_cons, List.nodup_cons] at hrows
    rw [mergeRows_cons]
    rcases List.mem_cons.mp hrow with rfl | hrow
    · rw [lookup_mergeRows_of_notMem _ _ _ _ (by rw [isNode_insert, ht]) _ hrows.1,
        lookup_insert ht, if_pos rfl]
    · have hne : key row ≠ key first := by
        intro heq
        exact hrows.1 (heq ▸ List.mem_map_of_mem hrow)
      rw [ih hrows.2 _ (by rw [isNode_insert, ht]) hrow, lookup_insert ht, if_neg hne]

theorem keys_mergeRows (rows : List ι) (state : JsonValue × Bool) (ht : state.1.isNode = true) :
    ∃ added, (mergeRows key value rows state).1.keys = state.1.keys ++ added := by
  induction rows generalizing state with
  | nil => exact ⟨[], (List.append_nil _).symm⟩
  | cons row rows ih =>
    rw [mergeRows_cons]
    obtain ⟨added, hadded⟩ := ih (state.1.insert (key row)
      (keyResult (state.1.lookup (key row)) (value row)).1,
        state.2 || (keyResult (state.1.lookup (key row)) (value row)).2)
      (by rw [isNode_insert, ht])
    rw [hadded]
    by_cases hmem : key row ∈ state.1.keys
    · exact ⟨added, by rw [keys_insert_of_mem hmem]⟩
    · refine ⟨key row :: added, ?_⟩
      rw [keys_insert_of_notMem ht hmem, List.append_assoc, List.singleton_append]

theorem changed_mergeRows (rows : List ι) (hrows : (rows.map key).Nodup)
    (state : JsonValue × Bool) (ht : state.1.isNode = true) :
    (mergeRows key value rows state).2 = true ↔ state.2 = true ∨
      ∃ row ∈ rows, (keyResult (state.1.lookup (key row)) (value row)).2 = true := by
  induction rows generalizing state with
  | nil => simp [mergeRows]
  | cons first rows ih =>
    rw [List.map_cons, List.nodup_cons] at hrows
    rw [mergeRows_cons, ih hrows.2 _ (by rw [isNode_insert, ht]), Bool.or_eq_true, or_assoc,
      List.exists_mem_cons_iff]
    refine or_congr_right (or_congr_right ?_)
    refine exists_congr fun row => and_congr_right fun hrow => ?_
    have hne : key row ≠ key first := by
      intro heq
      exact hrows.1 (heq ▸ List.mem_map_of_mem hrow)
    rw [lookup_insert ht, if_neg hne]

end loop

/-! ### Two values at one key -/

/-- The merge of two values, of which only objects are merged. -/
def mergeAt (target template : JsonValue) : JsonValue × Bool := keyResult (some target) template

theorem mergeAt_of_isNode {target template : JsonValue} (ht : target.isNode = true)
    (hp : template.isNode = true) : mergeAt target template = mergeValues target template := by
  rw [mergeAt, keyResult, ht, hp]
  rfl

theorem mergeAt_of_target_leaf {target : JsonValue} (ht : target.isNode = false)
    (template : JsonValue) : mergeAt target template = (target, false) := by
  rw [mergeAt, keyResult, ht]
  rfl

theorem isNode_mergeAt (target template : JsonValue) :
    (mergeAt target template).1.isNode = target.isNode := by
  rw [mergeAt, keyResult]
  split
  · cases template with
    | leaf b => rfl
    | node keys nodup child => rw [mergeValues_node, isNode_mergeRows]
  · rfl

theorem isNode_mergeValues {target : JsonValue} (ht : target.isNode = true)
    (template : JsonValue) : (mergeValues target template).1.isNode = true := by
  cases template with
  | leaf b => exact ht
  | node keys nodup child => rw [mergeValues_node, isNode_mergeRows, ht]

theorem nodup_attach_keys {keys : List PyStr} (nodup : keys.Nodup) :
    (keys.attach.map Subtype.val).Nodup := by rwa [List.attach_map_subtype_val]

theorem lookup_mergeAt_of_none {target template : JsonValue} {k : PyStr}
    (hk : template.lookup k = none) :
    (mergeAt target template).1.lookup k = target.lookup k := by
  rw [mergeAt, keyResult]
  split
  · next hnodes =>
    cases template with
    | leaf b => rfl
    | node keys nodup child =>
      rw [mergeValues_node, lookup_mergeRows_of_notMem _ _ _ _ (Bool.and_eq_true _ _ ▸ hnodes).1]
      rw [List.attach_map_subtype_val]
      exact lookup_eq_none_iff.mp hk
  · rfl

theorem lookup_mergeAt_of_some {target template value : JsonValue} {k : PyStr}
    (ht : target.isNode = true) (hk : template.lookup k = some value) :
    (mergeAt target template).1.lookup k = some (keyResult (target.lookup k) value).1 := by
  rw [mergeAt_of_isNode ht (isNode_of_lookup hk)]
  cases template with
  | leaf b => cases hk
  | node keys nodup child =>
    have hmem : k ∈ keys := mem_keys_of_lookup hk
    rw [lookup, dif_pos hmem, Option.some_inj] at hk
    rw [mergeValues_node, lookup_mergeRows_of_mem Subtype.val child _ (nodup_attach_keys nodup)
      _ ht ⟨k, hmem⟩ (List.mem_attach _ _), hk]

theorem keys_mergeAt (target template : JsonValue) :
    ∃ added, (mergeAt target template).1.keys = target.keys ++ added := by
  rw [mergeAt, keyResult]
  split
  · next hnodes =>
    cases template with
    | leaf b => exact ⟨[], (List.append_nil _).symm⟩
    | node keys nodup child =>
      rw [mergeValues_node]
      exact keys_mergeRows _ _ _ _ (Bool.and_eq_true _ _ ▸ hnodes).1
  · exact ⟨[], (List.append_nil _).symm⟩

/-- The flag is set by a key of the template that the target lacks, or at a value below one. -/
theorem changed_mergeAt {target template : JsonValue} (ht : target.isNode = true) :
    (mergeAt target template).2 = true ↔ ∃ k value, template.lookup k = some value ∧
      (keyResult (target.lookup k) value).2 = true := by
  cases template with
  | leaf b =>
    rw [mergeAt, keyResult]
    simp [lookup, isNode]
  | node keys nodup child =>
    rw [mergeAt_of_isNode ht rfl, mergeValues_node,
      changed_mergeRows _ _ _ (nodup_attach_keys nodup) _ ht]
    constructor
    · intro h
      obtain ⟨row, -, hrow⟩ := h.resolve_left Bool.false_ne_true
      exact ⟨row.1, child row, by rw [lookup, dif_pos row.2], hrow⟩
    · intro h
      obtain ⟨k, value, hk, hchanged⟩ := h
      have hmem : k ∈ keys := mem_keys_of_lookup hk
      rw [lookup, dif_pos hmem, Option.some_inj] at hk
      exact Or.inr ⟨⟨k, hmem⟩, List.mem_attach _ _, hk ▸ hchanged⟩

/-! ### The flag -/

/-- Without the flag the target is as it was. -/
theorem mergeAt_eq_of_unchanged {target template : JsonValue}
    (h : (mergeAt target template).2 = false) : (mergeAt target template).1 = target := by
  induction template using induction_lookup generalizing target with
  | h template ih =>
    by_cases ht : target.isNode = true
    · obtain ⟨added, hadded⟩ := keys_mergeAt target template
      apply eq_of_lookup_of_keys ht (by rw [isNode_mergeAt, ht]) hadded
      intro k
      cases hk : template.lookup k with
      | none => exact lookup_mergeAt_of_none hk
      | some value =>
        have hkept : ¬(keyResult (target.lookup k) value).2 = true := by
          intro hchanged
          rw [(changed_mergeAt ht).mpr ⟨k, value, hk, hchanged⟩] at h
          cases h
        rw [lookup_mergeAt_of_some ht hk]
        cases hold : target.lookup k with
        | none => exact absurd (by rw [hold]; rfl) hkept
        | some old =>
          rw [hold, Bool.not_eq_true] at hkept
          exact congrArg some (ih k value hk hkept)
    · rw [mergeAt_of_target_leaf (Bool.eq_false_of_not_eq_true ht)]

/-- With the flag some key is new or has another value. -/
theorem mergeAt_ne_of_changed {target template : JsonValue}
    (h : (mergeAt target template).2 = true) : (mergeAt target template).1 ≠ target := by
  induction template using induction_lookup generalizing target with
  | h template ih =>
    by_cases ht : target.isNode = true
    · obtain ⟨k, value, hk, hchanged⟩ := (changed_mergeAt ht).mp h
      intro heq
      have hlookup := lookup_mergeAt_of_some ht hk
      rw [heq] at hlookup
      cases hold : target.lookup k with
      | none =>
        rw [hold] at hlookup
        cases hlookup
      | some old =>
        rw [hold] at hchanged hlookup
        exact ih k value hk hchanged (Option.some.inj hlookup).symm
    · rw [mergeAt_of_target_leaf (Bool.eq_false_of_not_eq_true ht)] at h
      cases h

theorem mergeAt_self (value : JsonValue) : (mergeAt value value).2 = false := by
  induction value using induction_lookup with
  | h value ih =>
    by_cases hv : value.isNode = true
    · rw [← Bool.not_eq_true, changed_mergeAt hv]
      intro h
      obtain ⟨k, sub, hk, hchanged⟩ := h
      rw [hk] at hchanged
      exact Bool.false_ne_true ((ih k sub hk).symm.trans hchanged)
    · rw [mergeAt_of_target_leaf (Bool.eq_false_of_not_eq_true hv)]

/-- A key of the template is there after the first merge, with the template's value, or with one
that was merged with it. -/
theorem mergeAt_again (target template : JsonValue) :
    (mergeAt (mergeAt target template).1 template).2 = false := by
  induction template using induction_lookup generalizing target with
  | h template ih =>
    by_cases ht : target.isNode = true
    · rw [← Bool.not_eq_true, changed_mergeAt (by rw [isNode_mergeAt, ht])]
      intro h
      obtain ⟨k, value, hk, hchanged⟩ := h
      rw [lookup_mergeAt_of_some ht hk] at hchanged
      cases hold : target.lookup k with
      | none =>
        -- the key was new, so that the value is merged with itself now
        rw [hold] at hchanged
        exact Bool.false_ne_true ((mergeAt_self value).symm.trans hchanged)
      | some old =>
        rw [hold] at hchanged
        exact Bool.false_ne_true ((ih k value hk old).symm.trans hchanged)
    · rw [mergeAt_of_target_leaf (Bool.eq_false_of_not_eq_true ht),
        mergeAt_of_target_leaf (Bool.eq_false_of_not_eq_true ht)]

/-! ### What the paths lead to -/

/-- A leaf is kept, an object keeps its keys in their order and gets others behind them. -/
structure GrownTo (old new : JsonValue) : Prop where
  leaf : old.isNode = false → new = old
  node : old.isNode = true → new.isNode = true ∧ old.keys <+: new.keys

theorem GrownTo.refl (value : JsonValue) : GrownTo value value :=
  ⟨fun _ => rfl, fun h => ⟨h, List.prefix_rfl⟩⟩

theorem grownTo_mergeAt (target template : JsonValue) :
    GrownTo target (mergeAt target template).1 := by
  refine ⟨?_, ?_⟩
  · intro ht
    rw [mergeAt_of_target_leaf ht]
  · intro ht
    obtain ⟨added, hadded⟩ := keys_mergeAt target template
    exact ⟨by rw [isNode_mergeAt, ht], ⟨added, hadded.symm⟩⟩

/-- The merged value has all that the target has and what the template has besides, if no leaf of
the target is in its way, and nothing else. -/
structure FillsGaps (target template merged : JsonValue) : Prop where
  keeps : ∀ path old, target.get path = some old →
    ∃ new, merged.get path = some new ∧ GrownTo old new
  fills : ∀ path value, template.get path = some value →
    (∃ new, merged.get path = some new) ∨
      ∃ front rest leaf, path = front ++ rest ∧ rest ≠ [] ∧ target.get front = some (.leaf leaf)
  addsOnly : ∀ path new, target.get path = none → merged.get path = some new →
    template.get path = some new

theorem keeps_mergeAt (path : List PyStr) {target old : JsonValue} (template : JsonValue)
    (h : target.get path = some old) :
    ∃ new, (mergeAt target template).1.get path = some new ∧ GrownTo old new := by
  induction path generalizing target template with
  | nil =>
    cases h
    exact ⟨_, rfl, grownTo_mergeAt _ _⟩
  | cons k path ih =>
    cases htarget : target.lookup k with
    | none =>
      rw [get_cons_of_none htarget] at h
      cases h
    | some sub =>
      rw [get_cons htarget] at h
      cases hk : template.lookup k with
      | none =>
        have hlookup := (lookup_mergeAt_of_none hk).trans htarget
        exact ⟨old, by rw [get_cons hlookup, h], GrownTo.refl _⟩
      | some value =>
        have hlookup := lookup_mergeAt_of_some (isNode_of_lookup htarget) hk
        rw [htarget] at hlookup
        rw [get_cons hlookup]
        exact ih value h

theorem fills_mergeAt (path : List PyStr) (target : JsonValue) {template value : JsonValue}
    (h : template.get path = some value) :
    (∃ new, (mergeAt target template).1.get path = some new) ∨
      ∃ front rest leaf, path = front ++ rest ∧ rest ≠ [] ∧
        target.get front = some (.leaf leaf) := by
  induction path generalizing target template with
  | nil => exact Or.inl ⟨_, rfl⟩
  | cons k path ih =>
    cases target with
    -- the target ends here in a leaf, and the template goes on
    | leaf b => exact Or.inr ⟨[], k :: path, b, rfl, List.cons_ne_nil _ _, rfl⟩
    | node keys nodup child =>
      cases hk : template.lookup k with
      | none =>
        rw [get_cons_of_none hk] at h
        cases h
      | some sub =>
        rw [get_cons hk] at h
        have ht : isNode (.node keys nodup child : JsonValue) = true := rfl
        rw [get_cons (lookup_mergeAt_of_some ht hk)]
        cases htarget : lookup (.node keys nodup child) k with
        | none => exact Or.inl ⟨value, h⟩
        | some old =>
          -- what blocks the rest of the path below the key blocks the path
          apply (ih old h).imp_right
          intro hblocked
          obtain ⟨front, rest, leaf, hpath, hrest, hleaf⟩ := hblocked
          exact ⟨k :: front, rest, leaf, by rw [hpath, List.cons_append], hrest,
            by rw [get_cons htarget, hleaf]⟩

theorem addsOnly_mergeAt (path : List PyStr) {target template new : JsonValue}
    (htarget : target.get path = none) (h : (mergeAt target template).1.get path = some new) :
    template.get path = some new := by
  induction path generalizing target template with
  | nil => cases htarget
  | cons k path ih =>
    by_cases ht : target.isNode = true
    · cases hk : template.lookup k with
      | none =>
        have hlookup : (mergeAt target template).1.lookup k = target.lookup k :=
          lookup_mergeAt_of_none hk
        rw [get_cons_congr hlookup, htarget] at h
        cases h
      | some value =>
        rw [get_cons (lookup_mergeAt_of_some ht hk)] at h
        rw [get_cons hk]
        cases hold : target.lookup k with
        | none =>
          rw [hold] at h
          exact h
        | some old =>
          rw [hold] at h
          rw [get_cons hold] at htarget
          exact ih htarget h
    · rw [mergeAt_of_target_leaf (Bool.eq_false_of_not_eq_true ht), htarget] at h
      cases h

theorem fillsGaps_mergeAt (target template : JsonValue) :
    FillsGaps target template (mergeAt target template).1 :=
  ⟨fun path _ h => keeps_mergeAt path template h, fun path _ h => fills_mergeAt path target h,
    fun path _ htarget h => addsOnly_mergeAt path htarget h⟩

/-! ### The configuration file -/

/-- `_merge_missing`. -/
def mergeMissing (target template : JsonObject) : JsonObject × Bool :=
  (⟨(mergeValues target.1 template.1).1, isNode_mergeValues target.2 template.1⟩,
    (mergeValues target.1 template.1).2)

theorem mergeMissing_eq (target template : JsonObject) :
    ((mergeMissing target template).1.1, (mergeMissing target template).2) =
      mergeAt target.1 template.1 := by
  rw [mergeAt_of_isNode target.2 template.2, mergeMissing]

theorem mergeMissing_fst (target template : JsonObject) :
    (mergeMissing target template).1.1 = (mergeAt target.1 template.1).1 := by
  rw [← mergeMissing_eq]

theorem mergeMissing_snd (target template : JsonObject) :
    (mergeMissing target template).2 = (mergeAt target.1 template.1).2 := by
  rw [← mergeMissing_eq]

theorem mergeMissing_of_unchanged {target template : JsonObject}
    (h : (mergeMissing target template).2 = false) :
    mergeMissing target template = (target, false) := by
  rw [mergeMissing_snd] at h
  apply Prod.ext
  · apply Subtype.ext
    rw [mergeMissing_fst, mergeAt_eq_of_unchanged h]
  · rw [mergeMissing_snd, h]

theorem mergeMissing_again (target template : JsonObject) :
    mergeMissing (mergeMissing target template).1 template =
      ((mergeMissing target template).1, false) := by
  apply mergeMissing_of_unchanged
  rw [mergeMissing_snd, mergeMissing_fst]
  exact mergeAt_again _ _

/-- `json.loads(path.read_text(encoding="utf-8"))` where it is an object, `none` otherwise and for
every exception. -/
def readObject (limits : PyJson.Limits) (octets : List UInt8) : Option JsonObject :=
  match PyJson.readText octets with
  | .error _ => none
  | .ok text =>
    match PyJson.loads limits text with
    | .error _ => none
    | .ok value => (JsonValue.ofJson value).toObject

/-- `_ensure_cmts_system_config`: what the configuration is overwritten with, `none` where the
file is left alone. A file that does not exist is `none`. -/
def ensureCmtsSystemConfig (limits : PyJson.Limits)
    (cmtsTemplate systemConfig : Option (List UInt8)) : Option JsonObject := do
  let templateData ← cmtsTemplate.bind (readObject limits)
  let systemData ← systemConfig.bind (readObject limits)
  let merged := mergeMissing systemData templateData
  if merged.2 then some merged.1 else none

/-- Once written, the configuration is left alone for as long as the template is the same. -/
theorem ensureCmtsSystemConfig_again (limits : PyJson.Limits) (cmtsTemplate : Option (List UInt8))
    (systemConfig rewritten : Option (List UInt8)) (written : JsonObject)
    (h : ensureCmtsSystemConfig limits cmtsTemplate systemConfig = some written)
    (hread : rewritten.bind (readObject limits) = some written) :
    ensureCmtsSystemConfig limits cmtsTemplate rewritten = none := by
  rw [ensureCmtsSystemConfig, Option.bind_eq_bind, Option.bind_eq_some_iff] at h
  obtain ⟨templateData, htemplate, h⟩ := h
  rw [Option.bind_eq_some_iff] at h
  obtain ⟨systemData, -, h⟩ := h
  dsimp only at h
  split at h
  · cases h
    have hagain := congrArg Prod.snd (mergeMissing_again systemData templateData)
    rw [ensureCmtsSystemConfig, htemplate, hread, Option.bind_eq_bind, Option.bind_some,
      Option.bind_some]
    exact if_neg (by rw [hagain]; exact Bool.false_ne_true)
  · cases h

theorem merge_fills_gaps (target template : JsonObject) :
    FillsGaps target.1 template.1 (mergeMissing target template).1.1 ∧
      ((mergeMissing target template).2 = true ↔ (mergeMissing target template).1 ≠ target) ∧
      mergeMissing (mergeMissing target template).1 template =
        ((mergeMissing target template).1, false) := by
  refine ⟨?_, ⟨?_, ?_⟩, mergeMissing_again target template⟩
  · rw [mergeMissing_fst]
    exact fillsGaps_mergeAt _ _
  · intro h heq
    rw [mergeMissing_snd] at h
    have hsame : (mergeAt target.1 template.1).1 = target.1 := by rw [← mergeMissing_fst, heq]
    exact mergeAt_ne_of_changed h hsame
  · intro hne
    by_contra h
    rw [Bool.not_eq_true] at h
    exact hne (congrArg Prod.fst (mergeMissing_of_unchanged h))

end StartUp
