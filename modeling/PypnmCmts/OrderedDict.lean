import Mathlib.Data.List.Dedup
import Mathlib.Data.List.Nodup
import Mathlib.Data.List.Perm.Basic
import Mathlib.Data.List.Perm.Subperm

/-! Dictionaries that keep their keys in the order of insertion. -/

structure OrderedDict (κ ν : Type*) where
  entries : List (κ × ν)
  nodup_keys : (entries.map Prod.fst).Nodup

namespace OrderedDict
variable {κ ν : Type*} [DecidableEq κ]

def empty : OrderedDict κ ν := ⟨[], List.nodup_nil⟩

def keys (d : OrderedDict κ ν) : List κ := d.entries.map Prod.fst

def values (d : OrderedDict κ ν) : List ν := d.entries.map Prod.snd

def lookup (d : OrderedDict κ ν) (k : κ) : Option ν :=
  (d.entries.find? fun e => e.1 = k).map Prod.snd

def erase (d : OrderedDict κ ν) (k : κ) : OrderedDict κ ν :=
  ⟨d.entries.filter fun e => e.1 ≠ k, d.nodup_keys.sublist (List.filter_sublist.map _)⟩

/-- A key that is present keeps its place, a new one goes to the end. -/
def insert (d : OrderedDict κ ν) (k : κ) (v : ν) : OrderedDict κ ν :=
  if h : k ∈ d.keys then
    ⟨d.entries.map fun e => if e.1 = k then (k, v) else e, by
      have hkeys : (d.entries.map fun e => if e.1 = k then (k, v) else e).map Prod.fst =
          d.entries.map Prod.fst := by
        rw [List.map_map]
        refine List.map_congr_left fun e _ => ?_
        by_cases he : e.1 = k <;> simp [he]
      rw [hkeys]
      exact d.nodup_keys⟩
  else
    ⟨d.entries ++ [(k, v)], by
      rw [List.map_append, List.nodup_append]
      refine ⟨d.nodup_keys, List.nodup_singleton _, ?_⟩
      intro a ha b hb
      rw [List.map_singleton, List.mem_singleton] at hb
      subst hb
      exact fun hab => h (hab ▸ ha)⟩

omit [DecidableEq κ] in
@[simp] theorem entries_empty : (empty : OrderedDict κ ν).entries = [] := rfl

omit [DecidableEq κ] in
@[simp] theorem keys_empty : (empty : OrderedDict κ ν).keys = [] := rfl

theorem entries_insert {d : OrderedDict κ ν} {k : κ} (h : k ∉ d.keys) (v : ν) :
    (d.insert k v).entries = d.entries ++ [(k, v)] := by
  rw [insert, dif_neg h]

theorem keys_insert {d : OrderedDict κ ν} {k : κ} (h : k ∉ d.keys) (v : ν) :
    (d.insert k v).keys = d.keys ++ [k] := by
  rw [keys, entries_insert h, List.map_append, List.map_singleton, keys]

omit [DecidableEq κ] in
theorem mem_keys_of_mem {d : OrderedDict κ ν} {k : κ} {v : ν} (h : (k, v) ∈ d.entries) :
    k ∈ d.keys := List.mem_map_of_mem h

omit [DecidableEq κ] in
theorem exists_mem_of_mem_keys {d : OrderedDict κ ν} {k : κ} (h : k ∈ d.keys) :
    ∃ v, (k, v) ∈ d.entries := by
  obtain ⟨⟨_, v⟩, hmem, rfl⟩ := List.mem_map.mp h
  exact ⟨v, hmem⟩

theorem lookup_eq_some_iff (d : OrderedDict κ ν) (k : κ) (v : ν) :
    d.lookup k = some v ↔ (k, v) ∈ d.entries := by
  constructor
  · intro h
    obtain ⟨e, he, hv⟩ := Option.map_eq_some_iff.mp h
    have hk : e.1 = k := by simpa using List.find?_some he
    have hmem := List.mem_of_find?_eq_some he
    rwa [← hk, ← hv]
  · intro h
    cases hf : d.entries.find? fun e => e.1 = k with
    | none =>
      rw [List.find?_eq_none] at hf
      simpa using hf _ h
    | some e =>
      have hk : e.1 = k := by simpa using List.find?_some hf
      -- two entries under one key are the same entry
      have he : e = (k, v) :=
        List.inj_on_of_nodup_map d.nodup_keys (List.mem_of_find?_eq_some hf) h hk
      rw [lookup, hf, he]
      rfl

theorem lookup_isSome_iff (d : OrderedDict κ ν) (k : κ) :
    (∃ v, d.lookup k = some v) ↔ k ∈ d.keys := by
  simp only [lookup_eq_some_iff, keys, List.mem_map, Prod.exists, exists_and_right, exists_eq_right]

theorem mem_keys_of_lookup {d : OrderedDict κ ν} {k : κ} {v : ν} (h : d.lookup k = some v) :
    k ∈ d.keys := (d.lookup_isSome_iff k).mp ⟨v, h⟩

theorem lookup_eq_none_iff (d : OrderedDict κ ν) (k : κ) : d.lookup k = none ↔ k ∉ d.keys := by
  rw [← lookup_isSome_iff, Option.eq_none_iff_forall_ne_some, not_exists]

theorem keys_erase (d : OrderedDict κ ν) (k : κ) :
    (d.erase k).keys = d.keys.filter fun a => a ≠ k := by
  rw [keys, keys, erase, List.filter_map]
  rfl

theorem mem_keys_erase {d : OrderedDict κ ν} {k a : κ} :
    a ∈ (d.erase k).keys ↔ a ∈ d.keys ∧ a ≠ k := by
  rw [keys_erase, List.mem_filter, decide_eq_true_eq]

theorem lookup_erase (d : OrderedDict κ ν) (k a : κ) :
    (d.erase k).lookup a = if a = k then none else d.lookup a := by
  by_cases ha : a = k
  · rw [if_pos ha, lookup_eq_none_iff, mem_keys_erase]
    exact fun h => h.2 ha
  · rw [if_neg ha]
    apply Option.ext
    intro w
    rw [lookup_eq_some_iff, lookup_eq_some_iff, erase, List.mem_filter]
    simp [ha]

/-- Erasing a key takes its one entry out. -/
theorem perm_cons_erase {d : OrderedDict κ ν} {k : κ} {v : ν} (h : (k, v) ∈ d.entries) :
    d.entries.Perm ((k, v) :: (d.erase k).entries) := by
  classical
  have hnodup : d.entries.Nodup := List.Nodup.of_map _ d.nodup_keys
  have herase : (d.erase k).entries = d.entries.erase (k, v) := by
    rw [hnodup.erase_eq_filter]
    refine List.filter_congr fun e he => ?_
    have hiff : e.1 = k ↔ e = (k, v) :=
      ⟨fun hk => List.inj_on_of_nodup_map d.nodup_keys he h hk, fun hk => hk ▸ rfl⟩
    simp only [ne_eq, decide_not, bne, hiff, beq_eq_decide]
  rw [herase]
  exact List.perm_cons_erase h

theorem length_erase {d : OrderedDict κ ν} {k : κ} (h : k ∈ d.keys) :
    d.keys.length = (d.erase k).keys.length+1 := by
  obtain ⟨v, hv⟩ := (d.lookup_isSome_iff k).mpr h
  have hperm := (perm_cons_erase ((d.lookup_eq_some_iff k v).mp hv)).length_eq
  simpa only [keys, List.length_map, List.length_cons] using hperm

theorem mem_entries_insert {d : OrderedDict κ ν} {k : κ} {v : ν} {e : κ × ν} :
    e ∈ (d.insert k v).entries ↔ e = (k, v) ∨ e.1 ≠ k ∧ e ∈ d.entries := by
  by_cases hk : k ∈ d.keys
  · rw [insert, dif_pos hk, List.mem_map]
    constructor
    · rintro ⟨f, hf, rfl⟩
      by_cases hfk : f.1 = k
      · rw [if_pos hfk]
        exact Or.inl rfl
      · rw [if_neg hfk]
        exact Or.inr ⟨hfk, hf⟩
    · rintro (rfl | ⟨hne, he⟩)
      · obtain ⟨w, hw⟩ := (d.lookup_isSome_iff k).mpr hk
        exact ⟨(k, w), (d.lookup_eq_some_iff k w).mp hw, if_pos rfl⟩
      · exact ⟨e, he, if_neg hne⟩
  · rw [entries_insert hk, List.mem_append, List.mem_singleton, or_comm]
    have hne : e ∈ d.entries → e.1 ≠ k := fun he heq => hk (heq ▸ mem_keys_of_mem he)
    constructor
    · rintro (he | he)
      · exact Or.inl he
      · exact Or.inr ⟨hne he, he⟩
    · rintro (he | ⟨-, he⟩)
      · exact Or.inl he
      · exact Or.inr he

theorem lookup_insert (d : OrderedDict κ ν) (k : κ) (v : ν) (a : κ) :
    (d.insert k v).lookup a = if a = k then some v else d.lookup a := by
  apply Option.ext
  intro w
  rw [lookup_eq_some_iff, mem_entries_insert]
  by_cases ha : a = k
  · rw [if_pos ha, ha]
    simp [eq_comm]
  · rw [if_neg ha, lookup_eq_some_iff]
    simp [ha]

theorem erase_insert (d : OrderedDict κ ν) (k : κ) (v : ν) :
    ((d.insert k v).erase k).entries = (d.erase k).entries := by
  by_cases hk : k ∈ d.keys
  · have hmap (l : List (κ × ν)) :
        (l.map fun e => if e.1 = k then (k, v) else e).filter (fun e => e.1 ≠ k) =
          l.filter fun e => e.1 ≠ k := by
      induction l with
      | nil => rfl
      | cons e l ih =>
        rw [List.map_cons, List.filter_cons, List.filter_cons, ih]
        by_cases he : e.1 = k <;> simp [he]
    rw [insert, dif_pos hk]
    exact hmap d.entries
  · simp [erase, entries_insert hk]

/-- What the entries hold together grows by what the new value adds to the old one. -/
theorem perm_flatMap_insert {β : Type*} (g : κ × ν → List β) (d : OrderedDict κ ν) (k : κ) (v : ν)
    {added : List β} (hg : g (k, v) = ((d.lookup k).map fun w => g (k, w)).getD [] ++ added) :
    ((d.insert k v).entries.flatMap g).Perm (d.entries.flatMap g ++ added) := by
  have hnew : (k, v) ∈ (d.insert k v).entries := mem_entries_insert.mpr (Or.inl rfl)
  have hinsert := (perm_cons_erase hnew).flatMap_right g
  rw [erase_insert, List.flatMap_cons, hg] at hinsert
  refine hinsert.trans ?_
  cases hk : d.lookup k with
  | none =>
    have hkeys := (d.lookup_eq_none_iff k).mp hk
    have herase : (d.erase k).entries = d.entries := by
      apply List.filter_eq_self.mpr
      intro e he
      exact decide_eq_true fun heq => hkeys (heq ▸ mem_keys_of_mem he)
    rw [herase, Option.map_none, Option.getD_none, List.nil_append]
    exact List.perm_append_comm
  | some w =>
    have hold := (perm_cons_erase ((d.lookup_eq_some_iff k w).mp hk)).flatMap_right g
    rw [List.flatMap_cons] at hold
    rw [Option.map_some, Option.getD_some, List.append_assoc]
    refine List.Perm.trans ?_ (hold.symm.append_right added)
    rw [List.append_assoc]
    exact List.perm_append_comm.append_left _

/-- Reading the keys one by one gives back the entries. -/
theorem map_lookup_keys (d : OrderedDict κ ν) :
    d.keys.map (fun k => (k, d.lookup k)) = d.entries.map fun e => (e.1, some e.2) := by
  rw [keys, List.map_map]
  apply List.map_congr_left
  intro e he
  have hlookup : d.lookup e.1 = some e.2 := (d.lookup_eq_some_iff e.1 e.2).mpr he
  rw [Function.comp_apply, hlookup]

theorem mem_keys_insert (d : OrderedDict κ ν) (k : κ) (v : ν) (a : κ) :
    a ∈ (d.insert k v).keys ↔ a = k ∨ a ∈ d.keys := by
  rw [← lookup_isSome_iff, ← lookup_isSome_iff, lookup_insert]
  by_cases ha : a = k <;> simp [ha]

/-- A table of pairs under different keys keeps all of them in their order. -/
theorem entries_foldl_insert (pairs : List (κ × ν)) (d : OrderedDict κ ν)
    (hnodup : ((d.entries ++ pairs).map Prod.fst).Nodup) :
    (pairs.foldl (fun d p => d.insert p.1 p.2) d).entries = d.entries ++ pairs := by
  induction pairs generalizing d with
  | nil => rw [List.foldl_nil, List.append_nil]
  | cons p ps ih =>
    have hnew : p.1 ∉ d.keys := by
      intro hmem
      rw [List.map_append, List.nodup_append] at hnodup
      exact hnodup.2.2 p.1 hmem p.1 List.mem_cons_self rfl
    have hinsert : (d.insert p.1 p.2).entries ++ ps = d.entries ++ p :: ps := by
      rw [entries_insert hnew, List.append_assoc, List.singleton_append]
    rw [List.foldl_cons, ih _ (by rw [hinsert]; exact hnodup), hinsert]

theorem lookup_foldl_insert_of_mem {pairs : List (κ × ν)} (hnodup : (pairs.map Prod.fst).Nodup)
    {k : κ} {v : ν} (hmem : (k, v) ∈ pairs) :
    (pairs.foldl (fun d p => d.insert p.1 p.2) empty).lookup k = some v := by
  rw [lookup_eq_some_iff, entries_foldl_insert pairs empty hnodup, entries_empty, List.nil_append]
  exact hmem

/-- What is filed under distinct keys of distinct things is found under the thing's key. -/
theorem lookup_foldl_insert_map {τ : Type*} {key : τ → κ} (hkey : Function.Injective key)
    {pairs : List (τ × ν)} (hnodup : (pairs.map Prod.fst).Nodup) {t : τ} {v : ν}
    (hmem : (t, v) ∈ pairs) :
    ((pairs.map fun p => (key p.1, p.2)).foldl (fun d p => d.insert p.1 p.2) empty).lookup
      (key t) = some v := by
  apply lookup_foldl_insert_of_mem
  · have hkeys := hnodup.map hkey
    rw [List.map_map] at hkeys ⊢
    exact hkeys
  · exact List.mem_map_of_mem (f := fun p : τ × ν => (key p.1, p.2)) hmem

theorem mem_keys_foldl_insert (pairs : List (κ × ν)) (d : OrderedDict κ ν) (a : κ) :
    a ∈ (pairs.foldl (fun d p => d.insert p.1 p.2) d).keys ↔
      a ∈ d.keys ∨ a ∈ pairs.map Prod.fst := by
  induction pairs generalizing d with
  | nil => rw [List.foldl_nil, List.map_nil, or_iff_left List.not_mem_nil]
  | cons p ps ih =>
    rw [List.foldl_cons, ih, mem_keys_insert, List.map_cons, List.mem_cons]
    exact or_assoc.trans or_left_comm

/-- A table of pairs has as many entries as there are pairs only when their keys are different. -/
theorem length_foldl_insert_iff (pairs : List (κ × ν)) :
    (pairs.foldl (fun d p => d.insert p.1 p.2) empty).entries.length = pairs.length ↔
      (pairs.map Prod.fst).Nodup := by
  constructor
  · intro hlength
    generalize htable : pairs.foldl (fun d p => d.insert p.1 p.2) empty = table at hlength
    have hsub : table.keys ⊆ pairs.map Prod.fst := by
      intro a ha
      rw [← htable, mem_keys_foldl_insert, keys_empty, or_iff_right List.not_mem_nil] at ha
      exact ha
    have hperm : table.keys.Perm (pairs.map Prod.fst) := by
      apply (table.nodup_keys.subperm hsub).perm_of_length_le
      rw [List.length_map, List.length_map]
      exact Nat.le_of_eq hlength.symm
    exact hperm.nodup_iff.mp table.nodup_keys
  · intro hnodup
    rw [entries_foldl_insert pairs empty hnodup, entries_empty, List.nil_append]

/-- A table of a function over a list of keys. -/
theorem lookup_foldl_insert (f : κ → ν) (ks : List κ) (d : OrderedDict κ ν) (a : κ) :
    (ks.foldl (fun d k => d.insert k (f k)) d).lookup a =
      if a ∈ ks then some (f a) else d.lookup a := by
  induction ks generalizing d with
  | nil => rw [List.foldl_nil, if_neg List.not_mem_nil]
  | cons k ks ih =>
    rw [List.foldl_cons, ih, lookup_insert]
    by_cases ha : a = k
    · subst ha
      simp
    · simp [ha]

/-- Add a value to the list that is kept under a key. -/
def push (d : OrderedDict κ (List ν)) (k : κ) (v : ν) : OrderedDict κ (List ν) :=
  d.insert k ((d.lookup k).getD [] ++ [v])

theorem lookup_push (d : OrderedDict κ (List ν)) (k : κ) (v : ν) (a : κ) :
    ((d.push k v).lookup a).getD [] = (d.lookup a).getD [] ++ if a = k then [v] else [] := by
  rw [push, lookup_insert]
  by_cases ha : a = k
  · rw [if_pos ha, if_pos ha, ha, Option.getD_some]
  · rw [if_neg ha, if_neg ha, List.append_nil]

/-- Grouping pairs by their first component keeps the order within a group. -/
theorem lookup_foldl_push (pairs : List (κ × ν)) (d : OrderedDict κ (List ν)) (a : κ) :
    ((pairs.foldl (fun d p => d.push p.1 p.2) d).lookup a).getD [] =
      (d.lookup a).getD [] ++ (pairs.filter fun p => p.1 = a).map Prod.snd := by
  induction pairs generalizing d with
  | nil => simp only [List.foldl_nil, List.filter_nil, List.map_nil, List.append_nil]
  | cons p ps ih =>
    rw [List.foldl_cons, ih, lookup_push, List.append_assoc]
    by_cases ha : a = p.1
    · simp [ha]
    · simp [ha, Ne.symm ha]

theorem mem_keys_foldl_push (pairs : List (κ × ν)) (d : OrderedDict κ (List ν)) (a : κ) :
    a ∈ (pairs.foldl (fun d p => d.push p.1 p.2) d).keys ↔
      a ∈ d.keys ∨ ∃ p ∈ pairs, p.1 = a := by
  induction pairs generalizing d with
  | nil => simp
  | cons p ps ih =>
    rw [List.foldl_cons, ih, push, mem_keys_insert, List.exists_mem_cons_iff, or_assoc,
      eq_comm (a := a), or_left_comm]

/-- The values of some pairs, gathered by the keys. -/
def groups (pairs : List (κ × ν)) : OrderedDict κ (List ν) :=
  pairs.foldl (fun d p => d.push p.1 p.2) .empty

theorem perm_foldl_push (pairs : List (κ × ν)) (d : OrderedDict κ (List ν)) :
    ((pairs.foldl (fun d p => d.push p.1 p.2) d).entries.flatMap Prod.snd).Perm
      (d.entries.flatMap Prod.snd ++ pairs.map Prod.snd) := by
  induction pairs generalizing d with
  | nil => rw [List.foldl_nil, List.map_nil, List.append_nil]
  | cons p ps ih =>
    have hpush : ((d.push p.1 p.2).entries.flatMap Prod.snd).Perm
        (d.entries.flatMap Prod.snd ++ [p.2]) := by
      apply perm_flatMap_insert
      cases d.lookup p.1 <;> rfl
    rw [List.foldl_cons]
    refine (ih (d.push p.1 p.2)).trans ((hpush.append_right _).trans ?_)
    rw [List.append_assoc, List.singleton_append, List.map_cons]

/-- Read in any order of the keys, the groups hold every value once. -/
theorem perm_lookup_groups (pairs : List (κ × ν)) {ks : List κ}
    (hks : ks.Perm (groups pairs).keys) :
    (ks.flatMap fun k => ((groups pairs).lookup k).getD []).Perm (pairs.map Prod.snd) := by
  have hread := congrArg (fun l => l.flatMap fun e : κ × Option (List ν) => e.2.getD [])
    (groups pairs).map_lookup_keys
  simp only [List.flatMap_map, Option.getD_some] at hread
  have hall := perm_foldl_push pairs .empty
  refine (hks.flatMap_right _).trans ?_
  rw [hread]
  exact hall

/-- Of the values that are kept under their own key, the last one of a key counts. -/
theorem lookup_foldl_insert_key (key : ν → κ) (vs : List ν) (d : OrderedDict κ ν) (a : κ) :
    (vs.foldl (fun d v => d.insert (key v) v) d).lookup a =
      (vs.filter fun v => key v = a).getLast?.or (d.lookup a) := by
  induction vs generalizing d with
  | nil => rfl
  | cons v vs ih =>
    rw [List.foldl_cons, ih, lookup_insert, List.filter_cons]
    by_cases hv : key v = a
    · rw [if_pos hv.symm, if_pos (decide_eq_true hv), List.getLast?_cons]
      cases (vs.filter fun v => key v = a).getLast? <;> rfl
    · rw [if_neg (Ne.symm hv), if_neg (by simpa using hv)]

/-- Values that have different keys are all kept. -/
theorem entries_foldl_new (key : ν → κ) (vs : List ν) (d : OrderedDict κ ν)
    (hnodup : (d.keys ++ vs.map key).Nodup) :
    (vs.foldl (fun d v => if (d.lookup (key v)).isSome then d else d.insert (key v) v) d).entries =
      d.entries ++ vs.map fun v => (key v, v) := by
  induction vs generalizing d with
  | nil => rw [List.foldl_nil, List.map_nil, List.append_nil]
  | cons v vs ih =>
    have hnew : key v ∉ d.keys := fun hmem =>
      (List.nodup_append.mp hnodup).2.2 _ hmem _ List.mem_cons_self rfl
    have hnone : d.lookup (key v) = none := (lookup_eq_none_iff d (key v)).mpr hnew
    rw [List.map_cons, List.append_cons, ← keys_insert hnew v] at hnodup
    rw [List.foldl_cons, hnone, if_neg (by rw [Option.isSome_none]; exact Bool.false_ne_true),
      ih _ hnodup, entries_insert hnew, List.append_assoc, List.map_cons, List.singleton_append]

/-- Values that are kept under their own key, the first one of each, have different keys. -/
theorem nodup_values_foldl_new (key : ν → κ) (vs : List ν) :
    ((vs.foldl (fun d v => if (d.lookup (key v)).isSome then d else d.insert (key v) v)
      (empty : OrderedDict κ ν)).values.map key).Nodup := by
  have hown (d : OrderedDict κ ν) (hd : ∀ e ∈ d.entries, key e.2 = e.1) :
      ∀ e ∈ (vs.foldl (fun d v => if (d.lookup (key v)).isSome then d else d.insert (key v) v)
        d).entries, key e.2 = e.1 := by
    induction vs generalizing d with
    | nil => exact hd
    | cons v vs ih =>
      rw [List.foldl_cons]
      apply ih
      split
      · exact hd
      · intro e he
        rcases mem_entries_insert.mp he with rfl | ⟨-, hold⟩
        · rfl
        · exact hd e hold
  have hkeys := hown empty fun e he => absurd he List.not_mem_nil
  generalize vs.foldl (fun d v => if (d.lookup (key v)).isSome then d else d.insert (key v) v)
    (empty : OrderedDict κ ν) = d at hkeys ⊢
  have hmap : d.values.map key = d.keys := by
    rw [values, keys, List.map_map]
    exact List.map_congr_left hkeys
  rw [hmap]
  exact d.nodup_keys

/-- In a table of pairs the last value of a key stays. -/
theorem lookup_foldl_insert_last (pairs : List (κ × ν)) (d : OrderedDict κ ν) (a : κ) :
    (pairs.foldl (fun d p => d.insert p.1 p.2) d).lookup a =
      ((pairs.filter fun p => p.1 = a).getLast?.map Prod.snd).or (d.lookup a) := by
  induction pairs generalizing d with
  | nil => rfl
  | cons p ps ih =>
    rw [List.foldl_cons, ih, lookup_insert, List.filter_cons]
    by_cases hp : p.1 = a
    · rw [if_pos hp.symm, if_pos (decide_eq_true hp), List.getLast?_cons]
      cases (ps.filter fun p => p.1 = a).getLast? <;> rfl
    · rw [if_neg (Ne.symm hp), if_neg (by simpa using hp)]

/-- One more of a key. -/
def tally (counts : OrderedDict κ ℕ) (k : κ) : OrderedDict κ ℕ :=
  counts.insert k ((counts.lookup k).getD 0+1)

theorem lookup_foldl_tally (ks : List κ) (counts : OrderedDict κ ℕ) (a : κ) :
    ((ks.foldl tally counts).lookup a).getD 0 = (counts.lookup a).getD 0+ks.count a := by
  induction ks generalizing counts with
  | nil => rfl
  | cons k ks ih =>
    rw [List.foldl_cons, ih, tally, lookup_insert, List.count_cons]
    by_cases ha : a = k
    · rw [if_pos ha, ha, Option.getD_some, if_pos (beq_self_eq_true k)]
      omega
    · rw [if_neg ha, if_neg (by simpa using Ne.symm ha), Nat.add_zero]

theorem mem_keys_foldl_tally (ks : List κ) (counts : OrderedDict κ ℕ) (a : κ) :
    a ∈ (ks.foldl tally counts).keys ↔ a ∈ counts.keys ∨ a ∈ ks := by
  induction ks generalizing counts with
  | nil => rw [List.foldl_nil, or_iff_left List.not_mem_nil]
  | cons k ks ih =>
    rw [List.foldl_cons, ih, tally, mem_keys_insert, List.mem_cons]
    exact or_assoc.trans or_left_comm

/-- The keys that have been counted, each once. -/
theorem perm_keys_tally (ks : List κ) : (ks.foldl tally empty).keys.Perm ks.dedup := by
  have hkeys : (ks.foldl tally empty).keys.Nodup := nodup_keys _
  rw [List.perm_ext_iff_of_nodup hkeys (List.nodup_dedup _)]
  intro a
  rw [mem_keys_foldl_tally, List.mem_dedup, keys_empty, or_iff_right List.not_mem_nil]

end OrderedDict
