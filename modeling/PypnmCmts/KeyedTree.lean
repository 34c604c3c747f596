import Mathlib.Data.List.Nodup

/-! Trees whose inner nodes have their children under keys, in an order and with no key twice. -/

inductive KeyedTree (κ β : Type) : Type
  | leaf (value : β)
  | node (keys : List κ) (nodup : keys.Nodup) (child : {k // k ∈ keys} → KeyedTree κ β)

namespace KeyedTree
variable {κ β : Type}

def isNode : KeyedTree κ β → Bool
  | leaf _ => false
  | node _ _ _ => true

def keys : KeyedTree κ β → List κ
  | leaf _ => []
  | node ks _ _ => ks

variable [DecidableEq κ]

def lookup : KeyedTree κ β → κ → Option (KeyedTree κ β)
  | leaf _, _ => none
  | node ks _ child, k => if h : k ∈ ks then some (child ⟨k, h⟩) else none

/-- What the path leads to. -/
def get : KeyedTree κ β → List κ → Option (KeyedTree κ β)
  | t, [] => some t
  | t, k :: path =>
    match t.lookup k with
    | none => none
    | some sub => get sub path

omit [DecidableEq κ] in
theorem nodup_concat {ks : List κ} {k : κ} (h : k ∉ ks) (hnodup : ks.Nodup) :
    (ks ++ [k]).Nodup := by
  rw [← List.concat_eq_append]
  exact hnodup.concat h

/-- A key that is present keeps its place, a new one goes to the end. -/
def insert (t : KeyedTree κ β) (k : κ) (value : KeyedTree κ β) : KeyedTree κ β :=
  match t with
  | leaf b => leaf b
  | node ks nodup child =>
    if h : k ∈ ks then node ks nodup fun k' => if k'.1 = k then value else child k'
    else node (ks ++ [k]) (nodup_concat h nodup) fun k' =>
      if h' : k'.1 ∈ ks then child ⟨k'.1, h'⟩ else value

omit [DecidableEq κ] in
theorem nodup_keys (t : KeyedTree κ β) : t.keys.Nodup := by
  cases t with
  | leaf b => exact List.nodup_nil
  | node ks nodup child => exact nodup

theorem lookup_eq_none_iff {t : KeyedTree κ β} {k : κ} : t.lookup k = none ↔ k ∉ t.keys := by
  cases t with
  | leaf b => simp [lookup, keys]
  | node ks nodup child =>
    rw [lookup]
    split <;> simp_all [keys]

theorem exists_lookup {t : KeyedTree κ β} {k : κ} (h : k ∈ t.keys) :
    ∃ sub, t.lookup k = some sub := by
  rw [← Option.ne_none_iff_exists', ne_eq, lookup_eq_none_iff, not_not]
  exact h

theorem mem_keys_of_lookup {t sub : KeyedTree κ β} {k : κ} (h : t.lookup k = some sub) :
    k ∈ t.keys := by
  by_contra hnot
  rw [lookup_eq_none_iff.mpr hnot] at h
  cases h

/-- A tree that has a child has children. -/
theorem isNode_of_lookup {t sub : KeyedTree κ β} {k : κ} (h : t.lookup k = some sub) :
    t.isNode = true := by
  cases t with
  | leaf b => cases h
  | node ks nodup child => rfl

/-- Nodes with the same keys in the same order and the same children are the same. -/
theorem ext_of_lookup {t t' : KeyedTree κ β} (ht : t.isNode = true) (ht' : t'.isNode = true)
    (hkeys : t.keys = t'.keys) (hlookup : ∀ k, t.lookup k = t'.lookup k) : t = t' := by
  cases t with
  | leaf b => cases ht
  | node ks nodup child =>
    cases t' with
    | leaf b => cases ht'
    | node ks' nodup' child' =>
      obtain rfl : ks = ks' := hkeys
      congr 1
      funext k
      have hk := hlookup k.1
      rw [lookup, lookup, dif_pos k.2, dif_pos k.2] at hk
      exact Option.some.inj hk

/-- Keys that were put at the end would have children. -/
theorem eq_of_lookup_of_keys {t t' : KeyedTree κ β} (ht : t.isNode = true)
    (ht' : t'.isNode = true) {added : List κ} (hkeys : t'.keys = t.keys ++ added)
    (hlookup : ∀ k, t'.lookup k = t.lookup k) : t' = t := by
  apply ext_of_lookup ht' ht _ hlookup
  have hnodup := t'.nodup_keys
  rw [hkeys] at hnodup
  cases added with
  | nil => rw [hkeys, List.append_nil]
  | cons k added =>
    have hk : k ∈ t'.keys := by rw [hkeys]; simp
    obtain ⟨sub, hsub⟩ := exists_lookup hk
    rw [hlookup k] at hsub
    exact absurd (List.mem_cons_self)
      (List.disjoint_of_nodup_append hnodup (mem_keys_of_lookup hsub))

@[simp] theorem isNode_insert (t : KeyedTree κ β) (k : κ) (value : KeyedTree κ β) :
    (t.insert k value).isNode = t.isNode := by
  cases t with
  | leaf b => rfl
  | node ks nodup child =>
    rw [insert]
    split <;> rfl

theorem keys_insert_of_mem {k : κ} {t : KeyedTree κ β} (h : k ∈ t.keys) (value : KeyedTree κ β) :
    (t.insert k value).keys = t.keys := by
  cases t with
  | leaf b => rfl
  | node ks nodup child => rw [insert, dif_pos (show k ∈ ks from h), keys, keys]

theorem keys_insert_of_notMem {k : κ} {t : KeyedTree κ β} (ht : t.isNode = true)
    (h : k ∉ t.keys) (value : KeyedTree κ β) : (t.insert k value).keys = t.keys ++ [k] := by
  cases t with
  | leaf b => cases ht
  | node ks nodup child => rw [insert, dif_neg (show k ∉ ks from h), keys, keys]

theorem lookup_insert {t : KeyedTree κ β} (ht : t.isNode = true) (k : κ) (value : KeyedTree κ β)
    (a : κ) : (t.insert k value).lookup a = if a = k then some value else t.lookup a := by
  cases t with
  | leaf b => cases ht
  | node ks nodup child =>
    rw [insert]
    split
    · next hmem =>
      by_cases ha : a = k
      · simp [lookup, ha, hmem]
      · simp [lookup, ha]
    · next hmem =>
      by_cases ha : a = k
      · simp [lookup, ha, hmem]
      · simp only [lookup, List.mem_append, List.mem_singleton, ha, or_false, if_false]
        split
        · next h => simp
        · rfl

/-- To put a child where it is already changes nothing. -/
theorem insert_of_lookup {t value : KeyedTree κ β} {k : κ} (h : t.lookup k = some value) :
    t.insert k value = t := by
  have ht := isNode_of_lookup h
  apply ext_of_lookup (by rw [isNode_insert, ht]) ht
  · exact keys_insert_of_mem (mem_keys_of_lookup h) value
  · intro a
    rw [lookup_insert ht]
    split
    · next ha => rw [ha, h]
    · rfl

/-- What holds of a tree when it holds of its children holds of every tree. -/
theorem induction_lookup {P : KeyedTree κ β → Prop}
    (h : ∀ t, (∀ k sub, t.lookup k = some sub → P sub) → P t) (t : KeyedTree κ β) : P t := by
  induction t with
  | leaf b =>
    apply h
    intro k sub hsub
    cases hsub
  | node ks nodup child ih =>
    apply h
    intro k sub hsub
    rw [lookup] at hsub
    split at hsub
    · next hk =>
      cases hsub
      exact ih ⟨k, hk⟩
    · cases hsub

theorem get_cons {t sub : KeyedTree κ β} {k : κ} (h : t.lookup k = some sub) (path : List κ) :
    t.get (k :: path) = sub.get path := by rw [get, h]

theorem get_cons_of_none {t : KeyedTree κ β} {k : κ} (h : t.lookup k = none) (path : List κ) :
    t.get (k :: path) = none := by rw [get, h]

theorem get_cons_congr {t t' : KeyedTree κ β} {k : κ} (h : t.lookup k = t'.lookup k)
    (path : List κ) : t.get (k :: path) = t'.get (k :: path) := by rw [get, get, h]

end KeyedTree
