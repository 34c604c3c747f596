import Mathlib.Data.List.Nodup
import PypnmCmts.OperationModels

/-! `api/common/validation/request_normalization.py`, and the selection of service groups and
cable modems in `api/common/cmts_request.py`. -/
namespace PypnmCmts

namespace RequestListNormalizer
variable {α : Type*} [DecidableEq α]

/-- The values that are in `seen` or come up again, in their order. -/
def duplicates : List α → List α → List α
  | _, [] => []
  | seen, value :: values =>
    if value ∈ seen then value :: duplicates seen values else duplicates (value :: seen) values

theorem duplicates_eq_nil_iff (seen values : List α) :
    duplicates seen values = [] ↔ values.Nodup ∧ ∀ v ∈ values, v ∉ seen := by
  induction values generalizing seen with
  | nil => simp [duplicates]
  | cons value values ih =>
    rw [duplicates]
    by_cases hseen : value ∈ seen
    · rw [if_pos hseen]
      refine iff_of_false (List.cons_ne_nil _ _) ?_
      rintro ⟨-, hfresh⟩
      exact absurd hseen (hfresh value List.mem_cons_self)
    · rw [if_neg hseen, ih, List.nodup_cons]
      constructor
      · rintro ⟨hnodup, hfresh⟩
        have hnew : value ∉ values := fun hmem => hfresh value hmem List.mem_cons_self
        refine ⟨⟨hnew, hnodup⟩, ?_⟩
        intro v hv
        rcases List.mem_cons.mp hv with rfl | hv
        · exact hseen
        · exact fun hmem => hfresh v hv (List.mem_cons_of_mem _ hmem)
      · rintro ⟨⟨hnew, hnodup⟩, hfresh⟩
        refine ⟨hnodup, ?_⟩
        intro v hv hmem
        rcases List.mem_cons.mp hmem with rfl | hmem
        · exact hnew hv
        · exact hfresh v (List.mem_cons_of_mem _ hv) hmem

/-- Reject duplicates while preserving input order. -/
def assertUnique (text : α → String) (values : List α) (label : String) :
    Except String { values : List α // values.Nodup } :=
  if h : duplicates [] values = [] then .ok ⟨values, ((duplicates_eq_nil_iff [] values).mp h).1⟩
  else .error (label ++ " contains duplicate values: " ++
    ", ".intercalate ((duplicates [] values).map text))

def assertUniqueServiceGroupIds (values : List ServiceGroupId) (label : String) :
    Except String { values : List ServiceGroupId // values.Nodup } :=
  assertUnique toString values label

def assertUniqueMacAddresses (values : List MacAddressStr) (label : String) :
    Except String { values : List MacAddressStr // values.Nodup } :=
  assertUnique id values label

/-- Every list without duplicates is accepted as it is, and no other list. -/
theorem assertUnique_ok_iff {text : α → String} {values : List α} {label : String}
    {accepted : { values : List α // values.Nodup }} :
    assertUnique text values label = .ok accepted ↔ values = accepted.1 := by
  unfold assertUnique
  by_cases hnil : duplicates [] values = []
  · rw [dif_pos hnil, Except.ok.injEq, Subtype.ext_iff]
  · rw [dif_neg hnil]
    refine iff_of_false (fun h => by cases h) ?_
    intro heq
    have hnodup : values.Nodup := heq ▸ accepted.2
    have hempty := (duplicates_eq_nil_iff [] values).mpr ⟨hnodup, fun _ _ => List.not_mem_nil⟩
    exact absurd hempty hnil

/-- A filter that is built from the accepted list tells which list that was. -/
theorem assertUnique_map_ok_iff {β : Type*} {text : α → String} {values : List α}
    {label : String} {build : { values : List α // values.Nodup } → β}
    (hbuild : Function.Injective build) (accepted : { values : List α // values.Nodup }) :
    (assertUnique text values label).map build = .ok (build accepted) ↔ values = accepted.1 := by
  have hok : assertUnique text values label = .ok accepted ↔ values = accepted.1 :=
    assertUnique_ok_iff
  rw [← hok]
  cases assertUnique text values label with
  | error message => exact iff_of_false (fun h => by cases h) (fun h => by cases h)
  | ok actual => rw [Except.map, Except.ok.injEq, Except.ok.injEq, hbuild.eq_iff]

end RequestListNormalizer

open RequestListNormalizer

/-- Serving group identifiers; empty means all. -/
structure CmtsServingGroupFilterModel where
  id : List ServiceGroupId
  nodup : id.Nodup

/-- Cable modem MAC addresses; empty means all. -/
structure CmtsCableModemFilterModel where
  macAddress : List MacAddressStr
  nodup : macAddress.Nodup

structure CmtsRequestEnvelopeModel where
  servingGroup : CmtsServingGroupFilterModel
  cableModem : CmtsCableModemFilterModel

namespace CmtsServingGroupFilterModel

def normalizeIds (values : List ℤ) : Except String CmtsServingGroupFilterModel :=
  if values.any (· < 0) then .error "serving_group.id values must be zero or greater."
  else
    (assertUniqueServiceGroupIds (values.map Int.toNat) "serving_group.id").map fun ids =>
      ⟨ids.1, ids.2⟩

/-- The validator accepts the lists of distinct identifiers, and keeps their order. -/
theorem normalizeIds_ok_iff {values : List ℤ} {filter : CmtsServingGroupFilterModel} :
    normalizeIds values = .ok filter ↔ values = filter.id.map Int.ofNat := by
  obtain ⟨ids, hnodup⟩ := filter
  unfold normalizeIds
  by_cases hneg : values.any (· < 0) = true
  · rw [if_pos hneg]
    refine iff_of_false (fun h => by cases h) ?_
    intro heq
    obtain ⟨v, hv, hlt⟩ := List.any_eq_true.mp hneg
    rw [heq] at hv
    obtain ⟨n, -, rfl⟩ := List.mem_map.mp hv
    have hlt' := of_decide_eq_true hlt
    exact absurd (Int.natCast_nonneg n) (not_le.mpr hlt')
  · rw [if_neg hneg]
    -- on the lists that pass the sign check, `toNat` loses nothing
    have hback : (values.map Int.toNat).map Int.ofNat = values := by
      rw [List.map_map]
      calc values.map (Int.ofNat ∘ Int.toNat)
          = values.map fun v => v := by
            refine List.map_congr_left fun v hv => ?_
            have hlt : ¬ v < 0 := fun hlt =>
              hneg (List.any_eq_true.mpr ⟨v, hv, decide_eq_true hlt⟩)
            exact Int.toNat_of_nonneg (not_lt.mp hlt)
        _ = values := List.map_id' values
    have hcast : values.map Int.toNat = ids ↔ values = ids.map Int.ofNat := by
      constructor
      · intro heq
        rw [← heq, hback]
      · intro heq
        rw [heq, List.map_map]
        exact List.map_id ids
    rw [← hcast]
    apply assertUnique_map_ok_iff _ ⟨ids, hnodup⟩
    intro a b hab
    exact Subtype.ext (congrArg CmtsServingGroupFilterModel.id hab)

end CmtsServingGroupFilterModel

namespace CmtsCableModemFilterModel

/-- `toMacFormat` is the package's normal form of a MAC address, where it is one. -/
def normalizeMacs (toMacFormat : String → Option MacAddressStr) (values : List String) :
    Except String CmtsCableModemFilterModel :=
  match values.mapM toMacFormat with
  | none => .error "cable_modem.mac_address entries must be valid MAC addresses."
  | some normalized =>
    (assertUniqueMacAddresses normalized "cable_modem.mac_address").map fun macs =>
      ⟨macs.1, macs.2⟩

/-- The validator accepts the lists of addresses with distinct normal forms. -/
theorem normalizeMacs_ok_iff {toMacFormat : String → Option MacAddressStr} {values : List String}
    {filter : CmtsCableModemFilterModel} :
    normalizeMacs toMacFormat values = .ok filter ↔
      values.mapM toMacFormat = some filter.macAddress := by
  obtain ⟨macs, hnodup⟩ := filter
  unfold normalizeMacs
  cases values.mapM toMacFormat with
  | none => exact iff_of_false (fun h => by cases h) (fun h => by cases h)
  | some normalized =>
    rw [Option.some.injEq]
    apply assertUnique_map_ok_iff _ ⟨macs, hnodup⟩
    intro a b hab
    exact Subtype.ext (congrArg CmtsCableModemFilterModel.macAddress hab)

end CmtsCableModemFilterModel
end PypnmCmts
