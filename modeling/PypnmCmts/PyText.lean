import Mathlib.Data.List.DropRight

/-! Python's `str.strip` on lists of characters. -/
namespace PyText

/-- The code points for which `str.isspace` holds. -/
def isSpace (c : Char) : Bool :=
  let n := c.toNat
  (9 ≤ n && n ≤ 13) || (28 ≤ n && n ≤ 32) || n == 0x85 || n == 0xA0 || n == 0x1680 ||
    (0x2000 ≤ n && n ≤ 0x200A) || n == 0x2028 || n == 0x2029 || n == 0x202F ||
    n == 0x205F || n == 0x3000

def strip (s : String) : String :=
  String.ofList ((s.toList.dropWhile isSpace).rdropWhile isSpace)

/-- Dropping from the right leaves a list that does not start with a dropped character. -/
theorem dropWhile_rdropWhile_dropWhile {α : Type*} (p : α → Bool) (l : List α) :
    ((l.dropWhile p).rdropWhile p).dropWhile p = (l.dropWhile p).rdropWhile p := by
  rw [List.dropWhile_eq_self_iff]
  intro hl
  have hpre := List.rdropWhile_prefix p (l.dropWhile p)
  have hl' : 0 < (l.dropWhile p).length := hl.trans_le hpre.length_le
  rw [hpre.getElem hl]
  exact List.dropWhile_get_zero_not p l hl'

theorem strip_strip (s : String) : strip (strip s) = strip s := by
  simp only [strip, String.toList_ofList]
  rw [dropWhile_rdropWhile_dropWhile, List.rdropWhile_idempotent]

theorem strip_eq_self {s : String} (hl : s.toList.dropWhile isSpace = s.toList)
    (hr : s.toList.rdropWhile isSpace = s.toList) : strip s = s := by
  rw [strip, hl, hr, String.ofList_toList]

/-- A stripped text does not end in a space. -/
theorem rdropWhile_of_strip {s : String} (h : strip s = s) :
    s.toList.rdropWhile isSpace = s.toList := by
  have hs : s.toList = (s.toList.dropWhile isSpace).rdropWhile isSpace := by
    rw [← String.toList_ofList (l := (s.toList.dropWhile isSpace).rdropWhile isSpace), ← strip, h]
  rw [hs, List.rdropWhile_idempotent]

/-- The end of a stripped text, behind another text, does not end in a space either. -/
theorem rdropWhile_append_of_strip {p t : String} (h : strip (p ++ t) = p ++ t) (ht : t ≠ "")
    (q : String) : (q ++ t).toList.rdropWhile isSpace = (q ++ t).toList := by
  have hne : t.toList ≠ [] := by simpa using ht
  have hlast := List.rdropWhile_eq_self_iff.mp (rdropWhile_of_strip h)
  rw [List.rdropWhile_eq_self_iff]
  intro hl
  have hback : ∀ (r : String) (hr : (r ++ t).toList ≠ []),
      (r ++ t).toList.getLast hr = t.toList.getLast hne := by
    intro r hr
    simp only [String.toList_append]
    exact List.getLast_append_of_ne_nil _ hne
  have hp : (p ++ t).toList ≠ [] := by
    rw [String.toList_append]
    exact List.append_ne_nil_of_right_ne_nil _ hne
  rw [hback q hl, ← hback p hp]
  exact hlast hp

/-- `s.startswith(p)`. -/
def startsWith (s p : String) : Bool := p.toList.isPrefixOf s.toList

/-- `s[len(p):]`. -/
def dropPrefix (s p : String) : String := String.ofList (s.toList.drop p.toList.length)

theorem startsWith_iff {s p : String} : startsWith s p = true ↔ ∃ t, s = p ++ t := by
  rw [startsWith, List.isPrefixOf_iff_prefix]
  constructor
  · intro ⟨t, ht⟩
    refine ⟨String.ofList t, ?_⟩
    rw [← String.toList_inj, String.toList_append, String.toList_ofList, ht]
  · rintro ⟨t, rfl⟩
    exact ⟨t.toList, by rw [String.toList_append]⟩

@[simp] theorem dropPrefix_append (p t : String) : dropPrefix (p ++ t) p = t := by
  rw [dropPrefix, String.toList_append, List.drop_left, String.ofList_toList]

end PyText
