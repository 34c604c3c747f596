import Mathlib.Data.List.Basic

/-! Text files that are read line by line. A line keeps the newline at its end. -/
namespace TextLines

/-- Universal newlines: a carriage return, alone or before a newline, is read as a newline. -/
def translate : List Char → List Char
  | [] => []
  | '\r' :: '\n' :: text => '\n' :: translate text
  | '\r' :: text => '\n' :: translate text
  | c :: text => c :: translate text

/-- The lines of a text. Only the last one can lack its newline. -/
def lines : List Char → List (List Char)
  | [] => []
  | c :: text =>
    if c = '\n' then [c] :: lines text
    else
      match lines text with
      | [] => [[c]]
      | line :: rest => (c :: line) :: rest

/-- The lines of the text of a file. -/
def readLines (text : String) : List String :=
  (lines (translate text.toList)).map String.ofList

theorem translate_eq_self {text : List Char} (h : '\r' ∉ text) : translate text = text := by
  induction text with
  | nil => rfl
  | cons c text ih =>
    rw [List.mem_cons, not_or] at h
    have hc : c ≠ '\r' := fun hc => h.1 hc.symm
    rw [translate]
    · rw [ih h.2]
    · intro _ hr
      exact absurd hr hc
    · exact hc

/-- A text without a newline is one line with the newline behind it. -/
theorem lines_append {line : List Char} (h : '\n' ∉ line) (text : List Char) :
    lines (line ++ '\n' :: text) = (line ++ ['\n']) :: lines text := by
  induction line with
  | nil => rw [List.nil_append, lines, if_pos rfl, List.nil_append]
  | cons c line ih =>
    rw [List.mem_cons, not_or] at h
    rw [List.cons_append, lines, if_neg (fun hc => h.1 hc.symm), ih h.2]
    rfl

/-- What is written line by line is read line by line. -/
theorem lines_flatMap {written : List (List Char)} (h : ∀ line ∈ written, '\n' ∉ line) :
    lines (written.flatMap fun line => line ++ ['\n']) = written.map fun line =>
      line ++ ['\n'] := by
  induction written with
  | nil => rfl
  | cons line written ih =>
    have hline := h line List.mem_cons_self
    have hrest := ih fun l hl => h l (List.mem_cons_of_mem _ hl)
    rw [List.flatMap_cons, List.append_assoc, List.singleton_append, lines_append hline, hrest]
    rfl

theorem readLines_join {written : List String}
    (h : ∀ line ∈ written, '\n' ∉ line.toList ∧ '\r' ∉ line.toList) :
    readLines (String.join (written.map fun line => line ++ "\n")) =
      written.map fun line => line ++ "\n" := by
  have htext : (String.join (written.map fun line => line ++ "\n")).toList =
      (written.map String.toList).flatMap fun line => line ++ ['\n'] := by
    induction written with
    | nil => rfl
    | cons line written ih =>
      have hrest := ih fun l hl => h l (List.mem_cons_of_mem _ hl)
      rw [List.map_cons, String.join_cons, String.toList_append, hrest, String.toList_append]
      rfl
  have hreturn : '\r' ∉ (written.map String.toList).flatMap fun line => line ++ ['\n'] := by
    simp only [List.mem_flatMap, List.mem_map, List.mem_append, List.mem_singleton]
    rintro ⟨_, ⟨line, hline, rfl⟩, hr | hr⟩
    · exact (h line hline).2 hr
    · cases hr
  have hnewline : ∀ line ∈ written.map String.toList, '\n' ∉ line := by
    intro _ hmem
    obtain ⟨line, hline, rfl⟩ := List.mem_map.mp hmem
    exact (h line hline).1
  rw [readLines, htext, translate_eq_self hreturn, lines_flatMap hnewline, List.map_map,
    List.map_map]
  refine List.map_congr_left fun line _ => ?_
  rw [← String.toList_inj]
  simp

end TextLines
