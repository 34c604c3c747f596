import Mathlib.Data.List.Basic
import Mathlib.Data.List.ModifyLast

/-! Python's `pathlib.PurePosixPath`, as far as paths are joined and compared, and where a path
leads to in the file system. -/

/-- The root is empty, `/` or `//`. The parts are neither empty nor `.`. -/
structure PosixPath where
  root : String
  parts : List String
deriving DecidableEq

namespace PosixPath

/-- What stands before the slashes of a text, one segment each, and what stands behind the last. -/
def segments : List Char → List (List Char) × List Char
  | [] => ([], [])
  | c :: cs =>
    match segments cs with
    | (dirs, last) =>
      if c = '/' then ([] :: dirs, last)
      else
        match dirs with
        | [] => ([], c :: last)
        | dir :: rest => ((c :: dir) :: rest, last)

def rootOf : List Char → String
  | '/' :: '/' :: '/' :: _ => "/"
  -- two slashes are a root of their own
  | '/' :: '/' :: _ => "//"
  | '/' :: _ => "/"
  | _ => ""

def dirsOf (text : String) : List String := (segments text.toList).1.map String.ofList

def lastOf (text : String) : String := String.ofList (segments text.toList).2

/-- Empty segments and `.` are dropped. -/
def keep (parts : List String) : List String := parts.filter fun part => part ≠ "" ∧ part ≠ "."

/-- `path / text`: an absolute text replaces the path. -/
def join (path : PosixPath) (text : String) : PosixPath :=
  if rootOf text.toList = "" then
    ⟨path.root, path.parts ++ keep (dirsOf text ++ [lastOf text])⟩
  else ⟨rootOf text.toList, keep (dirsOf text ++ [lastOf text])⟩

/-- The position of the last dot, counted from the end. -/
def fromLastDot (name : String) : ℕ := (name.toList.reverse.takeWhile (· ≠ '.')).length+1

/-- A name that only begins with a dot, or ends in one, has no suffix (as up to Python 3.13). -/
def replaceSuffix (name suffix : String) : String :=
  if '.' ∈ name.toList ∧ fromLastDot name < name.length ∧ 1 < fromLastDot name then
    String.ofList (name.toList.take (name.length-fromLastDot name)) ++ suffix
  else name ++ suffix

/-- `path.with_suffix(suffix)`. -/
def withSuffix (path : PosixPath) (suffix : String) : PosixPath :=
  ⟨path.root, path.parts.modifyLast (replaceSuffix · suffix)⟩

/-- The names from the root of the file system down to a file. -/
abbrev Place := List String

/-- `..` leads to the parent directory, and from the root to the root. -/
def enter (place : Place) (part : String) : Place :=
  if part = ".." then place.dropLast else place ++ [part]

/-- Where a path leads to from the working directory, without symbolic links on the way. The root
`//` is that of `/`. -/
def resolve (cwd : Place) (path : PosixPath) : Place :=
  path.parts.foldl enter (if path.root = "" then cwd else [])

/-- A suffix without a slash belongs to the last segment. -/
theorem segments_append (text suffix : List Char) (h : '/' ∉ suffix) :
    segments (text ++ suffix) = ((segments text).1, (segments text).2 ++ suffix) := by
  induction text with
  | nil =>
    induction suffix with
    | nil => rfl
    | cons c cs ih =>
      obtain ⟨hc, hcs⟩ := not_or.mp (fun hmem => h (List.mem_cons.mpr hmem))
      have hrest := ih hcs
      simp only [List.nil_append] at hrest ⊢
      simp [segments, hrest, Ne.symm hc]
  | cons c cs ih =>
    simp only [List.cons_append, segments, ih]
    split
    · rfl
    · cases (segments cs).1 <;> rfl

theorem dirsOf_append (text suffix : String) (h : '/' ∉ suffix.toList) :
    dirsOf (text ++ suffix) = dirsOf text := by
  rw [dirsOf, String.toList_append, segments_append _ _ h, dirsOf]

theorem lastOf_append (text suffix : String) (h : '/' ∉ suffix.toList) :
    lastOf (text ++ suffix) = lastOf text ++ suffix := by
  rw [lastOf, String.toList_append, segments_append _ _ h, lastOf]
  simp

theorem rootOf_append (text cs : List Char) : rootOf (text ++ '.' :: cs) = rootOf text := by
  rcases text with _ | ⟨a, _ | ⟨b, _ | ⟨c, rest⟩⟩⟩
  · rfl
  · by_cases ha : a = '/' <;> simp [rootOf, ha]
  · by_cases ha : a = '/' <;> by_cases hb : b = '/' <;> simp [rootOf, ha, hb]
  · by_cases ha : a = '/' <;> by_cases hb : b = '/' <;> by_cases hc : c = '/' <;>
      simp [rootOf, ha, hb, hc]

/-- The directory in which `path / text` is. -/
def below (path : PosixPath) (text : String) : PosixPath :=
  if rootOf text.toList = "" then ⟨path.root, path.parts ++ keep (dirsOf text)⟩
  else ⟨rootOf text.toList, keep (dirsOf text)⟩

def child (path : PosixPath) (name : String) : PosixPath := ⟨path.root, path.parts ++ [name]⟩

theorem child_inj {path path' : PosixPath} {name name' : String} :
    path.child name = path'.child name' ↔ path = path' ∧ name = name' := by
  cases path
  cases path'
  simp only [child, mk.injEq]
  constructor
  · intro ⟨hroot, hparts⟩
    obtain ⟨hparts, hname⟩ := List.append_inj' hparts rfl
    exact ⟨⟨hroot, hparts⟩, List.singleton_inj.mp hname⟩
  · rintro ⟨⟨rfl, rfl⟩, rfl⟩
    exact ⟨rfl, rfl⟩

theorem resolve_child (cwd : Place) (path : PosixPath) {name : String} (h : name ≠ "..") :
    (path.child name).resolve cwd = path.resolve cwd ++ [name] := by
  rw [resolve, child, List.foldl_append]
  exact if_neg h

/-- A text with a suffix names a file in the directory that the text leads to. -/
theorem join_append (path : PosixPath) (text suffix : String) (c : Char) (cs : List Char)
    (hsuffix : suffix.toList = '.' :: c :: cs) (hslash : '/' ∉ suffix.toList) :
    path.join (text ++ suffix) = (path.below text).child (lastOf text ++ suffix) := by
  have hroot : rootOf (text ++ suffix).toList = rootOf text.toList := by
    rw [String.toList_append, hsuffix, rootOf_append]
  have hlength : (lastOf text ++ suffix).toList.length ≠ 0 ∧
      (lastOf text ++ suffix).toList.length ≠ 1 := by
    rw [String.toList_append, hsuffix, List.length_append, List.length_cons, List.length_cons]
    omega
  have hkeep : keep [lastOf text ++ suffix] = [lastOf text ++ suffix] := by
    refine List.filter_eq_self.mpr ?_
    intro part hpart
    obtain rfl := List.mem_singleton.mp hpart
    refine decide_eq_true ⟨?_, ?_⟩
    · intro h
      exact hlength.1 (by rw [h]; rfl)
    · intro h
      exact hlength.2 (by rw [h]; rfl)
  have hparts : keep (dirsOf (text ++ suffix) ++ [lastOf (text ++ suffix)]) =
      keep (dirsOf text) ++ [lastOf text ++ suffix] := by
    rw [dirsOf_append _ _ hslash, lastOf_append _ _ hslash, keep, List.filter_append]
    exact congrArg _ hkeep
  simp only [join, below, child, hroot, hparts]
  split
  · simp
  · rfl

/-- A text without a slash names a file in the directory itself. -/
theorem join_plain (path : PosixPath) {text : String} (hslash : '/' ∉ text.toList)
    (hne : text ≠ "") (hdot : text ≠ ".") : path.join text = path.child text := by
  have hroot : rootOf text.toList = "" := by
    rcases htext : text.toList with _ | ⟨c, rest⟩
    · rfl
    · have hc : c ≠ '/' := by
        rintro rfl
        exact hslash (htext ▸ List.mem_cons_self)
      simp [rootOf, hc]
  have hsegments : segments text.toList = ([], text.toList) := segments_append [] _ hslash
  have hkeep : keep (dirsOf text ++ [lastOf text]) = [text] := by
    simp [keep, dirsOf, lastOf, hsegments, hne, hdot]
  rw [join, if_pos hroot, hkeep, child]

theorem withSuffix_child (path : PosixPath) (name suffix : String) :
    (path.child name).withSuffix suffix = path.child (replaceSuffix name suffix) := by
  simp only [withSuffix, child, List.modifyLast_concat]

/-- The suffix of a name is replaced, unless nothing stands before it. -/
theorem replaceSuffix_append (name old new : String) (c : Char) (cs : List Char)
    (hold : old.toList = '.' :: c :: cs) (hdot : '.' ∉ c :: cs) :
    replaceSuffix (name ++ old) new = if name = "" then old ++ new else name ++ new := by
  have hfrom : fromLastDot (name ++ old) = old.length := by
    have hrev : (name ++ old).toList.reverse =
        (c :: cs).reverse ++ '.' :: name.toList.reverse := by
      rw [String.toList_append, hold, List.reverse_append, List.reverse_cons (a := '.')]
      simp
    have hall : ∀ d ∈ (c :: cs).reverse, decide (d ≠ '.') = true := by
      intro d hd
      refine decide_eq_true ?_
      rintro rfl
      exact hdot (List.mem_reverse.mp hd)
    rw [fromLastDot, hrev, List.takeWhile_append_of_pos hall]
    simp [← String.length_toList, hold]
  have hmem : '.' ∈ (name ++ old).toList := by
    rw [String.toList_append, hold]
    simp
  have hlong : 1 < old.length := by
    rw [← String.length_toList, hold]
    simp
  rw [replaceSuffix, hfrom, String.length_append]
  by_cases hname : name = ""
  · subst hname
    simp
  · have hpos : 0 < name.length := by
      rw [← String.length_toList]
      exact List.length_pos_of_ne_nil (by simpa using hname)
    rw [if_pos ⟨hmem, by omega, hlong⟩, if_neg hname, String.toList_append, Nat.add_sub_cancel,
      ← String.length_toList, List.take_left', String.ofList_toList]
    rfl

end PosixPath
