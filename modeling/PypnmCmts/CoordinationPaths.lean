import Mathlib.Data.List.Nodup
import PypnmCmts.CellStore
import PypnmCmts.PosixPath
import PypnmCmts.RecordDisk

/-! The paths of the elections and leases in one state directory, and the calls that their
operations make on them. -/
namespace PypnmCmts

open CallTree

/-- An election, or the lease of one service group in it. -/
structure CoordinationObject where
  electionName : String
  sgId : Option ServiceGroupId
  electionName_nonempty : electionName ≠ ""
  electionName_stripped : PyText.strip electionName = electionName
deriving DecidableEq

namespace CoordinationObject
variable (x : CoordinationObject) (cwd : PosixPath.Place) (stateDir : PosixPath)

/-- What the names of its files have in common. -/
def stem : String :=
  match x.sgId with
  | none => x.electionName
  | some sgId => x.electionName ++ ".sg-" ++ toString sgId

def stateFile : PosixPath := stateDir.join (x.stem ++ ".json")

def lockPath : PosixPath := stateDir.join (x.stem ++ ".lock")

/-- The temporary file of `_write_record_replace`. -/
def temporaryPath : PosixPath := (x.stateFile stateDir).withSuffix ".tmp"

def paths : List PosixPath := [x.stateFile stateDir, x.lockPath stateDir, x.temporaryPath stateDir]

/-- The files that the paths lead to. -/
def places : List PosixPath.Place := (x.paths stateDir).map fun path => path.resolve cwd

/-- The directory of the files, and what comes before their suffixes. The record of a stem that ends
in a slash is named `.json`, which is no suffix. -/
def location : PosixPath.Place :=
  (stateDir.below x.stem).resolve cwd ++
    [if PosixPath.lastOf x.stem = "" then ".json" else PosixPath.lastOf x.stem]

/-- What ends in a longer text is not the name of the parent directory. -/
theorem append_ne_parent {suffix : String} (h : 2 < suffix.length) (name : String) :
    name ++ suffix ≠ ".." := by
  intro heq
  have hlength := congrArg String.length heq
  rw [String.length_append] at hlength
  have hparent : "..".length = 2 := rfl
  omega

theorem resolve_stateFile : (x.stateFile stateDir).resolve cwd =
    (stateDir.below x.stem).resolve cwd ++ [PosixPath.lastOf x.stem ++ ".json"] := by
  rw [stateFile, stateDir.join_append x.stem ".json" 'j' ['s', 'o', 'n'] rfl (by decide),
    PosixPath.resolve_child cwd _ (append_ne_parent (by decide) _)]

theorem resolve_lockPath : (x.lockPath stateDir).resolve cwd =
    (stateDir.below x.stem).resolve cwd ++ [PosixPath.lastOf x.stem ++ ".lock"] := by
  rw [lockPath, stateDir.join_append x.stem ".lock" 'l' ['o', 'c', 'k'] rfl (by decide),
    PosixPath.resolve_child cwd _ (append_ne_parent (by decide) _)]

theorem resolve_temporaryPath : (x.temporaryPath stateDir).resolve cwd =
    (stateDir.below x.stem).resolve cwd ++
      [(if PosixPath.lastOf x.stem = "" then ".json" else PosixPath.lastOf x.stem) ++ ".tmp"] := by
  have hname : (if PosixPath.lastOf x.stem = "" then ".json" ++ ".tmp"
      else PosixPath.lastOf x.stem ++ ".tmp") =
      (if PosixPath.lastOf x.stem = "" then ".json" else PosixPath.lastOf x.stem) ++ ".tmp" := by
    split <;> rfl
  rw [temporaryPath, stateFile,
    stateDir.join_append x.stem ".json" 'j' ['s', 'o', 'n'] rfl (by decide),
    PosixPath.withSuffix_child,
    PosixPath.replaceSuffix_append _ ".json" ".tmp" 'j' ['s', 'o', 'n'] rfl (by decide), hname,
    PosixPath.resolve_child cwd _ (append_ne_parent (by decide) _)]

/-- Texts with different ends are different. -/
theorem append_ne {a b : String} (h : a.toList.getLast? ≠ b.toList.getLast?) (ha : a ≠ "")
    (hb : b ≠ "") (s t : String) : s ++ a ≠ t ++ b := by
  intro heq
  have hlast := congrArg (fun s : String => s.toList.getLast?) heq
  have ha' : a.toList ≠ [] := by simpa using ha
  have hb' : b.toList ≠ [] := by simpa using hb
  simp only [String.toList_append, List.getLast?_append_of_ne_nil _ ha',
    List.getLast?_append_of_ne_nil _ hb'] at hlast
  exact h hlast

variable (y : CoordinationObject)

theorem stateFile_ne_lockPath :
    (x.stateFile stateDir).resolve cwd ≠ (y.lockPath stateDir).resolve cwd := by
  rw [resolve_stateFile, resolve_lockPath]
  intro h
  exact append_ne (by decide) (by decide) (by decide) _ _ (List.append_singleton_inj.mp h).2

theorem stateFile_ne_temporaryPath :
    (x.stateFile stateDir).resolve cwd ≠ (y.temporaryPath stateDir).resolve cwd := by
  rw [resolve_stateFile, resolve_temporaryPath]
  intro h
  exact append_ne (by decide) (by decide) (by decide) _ _ (List.append_singleton_inj.mp h).2

theorem lockPath_ne_temporaryPath :
    (x.lockPath stateDir).resolve cwd ≠ (y.temporaryPath stateDir).resolve cwd := by
  rw [resolve_lockPath, resolve_temporaryPath]
  intro h
  exact append_ne (by decide) (by decide) (by decide) _ _ (List.append_singleton_inj.mp h).2

theorem nodup_places : (x.places cwd stateDir).Nodup := by
  simp [places, paths, stateFile_ne_lockPath, stateFile_ne_temporaryPath, lockPath_ne_temporaryPath]

theorem temporaryPath_eq_iff :
    (x.temporaryPath stateDir).resolve cwd = (y.temporaryPath stateDir).resolve cwd ↔
      x.location cwd stateDir = y.location cwd stateDir := by
  rw [resolve_temporaryPath, resolve_temporaryPath, location, location, List.append_singleton_inj,
    List.append_singleton_inj, String.append_left_inj]

/-- Two objects in one place up to the suffix share their temporary file. -/
theorem location_of_suffix {suffix : String}
    (h : (stateDir.below x.stem).resolve cwd ++ [PosixPath.lastOf x.stem ++ suffix] =
      (stateDir.below y.stem).resolve cwd ++ [PosixPath.lastOf y.stem ++ suffix]) :
    x.location cwd stateDir = y.location cwd stateDir := by
  obtain ⟨hdir, hname⟩ := List.append_singleton_inj.mp h
  have hlast := String.append_left_inj _ |>.mp hname
  rw [location, location, hdir, hlast]

/-- The six files of two objects are different from each other unless the objects are in one
place. -/
theorem nodup_places_iff : (x.places cwd stateDir ++ y.places cwd stateDir).Nodup ↔
    x.location cwd stateDir ≠ y.location cwd stateDir := by
  rw [List.nodup_append']
  constructor
  · intro ⟨_, _, hdisj⟩ hsame
    -- objects in one place share their temporary file
    have hx : (x.temporaryPath stateDir).resolve cwd ∈ x.places cwd stateDir :=
      by simp [places, paths]
    have hy : (y.temporaryPath stateDir).resolve cwd ∈ y.places cwd stateDir :=
      by simp [places, paths]
    rw [(x.temporaryPath_eq_iff cwd stateDir y).mpr hsame] at hx
    exact hdisj hx hy
  · intro hne
    refine ⟨x.nodup_places cwd stateDir, y.nodup_places cwd stateDir, ?_⟩
    have hstate : (x.stateFile stateDir).resolve cwd ≠ (y.stateFile stateDir).resolve cwd := by
      rw [resolve_stateFile, resolve_stateFile]
      exact fun h => hne (x.location_of_suffix cwd stateDir y h)
    have hlock : (x.lockPath stateDir).resolve cwd ≠ (y.lockPath stateDir).resolve cwd := by
      rw [resolve_lockPath, resolve_lockPath]
      exact fun h => hne (x.location_of_suffix cwd stateDir y h)
    have htemporary :
        (x.temporaryPath stateDir).resolve cwd ≠ (y.temporaryPath stateDir).resolve cwd :=
      fun h => hne ((x.temporaryPath_eq_iff cwd stateDir y).mp h)
    intro place hx hy
    simp only [places, paths, List.map_cons, List.map_nil, List.mem_cons, List.not_mem_nil,
      or_false] at hx hy
    -- files of one kind differ by place, files of two kinds by their last name
    rcases hx with rfl | rfl | rfl
    · rcases hy with hy | hy | hy
      · exact hstate hy
      · exact x.stateFile_ne_lockPath cwd stateDir y hy
      · exact x.stateFile_ne_temporaryPath cwd stateDir y hy
    · rcases hy with hy | hy | hy
      · exact y.stateFile_ne_lockPath cwd stateDir x hy.symm
      · exact hlock hy
      · exact x.lockPath_ne_temporaryPath cwd stateDir y hy
    · rcases hy with hy | hy | hy
      · exact y.stateFile_ne_temporaryPath cwd stateDir x hy.symm
      · exact y.lockPath_ne_temporaryPath cwd stateDir x hy.symm
      · exact htemporary hy

end CoordinationObject
end PypnmCmts
