import PypnmCmts.KeeperPrograms

/-! When the elections and leases of one state directory have files of their own. -/
namespace PypnmCmts

open CallTree LabelledRun PyNumber PyJson

namespace CoordinationObject
variable (x y : CoordinationObject) (py : Interpreter) (cwd : PosixPath.Place)
  (stateDir : PosixPath)

/-- The files that the operations on an object may touch. -/
def cells : Set PosixPath.Place := {place | place ∈ x.places cwd stateDir}

/-- Contenders for the two objects start operations and make their calls in any order, and the
file system answers anything. Those for `x` go through the run as if the others did nothing: each
has the same to do and has ended its operations alike, and the files of `x` hold the same. -/
def Undisturbed : Prop :=
  ∀ (ι : Type) [DecidableEq ι] (keeper : ι → PathKeeper)
    (w : CellStore.World FileCall FileCall.Reply PosixPath.Place FileNode Unit KeeperEnd ι)
    (actions : List (CellStore.Action ι KeeperOp FileAnswer)),
    (∀ i, (keeper i).object = x ∨ (keeper i).object = y) → (∀ i, (w.program i).isDone = true) →
    CellStore.SameFor (fun i => (keeper i).object = x) (x.cells cwd stateDir)
      (exec ((StateDirectory.fileStore cwd).step fun i =>
        (keeper i).operation py stateDir) w actions)
      (exec ((StateDirectory.fileStore cwd).step fun i => (keeper i).operation py stateDir) w
        (actions.filter fun a => (keeper a.who).object = x))

theorem within_operation (keeper : PathKeeper) (op : KeeperOp) :
    (StateDirectory.fileStore cwd).Within (keeper.object.cells cwd stateDir)
      (keeper.operation py stateDir op) := by
  refine (keeper.makes_operation py stateDir op).mono fun c hc => ?_
  intro place hplace
  obtain ⟨path, hpath, rfl⟩ := List.mem_map.mp hplace
  exact List.mem_map_of_mem (hc path hpath)

/-- Objects with files of their own do not disturb each other. -/
theorem undisturbed_of_nodup (h : (x.places cwd stateDir ++ y.places cwd stateDir).Nodup) :
    x.Undisturbed y py cwd stateDir := by
  intro ι _ keeper w actions hobject hidle
  have hdisj : Disjoint (x.cells cwd stateDir) (y.cells cwd stateDir) := by
    rw [Set.disjoint_left]
    intro place hx hy
    exact (List.nodup_append'.mp h).2.2 hx hy
  -- every keeper works on one of the two objects, within the files of it
  have hops : ∀ i op,
      ((keeper i).object = x → (StateDirectory.fileStore cwd).Within (x.cells cwd stateDir)
        ((keeper i).operation py stateDir op)) ∧
      (¬(keeper i).object = x → (StateDirectory.fileStore cwd).Within (y.cells cwd stateDir)
        ((keeper i).operation py stateDir op)) := by
    intro i op
    refine ⟨?_, ?_⟩
    · intro hx
      rw [← hx]
      exact within_operation py cwd stateDir (keeper i) op
    · intro hx
      rw [← (hobject i).resolve_left hx]
      exact within_operation py cwd stateDir (keeper i) op
  -- whoever is idle has no call under way
  have hsided : (StateDirectory.fileStore cwd).Sided (fun i => (keeper i).object = x)
      (x.cells cwd stateDir) (y.cells cwd stateDir) w := by
    intro i
    obtain ⟨o, ho⟩ := eq_done_of_isDone (hidle i)
    rw [ho]
    exact ⟨fun _ => trivial, fun _ => trivial⟩
  exact CellStore.undisturbed hdisj hops w w hsided ⟨fun _ _ => rfl, Set.eqOn_refl _ _⟩ actions

theorem stem_nonempty : x.stem ≠ "" := by
  have hne := x.electionName_nonempty
  rw [stem]
  cases x.sgId with
  | none => exact hne
  | some sgId =>
    intro h
    have hempty := congrArg String.toList h
    simp [String.toList_append] at hempty

/-- A stem without a slash is a name in the state directory. -/
theorem location_of_plain (h : '/' ∉ x.stem.toList) :
    x.location cwd stateDir = stateDir.resolve cwd ++ [x.stem] := by
  have hsegments : PosixPath.segments x.stem.toList = ([], x.stem.toList) := by
    have happend := PosixPath.segments_append [] x.stem.toList h
    rwa [List.nil_append] at happend
  have hlast : PosixPath.lastOf x.stem = x.stem := by
    rw [PosixPath.lastOf, hsegments, String.ofList_toList]
  have hdirs : PosixPath.dirsOf x.stem = [] := by
    rw [PosixPath.dirsOf, hsegments, List.map_nil]
  have hroot : PosixPath.rootOf x.stem.toList = "" := by
    cases hs : x.stem.toList with
    | nil => rfl
    | cons c cs =>
      have hc : c ≠ '/' := by
        rintro rfl
        exact h (hs ▸ List.mem_cons_self)
      simp [PosixPath.rootOf, hc]
  rw [location, hlast, if_neg x.stem_nonempty, PosixPath.below, if_pos hroot, hdirs]
  simp [PosixPath.keep]

/-- Without slashes two objects are in one place only under one stem, as an election is that is
named like a lease. -/
theorem plain_location_iff (hx : '/' ∉ x.stem.toList) (hy : '/' ∉ y.stem.toList) :
    x.location cwd stateDir = y.location cwd stateDir ↔ x.stem = y.stem := by
  rw [x.location_of_plain cwd stateDir hx, y.location_of_plain cwd stateDir hy,
    List.append_singleton_inj]
  exact and_iff_right rfl

/-- The lease of group 1 in the election `a`. -/
def leaseOfA : CoordinationObject := ⟨"a", some 1, by decide, by decide⟩

/-- The election `a.sg-1`. -/
def electionLikeLease : CoordinationObject := ⟨"a.sg-1", none, by decide, by decide⟩

def stateDirectory : PosixPath := ⟨"", ["state"]⟩

def leaseKeeper : PathKeeper where
  toRecordScope := FileServiceGroupLease.recordScope (codePoints "a") 1
  holderId := codePoints "w"
  ttlSeconds := 10
  holderId_nonempty := by decide
  ttlSeconds_pos := by decide
  object := leaseOfA
  electionName_eq := rfl
  sgId_eq := rfl

def electionKeeper : PathKeeper where
  toRecordScope := FileLeaderElection.recordScope (codePoints "a.sg-1") none
  holderId := codePoints "c"
  ttlSeconds := 10
  holderId_nonempty := by decide
  ttlSeconds_pos := by decide
  object := electionLikeLease
  electionName_eq := rfl
  sgId_eq := rfl

/-- Two names of one file in the directory `state`. -/
example : (CoordinationObject.mk "b" none (by decide) (by decide)).location [] stateDirectory =
      (CoordinationObject.mk "../state/b" none (by decide) (by decide)).location []
        stateDirectory := by
  decide +kernel

end CoordinationObject
end PypnmCmts
