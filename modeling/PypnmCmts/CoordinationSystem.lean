import Mathlib.Algebra.Field.Rat
import Mathlib.Logic.Function.Basic
import PypnmCmts.LabelledRun
import PypnmCmts.TickRules

/-! Managers that share the record files of one election. Their programs interleave at the
granularity of single calls, and other users of the leases may call in between. -/
namespace PypnmCmts

open LabelledRun CallTree

/-- Managers that share a state directory and an election name. -/
structure CoordinationGroup (ι : Type*) where
  stateDir : String
  electionName : CoordinationElectionName
  sha256 : List UInt8 → List UInt8
  manager : ι → CoordinationManager
  manager_stateDir : ∀ i, (manager i).stateDir = stateDir
  manager_electionName : ∀ i, PyText.strip (manager i).electionName = electionName

/-- The clock, the record files, and what each manager is still to do. -/
structure CoordinationWorld (ι : Type*) where
  clock : ℚ
  disk : CoordinationDisk
  program : ι → CoordinationProgram

/-- `call` is the next call of a manager. A `foreign` operation is one by a lease object that
no manager made. Both take place after the clock has advanced by `wait`. -/
inductive CoordinationAction (ι : Type*)
  | beginTick (who : ι) (serviceGroups : List ServiceGroupId)
  | beginReleaseAll (who : ι) (order : List ServiceGroupId)
  | call (who : ι) (wait : ℚ≥0) (io : FileIo)
  | foreign (lease : FileServiceGroupLease) (op : TtlLease.Op) (wait : ℚ≥0) (io : FileIo)

/-- How far an action moves the clock. -/
def CoordinationAction.wait {ι : Type*} : CoordinationAction ι → ℚ≥0
  | .beginTick _ _ => 0
  | .beginReleaseAll _ _ => 0
  | .call _ wait _ => wait
  | .foreign _ _ wait _ => wait

/-- The manager whose action it is. -/
def CoordinationAction.actor {ι : Type*} : CoordinationAction ι → Option ι
  | .beginTick who _ => some who
  | .beginReleaseAll who _ => some who
  | .call who _ _ => some who
  | .foreign _ _ _ _ => none

namespace CoordinationWorld
variable {ι : Type*} (s : CoordinationWorld ι)

def held (i : ι) : HeldLeases := (s.program i).visible

/-- The manager is between two of its methods. -/
def Idle (i : ι) : Prop := (s.program i).isDone = true

instance (i : ι) : Decidable (s.Idle i) := inferInstanceAs (Decidable (_ = true))

end CoordinationWorld

namespace CoordinationGroup
variable {ι : Type*} [DecidableEq ι] (group : CoordinationGroup ι)

/-- The grant that the disk holds for a service group. -/
def grant (d : CoordinationDisk) (sgId : ServiceGroupId) : Option (TtlLease.Grant OwnerId ℚ) :=
  (d.leases sgId).grant group.electionName sgId

/-- The owner id under which the leases of a manager are kept. -/
def owner (i : ι) : OwnerId := PyText.strip (group.manager i).ownerId

def step (s : CoordinationWorld ι) : CoordinationAction ι → CoordinationWorld ι
  | .beginTick i serviceGroups =>
    if s.Idle i then
      { s with
        program := Function.update s.program i
          ((group.manager i).tick group.sha256 serviceGroups (s.held i)) }
    else s
  | .beginReleaseAll i order =>
    if s.Idle i ∧ CoordinationManager.Lists order (s.held i) then
      { s with
        program := Function.update s.program i ((group.manager i).releaseAll order (s.held i)) }
    else s
  | .call i wait io =>
    let now := s.clock+wait
    let (program, disk) := resume ((group.manager i).handle io now) (s.program i) s.disk
    ⟨now, disk, Function.update s.program i program⟩
  | .foreign lease op wait io =>
    let now := s.clock+wait
    if lease.stateDir = group.stateDir ∧ lease.electionName = group.electionName then
      let file := (lease.perform op io now (s.disk.leases lease.sgId)).2
      ⟨now, { s.disk with leases := Function.update s.disk.leases lease.sgId file }, s.program⟩
    else { s with clock := now }

omit [DecidableEq ι] in
theorem leaseForSg_electionName (i : ι) (sgId : ServiceGroupId) :
    ((group.manager i).leaseForSg sgId).electionName = group.electionName :=
  group.manager_electionName i

omit [DecidableEq ι] in
/-- A lease operation of a manager is the abstract one on the grant of its group. -/
theorem perform_grant (i : ι) (sgId : ServiceGroupId) (op : TtlLease.Op) (now : ℚ)
    (d : CoordinationDisk) :
    ((((group.manager i).leaseForSg sgId).perform op .ok now (d.leases sgId)).1.reply,
      (((group.manager i).leaseForSg sgId).perform op .ok now (d.leases sgId)).2.grant
        group.electionName sgId) =
    TtlLease.perform (group.owner i) ((group.manager i).leaseTtlSeconds : ℚ) op now
      (group.grant d sgId) := by
  have h := ((group.manager i).leaseForSg sgId).perform_refines rfl FileIo.works_ok op now
    (d.leases sgId)
  rw [leaseForSg_electionName] at h
  exact h

theorem clock_step (s : CoordinationWorld ι) (a : CoordinationAction ι) :
    (group.step s a).clock = s.clock+a.wait := by
  cases a with
  | beginTick i serviceGroups =>
    simp only [step, CoordinationAction.wait, NNRat.coe_zero, add_zero]
    split <;> rfl
  | beginReleaseAll i order =>
    simp only [step, CoordinationAction.wait, NNRat.coe_zero, add_zero]
    split <;> rfl
  | call i wait io => rfl
  | foreign lease op wait io =>
    simp only [step, CoordinationAction.wait]
    split <;> rfl

theorem clock_le_step (s : CoordinationWorld ι) (a : CoordinationAction ι) :
    s.clock ≤ (group.step s a).clock := by
  rw [clock_step]
  exact le_add_of_nonneg_right a.wait.2

theorem program_step_of_actor_ne (s : CoordinationWorld ι) (a : CoordinationAction ι) (i : ι)
    (h : a.actor ≠ some i) : (group.step s a).program i = s.program i := by
  cases a with
  | beginTick j serviceGroups =>
    have hj : i ≠ j := fun he => h (by rw [he]; rfl)
    simp only [step]
    split
    · exact Function.update_of_ne hj _ _
    · rfl
  | beginReleaseAll j order =>
    have hj : i ≠ j := fun he => h (by rw [he]; rfl)
    simp only [step]
    split
    · exact Function.update_of_ne hj _ _
    · rfl
  | call j wait io =>
    have hj : i ≠ j := fun he => h (by rw [he]; rfl)
    exact Function.update_of_ne hj _ _
  | foreign lease op wait io =>
    simp only [step]
    split <;> rfl

/-- Every program under way keeps to the rules of its manager. -/
def Ruled (s : CoordinationWorld ι) : Prop :=
  ∀ i, (s.program i).Obeys (CoordinationManager.Allows (group.manager i).targetServiceGroups)
    CoordinationManager.heldAfter

variable {group}

omit [DecidableEq ι] in
theorem ruled_of_idle (s : CoordinationWorld ι) (h : ∀ i, s.Idle i) : group.Ruled s := by
  intro i
  obtain ⟨o, ho⟩ := eq_done_of_isDone (h i)
  rw [ho]
  trivial

theorem ruled_update (s : CoordinationWorld ι) (i : ι) (t : CoordinationProgram)
    (h : group.Ruled s) (clock : ℚ) (disk : CoordinationDisk)
    (ht : t.Obeys (CoordinationManager.Allows (group.manager i).targetServiceGroups)
      CoordinationManager.heldAfter) :
    group.Ruled ⟨clock, disk, Function.update s.program i t⟩ := by
  intro j
  by_cases hj : j = i
  · subst hj
    simpa using ht
  · simpa [hj] using h j

theorem ruled_step (s : CoordinationWorld ι) (a : CoordinationAction ι) (h : group.Ruled s) :
    group.Ruled (group.step s a) := by
  cases a with
  | beginTick i serviceGroups =>
    simp only [step]
    split
    · exact ruled_update s i _ h _ _ ((group.manager i).obeys_tick _ _ _)
    · exact h
  | beginReleaseAll i order =>
    simp only [step]
    split
    · next hi => exact ruled_update s i _ h _ _ ((group.manager i).obeys_releaseAll _ _ hi.2)
    · exact h
  | call i wait io =>
    have hi := h i
    cases hp : s.program i with
    | done v o => exact ruled_update s i _ h _ _ (by rw [hp]; trivial)
    | call v c next =>
      rw [hp] at hi
      exact ruled_update s i _ h _ _ (by rw [hp]; exact (hi.2 _).2)
  | foreign lease op wait io =>
    simp only [step]
    split
    · exact h
    · exact h

theorem held_update (s : CoordinationWorld ι) (i : ι) (t : CoordinationProgram) (clock : ℚ)
    (disk : CoordinationDisk) :
    (⟨clock, disk, Function.update s.program i t⟩ : CoordinationWorld ι).held =
      Function.update s.held i t.visible := by
  funext j
  by_cases hj : j = i
  · subst hj
    simp [CoordinationWorld.held]
  · simp [CoordinationWorld.held, hj]

theorem held_update_self (s : CoordinationWorld ι) (i : ι) (t : CoordinationProgram)
    (ht : t.visible = s.held i) (clock : ℚ) (disk : CoordinationDisk) :
    (⟨clock, disk, Function.update s.program i t⟩ : CoordinationWorld ι).held = s.held := by
  rw [held_update, ht, Function.update_eq_self]

/-- What a step does to the leases: nothing, one operation of a manager that its held set
allows and follows, or one operation of somebody else. -/
theorem step_cases (s : CoordinationWorld ι) (a : CoordinationAction ι) (h : group.Ruled s) :
    ((group.step s a).disk.leases = s.disk.leases ∧ (group.step s a).held = s.held) ∨
    (∃ i wait io op sgId c, a = .call i wait io ∧ (s.program i).nextCall = some c ∧
      CoordinationManager.leaseOp c = some (op, sgId) ∧
      CoordinationManager.Allows (group.manager i).targetServiceGroups (s.held i) c ∧
      (group.step s a).disk.leases = Function.update s.disk.leases sgId
        (((group.manager i).leaseForSg sgId).perform op io (s.clock+wait)
          (s.disk.leases sgId)).2 ∧
      (group.step s a).held = Function.update s.held i
        (CoordinationManager.heldByReply sgId (s.held i) op
          (((group.manager i).leaseForSg sgId).perform op io (s.clock+wait)
            (s.disk.leases sgId)).1.reply)) ∨
    (∃ lease op wait io, a = .foreign lease op wait io ∧
      lease.electionName = group.electionName ∧
      (group.step s a).disk.leases = Function.update s.disk.leases lease.sgId
        (lease.perform op io (s.clock+wait) (s.disk.leases lease.sgId)).2 ∧
      (group.step s a).held = s.held) := by
  cases a with
  | beginTick i serviceGroups =>
    refine Or.inl ?_
    simp only [step]
    split
    · exact ⟨rfl, held_update_self s i _ (CoordinationManager.visible_tick _ _ _ _) _ _⟩
    · exact ⟨rfl, rfl⟩
  | beginReleaseAll i order =>
    refine Or.inl ?_
    simp only [step]
    split
    · exact ⟨rfl, held_update_self s i _ (CoordinationManager.visible_releaseAll _ _ _) _ _⟩
    · exact ⟨rfl, rfl⟩
  | call i wait io =>
    have hi := h i
    cases hp : s.program i with
    | done v o =>
      refine Or.inl ⟨by simp only [step, hp, resume], ?_⟩
      simp only [step, hp, resume]
      exact held_update_self s i _ (by simp only [CoordinationWorld.held, hp, visible_done]) _ _
    | call v c next =>
      rw [hp] at hi
      have hv : s.held i = v := by rw [CoordinationWorld.held, hp, visible_call]
      have hvis := (hi.2 ((group.manager i).handle io (s.clock+wait) c s.disk).1).1
      cases hop : CoordinationManager.leaseOp c with
      | none =>
        obtain ⟨hleases, hsame⟩ := CoordinationManager.handle_of_leaseOp_none (group.manager i) io
          (s.clock+wait) c s.disk hop v
        refine Or.inl ⟨by simp only [step, hp, resume, hleases], ?_⟩
        simp only [step, hp, resume]
        exact held_update_self s i _ (by rw [hvis, hsame, hv]) _ _
      | some p =>
        obtain ⟨op, sgId⟩ := p
        obtain ⟨hleases, hheld⟩ := CoordinationManager.handle_of_leaseOp_some (group.manager i) io
          (s.clock+wait) c s.disk op sgId hop v
        refine Or.inr (Or.inl ⟨i, wait, io, op, sgId, c, rfl, by rw [hp]; rfl, hop,
          hv ▸ hi.1, ?_, ?_⟩)
        · simp only [step, hp, resume, hleases]
        · simp only [step, hp, resume]
          rw [held_update, hvis, hheld, hv]
  | foreign lease op wait io =>
    simp only [step]
    split
    -- an outsider works on the leases of the election under another owner
    · next hf => exact Or.inr (Or.inr ⟨lease, op, wait, io, rfl, hf.2, rfl, rfl⟩)
    · exact Or.inl ⟨rfl, rfl⟩

/-- The calls of one manager, made one after the other without time passing. -/
theorem exec_calls (s : CoordinationWorld ι) (i : ι) (io : FileIo) (n : ℕ) :
    exec group.step s (List.replicate n (.call i 0 io)) =
      let p := (fun p : CoordinationProgram × CoordinationDisk =>
        resume ((group.manager i).handle io s.clock) p.1 p.2)^[n] (s.program i, s.disk)
      ⟨s.clock, p.2, Function.update s.program i p.1⟩ := by
  induction n generalizing s with
  | zero => simp
  | succ n ih =>
    have hclock : s.clock+((0 : ℚ≥0) : ℚ) = s.clock := by rw [NNRat.coe_zero, add_zero]
    rw [List.replicate_succ, exec_cons, ih]
    simp only [step, hclock, Function.update_self, Function.update_idem,
      Function.iterate_succ_apply]

/-- Nothing on disk, every manager with an empty held set. -/
def freshWorld (clock : ℚ) : CoordinationWorld ι :=
  ⟨clock, ⟨.missing, fun _ => .missing⟩, fun _ => .done ∅ .raised⟩

/-- Two managers in worker mode, each with one group to hold and ten seconds to live. -/
def pairManagers : CoordinationGroup Bool where
  stateDir := "state"
  electionName := "net"
  sha256 := id
  manager who :=
    { stateDir := "state"
      electionName := "net"
      ownerId := if who then "a" else "b"
      leaseTtlSeconds := 10
      targetServiceGroups := 1
      shardMode := .sequential
      leaderEnabled := false
      leaderElection := ⟨"state", "net", "leader", 10, none, CoordinationManager.net_nonempty,
        by decide, CoordinationManager.one_le_ten⟩
      electionName_nonempty := CoordinationManager.strip_net_nonempty
      ownerId_nonempty := by cases who <;> decide
      leaseTtlSeconds_pos := CoordinationManager.one_le_ten }
  manager_stateDir _ := rfl
  manager_electionName _ := (by decide : PyText.strip "net" = "net")

theorem pairManagers_owner_injective : Function.Injective pairManagers.owner := by
  rintro (_ | _) (_ | _) h
  · rfl
  · exact absurd h (by decide +kernel)
  · exact absurd h (by decide +kernel)
  · rfl

end CoordinationGroup
end PypnmCmts
