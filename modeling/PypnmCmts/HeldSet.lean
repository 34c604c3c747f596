import Mathlib.Data.Set.Card
import PypnmCmts.CoordinationSystem

/-! The held set of one manager against the record files, over every run of the manager with
other owners active on the same state directory. -/
namespace PypnmCmts

open LabelledRun CallTree TtlLease

namespace CoordinationGroup
variable {ι : Type*} [DecidableEq ι] (group : CoordinationGroup ι)

/-- The record of a service group is unexpired at `now` and names the owner of manager `i`. -/
def liveAt (i : ι) (d : CoordinationDisk) (now : ℚ) (sgId : ServiceGroupId) : Bool :=
  (inForce (group.grant d sgId) now).any fun g => g.owner = group.owner i

def live (i : ι) (s : CoordinationWorld ι) (sgId : ServiceGroupId) : Bool :=
  group.liveAt i s.disk s.clock sgId

/-- The action is not one by a lease object of the owner of manager `i`. -/
def ForeignTo (i : ι) : CoordinationAction ι → Prop
  | .foreign lease _ _ _ => lease.ownerId ≠ group.owner i
  | _ => True

/-- The action is a renewal by manager `i` that finds the lock busy or cannot read the record, while
that is an unexpired one of its own. -/
def renewalLost (i : ι) (s : CoordinationWorld ι) : CoordinationAction ι → Bool
  | .call j wait io =>
    match (s.program i).nextCall with
    | some (.leaseRenew sgId) =>
      j = i && !(io.lockFree && io.readOk) && group.liveAt i s.disk (s.clock+wait) sgId
    | _ => false
  | _ => false

/-- A manager of its own owner id starts; no record names that owner. -/
def Starts (i : ι) (s : CoordinationWorld ι) : Prop :=
  (∀ j, s.Idle j) ∧ s.held i = ∅ ∧
    ∀ sgId g, group.grant s.disk sgId = some g → g.owner ≠ group.owner i

/-- The action belongs to a `release_all` of manager `i` that finds its locks free and can read and
remove its records, or to somebody else. -/
def ReleasesFreely (i : ι) : CoordinationAction ι → Prop
  | .beginTick j _ => j ≠ i
  | .beginReleaseAll j _ => j ≠ i
  | .call j _ io => j = i → io.lockFree = true ∧ io.readOk = true ∧ io.unlinkOk = true
  | .foreign lease _ _ _ => lease.ownerId ≠ group.owner i

/-- The groups whose unexpired record names the owner are held, up to the target. -/
def Agrees (i : ι) (s : CoordinationWorld ι) : Prop :=
  (∀ sgId, group.live i s sgId = true → sgId ∈ s.held i) ∧
    (s.held i).card ≤ (group.manager i).targetServiceGroups

variable {group}

omit [DecidableEq ι] in
theorem liveAt_iff {i : ι} {d : CoordinationDisk} {now : ℚ} {sgId : ServiceGroupId} :
    group.liveAt i d now sgId = true ↔
      ∃ g, group.grant d sgId = some g ∧ now < g.expires ∧ g.owner = group.owner i := by
  simp only [liveAt, Option.any_eq_true, decide_eq_true_eq, inForce_eq_some]
  exact exists_congr fun g => and_assoc

omit [DecidableEq ι] in
theorem liveAt_mono {i : ι} {d : CoordinationDisk} {now now' : ℚ} {sgId : ServiceGroupId}
    (hle : now ≤ now') (h : group.liveAt i d now' sgId = true) :
    group.liveAt i d now sgId = true := by
  obtain ⟨g, hg, hlt, ho⟩ := liveAt_iff.mp h
  exact liveAt_iff.mpr ⟨g, hg, hle.trans_lt hlt, ho⟩

omit [DecidableEq ι] in
theorem liveAt_of_leases {i : ι} {d d' : CoordinationDisk} {now : ℚ} {sgId : ServiceGroupId}
    (hd : d.leases sgId = d'.leases sgId) (h : group.liveAt i d now sgId = true) :
    group.liveAt i d' now sgId = true := by
  simpa only [liveAt, grant, hd] using h

omit [DecidableEq ι] in
/-- An operation by another owner makes no record of this one. -/
theorem live_of_other {i : ι} {d d' : CoordinationDisk} {now : ℚ} {sgId : ServiceGroupId}
    (lease : FileServiceGroupLease) (hown : lease.ownerId ≠ group.owner i) (op : Op) (io : FileIo)
    (t : ℚ) (sgId' : ServiceGroupId)
    (hd : d'.leases = Function.update d.leases sgId' (lease.perform op io t (d.leases sgId')).2)
    (h : group.liveAt i d' now sgId = true) : group.liveAt i d now sgId = true := by
  by_cases hsg : sgId = sgId'
  · subst hsg
    obtain ⟨g, hg, hlt, ho⟩ := liveAt_iff.mp h
    simp only [grant, hd, Function.update_self] at hg
    cases hfile : (lease.perform op io t (d.leases sgId)).2 with
    | missing => simp [hfile, LeaseFile.grant] at hg
    | unreadable => simp [hfile, LeaseFile.grant] at hg
    | record r =>
      rw [hfile] at hg
      rcases lease.perform_record op io t _ r hfile with hr | hr
      · simp only [LeaseFile.grant, Option.ite_none_right_eq_some, Option.some.injEq] at hg
        obtain ⟨-, rfl⟩ := hg
        exact absurd (hr.symm.trans ho) hown
      · exact liveAt_iff.mpr ⟨g, by rw [grant, hr]; exact hg, hlt, ho⟩
  · exact liveAt_of_leases (by rw [hd, Function.update_of_ne hsg]) h

omit [DecidableEq ι] in
/-- The operations of the manager itself keep its unexpired records within the held set. -/
theorem live_of_own {i : ι} {s : CoordinationWorld ι} {d' : CoordinationDisk} {wait : ℚ≥0}
    {sgId : ServiceGroupId} {op : Op} {io : FileIo} {sgId' : ServiceGroupId} {c : CoordinationCall}
    (hop : CoordinationManager.leaseOp c = some (op, sgId'))
    (hallow : CoordinationManager.Allows (group.manager i).targetServiceGroups (s.held i) c)
    (hd : d'.leases = Function.update s.disk.leases sgId'
      (((group.manager i).leaseForSg sgId').perform op io (s.clock+wait) (s.disk.leases sgId')).2)
    (hlost : op = .renew → (io.lockFree && io.readOk) = false →
      group.liveAt i s.disk (s.clock+wait) sgId' = false)
    (hheld : ∀ sgId, group.live i s sgId = true → sgId ∈ s.held i)
    (h : group.liveAt i d' (s.clock+wait) sgId = true) :
    sgId ∈ CoordinationManager.heldByReply sgId' (s.held i) op
      (((group.manager i).leaseForSg sgId').perform op io (s.clock+wait)
        (s.disk.leases sgId')).1.reply := by
  have hle : s.clock ≤ s.clock+wait := le_add_of_nonneg_right wait.2
  have hold (h : group.liveAt i s.disk (s.clock+wait) sgId = true) : sgId ∈ s.held i :=
    hheld sgId (liveAt_mono hle h)
  by_cases hsg : sgId = sgId'
  · subst hsg
    have hmem (hne : op ≠ .acquire) : sgId ∈ s.held i :=
      CoordinationManager.mem_of_allows hop hne hallow
    set lease := (group.manager i).leaseForSg sgId with hlease
    cases hr : (lease.perform op io (s.clock+wait) (s.disk.leases sgId)).1.reply with
    | told e =>
      cases op with
      | acquire => exact Finset.mem_insert_self _ _
      | renew => exact hmem (by simp)
      | release => exact hmem (by simp)
    | released =>
      -- a released group has no record left
      obtain ⟨g, hg, -⟩ := liveAt_iff.mp h
      rw [grant, hd, Function.update_self, lease.perform_released op io _ _ hr] at hg
      simp [LeaseFile.grant] at hg
    | refused =>
      have hlive : group.liveAt i s.disk (s.clock+wait) sgId = true := by
        refine liveAt_of_leases ?_ h
        rw [hd, Function.update_self, lease.perform_refused op io _ _ hr]
      cases op with
      | acquire => exact hold hlive
      | release => exact hold hlive
      | renew =>
        -- with the lock and the record in hand, a lease in force is not refused its renewal
        exfalso
        cases hio : io.lockFree && io.readOk with
        | false => simp [hlost rfl hio] at hlive
        | true =>
          obtain ⟨hl, hd⟩ := Bool.and_eq_true_iff.mp hio
          obtain ⟨g, hg, hlt, ho⟩ := liveAt_iff.mp hlive
          have hforce : inForce ((s.disk.leases sgId).grant lease.electionName lease.sgId)
              (s.clock+wait) = some g := by
            rw [leaseForSg_electionName]
            exact inForce_eq_some.mpr ⟨hg, hlt⟩
          exact lease.renew_refused hl hd _ _ hr g hforce ho
  · rw [CoordinationManager.mem_heldByReply_of_ne hsg]
    exact hold (liveAt_of_leases (by rw [hd, Function.update_of_ne hsg]) h)

/-- What others do makes no unexpired record of this owner. -/
theorem live_of_step_other {i : ι} (hown : ∀ j, j ≠ i → group.owner j ≠ group.owner i)
    (s : CoordinationWorld ι) (a : CoordinationAction ι) (hf : group.ForeignTo i a)
    (hactor : a.actor ≠ some i) (hrule : group.Ruled s) {sgId : ServiceGroupId}
    (h : group.live i (group.step s a) sgId = true) : group.live i s sgId = true := by
  refine liveAt_mono (group.clock_le_step s a) ?_
  rcases step_cases s a hrule with ⟨hd, -⟩ | ⟨j, wait, io, op, sgId', c, rfl, -, -, -, hd, -⟩ |
    ⟨lease, op, wait, io, rfl, -, hd, -⟩
  · exact liveAt_of_leases (by rw [hd]) h
  · have hj : j ≠ i := fun he => hactor (by rw [he]; rfl)
    exact live_of_other ((group.manager j).leaseForSg sgId') (hown j hj) op io _ sgId' hd h
  · exact live_of_other lease hf op io _ _ hd h

theorem agrees_step {i : ι} (hown : ∀ j, j ≠ i → group.owner j ≠ group.owner i)
    (s : CoordinationWorld ι) (a : CoordinationAction ι) (hf : group.ForeignTo i a)
    (hlost : group.renewalLost i s a = false) (hrule : group.Ruled s) (h : group.Agrees i s) :
    group.Agrees i (group.step s a) := by
  by_cases hactor : a.actor = some i
  · rcases step_cases s a hrule with ⟨hd, hheld⟩ |
      ⟨j, wait, io, op, sgId', c, rfl, hnext, hop, hallow, hd, hheld⟩ |
      ⟨lease, op, wait, io, rfl, -, -, -⟩
    · refine ⟨?_, by rw [hheld]; exact h.2⟩
      intro sgId hlive
      rw [hheld]
      exact h.1 sgId (liveAt_mono (group.clock_le_step s a)
        (liveAt_of_leases (by rw [hd]) hlive))
    · obtain rfl : j = i := Option.some.inj hactor
      rw [Agrees, hheld, Function.update_self]
      refine ⟨?_, CoordinationManager.card_heldByReply hop hallow h.2 _⟩
      intro sgId hlive
      refine live_of_own hop hallow hd ?_ h.1 hlive
      intro hren hbusy
      have hc : c = .leaseRenew sgId' := by
        cases c <;> simp_all [CoordinationManager.leaseOp]
      simpa [renewalLost, hnext, hc, hbusy] using hlost
    · simp [CoordinationAction.actor] at hactor
  · have hheld : (group.step s a).held i = s.held i := by
      simp only [CoordinationWorld.held, group.program_step_of_actor_ne s a i hactor]
    rw [Agrees, hheld]
    exact ⟨fun sgId hlive => h.1 sgId (live_of_step_other hown s a hf hactor hrule hlive), h.2⟩

/-- What `release_all` has still to release covers the unexpired records of the owner. -/
def Releasing (group : CoordinationGroup ι) (i : ι) (s : CoordinationWorld ι) : Prop :=
  ∃ todo, (s.program i).Settles CoordinationManager.stillToRelease (· = ∅) todo ∧
    ∀ sgId, group.live i s sgId = true → sgId ∈ todo

omit [DecidableEq ι] in
theorem foreignTo_of_releasesFreely {i : ι} {a : CoordinationAction ι}
    (h : group.ReleasesFreely i a) : group.ForeignTo i a := by
  cases a with
  | foreign lease op wait io => exact h
  | _ => trivial

theorem releasing_call {i : ι} (s : CoordinationWorld ι) (wait : ℚ≥0) (io : FileIo)
    (hl : io.lockFree = true) (hread : io.readOk = true) (hu : io.unlinkOk = true)
    (h : group.Releasing i s) :
    group.Releasing i (group.step s (.call i wait io)) := by
  obtain ⟨todo, hsettles, hcover⟩ := h
  have hclock := group.clock_le_step s (.call i wait io)
  cases hp : s.program i with
  | done v o =>
    refine ⟨todo, ?_, ?_⟩
    · simpa only [step, hp, resume, Function.update_self] using hsettles
    · intro sgId hlive
      refine hcover sgId (liveAt_mono hclock (liveAt_of_leases ?_ hlive))
      simp only [step, hp, resume]
  | call v c next =>
    rw [hp] at hsettles
    refine ⟨_, by simpa only [step, hp, resume, Function.update_self] using hsettles _, ?_⟩
    intro sgId hlive
    have hold (hd : (group.step s (.call i wait io)).disk.leases sgId = s.disk.leases sgId) :
        sgId ∈ todo :=
      hcover sgId (liveAt_mono hclock (liveAt_of_leases hd hlive))
    cases hop : CoordinationManager.leaseOp c with
    | none =>
      obtain ⟨hd, -⟩ := CoordinationManager.handle_of_leaseOp_none (group.manager i) io
        (s.clock+wait) c s.disk hop v
      rw [CoordinationManager.stillToRelease_of_leaseOp_none hop]
      exact hold (by simp only [step, hp, resume, hd])
    | some p =>
      obtain ⟨op, sgId'⟩ := p
      obtain ⟨hd, -⟩ := CoordinationManager.handle_of_leaseOp_some (group.manager i) io
        (s.clock+wait) c s.disk op sgId' hop v
      by_cases hsg : sgId = sgId'
      · subst hsg
        refine CoordinationManager.self_mem_stillToRelease hop _ todo ?_
        rintro rfl
        -- a free lock, a record that is read and a working `unlink` leave no record of the owner
        obtain ⟨g, hg, -, ho⟩ := liveAt_iff.mp hlive
        refine ((group.manager i).leaseForSg sgId).release_clears hl hread hu (s.clock+wait)
          (s.disk.leases sgId) g ?_ ho
        rw [leaseForSg_electionName]
        simp only [grant, step, hp, resume, hd, Function.update_self] at hg
        exact hg
      · refine CoordinationManager.mem_stillToRelease hop _ (hold ?_) fun he => absurd he hsg
        simp only [step, hp, resume, hd, Function.update_of_ne hsg]

theorem releasing_step {i : ι} (hown : ∀ j, j ≠ i → group.owner j ≠ group.owner i)
    (s : CoordinationWorld ι) (a : CoordinationAction ι) (hf : group.ReleasesFreely i a)
    (hrule : group.Ruled s) (h : group.Releasing i s) : group.Releasing i (group.step s a) := by
  by_cases hactor : a.actor = some i
  · cases a with
    | beginTick j serviceGroups => exact absurd (Option.some.inj hactor) hf
    | beginReleaseAll j order => exact absurd (Option.some.inj hactor) hf
    | call j wait io =>
      obtain rfl : j = i := Option.some.inj hactor
      exact releasing_call s wait io (hf rfl).1 (hf rfl).2.1 (hf rfl).2.2 h
    | foreign lease op wait io => simp [CoordinationAction.actor] at hactor
  · obtain ⟨todo, hsettles, hcover⟩ := h
    refine ⟨todo, by rwa [group.program_step_of_actor_ne s a i hactor], ?_⟩
    intro sgId hlive
    exact hcover sgId
      (live_of_step_other hown s a (foreignTo_of_releasesFreely hf) hactor hrule hlive)

theorem releasing_begin {i : ι} (s : CoordinationWorld ι) (order : List ServiceGroupId)
    (hidle : s.Idle i) (horder : CoordinationManager.Lists order (s.held i))
    (h : ∀ sgId, group.live i s sgId = true → sgId ∈ s.held i) :
    group.Releasing i (group.step s (.beginReleaseAll i order)) := by
  refine ⟨s.held i, ?_, ?_⟩
  · simpa only [step, hidle, horder, and_self, if_true, Function.update_self] using
      (group.manager i).settles_releaseAll order (s.held i) horder
  · intro sgId hlive
    refine h sgId ?_
    simpa only [step, hidle, horder, and_self, if_true] using! hlive

/-- The held set agrees with the disk in every state of every run in which no renewal loses a live
lease to a busy lock or to a record that it cannot read, and after `release_all` nothing of the
owner is left. -/
theorem held_set_agrees_with_disk (group : CoordinationGroup ι) (i : ι)
    (hown : ∀ j, j ≠ i → group.owner j ≠ group.owner i) (s : CoordinationWorld ι)
    (h0 : group.Starts i s) (as : List (CoordinationAction ι))
    (hg : Guarded group.step (fun s a => group.ForeignTo i a ∧ group.renewalLost i s a = false)
      s as) :
    {sgId | group.live i (exec group.step s as) sgId = true}.ncard ≤
      (group.manager i).targetServiceGroups ∧
    (∀ sgId, group.live i (exec group.step s as) sgId = true →
      sgId ∈ (exec group.step s as).held i) ∧
    (∀ order bs, (exec group.step s as).Idle i →
      CoordinationManager.Lists order ((exec group.step s as).held i) →
      (∀ b ∈ bs, group.ReleasesFreely i b) →
      (exec group.step s (as ++ .beginReleaseAll i order :: bs)).Idle i →
      ∀ sgId, group.live i (exec group.step s (as ++ .beginReleaseAll i order :: bs))
        sgId = false) := by
  have hstart : group.Ruled s ∧ group.Agrees i s := by
    refine ⟨ruled_of_idle s h0.1, ?_, by rw [h0.2.1]; exact Nat.zero_le _⟩
    intro sgId hlive
    obtain ⟨g, hgr, -, ho⟩ := liveAt_iff.mp hlive
    exact absurd ho (h0.2.2 sgId g hgr)
  obtain ⟨hrule, hagree⟩ : group.Ruled (exec group.step s as) ∧
      group.Agrees i (exec group.step s as) :=
    invariant_of_guarded (I := fun s => group.Ruled s ∧ group.Agrees i s)
      (fun s a ha h => ⟨ruled_step s a h.1, agrees_step hown s a ha.1 ha.2 h.1 h.2⟩) hg hstart
  refine ⟨?_, hagree.1, ?_⟩
  · have hsub : {sgId | group.live i (exec group.step s as) sgId = true} ⊆
        ((exec group.step s as).held i : Set ServiceGroupId) := fun sgId h => hagree.1 sgId h
    calc {sgId | group.live i (exec group.step s as) sgId = true}.ncard
        ≤ ((exec group.step s as).held i : Set ServiceGroupId).ncard :=
          Set.ncard_le_ncard hsub (Finset.finite_toSet _)
      _ = ((exec group.step s as).held i).card := Set.ncard_coe_finset _
      _ ≤ (group.manager i).targetServiceGroups := hagree.2
  · intro order bs hidle horder hbs hend sgId
    rw [exec_append_cons] at hend ⊢
    have hbegin := releasing_begin (exec group.step s as) order hidle horder hagree.1
    obtain ⟨-, todo, hsettles, hcover⟩ :=
      invariant_of_guarded (I := fun s => group.Ruled s ∧ group.Releasing i s)
        (fun s b hb h => ⟨ruled_step s b h.1, releasing_step hown s b hb h.1 h.2⟩)
        (guarded_of_forall hbs) ⟨ruled_step _ (.beginReleaseAll i order) hrule, hbegin⟩
    obtain ⟨o, ho⟩ := eq_done_of_isDone hend
    rw [ho] at hsettles
    have htodo : todo = ∅ := hsettles
    by_contra hlive
    have hmem := hcover sgId (by simpa using hlive)
    simp [htodo] at hmem

def busyIo : FileIo := { FileIo.ok with lockFree := false }

/-- The first manager takes group 1, the other one fails to; then the first one renews it and
gives it up. -/
def pairRun : List (CoordinationAction Bool) :=
  [.beginTick true [1, 2], .call true 0 .ok, .call true 0 .ok, .beginTick false [1],
    .call false 1 .ok, .call false 1 busyIo, .beginTick true [2], .call true 1 .ok,
    .call true 0 .ok]

theorem held_set_agrees_pair :
    (exec pairManagers.step (freshWorld 0) pairRun).held true = {1} ∧
    pairManagers.live true (exec pairManagers.step (freshWorld 0)
      (pairRun ++ .beginReleaseAll true [1] :: [.call true 0 .ok])) 1 = false := by
  refine ⟨by decide +kernel, (held_set_agrees_with_disk pairManagers true ?_ (freshWorld 0) ?_
    pairRun ?_).2.2 [1] [.call true 0 .ok] (by decide +kernel) (by decide +kernel) ?_
    (by decide +kernel) 1⟩
  · exact fun j hj => pairManagers_owner_injective.ne hj
  · exact ⟨fun j => rfl, rfl, fun sgId g h => by simp [grant, freshWorld, LeaseFile.grant] at h⟩
  · refine ⟨⟨trivial, ?_⟩, ⟨trivial, ?_⟩, ⟨trivial, ?_⟩, ⟨trivial, ?_⟩, ⟨trivial, ?_⟩,
      ⟨trivial, ?_⟩,
      ⟨trivial, ?_⟩, ⟨trivial, ?_⟩, ⟨trivial, ?_⟩, trivial⟩ <;> decide +kernel
  · simp [ReleasesFreely, FileIo.ok]

/-- The lock of group 1 is busy throughout the second tick: the renewal fails, the manager
drops the group, and its record stays on disk for nine more seconds. -/
theorem busy_renewal_loses_lease :
    ¬ ∀ as : List (CoordinationAction Bool), (∀ a ∈ as, pairManagers.ForeignTo true a) →
      (exec pairManagers.step (freshWorld 0) as).Idle true →
      ∀ sgId, pairManagers.live true (exec pairManagers.step (freshWorld 0) as) sgId = true →
        sgId ∈ (exec pairManagers.step (freshWorld 0) as).held true := by
  intro h
  have hrun := h [.beginTick true [1], .call true 0 .ok, .call true 0 .ok, .beginTick true [1],
    .call true 1 .ok, .call true 0 busyIo, .call true 0 busyIo] (by simp [ForeignTo])
    (by decide +kernel) 1 (by decide +kernel)
  exact absurd hrun (by decide +kernel)

end CoordinationGroup
end PypnmCmts
