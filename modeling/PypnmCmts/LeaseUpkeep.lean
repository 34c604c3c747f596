import Mathlib.Tactic.Linarith
import PypnmCmts.HeldSet

/-! Managers that tick in time. While each tick comes before the leases of the one before run out,
a manager keeps all that it holds, whatever the others do. -/
namespace PypnmCmts

open LabelledRun CallTree TtlLease

namespace CoordinationManager

/-- The held groups that a tick has not asked to be renewed yet. A leader call that raises ends
the tick, and with it what there was to renew. -/
def stillToRenew : (c : CoordinationCall) → c.Reply → Finset ServiceGroupId → Finset ServiceGroupId
  | .leaseRenew sgId, _, todo => todo.erase sgId
  | .leaderTryAcquire, none, _ => ∅
  | .leaderRenew, none, _ => ∅
  | _, _, todo => todo

/-- The call does its part for the tick: a renewal finds the lock free, what is written is written,
and no leader call raises. -/
def goesThrough (io : FileIo) : (c : CoordinationCall) → c.Reply → Bool
  | .leaseRenew _, _ => io.lockFree && decide io.Works
  | .leaseTryAcquire _, _ => decide io.Works
  | .leaseRelease _, _ => decide io.Works
  | .leaderTryAcquire, reply => reply.isSome
  | .leaderRenew, reply => reply.isSome
  | .leaderRelease, _ => true
  | .leaderStatus, _ => true

/-- Only what goes beyond the target is released. -/
def Spares (target : ℕ) (held : HeldLeases) : CoordinationCall → Prop
  | .leaseRelease _ => target < held.card
  | _ => True

theorem stillToRenew_of_leader {io : FileIo} {c : CoordinationCall} {r : c.Reply}
    (h : leaseOp c = none) (hio : goesThrough io c r = true) (todo : Finset ServiceGroupId) :
    stillToRenew c r todo = todo := by
  cases c with
  | leaderTryAcquire =>
    obtain ⟨result, rfl⟩ := Option.isSome_iff_exists.mp hio
    rfl
  | leaderRenew =>
    obtain ⟨result, rfl⟩ := Option.isSome_iff_exists.mp hio
    rfl
  | leaderRelease => rfl
  | leaderStatus => rfl
  | leaseTryAcquire sgId => simp [leaseOp] at h
  | leaseRenew sgId => simp [leaseOp] at h
  | leaseRelease sgId => simp [leaseOp] at h

theorem works_of_goesThrough {io : FileIo} {c : CoordinationCall} {r : c.Reply}
    (hio : goesThrough io c r = true) {op : Op} {sgId : ServiceGroupId}
    (hop : leaseOp c = some (op, sgId)) : io.Works := by
  cases c with
  | leaseRenew sg => exact of_decide_eq_true (Bool.and_eq_true_iff.mp hio).2
  | leaseTryAcquire sg => exact of_decide_eq_true hio
  | leaseRelease sg => exact of_decide_eq_true hio
  | _ => simp [leaseOp] at hop

theorem lockFree_of_goesThrough {io : FileIo} {sgId : ServiceGroupId}
    {r : CoordinationCall.Reply (.leaseRenew sgId)}
    (hio : goesThrough io (.leaseRenew sgId) r = true) :
    io.lockFree = true := (Bool.and_eq_true_iff.mp hio).1

variable (m : CoordinationManager) (sha256 : List UInt8 → List UInt8)

section Passes
variable {next : TickProgress → CoordinationProgram} (hnext : ∀ p, (next p).visible = p.held)
  (hspares : ∀ p, (next p).Obeys (Spares m.targetServiceGroups) heldAfter)
  (hsettles : ∀ p, (next p).Settles stillToRenew (· = ∅) ∅)

section Spare
include hnext hspares

theorem spares_renewPass (todo : List ServiceGroupId) (p : TickProgress) :
    (renewPass todo p next).Obeys (Spares m.targetServiceGroups) heldAfter := by
  induction todo generalizing p with
  | nil => exact hspares p
  | cons sgId rest ih =>
    refine ⟨trivial, ?_⟩
    intro result
    cases hr : result.renewed with
    | true =>
      simp only [hr, if_true, heldAfter]
      exact ⟨visible_renewPass hnext rest _, ih (p.addRenewed sgId)⟩
    | false =>
      simp only [hr, heldAfter, Bool.false_eq_true, if_false]
      exact ⟨visible_renewPass hnext rest _, ih (p.addLost sgId)⟩

theorem spares_shedPass (todo : List ServiceGroupId) (p : TickProgress) :
    (m.shedPass todo p next).Obeys (Spares m.targetServiceGroups) heldAfter := by
  induction todo generalizing p with
  | nil => exact hspares p
  | cons sgId rest ih =>
    simp only [shedPass]
    split
    · exact hspares p
    · next hover =>
      refine ⟨not_le.mp hover, ?_⟩
      intro result
      cases hr : result.released with
      | true =>
        simp only [hr, if_true, heldAfter]
        exact ⟨m.visible_shedPass hnext rest _, ih (p.addReleased sgId)⟩
      | false =>
        simp only [hr, heldAfter, Bool.false_eq_true, if_false]
        exact ⟨m.visible_shedPass hnext rest _, ih (p.addFailed sgId)⟩

omit hnext hspares in
/-- The step that both acquire loops share. -/
theorem spares_acquire (sgId : ServiceGroupId) (p : TickProgress)
    (go : TickProgress → CoordinationProgram) (hvis : ∀ p, (go p).visible = p.held)
    (hgo : ∀ p, (go p).Obeys (Spares m.targetServiceGroups) heldAfter) :
    (CallTree.call p.held (.leaseTryAcquire sgId) fun result =>
      if result.acquired then go (p.addAcquired sgId) else go (p.addFailed sgId) :
        CoordinationProgram).Obeys (Spares m.targetServiceGroups) heldAfter := by
  refine ⟨trivial, ?_⟩
  intro result
  cases hr : result.acquired with
  | true =>
    simp only [hr, if_true, heldAfter]
    exact ⟨hvis _, hgo _⟩
  | false =>
    simp only [hr, heldAfter, Bool.false_eq_true, if_false]
    exact ⟨hvis _, hgo _⟩

theorem spares_sweepPass (attempted todo : List ServiceGroupId) (p : TickProgress) :
    (m.sweepPass attempted todo p next).Obeys (Spares m.targetServiceGroups) heldAfter := by
  induction todo generalizing p with
  | nil => exact hspares p
  | cons sgId rest ih =>
    simp only [sweepPass]
    split
    · exact hspares p
    · split
      · exact ih p
      · split
        · exact ih p
        · exact m.spares_acquire sgId p (fun p => m.sweepPass attempted rest p next)
            (m.visible_sweepPass hnext attempted rest) ih

end Spare

section Settle
include hsettles

theorem settles_renewPass (todo : List ServiceGroupId) (p : TickProgress) (hnd : todo.Nodup) :
    (renewPass todo p next).Settles stillToRenew (· = ∅) todo.toFinset := by
  induction todo generalizing p with
  | nil => exact hsettles p
  | cons sgId rest ih =>
    obtain ⟨hnot, hnd'⟩ := List.nodup_cons.mp hnd
    intro result
    have hrest : stillToRenew (.leaseRenew sgId) result (sgId :: rest).toFinset =
        rest.toFinset := by
      simp [stillToRenew, hnot]
    rw [hrest]
    dsimp only
    split
    · exact ih _ hnd'
    · exact ih _ hnd'

theorem settles_shedPass (todo : List ServiceGroupId) (p : TickProgress) :
    (m.shedPass todo p next).Settles stillToRenew (· = ∅) ∅ := by
  induction todo generalizing p with
  | nil => exact hsettles p
  | cons sgId rest ih =>
    simp only [shedPass]
    split
    · exact hsettles p
    · intro result
      dsimp only [stillToRenew]
      split
      · exact ih _
      · exact ih _

theorem settles_sweepPass (attempted todo : List ServiceGroupId) (p : TickProgress) :
    (m.sweepPass attempted todo p next).Settles stillToRenew (· = ∅) ∅ := by
  induction todo generalizing p with
  | nil => exact hsettles p
  | cons sgId rest ih =>
    simp only [sweepPass]
    split
    · exact hsettles p
    · split
      · exact ih p
      · split
        · exact ih p
        · intro result
          dsimp only [stillToRenew]
          split
          · exact ih _
          · exact ih _

end Settle
end Passes

section Acquire
variable {next : TickProgress → List ServiceGroupId → CoordinationProgram}

theorem spares_acquirePass (hnext : ∀ p attempted, (next p attempted).visible = p.held)
    (hspares : ∀ p attempted, (next p attempted).Obeys (Spares m.targetServiceGroups) heldAfter)
    (todo attempted : List ServiceGroupId) (p : TickProgress) :
    (m.acquirePass todo p attempted next).Obeys (Spares m.targetServiceGroups) heldAfter := by
  induction todo generalizing p attempted with
  | nil => exact hspares p attempted
  | cons sgId rest ih =>
    simp only [acquirePass]
    split
    · exact hspares p attempted
    · split
      · exact ih attempted p
      · exact m.spares_acquire sgId p (fun p => m.acquirePass rest p (sgId :: attempted) next)
          (m.visible_acquirePass hnext rest _) (ih _)

theorem settles_acquirePass
    (hsettles : ∀ p attempted, (next p attempted).Settles stillToRenew (· = ∅) ∅)
    (todo attempted : List ServiceGroupId) (p : TickProgress) :
    (m.acquirePass todo p attempted next).Settles stillToRenew (· = ∅) ∅ := by
  induction todo generalizing p attempted with
  | nil => exact hsettles p attempted
  | cons sgId rest ih =>
    simp only [acquirePass]
    split
    · exact hsettles p attempted
    · split
      · exact ih attempted p
      · intro result
        dsimp only [stillToRenew]
        split
        · exact ih _ _
        · exact ih _ _

end Acquire

section LeasePass
variable {next : TickProgress → CoordinationProgram} (groups : List ServiceGroupId)
  (held : HeldLeases)

theorem spares_leasePass (hnext : ∀ p, (next p).visible = p.held)
    (hspares : ∀ p, (next p).Obeys (Spares m.targetServiceGroups) heldAfter) :
    (m.leasePass sha256 groups held next).Obeys (Spares m.targetServiceGroups) heldAfter := by
  have hrefill (p : TickProgress) :
      (m.refillPass sha256 groups next p).Obeys (Spares m.targetServiceGroups) heldAfter := by
    simp only [refillPass]
    split
    · refine m.spares_acquirePass (fun p attempted => m.visible_sweepOrNext hnext
        groups attempted p)
        (fun p attempted => ?_) _ _ p
      split
      · exact m.spares_sweepPass hnext hspares _ _ p
      · exact hspares p
    · exact hspares p
  have hvis := m.visible_refillPass sha256 hnext groups
  rw [leasePass_eq]
  exact m.spares_renewPass (fun p => m.visible_shedPass hvis _ p)
    (fun p => m.spares_shedPass hvis hrefill _ p) _ _

theorem settles_leasePass (hsettles : ∀ p, (next p).Settles stillToRenew (· = ∅) ∅) :
    (m.leasePass sha256 groups held next).Settles stillToRenew (· = ∅) held := by
  have hrefill (p : TickProgress) :
      (m.refillPass sha256 groups next p).Settles stillToRenew (· = ∅) ∅ := by
    simp only [refillPass]
    split
    · refine m.settles_acquirePass (fun p attempted => ?_) _ _ p
      split
      · exact m.settles_sweepPass hsettles _ _ p
      · exact hsettles p
    · exact hsettles p
  have hheld : (sortedHeldLeases held).toFinset = held := by
    ext sgId
    rw [List.mem_toFinset, mem_sortedHeldLeases]
  rw [leasePass_eq, ← hheld, hheld]
  have hpass := settles_renewPass
    (fun p => m.settles_shedPass hrefill (sortedHeldLeases p.held).reverse p)
    (sortedHeldLeases held) ⟨held, [], [], [], []⟩ (nodup_sortedHeldLeases held)
  rwa [hheld] at hpass

end LeasePass

/-- A tick releases only what goes beyond its target. -/
theorem spares_tick (groups : List ServiceGroupId) (held : HeldLeases) :
    (m.tick sha256 groups held).Obeys (Spares m.targetServiceGroups) heldAfter := by
  have hnext (isLeader : Bool) (leaderId : LeaderId) :
      (m.leasePass sha256 groups held fun p =>
        .done p.held (.tick (tickResult isLeader leaderId p))).Obeys
        (Spares m.targetServiceGroups) heldAfter :=
    m.spares_leasePass sha256 groups held (fun _ => rfl) (fun _ => trivial)
  have hvis (isLeader : Bool) (leaderId : LeaderId) :
      (m.leasePass sha256 groups held fun p =>
        .done p.held (.tick (tickResult isLeader leaderId p))).visible = held :=
    m.visible_leasePass sha256 (fun _ => rfl) groups held
  simp only [tick, leaderPass]
  split
  · refine ⟨trivial, fun result => ?_⟩
    cases result with
    | none => exact ⟨rfl, trivial⟩
    | some result =>
      dsimp only
      split
      · refine ⟨rfl, trivial, fun renewal => ?_⟩
        cases renewal with
        | none => exact ⟨rfl, trivial⟩
        | some renewal =>
          dsimp only
          split
          · exact ⟨hvis _ _, hnext _ _⟩
          · exact ⟨hvis _ _, hnext _ _⟩
      · exact ⟨hvis _ _, hnext _ _⟩
  · exact ⟨trivial, fun status => ⟨hvis _ _, hnext _ _⟩⟩

/-- Unless a leader call raises, a tick asks for the renewal of every group it started with. -/
theorem settles_tick (groups : List ServiceGroupId) (held : HeldLeases) :
    (m.tick sha256 groups held).Settles stillToRenew (· = ∅) held := by
  have hnext (isLeader : Bool) (leaderId : LeaderId) :
      (m.leasePass sha256 groups held fun p =>
        .done p.held (.tick (tickResult isLeader leaderId p))).Settles stillToRenew (· = ∅) held :=
    m.settles_leasePass sha256 groups held (fun _ => rfl)
  simp only [tick, leaderPass]
  split
  · intro result
    cases result with
    | none => rfl
    | some result =>
      dsimp only [stillToRenew]
      split
      · intro renewal
        cases renewal with
        | none => rfl
        | some renewal =>
          dsimp only [stillToRenew]
          split
          · exact hnext _ _
          · exact hnext _ _
      · exact hnext _ _
  · exact fun status => hnext _ _

end CoordinationManager

namespace FileServiceGroupLease

/-- An operation by another owner that can read the record leaves a lease in force as it is,
whatever else fails. -/
theorem perform_other (lease : FileServiceGroupLease) (op : Op) {io : FileIo}
    (hd : io.readOk = true) (now : ℚ) (file : LeaseFile) (g : Grant OwnerId ℚ)
    (hg : inForce (file.grant lease.electionName lease.sgId) now = some g)
    (ho : g.owner ≠ lease.ownerId) : (lease.perform op io now file).2 = file := by
  obtain ⟨hg', hlive⟩ := inForce_eq_some.mp hg
  obtain ⟨r, rfl, -, -, rfl, hread⟩ := lease.readRecord_of_grant_some hd file g hg'
  have hx : isExpired r now = false := by simpa [isExpired, RecordFile.isExpired] using hlive
  have ho' : r.ownerId ≠ lease.ownerId := ho
  apply lease.perform_refused op io now
  cases op with
  | acquire =>
    cases hl : io.lockFree with
    | true => simp [perform, tryAcquire, hl, hread, hx, ho', LeaseResult.reply]
    | false => simp [perform, tryAcquire, hl, LeaseResult.reply]
  | renew => simp [perform, LeaseResult.reply, (lease.renew_keeps io now r (Or.inr ho')).1]
  | release => simp [perform, LeaseResult.reply, (lease.release_keeps io r ho').1]

end FileServiceGroupLease

/-- How a manager is run: a tick begins within `period` of the one before, and ends within
`duration` of its own beginning. -/
structure Cadence where
  period : ℚ
  duration : ℚ

/-- Times that fit the lease: every tick can renew before what the tick before has granted runs
out. -/
def Cadence.Fits (cadence : Cadence) (ttl : ℚ) : Prop :=
  0 ≤ cadence.period ∧ 0 < cadence.duration ∧ cadence.period+cadence.duration ≤ ttl

/-- The managers, and when the last tick of each began. -/
structure TickedWorld (ι : Type*) where
  world : CoordinationWorld ι
  begun : ι → ℚ

namespace CoordinationGroup
variable {ι : Type*} [DecidableEq ι] (group : CoordinationGroup ι)

def tickedStep (s : TickedWorld ι) (a : CoordinationAction ι) : TickedWorld ι :=
  ⟨group.step s.world a,
    match a with
    | .beginTick i _ =>
      if s.world.Idle i then Function.update s.begun i s.world.clock else s.begun
    | _ => s.begun⟩

theorem world_tickedStep (s : TickedWorld ι) (a : CoordinationAction ι) :
    (group.tickedStep s a).world = group.step s.world a := rfl

/-- Manager `i` keeps to its cadence. One that holds nothing may wait with its next tick. -/
def OnTime (cadence : Cadence) (i : ι) (s : TickedWorld ι) (a : CoordinationAction ι) : Prop :=
  if s.world.Idle i then
    s.world.held i = ∅ ∨ s.world.clock+a.wait < s.begun i+cadence.period
  else s.world.clock+a.wait < s.begun i+cadence.duration

/-- The calls of manager `i` do their part, it releases nothing, no lease object outside the group
has its owner, and the others can read the records. -/
def upkeep (i : ι) (s : CoordinationWorld ι) : CoordinationAction ι → Bool
  | .beginTick _ _ => true
  | .beginReleaseAll j _ => j ≠ i
  | .call j wait io =>
    if j = i then
      (s.program i).nextCall.all fun c =>
        CoordinationManager.goesThrough io c
          ((group.manager i).handle io (s.clock+wait) c s.disk).1
    else io.readOk
  | .foreign lease _ _ io => lease.ownerId ≠ group.owner i && io.readOk

def Tended (cadence : Cadence) (i : ι) (s : TickedWorld ι) (a : CoordinationAction ι) : Prop :=
  OnTime cadence i s a ∧ group.upkeep i s.world a = true

instance (cadence : Cadence) (i : ι) (s : TickedWorld ι) (a : CoordinationAction ι) :
    Decidable (OnTime cadence i s a) :=
  inferInstanceAs (Decidable (if s.world.Idle i then
    s.world.held i = ∅ ∨ s.world.clock+a.wait < s.begun i+cadence.period
    else s.world.clock+a.wait < s.begun i+cadence.duration))

instance (cadence : Cadence) (i : ι) (s : TickedWorld ι) (a : CoordinationAction ι) :
    Decidable (group.Tended cadence i s a) := inferInstanceAs (Decidable (_ ∧ _ = true))

/-- The disk grants a group to the owner of manager `i` at least until `u`. -/
def BackedUntil (i : ι) (d : CoordinationDisk) (u : ℚ) (sgId : ServiceGroupId) : Prop :=
  ∃ g, group.grant d sgId = some g ∧ g.owner = group.owner i ∧ u ≤ g.expires

/-- What manager `i` holds is backed for the length of the tick that has `begun`, and what it has
no more to renew in it for a whole time to live. -/
def Secured (cadence : Cadence) (i : ι) (begun : ℚ) (s : CoordinationWorld ι) : Prop :=
  begun ≤ s.clock ∧
    (s.program i).Obeys (CoordinationManager.Spares (group.manager i).targetServiceGroups)
      CoordinationManager.heldAfter ∧
    ∃ todo, (s.program i).Settles CoordinationManager.stillToRenew (· = ∅) todo ∧
      ∀ sgId ∈ s.held i,
        group.BackedUntil i s.disk (begun+cadence.duration) sgId ∧
        (sgId ∉ todo → group.BackedUntil i s.disk (begun+(group.manager i).leaseTtlSeconds) sgId)

variable {group} {cadence : Cadence} {i : ι}

omit [DecidableEq ι] in
theorem BackedUntil.mono {d : CoordinationDisk} {u u' : ℚ} {sgId : ServiceGroupId} (hle : u' ≤ u)
    (h : group.BackedUntil i d u sgId) : group.BackedUntil i d u' sgId := by
  obtain ⟨g, hg, ho, hu⟩ := h
  exact ⟨g, hg, ho, hle.trans hu⟩

omit [DecidableEq ι] in
theorem BackedUntil.of_leases {d d' : CoordinationDisk} {u : ℚ} {sgId : ServiceGroupId}
    (hd : d'.leases sgId = d.leases sgId) (h : group.BackedUntil i d u sgId) :
    group.BackedUntil i d' u sgId := by
  obtain ⟨g, hg, h⟩ := h
  exact ⟨g, by rw [grant, hd]; exact hg, h⟩

omit [DecidableEq ι] in
theorem liveAt_of_backedUntil {d : CoordinationDisk} {u now : ℚ} {sgId : ServiceGroupId}
    (hlt : now < u) (h : group.BackedUntil i d u sgId) : group.liveAt i d now sgId = true := by
  obtain ⟨g, hg, ho, hu⟩ := h
  exact liveAt_iff.mpr ⟨g, hg, hlt.trans_le hu, ho⟩

omit [DecidableEq ι] in
/-- A lease of another owner is not taken away before it runs out by who can read it. -/
theorem BackedUntil.of_other {d d' : CoordinationDisk} {u now : ℚ} {sgId : ServiceGroupId}
    (lease : FileServiceGroupLease) (hname : lease.electionName = group.electionName)
    (hown : lease.ownerId ≠ group.owner i) (op : Op) {io : FileIo} (hread : io.readOk = true)
    (hd : d'.leases = Function.update d.leases lease.sgId
      (lease.perform op io now (d.leases lease.sgId)).2)
    (hlt : now < u) (h : group.BackedUntil i d u sgId) : group.BackedUntil i d' u sgId := by
  refine BackedUntil.of_leases ?_ h
  obtain ⟨g, hg, ho, hu⟩ := h
  by_cases hsg : sgId = lease.sgId
  · have hforce : inForce ((d.leases lease.sgId).grant lease.electionName lease.sgId)
        now = some g := by
      rw [hname, ← hsg]
      exact inForce_eq_some.mpr ⟨hg, hlt.trans_le hu⟩
    rw [hd, hsg, Function.update_self]
    exact lease.perform_other op hread now _ g hforce (fun he => hown (he.symm.trans ho))
  · rw [hd, Function.update_of_ne hsg]

theorem backedUntil_step_other (hown : ∀ j, j ≠ i → group.owner j ≠ group.owner i)
    (s : CoordinationWorld ι) (a : CoordinationAction ι) (hup : group.upkeep i s a = true)
    (hactor : a.actor ≠ some i) (hrule : group.Ruled s) {u : ℚ} {sgId : ServiceGroupId}
    (hlt : s.clock+a.wait < u) (h : group.BackedUntil i s.disk u sgId) :
    group.BackedUntil i (group.step s a).disk u sgId := by
  rcases step_cases s a hrule with ⟨hd, -⟩ | ⟨j, wait, io, op, sgId', c, rfl, -, -, -, hd, -⟩ |
    ⟨lease, op, wait, io, rfl, hname, hd, -⟩
  · exact BackedUntil.of_leases (by rw [hd]) h
  · have hj : j ≠ i := fun he => hactor (by rw [he]; rfl)
    have hread : io.readOk = true := by simpa only [upkeep, hj, if_false] using hup
    exact BackedUntil.of_other ((group.manager j).leaseForSg sgId')
      (group.leaseForSg_electionName j sgId') (hown j hj) op hread hd hlt h
  · obtain ⟨hf, hread⟩ := Bool.and_eq_true_iff.mp hup
    exact BackedUntil.of_other lease hname (of_decide_eq_true hf) op hread hd hlt h

omit [DecidableEq ι] in
/-- A renewal in time, with the lock free, grants a whole time to live. -/
theorem backedUntil_of_renew {d d' : CoordinationDisk} {now : ℚ}
    {sgId : ServiceGroupId} (io : FileIo)
    (hw : io.Works) (hl : io.lockFree = true)
    (hd : d'.leases = Function.update d.leases sgId
      (((group.manager i).leaseForSg sgId).perform .renew io now (d.leases sgId)).2)
    (h : group.liveAt i d now sgId = true) :
    group.BackedUntil i d' (now+(group.manager i).leaseTtlSeconds) sgId := by
  obtain ⟨g, hg, hlt, ho⟩ := liveAt_iff.mp h
  have hrefines := ((group.manager i).leaseForSg sgId).perform_refines hl hw .renew now
    (d.leases sgId)
  rw [leaseForSg_electionName] at hrefines
  have hown : TtlLease.perform (group.owner i) ((group.manager i).leaseTtlSeconds : ℚ) .renew now
      (group.grant d sgId) = _ := perform_renew_own (inForce_eq_some.mpr ⟨hg, hlt⟩) ho
  have hgrant := congrArg Prod.snd (hrefines.trans hown)
  refine ⟨⟨group.owner i, now+(group.manager i).leaseTtlSeconds⟩, ?_, rfl, le_rfl⟩
  rw [grant, hd, Function.update_self]
  exact hgrant

omit [DecidableEq ι] in
/-- What is held after an acquisition was held before, and is backed as before, or is granted a
whole time to live. -/
theorem backedUntil_of_acquire {d d' : CoordinationDisk} {now : ℚ} {sgId : ServiceGroupId}
    {held : HeldLeases} (io : FileIo) (hw : io.Works)
    (hd : d'.leases = Function.update d.leases sgId
      (((group.manager i).leaseForSg sgId).perform .acquire io now (d.leases sgId)).2)
    (hheld : group.liveAt i d now sgId = true → sgId ∈ held)
    (h : sgId ∈ CoordinationManager.heldByReply sgId held .acquire
      (((group.manager i).leaseForSg sgId).perform .acquire io now (d.leases sgId)).1.reply) :
    (sgId ∈ held ∧ d'.leases sgId = d.leases sgId) ∨
      group.BackedUntil i d' (now+(group.manager i).leaseTtlSeconds) sgId := by
  set lease := (group.manager i).leaseForSg sgId with hlease
  have hkept (hr : (lease.perform .acquire io now (d.leases sgId)).1.reply = .refused) :
      sgId ∈ held ∧ d'.leases sgId = d.leases sgId := by
    rw [hr] at h
    refine ⟨h, ?_⟩
    rw [hd, Function.update_self, lease.perform_refused .acquire io now _ hr]
  cases hl : io.lockFree with
  | false => exact Or.inl (hkept (lease.perform_busy .acquire io now _ hl).1)
  | true =>
    have hrefines := lease.perform_refines hl hw .acquire now (d.leases sgId)
    rw [hlease, leaseForSg_electionName] at hrefines
    change _ = TtlLease.perform (group.owner i) ((group.manager i).leaseTtlSeconds : ℚ) .acquire now
      (group.grant d sgId) at hrefines
    cases hf : inForce (group.grant d sgId) now with
    | none =>
      rw [perform_acquire_none hf] at hrefines
      refine Or.inr ⟨⟨group.owner i, now+(group.manager i).leaseTtlSeconds⟩, ?_, rfl, le_rfl⟩
      rw [grant, hd, Function.update_self]
      exact congrArg Prod.snd hrefines
    | some g =>
      by_cases ho : g.owner = group.owner i
      · -- the owner is told of the grant it has, which the manager knows of
        have hlive := inForce_eq_some.mp hf
        obtain ⟨r, hfile, hname, -, rfl, hread⟩ :=
          lease.readRecord_of_grant_some hw.readOk (d.leases sgId) g (by
            rw [hlease, leaseForSg_electionName]
            exact hlive.1)
        have hx : FileServiceGroupLease.isExpired r now = false := by
          simpa [FileServiceGroupLease.isExpired, RecordFile.isExpired] using hlive.2
        have ho' : r.ownerId = lease.ownerId := ho
        refine Or.inl ⟨hheld (liveAt_iff.mpr ⟨_, hlive.1, hlive.2, ho⟩), ?_⟩
        rw [hd, Function.update_self]
        simp [FileServiceGroupLease.perform, FileServiceGroupLease.tryAcquire, hl, hread, hx, ho']
      · rw [perform_acquire_other hf ho] at hrefines
        exact Or.inl (hkept (congrArg Prod.fst hrefines))

theorem secured_begin (hfit : cadence.Fits (group.manager i).leaseTtlSeconds) {begun : ℚ}
    (s : CoordinationWorld ι) (serviceGroups : List ServiceGroupId) (hidle : s.Idle i)
    (hlate : s.held i = ∅ ∨ s.clock < begun+cadence.period) (h : group.Secured cadence i begun s) :
    group.Secured cadence i s.clock (group.step s (.beginTick i serviceGroups)) := by
  obtain ⟨-, -, todo, hsettles, hback⟩ := h
  obtain ⟨o, ho⟩ := eq_done_of_isDone hidle
  rw [ho] at hsettles
  have htodo : todo = ∅ := hsettles
  have hvis : ((group.manager i).tick group.sha256 serviceGroups (s.held i)).visible = s.held i :=
    CoordinationManager.visible_tick _ _ _ _
  simp only [step, hidle, if_true, Secured, Function.update_self]
  refine ⟨le_rfl, (group.manager i).spares_tick _ _ _, s.held i,
    (group.manager i).settles_tick _ _ _, ?_⟩
  intro sgId hmem
  simp only [CoordinationWorld.held, Function.update_self] at hmem hvis
  rw [hvis] at hmem
  change sgId ∈ s.held i at hmem
  refine ⟨?_, fun hnot => absurd hmem hnot⟩
  have hlate' : s.clock < begun+cadence.period :=
    hlate.resolve_left fun hempty => by simp [hempty] at hmem
  have hlong := (hback sgId hmem).2 (by simp [htodo])
  exact hlong.mono (by linarith [hfit.2.2])

omit [DecidableEq ι] in
/-- What a manager holds after a lease call that goes through. -/
theorem secured_lease (hfit : cadence.Fits (group.manager i).leaseTtlSeconds) {begun now : ℚ}
    {d d' : CoordinationDisk} {held : HeldLeases} {todo : Finset ServiceGroupId}
    {c : CoordinationCall} {op : Op} {sgId' : ServiceGroupId} (io : FileIo) (r : c.Reply)
    (hop : CoordinationManager.leaseOp c = some (op, sgId'))
    (hio : CoordinationManager.goesThrough io c r = true)
    (hallow : CoordinationManager.Allows (group.manager i).targetServiceGroups held c)
    (hspare : CoordinationManager.Spares (group.manager i).targetServiceGroups held c)
    (hcard : held.card ≤ (group.manager i).targetServiceGroups)
    (hd : d'.leases = Function.update d.leases sgId'
      (((group.manager i).leaseForSg sgId').perform op io now (d.leases sgId')).2)
    (hheld : group.liveAt i d now sgId' = true → sgId' ∈ held)
    (hbegun : begun ≤ now) (hlt : now < begun+cadence.duration)
    (hback : ∀ sgId ∈ held, group.BackedUntil i d (begun+cadence.duration) sgId ∧
      (sgId ∉ todo → group.BackedUntil i d (begun+(group.manager i).leaseTtlSeconds) sgId))
    {sgId : ServiceGroupId}
    (hmem : sgId ∈ CoordinationManager.heldByReply sgId' held op
      (((group.manager i).leaseForSg sgId').perform op io now (d.leases sgId')).1.reply) :
    group.BackedUntil i d' (begun+cadence.duration) sgId ∧
      (sgId ∉ CoordinationManager.stillToRenew c r todo →
        group.BackedUntil i d' (begun+(group.manager i).leaseTtlSeconds) sgId) := by
  have hw := CoordinationManager.works_of_goesThrough hio hop
  -- a lease written amid the tick lasts as long as one written at its beginning
  have hfresh (h : group.BackedUntil i d' (now+(group.manager i).leaseTtlSeconds) sgId) :
      group.BackedUntil i d' (begun+cadence.duration) sgId ∧
        group.BackedUntil i d' (begun+(group.manager i).leaseTtlSeconds) sgId := by
    obtain ⟨hperiod, -, hsum⟩ := hfit
    exact ⟨h.mono (by linarith), h.mono (by linarith)⟩
  -- where the file is left alone, what it backed is backed
  have hkept (hin : sgId ∈ held) (hfile : d'.leases sgId = d.leases sgId)
      (htodo : sgId ∈ todo → sgId ∈ CoordinationManager.stillToRenew c r todo) :
      group.BackedUntil i d' (begun+cadence.duration) sgId ∧
        (sgId ∉ CoordinationManager.stillToRenew c r todo →
          group.BackedUntil i d' (begun+(group.manager i).leaseTtlSeconds) sgId) :=
    ⟨(hback sgId hin).1.of_leases hfile,
      fun hnot => ((hback sgId hin).2 fun h => hnot (htodo h)).of_leases hfile⟩
  by_cases hsg : sgId = sgId'
  · subst hsg
    cases op with
    | acquire =>
      obtain rfl : c = .leaseTryAcquire sgId := by
        cases c <;> simp_all [CoordinationManager.leaseOp]
      rcases backedUntil_of_acquire io hw hd hheld hmem with ⟨hin, hfile⟩ | hnew
      · exact hkept hin hfile id
      · exact ⟨(hfresh hnew).1, fun _ => (hfresh hnew).2⟩
    | renew =>
      obtain rfl : c = .leaseRenew sgId := by
        cases c <;> simp_all [CoordinationManager.leaseOp]
      -- renewals of a tick on time come before the lease runs out
      have hlive := liveAt_of_backedUntil hlt (hback sgId hallow).1
      have hnew := backedUntil_of_renew io hw
        (CoordinationManager.lockFree_of_goesThrough hio) hd hlive
      exact ⟨(hfresh hnew).1, fun _ => (hfresh hnew).2⟩
    | release =>
      -- nothing is held beyond the target
      obtain rfl : c = .leaseRelease sgId := by
        cases c <;> simp_all [CoordinationManager.leaseOp]
      exact absurd hspare (not_lt.mpr hcard)
  · refine hkept ((CoordinationManager.mem_heldByReply_of_ne hsg _ _ _).mp hmem)
      (by rw [hd, Function.update_of_ne hsg]) ?_
    intro hin
    cases c with
    | leaseRenew sg =>
      obtain ⟨-, rfl⟩ := Prod.mk.inj (Option.some.inj hop)
      exact Finset.mem_erase.mpr ⟨hsg, hin⟩
    | leaseTryAcquire sg => exact hin
    | leaseRelease sg => exact hin
    | _ => simp [CoordinationManager.leaseOp] at hop

theorem goesThrough_of_upkeep (s : CoordinationWorld ι) (wait : ℚ≥0) (io : FileIo)
    (h : group.upkeep i s (.call i wait io) = true) {c : CoordinationCall}
    (hnext : (s.program i).nextCall = some c) :
    CoordinationManager.goesThrough io c
      ((group.manager i).handle io (s.clock+wait) c s.disk).1 = true := by
  simpa [upkeep, hnext] using h

theorem secured_call (hfit : cadence.Fits (group.manager i).leaseTtlSeconds) {begun : ℚ}
    (s : CoordinationWorld ι) (wait : ℚ≥0) (io : FileIo)
    (hup : group.upkeep i s (.call i wait io) = true)
    (hintime : s.Idle i ∨ s.clock+wait < begun+cadence.duration) (hrule : group.Ruled s)
    (hagree : group.Agrees i s) (h : group.Secured cadence i begun s) :
    group.Secured cadence i begun (group.step s (.call i wait io)) := by
  have hclock : s.clock ≤ s.clock+wait := le_add_of_nonneg_right wait.2
  obtain ⟨hbegun, hspares, todo, hsettles, hback⟩ := h
  cases hp : s.program i with
  | done v o =>
    have hv : s.held i = v := by rw [CoordinationWorld.held, hp, visible_done]
    rw [hp] at hspares hsettles
    rw [hv] at hback
    simp only [Secured, step, hp, resume, CoordinationWorld.held, Function.update_self,
      visible_done]
    exact ⟨hbegun.trans hclock, hspares, todo, hsettles, hback⟩
  | call v c next =>
    have hlt : s.clock+wait < begun+cadence.duration :=
      hintime.resolve_left fun hidle => by simp [CoordinationWorld.Idle, hp, isDone] at hidle
    have hio := goesThrough_of_upkeep s wait io hup (by rw [hp]; rfl : _ = some c)
    have hv : s.held i = v := by rw [CoordinationWorld.held, hp, visible_call]
    have hi := hrule i
    rw [hp] at hi hspares hsettles
    obtain ⟨hspare, hnext⟩ := hspares
    obtain ⟨hvis, hobeys⟩ := hnext ((group.manager i).handle io (s.clock+wait) c s.disk).1
    simp only [Secured, step, hp, resume, CoordinationWorld.held, Function.update_self, hvis]
    refine ⟨hbegun.trans hclock, hobeys, _, hsettles _, ?_⟩
    intro sgId hmem
    cases hop : CoordinationManager.leaseOp c with
    | none =>
      obtain ⟨hleases, hsame⟩ := CoordinationManager.handle_of_leaseOp_none (group.manager i) io
        (s.clock+wait) c s.disk hop v
      rw [hsame, ← hv] at hmem
      rw [CoordinationManager.stillToRenew_of_leader hop hio]
      obtain ⟨hshort, hlong⟩ := hback sgId hmem
      exact ⟨hshort.of_leases (by rw [hleases]), fun hnot =>
        (hlong hnot).of_leases (by rw [hleases])⟩
    | some p =>
      obtain ⟨op, sgId'⟩ := p
      obtain ⟨hleases, hheld⟩ := CoordinationManager.handle_of_leaseOp_some (group.manager i) io
        (s.clock+wait) c s.disk op sgId' hop v
      rw [hheld, ← hv] at hmem
      exact secured_lease hfit io _ hop hio (hv ▸ hi.1) (hv ▸ hspare) hagree.2 hleases
        (fun hlive => hagree.1 sgId' (liveAt_mono hclock hlive))
        (hbegun.trans hclock) hlt hback hmem

/-- What others do takes nothing from a manager that is on time. -/
theorem secured_other (hown : ∀ j, j ≠ i → group.owner j ≠ group.owner i)
    (hfit : cadence.Fits (group.manager i).leaseTtlSeconds) {begun : ℚ}
    (s : CoordinationWorld ι) (a : CoordinationAction ι) (hup : group.upkeep i s a = true)
    (hactor : a.actor ≠ some i) (hrule : group.Ruled s)
    (hintime : if s.Idle i then s.held i = ∅ ∨ s.clock+a.wait < begun+cadence.period
      else s.clock+a.wait < begun+cadence.duration)
    (h : group.Secured cadence i begun s) :
    group.Secured cadence i begun (group.step s a) := by
  obtain ⟨hbegun, hspares, todo, hsettles, hback⟩ := h
  have hprogram := group.program_step_of_actor_ne s a i hactor
  have hkept (u : ℚ) (hu : s.clock+a.wait < u) (sgId : ServiceGroupId)
      (h : group.BackedUntil i s.disk u sgId) : group.BackedUntil i (group.step s a).disk u sgId :=
    backedUntil_step_other hown s a hup hactor hrule hu h
  obtain ⟨hperiod, hduration, hsum⟩ := hfit
  refine ⟨hbegun.trans (group.clock_le_step s a), by rwa [hprogram], todo, by rwa [hprogram], ?_⟩
  intro sgId hmem
  simp only [CoordinationWorld.held, hprogram] at hmem
  change sgId ∈ s.held i at hmem
  obtain ⟨hshort, hlong⟩ := hback sgId hmem
  by_cases hidle : s.Idle i
  · -- between two ticks nothing is left to renew
    obtain ⟨o, ho⟩ := eq_done_of_isDone hidle
    rw [ho] at hsettles
    have htodo : todo = ∅ := hsettles
    rw [if_pos hidle] at hintime
    have hlate : s.clock+a.wait < begun+cadence.period :=
      hintime.resolve_left fun hempty => absurd hmem (by simp [hempty])
    have hnew := hkept _ (by linarith) sgId (hlong (by simp [htodo]))
    exact ⟨hnew.mono (by linarith), fun _ => hnew⟩
  · rw [if_neg hidle] at hintime
    refine ⟨hkept _ hintime sgId hshort, fun hnot => hkept _ ?_ sgId (hlong hnot)⟩
    linarith

theorem renewalLost_of_upkeep (s : CoordinationWorld ι) (a : CoordinationAction ι)
    (h : group.upkeep i s a = true) : group.renewalLost i s a = false := by
  cases a with
  | call j wait io =>
    simp only [renewalLost]
    split
    · next sgId hnext =>
      by_cases hj : j = i
      · subst hj
        have hio := goesThrough_of_upkeep s wait io h hnext
        simp [CoordinationManager.lockFree_of_goesThrough hio,
          (CoordinationManager.works_of_goesThrough hio rfl).readOk]
      · simp [hj]
    · rfl
  | _ => rfl

theorem foreignTo_of_upkeep (s : CoordinationWorld ι) (a : CoordinationAction ι)
    (h : group.upkeep i s a = true) : group.ForeignTo i a := by
  cases a with
  | foreign lease op wait io =>
    have hown := (Bool.and_eq_true_iff.mp h).1
    simpa only [ForeignTo, decide_eq_true_eq] using hown
  | _ => trivial

/-- The last tick is not so long ago that a lease it has granted has run out. -/
def InTime (group : CoordinationGroup ι) (cadence : Cadence) (i : ι) (s : TickedWorld ι) : Prop :=
  s.world.held i = ∅ ∨
    s.world.clock < s.begun i+
      if s.world.Idle i then ((group.manager i).leaseTtlSeconds : ℚ) else cadence.duration

/-- A manager whose ticks are on time, and go through, holds what the disk grants its owner. -/
def Held (group : CoordinationGroup ι) (cadence : Cadence) (i : ι) (s : TickedWorld ι) : Prop :=
  group.Ruled s.world ∧ group.Agrees i s.world ∧ group.Secured cadence i (s.begun i) s.world ∧
    InTime group cadence i s

theorem begun_of_not_begin (s : TickedWorld ι) (a : CoordinationAction ι)
    (h : ∀ serviceGroups, a ≠ .beginTick i serviceGroups) :
    (group.tickedStep s a).begun i = s.begun i := by
  cases a with
  | beginTick j serviceGroups =>
    have hj : i ≠ j := fun he => h serviceGroups (by rw [he])
    simp only [tickedStep]
    split
    · exact Function.update_of_ne hj _ _
    · rfl
  | _ => rfl

theorem secured_step (hown : ∀ j, j ≠ i → group.owner j ≠ group.owner i)
    (hfit : cadence.Fits (group.manager i).leaseTtlSeconds) (s : TickedWorld ι)
    (a : CoordinationAction ι) (ht : group.Tended cadence i s a)
    (h : group.Held cadence i s) :
    group.Secured cadence i ((group.tickedStep s a).begun i) (group.tickedStep s a).world := by
  obtain ⟨hrule, hagree, hsecured, -⟩ := h
  obtain ⟨htime, hup⟩ := ht
  by_cases hactor : a.actor = some i
  · cases a with
    | beginTick j serviceGroups =>
      obtain rfl : j = i := Option.some.inj hactor
      by_cases hidle : s.world.Idle j
      · have hclock : s.world.clock+((0 : ℚ≥0) : ℚ) = s.world.clock := by
          rw [NNRat.coe_zero, add_zero]
        simp only [OnTime, hidle, if_true, CoordinationAction.wait, hclock] at htime
        simp only [tickedStep, hidle, if_true, Function.update_self]
        exact secured_begin hfit s.world serviceGroups hidle htime hsecured
      · simpa only [tickedStep, step, hidle, if_false] using hsecured
    | beginReleaseAll j order => exact absurd (Option.some.inj hactor) (of_decide_eq_true hup)
    | call j wait io =>
      obtain rfl : j = i := Option.some.inj hactor
      refine secured_call hfit s.world wait io hup ?_ hrule hagree hsecured
      by_cases hidle : s.world.Idle j
      · exact Or.inl hidle
      · simp only [OnTime, hidle, if_false, CoordinationAction.wait] at htime
        exact Or.inr htime
    | foreign lease op wait io => simp [CoordinationAction.actor] at hactor
  · rw [begun_of_not_begin s a fun serviceGroups he => hactor (by rw [he]; rfl)]
    exact secured_other hown hfit s.world a hup hactor hrule htime hsecured

/-- Only the beginning of a tick wakes a manager that releases nothing. -/
theorem program_of_idle (s : CoordinationWorld ι) (a : CoordinationAction ι) (hidle : s.Idle i)
    (hup : group.upkeep i s a = true) (hbegin : ∀ serviceGroups, a ≠ .beginTick i serviceGroups) :
    (group.step s a).program i = s.program i := by
  by_cases hactor : a.actor = some i
  · cases a with
    | beginTick j serviceGroups =>
      exact absurd (by rw [Option.some.inj hactor]) (hbegin serviceGroups)
    | beginReleaseAll j order => exact absurd (Option.some.inj hactor) (of_decide_eq_true hup)
    | call j wait io =>
      obtain rfl : j = i := Option.some.inj hactor
      obtain ⟨o, ho⟩ := eq_done_of_isDone hidle
      simp only [step, Function.update_self]
      rw [ho]
      rfl
    | foreign lease op wait io => simp [CoordinationAction.actor] at hactor
  · exact group.program_step_of_actor_ne s a i hactor

theorem inTime_step (hfit : cadence.Fits (group.manager i).leaseTtlSeconds) (s : TickedWorld ι)
    (a : CoordinationAction ι) (ht : group.Tended cadence i s a) :
    group.InTime cadence i (group.tickedStep s a) := by
  obtain ⟨hperiod, hduration, hsum⟩ := hfit
  obtain ⟨htime, hup⟩ := ht
  by_cases hbegin : ∃ serviceGroups, a = .beginTick i serviceGroups
  · obtain ⟨serviceGroups, rfl⟩ := hbegin
    refine Or.inr ?_
    by_cases hidle : s.world.Idle i
    · simp only [tickedStep, step, hidle, if_true, Function.update_self]
      split
      · linarith
      · linarith
    · simp only [OnTime, hidle, if_false, CoordinationAction.wait, NNRat.coe_zero,
        add_zero] at htime
      simpa only [tickedStep, step, hidle, if_false] using htime
  · have hne (serviceGroups : List ServiceGroupId) : a ≠ .beginTick i serviceGroups :=
      fun he => hbegin ⟨serviceGroups, he⟩
    have hclock : (group.tickedStep s a).world.clock = s.world.clock+a.wait :=
      group.clock_step s.world a
    rw [InTime, begun_of_not_begin s a hne, hclock]
    by_cases hidle : s.world.Idle i
    · have hsame := program_of_idle s.world a hidle hup hne
      have hidle' : (group.tickedStep s a).world.Idle i := by
        rwa [CoordinationWorld.Idle, world_tickedStep, hsame]
      have hheld : (group.tickedStep s a).world.held i = s.world.held i := by
        rw [CoordinationWorld.held, world_tickedStep, hsame, CoordinationWorld.held]
      rw [OnTime, if_pos hidle] at htime
      rw [if_pos hidle', hheld]
      exact htime.imp id fun hlt => by linarith
    · rw [OnTime, if_neg hidle] at htime
      refine Or.inr ?_
      split
      · linarith
      · exact htime

theorem held_step (hown : ∀ j, j ≠ i → group.owner j ≠ group.owner i)
    (hfit : cadence.Fits (group.manager i).leaseTtlSeconds) (s : TickedWorld ι)
    (a : CoordinationAction ι) (ht : group.Tended cadence i s a) (h : group.Held cadence i s) :
    group.Held cadence i (group.tickedStep s a) :=
  ⟨ruled_step s.world a h.1,
    agrees_step hown s.world a (foreignTo_of_upkeep s.world a ht.2)
      (renewalLost_of_upkeep s.world a ht.2) h.1 h.2.1,
    secured_step hown hfit s a ht h, inTime_step hfit s a ht⟩

omit [DecidableEq ι] in
/-- What is held is granted on disk, and not over. -/
theorem live_of_held (s : TickedWorld ι)
    (h : group.Held cadence i s) {sgId : ServiceGroupId} (hmem : sgId ∈ s.world.held i) :
    group.live i s.world sgId = true := by
  obtain ⟨-, -, ⟨-, -, todo, hsettles, hback⟩, htime⟩ := h
  obtain ⟨hshort, hlong⟩ := hback sgId hmem
  have hlt := htime.resolve_left fun hempty => absurd hmem (by simp [hempty])
  by_cases hidle : s.world.Idle i
  · obtain ⟨o, ho⟩ := eq_done_of_isDone hidle
    rw [ho] at hsettles
    have htodo : todo = ∅ := hsettles
    rw [if_pos hidle] at hlt
    exact liveAt_of_backedUntil hlt (hlong (by simp [htodo]))
  · rw [if_neg hidle] at hlt
    exact liveAt_of_backedUntil hlt hshort

/-- A call that goes through drops nothing from the held set. -/
theorem held_subset_call (s : TickedWorld ι) (wait : ℚ≥0) (io : FileIo)
    (ht : group.Tended cadence i s (.call i wait io)) (h : group.Held cadence i s)
    {c : CoordinationCall} (hnext : (s.world.program i).nextCall = some c) {op : Op}
    {sgId : ServiceGroupId} (hop : CoordinationManager.leaseOp c = some (op, sgId))
    (hallow : CoordinationManager.Allows (group.manager i).targetServiceGroups (s.world.held i) c) :
    s.world.held i ⊆ CoordinationManager.heldByReply sgId (s.world.held i) op
      (((group.manager i).leaseForSg sgId).perform op io (s.world.clock+wait)
        (s.world.disk.leases sgId)).1.reply := by
  obtain ⟨-, hagree, ⟨-, hspares, todo, -, hback⟩, -⟩ := h
  cases op with
  | acquire =>
    cases (((group.manager i).leaseForSg sgId).perform .acquire io (s.world.clock+wait)
      (s.world.disk.leases sgId)).1.reply with
    | told e => exact Finset.subset_insert _ _
    | released => exact Finset.Subset.refl _
    | refused => exact Finset.Subset.refl _
  | renew =>
    obtain rfl : c = .leaseRenew sgId := by
      cases c <;> simp_all [CoordinationManager.leaseOp]
    have hio := goesThrough_of_upkeep s.world wait io ht.2 hnext
    have hrunning : ¬ s.world.Idle i := by
      intro hidle
      obtain ⟨o, ho⟩ := eq_done_of_isDone hidle
      rw [ho] at hnext
      simp [nextCall] at hnext
    have hlt := ht.1
    rw [OnTime, if_neg hrunning] at hlt
    obtain ⟨g, hg, hlive, ho⟩ := liveAt_iff.mp (liveAt_of_backedUntil hlt (hback sgId hallow).1)
    cases hr : (((group.manager i).leaseForSg sgId).perform .renew io (s.world.clock+wait)
        (s.world.disk.leases sgId)).1.reply with
    | told e => exact Finset.Subset.refl _
    | released => exact Finset.Subset.refl _
    | refused =>
      -- a lease in force is not refused its renewal
      refine absurd ho (((group.manager i).leaseForSg sgId).renew_refused
        (CoordinationManager.lockFree_of_goesThrough hio)
        (CoordinationManager.works_of_goesThrough hio rfl).readOk _ _ hr g ?_)
      rw [leaseForSg_electionName]
      exact inForce_eq_some.mpr ⟨hg, hlive⟩
  | release =>
    obtain rfl : c = .leaseRelease sgId := by
      cases c <;> simp_all [CoordinationManager.leaseOp]
    -- nothing is given up as long as no more is held than the target
    cases hp : s.world.program i with
    | done v o => simp [hp, nextCall] at hnext
    | call v c next =>
      obtain rfl : c = .leaseRelease sgId := by simpa [hp, nextCall] using hnext
      rw [hp] at hspares
      have hcard := hagree.2
      rw [CoordinationWorld.held, hp] at hcard
      exact absurd hspares.1 (not_lt.mpr hcard)

theorem held_subset_step (s : TickedWorld ι) (a : CoordinationAction ι)
    (ht : group.Tended cadence i s a) (h : group.Held cadence i s) :
    s.world.held i ⊆ (group.tickedStep s a).world.held i := by
  rw [world_tickedStep]
  rcases step_cases s.world a h.1 with ⟨-, hheld⟩ |
    ⟨j, wait, io, op, sgId, c, rfl, hnext, hop, hallow, -, hheld⟩
      | ⟨lease, op, wait, io, rfl, -, -, hheld⟩
  · rw [hheld]
  · rw [hheld]
    by_cases hj : i = j
    · subst hj
      rw [Function.update_self]
      exact held_subset_call s wait io ht h hnext hop hallow
    · rw [Function.update_of_ne hj]
  · rw [hheld]

/-- A manager whose ticks are on time and go through holds exactly what the disk grants its owner,
and keeps it whatever others do that can read the records. Two such managers never hold the same
group. -/
theorem held_leases_kept (group : CoordinationGroup ι) (hown : Function.Injective group.owner)
    (cadence : ι → Cadence) (s : TickedWorld ι)
    (h0 : ∀ i, group.Starts i s.world ∧ s.begun i ≤ s.world.clock) :
    ∀ i, (cadence i).Fits (group.manager i).leaseTtlSeconds →
    ∀ as, Guarded group.tickedStep (group.Tended (cadence i) i) s as →
    (∀ sgId, group.live i (exec group.tickedStep s as).world sgId = true ↔
      sgId ∈ (exec group.tickedStep s as).world.held i) ∧
    (∀ bs, Guarded group.tickedStep (group.Tended (cadence i) i) (exec group.tickedStep s as) bs →
      (exec group.tickedStep s as).world.held i ⊆
        (exec group.tickedStep s (as ++ bs)).world.held i) ∧
    ∀ j, j ≠ i → (cadence j).Fits (group.manager j).leaseTtlSeconds →
      Guarded group.tickedStep (group.Tended (cadence j) j) s as →
      Disjoint ((exec group.tickedStep s as).world.held i)
        ((exec group.tickedStep s as).world.held j) := by
  have hheld (i : ι) (hfit : (cadence i).Fits (group.manager i).leaseTtlSeconds)
      (as : List (CoordinationAction ι))
      (hg : Guarded group.tickedStep (group.Tended (cadence i) i) s as) :
      group.Held (cadence i) i (exec group.tickedStep s as) := by
    refine invariant_of_guarded (I := group.Held (cadence i) i)
      (fun s a ha h => held_step (fun j hj => hown.ne hj) hfit s a ha h) hg ?_
    obtain ⟨⟨hidle, hempty, hnone⟩, hbegun⟩ := h0 i
    refine ⟨ruled_of_idle s.world hidle, ⟨?_, by rw [hempty]; exact Nat.zero_le _⟩, ⟨hbegun, ?_⟩,
      Or.inl hempty⟩
    · intro sgId hlive
      obtain ⟨g, hgr, -, ho⟩ := liveAt_iff.mp hlive
      exact absurd ho (hnone sgId g hgr)
    · obtain ⟨o, ho⟩ := eq_done_of_isDone (hidle i)
      rw [ho, hempty]
      exact ⟨trivial, ∅, rfl, fun sgId hmem => absurd hmem (by simp)⟩
  intro i hfit as hg
  refine ⟨?_, ?_, ?_⟩
  · intro sgId
    exact ⟨(hheld i hfit as hg).2.1.1 sgId, live_of_held _ (hheld i hfit as hg)⟩
  · intro bs hbs
    rw [exec_append]
    have hsub : group.Held (cadence i) i (exec group.tickedStep (exec group.tickedStep s as) bs) ∧
        (exec group.tickedStep s as).world.held i ⊆
          (exec group.tickedStep (exec group.tickedStep s as) bs).world.held i :=
      invariant_of_guarded
        (I := fun t => group.Held (cadence i) i t ∧
          (exec group.tickedStep s as).world.held i ⊆ t.world.held i)
        (fun t a ha h => ⟨held_step (fun j hj => hown.ne hj) hfit t a ha h.1,
          h.2.trans (held_subset_step t a ha h.1)⟩) hbs ⟨hheld i hfit as hg, Finset.Subset.refl _⟩
    exact hsub.2
  · intro j hj hfit' hg'
    rw [Finset.disjoint_left]
    intro sgId hi hj'
    obtain ⟨g, hgr, -, ho⟩ := liveAt_iff.mp (live_of_held _ (hheld i hfit as hg) hi)
    obtain ⟨g', hgr', -, ho'⟩ := liveAt_iff.mp (live_of_held _ (hheld j hfit' as hg') hj')
    obtain rfl := Option.some.inj (hgr.symm.trans hgr')
    exact hj (hown (ho'.symm.trans ho))

/-- The first manager takes group 1 and renews it while the other one, which wants it too, has to
make do with group 2. -/
def upkeepRun : List (CoordinationAction Bool) :=
  [.beginTick true [1, 2], .call true 0 .ok, .call true 1 .ok, .beginTick false [1, 2],
    .call false 0 .ok, .call false 1 busyIo, .call false 1 .ok, .beginTick true [1, 2],
    .call true 1 .ok, .call true 1 .ok]

theorem held_leases_kept_pair :
    (exec pairManagers.tickedStep ⟨freshWorld 0, fun _ => 0⟩ upkeepRun).world.held true = {1} ∧
    (exec pairManagers.tickedStep ⟨freshWorld 0, fun _ => 0⟩ upkeepRun).world.held false = {2} ∧
    Disjoint ((exec pairManagers.tickedStep ⟨freshWorld 0, fun _ => 0⟩ upkeepRun).world.held true)
      ((exec pairManagers.tickedStep ⟨freshWorld 0, fun _ => 0⟩ upkeepRun).world.held false) := by
  have hfit (i : Bool) : (Cadence.mk 6 4).Fits ((pairManagers.manager i).leaseTtlSeconds : ℚ) := by
    cases i <;> exact ⟨by decide +kernel, by decide +kernel, by decide +kernel⟩
  refine ⟨by decide +kernel, by decide +kernel, (held_leases_kept pairManagers
    pairManagers_owner_injective (fun _ => ⟨6, 4⟩) ⟨freshWorld 0, fun _ => 0⟩ ?_ true (hfit true)
    upkeepRun (by decide +kernel)).2.2 false (by decide) (hfit false) (by decide +kernel)⟩
  intro i
  refine ⟨⟨fun j => rfl, rfl, fun sgId g h => ?_⟩, le_rfl⟩
  simp [grant, freshWorld, LeaseFile.grant] at h

end CoordinationGroup
end PypnmCmts
