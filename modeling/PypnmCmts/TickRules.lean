import PypnmCmts.CoordinationManager

/-! What every tick and every `release_all` does, whatever its calls are answered: the held
set follows the answers, and calls are made only where the held set allows them. -/
namespace PypnmCmts

open CallTree

namespace CoordinationManager

/-- The held set after a call is answered. -/
def heldAfter : (c : CoordinationCall) → c.Reply → HeldLeases → HeldLeases
  | .leaseTryAcquire sgId, result, held => if result.acquired then insert sgId held else held
  | .leaseRenew sgId, result, held => if result.renewed then held else held.erase sgId
  | .leaseRelease sgId, result, held => if result.released then held.erase sgId else held
  | .leaderTryAcquire, _, held => held
  | .leaderRenew, _, held => held
  | .leaderRelease, _, held => held
  | .leaderStatus, _, held => held

/-- The lease operation behind a call. -/
def leaseOp : CoordinationCall → Option (TtlLease.Op × ServiceGroupId)
  | .leaseTryAcquire sgId => some (.acquire, sgId)
  | .leaseRenew sgId => some (.renew, sgId)
  | .leaseRelease sgId => some (.release, sgId)
  | _ => none

/-- The held set after a lease operation is answered. -/
def heldByReply (sgId : ServiceGroupId) (held : HeldLeases) :
    TtlLease.Op → TtlLease.Reply ℚ → HeldLeases
  | .acquire, .told _ => insert sgId held
  | .renew, .refused => held.erase sgId
  | .release, .released => held.erase sgId
  | _, _ => held

/-- Only held leases are renewed and released, and a lease is acquired only below the target. -/
def Allows (target : ℕ) (held : HeldLeases) : CoordinationCall → Prop
  | .leaseTryAcquire _ => held.card < target
  | .leaseRenew sgId => sgId ∈ held
  | .leaseRelease sgId => sgId ∈ held
  | _ => True

theorem mem_heldByReply_of_ne {sgId sgId' : ServiceGroupId} (h : sgId ≠ sgId') (held : HeldLeases)
    (op : TtlLease.Op) (r : TtlLease.Reply ℚ) :
    sgId ∈ heldByReply sgId' held op r ↔ sgId ∈ held := by
  cases op <;> cases r <;> simp [heldByReply, h]

theorem mem_of_mem_heldByReply_refused {sgId sgId' : ServiceGroupId} {held : HeldLeases}
    {op : TtlLease.Op} (h : sgId ∈ heldByReply sgId' held op .refused) : sgId ∈ held := by
  cases op with
  | acquire => exact h
  | renew => exact Finset.mem_of_mem_erase h
  | release => exact h

/-- What is renewed or released is held. -/
theorem mem_of_allows {target : ℕ} {held : HeldLeases} {c : CoordinationCall} {op : TtlLease.Op}
    {sgId : ServiceGroupId} (hop : leaseOp c = some (op, sgId)) (hne : op ≠ .acquire)
    (h : Allows target held c) : sgId ∈ held := by
  cases c <;> simp only [leaseOp, Option.some.injEq, Prod.mk.injEq, reduceCtorEq] at hop
  · exact absurd hop.1.symm hne
  · exact hop.2 ▸ h
  · exact hop.2 ▸ h

theorem card_heldByReply {target : ℕ} {held : HeldLeases} {c : CoordinationCall} {op : TtlLease.Op}
    {sgId : ServiceGroupId} (hop : leaseOp c = some (op, sgId)) (h : Allows target held c)
    (hcard : held.card ≤ target) (r : TtlLease.Reply ℚ) :
    (heldByReply sgId held op r).card ≤ target := by
  cases op with
  | acquire =>
    have hlt : held.card < target := by
      cases c <;> simp only [leaseOp, Option.some.injEq, Prod.mk.injEq, reduceCtorEq] at hop
      · exact h
      · exact absurd hop.1 (by simp)
      · exact absurd hop.1 (by simp)
    cases r with
    | told e => exact (Finset.card_insert_le _ _).trans hlt
    | released => exact hcard
    | refused => exact hcard
  | renew =>
    cases r with
    | refused => exact (Finset.card_erase_le).trans hcard
    | told e => exact hcard
    | released => exact hcard
  | release =>
    cases r with
    | released => exact (Finset.card_erase_le).trans hcard
    | told e => exact hcard
    | refused => exact hcard

/-- The calls of the leader election touch no lease. -/
theorem handle_of_leaseOp_none (m : CoordinationManager) (io : FileIo) (now : ℚ)
    (c : CoordinationCall) (d : CoordinationDisk) (h : leaseOp c = none) (held : HeldLeases) :
    (m.handle io now c d).2.leases = d.leases ∧
      heldAfter c (m.handle io now c d).1 held = held := by
  cases c <;> simp_all [leaseOp, handle, heldAfter]

/-- A lease call performs its operation on the record file of its group. -/
theorem handle_of_leaseOp_some (m : CoordinationManager) (io : FileIo) (now : ℚ)
    (c : CoordinationCall) (d : CoordinationDisk) (op : TtlLease.Op) (sgId : ServiceGroupId)
    (h : leaseOp c = some (op, sgId)) (held : HeldLeases) :
    (m.handle io now c d).2.leases = Function.update d.leases sgId
      ((m.leaseForSg sgId).perform op io now (d.leases sgId)).2 ∧
    heldAfter c (m.handle io now c d).1 held =
      heldByReply sgId held op ((m.leaseForSg sgId).perform op io now (d.leases sgId)).1.reply := by
  cases c with
  | leaseTryAcquire sg | leaseRenew sg | leaseRelease sg =>
    obtain ⟨rfl, rfl⟩ := Prod.mk.inj (Option.some.inj h)
    refine ⟨rfl, ?_⟩
    simp only [handle, heldAfter, FileServiceGroupLease.perform, LeaseResult.reply]
    split
    · next hr => simp [hr, heldByReply]
    · next hr => simp [hr, heldByReply]
  | _ => simp [leaseOp] at h

theorem sortedServiceGroups_perm (groups : List ServiceGroupId) :
    (sortedServiceGroups groups).Perm groups := List.perm_insertionSort _ _

/-- Two listings of the same groups are sorted into the same list. -/
theorem sortedServiceGroups_congr {groups groups' : List ServiceGroupId} (h : groups.Perm groups') :
    sortedServiceGroups groups = sortedServiceGroups groups' :=
  List.Perm.eq_of_pairwise (fun _ _ _ _ => le_antisymm) (List.pairwise_insertionSort _ groups)
    (List.pairwise_insertionSort _ groups')
    (((sortedServiceGroups_perm groups).trans h).trans (sortedServiceGroups_perm groups').symm)

theorem scoreOrderedServiceGroups_perm (m : CoordinationManager) (sha256 : List UInt8 → List UInt8)
    (groups : List ServiceGroupId) : (m.scoreOrderedServiceGroups sha256 groups).Perm groups := by
  have h := (List.perm_insertionSort (· ≤ ·) (groups.map fun sgId =>
    toLex (-(m.scoreForSg sha256 sgId : ℤ), toLex (sgId, sgId)))).map
      fun item => (ofLex (ofLex item).2).2
  rw [List.map_map] at h
  exact h.trans (List.Perm.of_eq (List.map_id groups))

theorem candidateServiceGroups_perm (m : CoordinationManager) (sha256 : List UInt8 → List UInt8)
    (groups : List ServiceGroupId) : (m.candidateServiceGroups sha256 groups).Perm groups := by
  simp only [candidateServiceGroups]
  split
  · exact m.scoreOrderedServiceGroups_perm sha256 groups
  · exact sortedServiceGroups_perm groups

/-- The order of the candidates does not depend on the order of the list passed in. -/
theorem candidateServiceGroups_congr (m : CoordinationManager) (sha256 : List UInt8 → List UInt8)
    {groups groups' : List ServiceGroupId} (h : groups.Perm groups') :
    m.candidateServiceGroups sha256 groups = m.candidateServiceGroups sha256 groups' := by
  simp only [candidateServiceGroups]
  split
  · have hsort := List.Perm.eq_of_pairwise (fun _ _ _ _ => le_antisymm)
      (List.pairwise_insertionSort (· ≤ ·) (groups.map fun sgId =>
        toLex (-(m.scoreForSg sha256 sgId : ℤ), toLex (sgId, sgId))))
      (List.pairwise_insertionSort (· ≤ ·) (groups'.map fun sgId =>
        toLex (-(m.scoreForSg sha256 sgId : ℤ), toLex (sgId, sgId))))
      (((List.perm_insertionSort _ _).trans (h.map _)).trans (List.perm_insertionSort _ _).symm)
    simp only [scoreOrderedServiceGroups, hsort]
  · exact sortedServiceGroups_congr h

theorem coe_sortedHeldLeases (held : HeldLeases) :
    (sortedHeldLeases held : Multiset ServiceGroupId) = held.val := by
  obtain ⟨s, hs⟩ := held
  induction s using Quotient.inductionOn with
  | h l => exact Quotient.sound (sortedServiceGroups_perm l)

@[simp] theorem mem_sortedHeldLeases {held : HeldLeases} {sgId : ServiceGroupId} :
    sgId ∈ sortedHeldLeases held ↔ sgId ∈ held := by
  rw [← Multiset.mem_coe, coe_sortedHeldLeases, Finset.mem_val]

theorem nodup_sortedHeldLeases (held : HeldLeases) : (sortedHeldLeases held).Nodup := by
  rw [← Multiset.coe_nodup, coe_sortedHeldLeases]
  exact held.nodup

variable (m : CoordinationManager) (sha256 : List UInt8 → List UInt8)

section Visible
variable {next : TickProgress → CoordinationProgram} (hnext : ∀ p, (next p).visible = p.held)
include hnext

theorem visible_renewPass (todo : List ServiceGroupId) (p : TickProgress) :
    (renewPass todo p next).visible = p.held := by
  cases todo with
  | nil => exact hnext p
  | cons sgId rest => rfl

theorem visible_shedPass (todo : List ServiceGroupId) (p : TickProgress) :
    (m.shedPass todo p next).visible = p.held := by
  cases todo with
  | nil => exact hnext p
  | cons sgId rest =>
    simp only [shedPass]
    split
    · exact hnext p
    · rfl

theorem visible_releasePass (todo : List ServiceGroupId) (p : TickProgress) :
    (releasePass todo p next).visible = p.held := by
  cases todo with
  | nil => exact hnext p
  | cons sgId rest => rfl

theorem visible_sweepPass (attempted todo : List ServiceGroupId) (p : TickProgress) :
    (m.sweepPass attempted todo p next).visible = p.held := by
  induction todo generalizing p with
  | nil => exact hnext p
  | cons sgId rest ih =>
    simp only [sweepPass]
    split
    · exact hnext p
    · split
      · exact ih p
      · split
        · exact ih p
        · rfl

end Visible

theorem visible_acquirePass {next : TickProgress → List ServiceGroupId → CoordinationProgram}
    (hnext : ∀ p attempted, (next p attempted).visible = p.held)
    (todo attempted : List ServiceGroupId) (p : TickProgress) :
    (m.acquirePass todo p attempted next).visible = p.held := by
  induction todo generalizing p with
  | nil => exact hnext p attempted
  | cons sgId rest ih =>
    simp only [acquirePass]
    split
    · exact hnext p attempted
    · split
      · exact ih p
      · rfl

/-- The groups still to be gone through stay held when one before them is given up. -/
theorem held_erase_of_cons {sgId : ServiceGroupId} {rest : List ServiceGroupId} {held : HeldLeases}
    (hnd : (sgId :: rest).Nodup) (hsub : ∀ x ∈ sgId :: rest, x ∈ held) :
    ∀ x ∈ rest, x ∈ held.erase sgId := by
  intro x hx
  have hne : x ≠ sgId := fun he => (List.nodup_cons.mp hnd).1 (he ▸ hx)
  exact Finset.mem_erase.mpr ⟨hne, hsub x (List.mem_cons_of_mem _ hx)⟩

section Obeys
variable {next : TickProgress → CoordinationProgram} (hnext : ∀ p, (next p).visible = p.held)
  (hobeys : ∀ p, (next p).Obeys (Allows m.targetServiceGroups) heldAfter)
include hnext hobeys

theorem obeys_renewPass (todo : List ServiceGroupId) (p : TickProgress) (hnd : todo.Nodup)
    (hsub : ∀ sgId ∈ todo, sgId ∈ p.held) :
    (renewPass todo p next).Obeys (Allows m.targetServiceGroups) heldAfter := by
  induction todo generalizing p with
  | nil => exact hobeys p
  | cons sgId rest ih =>
    have hnd' := (List.nodup_cons.mp hnd).2
    have hrest : ∀ x ∈ rest, x ∈ p.held := fun x hx => hsub x (List.mem_cons_of_mem _ hx)
    refine ⟨hsub sgId List.mem_cons_self, ?_⟩
    intro result
    cases hr : result.renewed with
    | true =>
      simp only [hr, if_true, heldAfter]
      exact ⟨visible_renewPass hnext rest _, ih (p.addRenewed sgId) hnd' hrest⟩
    | false =>
      simp only [hr, heldAfter, Bool.false_eq_true, if_false]
      exact ⟨visible_renewPass hnext rest _,
        ih (p.addLost sgId) hnd' (held_erase_of_cons hnd hsub)⟩

omit hnext hobeys in
/-- The steps that `shedPass` and `releasePass` share: a held lease is released, and the rest
of the list stays held. -/
theorem obeys_release (sgId : ServiceGroupId) (p : TickProgress) (hmem : sgId ∈ p.held)
    (go : TickProgress → CoordinationProgram) (hvis : ∀ p, (go p).visible = p.held)
    (hreleased : (go (p.addReleased sgId)).Obeys (Allows m.targetServiceGroups) heldAfter)
    (hfailed : (go (p.addFailed sgId)).Obeys (Allows m.targetServiceGroups) heldAfter) :
    (CallTree.call p.held (.leaseRelease sgId) fun result =>
      if result.released then go (p.addReleased sgId) else go (p.addFailed sgId) :
        CoordinationProgram).Obeys (Allows m.targetServiceGroups) heldAfter := by
  refine ⟨hmem, ?_⟩
  intro result
  cases hr : result.released with
  | true =>
    simp only [hr, if_true, heldAfter]
    exact ⟨hvis _, hreleased⟩
  | false =>
    simp only [hr, heldAfter, Bool.false_eq_true, if_false]
    exact ⟨hvis _, hfailed⟩

theorem obeys_shedPass (todo : List ServiceGroupId) (p : TickProgress) (hnd : todo.Nodup)
    (hsub : ∀ sgId ∈ todo, sgId ∈ p.held) :
    (m.shedPass todo p next).Obeys (Allows m.targetServiceGroups) heldAfter := by
  induction todo generalizing p with
  | nil => exact hobeys p
  | cons sgId rest ih =>
    have hnd' := (List.nodup_cons.mp hnd).2
    have hrest : ∀ x ∈ rest, x ∈ p.held := fun x hx => hsub x (List.mem_cons_of_mem _ hx)
    simp only [shedPass]
    split
    · exact hobeys p
    · exact m.obeys_release sgId p (hsub sgId List.mem_cons_self)
        (fun p => m.shedPass rest p next) (m.visible_shedPass hnext rest)
        (ih _ hnd' (held_erase_of_cons hnd hsub)) (ih _ hnd' hrest)

theorem obeys_releasePass (todo : List ServiceGroupId) (p : TickProgress) (hnd : todo.Nodup)
    (hsub : ∀ sgId ∈ todo, sgId ∈ p.held) :
    (releasePass todo p next).Obeys (Allows m.targetServiceGroups) heldAfter := by
  induction todo generalizing p with
  | nil => exact hobeys p
  | cons sgId rest ih =>
    have hnd' := (List.nodup_cons.mp hnd).2
    have hrest : ∀ x ∈ rest, x ∈ p.held := fun x hx => hsub x (List.mem_cons_of_mem _ hx)
    exact m.obeys_release sgId p (hsub sgId List.mem_cons_self)
      (fun p => releasePass rest p next) (visible_releasePass hnext rest)
      (ih _ hnd' (held_erase_of_cons hnd hsub)) (ih _ hnd' hrest)

omit hnext hobeys in
/-- The step that both acquire loops share. -/
theorem obeys_acquire (sgId : ServiceGroupId) (p : TickProgress)
    (hlt : ¬ m.targetServiceGroups ≤ p.held.card)
    (go : TickProgress → CoordinationProgram) (hvis : ∀ p, (go p).visible = p.held)
    (hgo : ∀ p, (go p).Obeys (Allows m.targetServiceGroups) heldAfter) :
    (CallTree.call p.held (.leaseTryAcquire sgId) fun result =>
      if result.acquired then go (p.addAcquired sgId) else go (p.addFailed sgId) :
        CoordinationProgram).Obeys (Allows m.targetServiceGroups) heldAfter := by
  refine ⟨not_le.mp hlt, ?_⟩
  intro result
  cases hr : result.acquired with
  | true =>
    simp only [hr, if_true, heldAfter]
    exact ⟨hvis _, hgo _⟩
  | false =>
    simp only [hr, heldAfter, Bool.false_eq_true, if_false]
    exact ⟨hvis _, hgo _⟩

theorem obeys_sweepPass (attempted todo : List ServiceGroupId) (p : TickProgress) :
    (m.sweepPass attempted todo p next).Obeys (Allows m.targetServiceGroups) heldAfter := by
  induction todo generalizing p with
  | nil => exact hobeys p
  | cons sgId rest ih =>
    simp only [sweepPass]
    split
    · exact hobeys p
    · next hlt =>
      split
      · exact ih p
      · split
        · exact ih p
        · exact m.obeys_acquire sgId p hlt (fun p => m.sweepPass attempted rest p next)
            (m.visible_sweepPass hnext attempted rest) ih

end Obeys

theorem obeys_acquirePass {next : TickProgress → List ServiceGroupId → CoordinationProgram}
    (hnext : ∀ p attempted, (next p attempted).visible = p.held)
    (hobeys : ∀ p attempted,
      (next p attempted).Obeys (Allows m.targetServiceGroups) heldAfter)
    (todo attempted : List ServiceGroupId) (p : TickProgress) :
    (m.acquirePass todo p attempted next).Obeys (Allows m.targetServiceGroups) heldAfter := by
  induction todo generalizing p attempted with
  | nil => exact hobeys p attempted
  | cons sgId rest ih =>
    simp only [acquirePass]
    split
    · exact hobeys p attempted
    · next hlt =>
      split
      · exact ih attempted p
      · exact m.obeys_acquire sgId p hlt (fun p => m.acquirePass rest p (sgId :: attempted) next)
          (m.visible_acquirePass hnext rest _) (ih _)

section LeasePass
variable {next : TickProgress → CoordinationProgram} (hnext : ∀ p, (next p).visible = p.held)
  (groups : List ServiceGroupId) (held : HeldLeases)

/-- The part of the lease pass behind the shed loop. -/
def refillPass (groups : List ServiceGroupId) (next : TickProgress → CoordinationProgram)
    (p : TickProgress) : CoordinationProgram :=
  if p.held.card < m.targetServiceGroups then
    m.acquirePass (m.candidateServiceGroups sha256 groups) p [] fun p attempted =>
      if p.held.card < m.targetServiceGroups then
        m.sweepPass attempted (sortedServiceGroups groups) p next
      else next p
  else next p

theorem leasePass_eq : m.leasePass sha256 groups held next =
    renewPass (sortedHeldLeases held) ⟨held, [], [], [], []⟩ fun p =>
      m.shedPass (sortedHeldLeases p.held).reverse p (m.refillPass sha256 groups next) := rfl

include hnext

theorem visible_sweepOrNext (attempted : List ServiceGroupId) (p : TickProgress) :
    (if p.held.card < m.targetServiceGroups then
      m.sweepPass attempted (sortedServiceGroups groups) p next else next p).visible = p.held := by
  split
  · exact m.visible_sweepPass hnext _ _ p
  · exact hnext p

theorem visible_refillPass (p : TickProgress) :
    (m.refillPass sha256 groups next p).visible = p.held := by
  simp only [refillPass]
  split
  · exact m.visible_acquirePass (fun p attempted => m.visible_sweepOrNext hnext groups attempted p)
      _ _ p
  · exact hnext p

theorem visible_leasePass : (m.leasePass sha256 groups held next).visible = held := by
  rw [leasePass_eq]
  refine visible_renewPass (fun p => ?_) _ _
  exact m.visible_shedPass (m.visible_refillPass sha256 hnext groups) _ p

theorem obeys_leasePass
    (hobeys : ∀ p, (next p).Obeys (Allows m.targetServiceGroups) heldAfter) :
    (m.leasePass sha256 groups held next).Obeys (Allows m.targetServiceGroups) heldAfter := by
  have hrefill := m.visible_refillPass sha256 hnext groups
  have hobeys' (p : TickProgress) :
      (m.refillPass sha256 groups next p).Obeys (Allows m.targetServiceGroups) heldAfter := by
    simp only [refillPass]
    split
    · refine m.obeys_acquirePass (fun p attempted => m.visible_sweepOrNext hnext groups attempted p)
        (fun p attempted => ?_) _ _ p
      split
      · exact m.obeys_sweepPass hnext hobeys _ _ p
      · exact hobeys p
    · exact hobeys p
  rw [leasePass_eq]
  refine m.obeys_renewPass (fun p => m.visible_shedPass hrefill _ p) (fun p => ?_) _ _
    (nodup_sortedHeldLeases held) (fun sgId h => mem_sortedHeldLeases.mp h)
  exact m.obeys_shedPass hrefill hobeys' _ p
    (List.nodup_reverse.mpr (nodup_sortedHeldLeases p.held))
    (fun sgId h => mem_sortedHeldLeases.mp (List.mem_reverse.mp h))

end LeasePass

section Leader
variable {held : HeldLeases} {next : Bool → LeaderId → CoordinationProgram}
  (hnext : ∀ isLeader leaderId, (next isLeader leaderId).visible = held)
include hnext

omit hnext in
theorem visible_leaderPass : (m.leaderPass held next).visible = held := by
  simp only [leaderPass]
  split <;> rfl

theorem obeys_leaderPass
    (hobeys : ∀ isLeader leaderId,
      (next isLeader leaderId).Obeys (Allows m.targetServiceGroups) heldAfter) :
    (m.leaderPass held next).Obeys (Allows m.targetServiceGroups) heldAfter := by
  simp only [leaderPass]
  split
  · refine ⟨trivial, ?_⟩
    rintro (_ | result)
    · exact ⟨rfl, trivial⟩
    · dsimp only
      split
      · refine ⟨rfl, trivial, ?_⟩
        rintro (_ | renewal)
        · exact ⟨rfl, trivial⟩
        · dsimp only
          split
          · exact ⟨hnext _ _, hobeys _ _⟩
          · exact ⟨hnext _ _, hobeys _ _⟩
      · exact ⟨hnext _ _, hobeys _ _⟩
  · exact ⟨trivial, fun status => ⟨hnext _ _, hobeys _ _⟩⟩

end Leader

@[simp] theorem visible_tick (groups : List ServiceGroupId) (held : HeldLeases) :
    (m.tick sha256 groups held).visible = held :=
  m.visible_leaderPass

/-- A tick keeps to the rules. -/
theorem obeys_tick (groups : List ServiceGroupId) (held : HeldLeases) :
    (m.tick sha256 groups held).Obeys (Allows m.targetServiceGroups) heldAfter :=
  m.obeys_leaderPass
    (fun _ _ => m.visible_leasePass sha256 (fun _ => visible_done _ _) groups held)
    (fun _ _ => m.obeys_leasePass sha256 (fun _ => visible_done _ _) groups held fun _ => trivial)

/-- A list of the held leases in some order, as the iteration over the set gives it. -/
def Lists (order : List ServiceGroupId) (held : HeldLeases) : Prop :=
  order.Nodup ∧ order.toFinset = held

instance (order : List ServiceGroupId) (held : HeldLeases) : Decidable (Lists order held) :=
  inferInstanceAs (Decidable (_ ∧ _))

theorem visible_releaseEnd (p : TickProgress) :
    (if m.leaderEnabled then
      .call p.held .leaderRelease fun result =>
        .done p.held (.releaseAll (releaseAllResult result.released p))
    else .done p.held (.releaseAll (releaseAllResult false p)) : CoordinationProgram).visible =
      p.held := by
  split <;> rfl

@[simp] theorem visible_releaseAll (order : List ServiceGroupId) (held : HeldLeases) :
    (m.releaseAll order held).visible = held :=
  visible_releasePass m.visible_releaseEnd order _

theorem obeys_releaseAll (order : List ServiceGroupId) (held : HeldLeases)
    (h : Lists order held) :
    (m.releaseAll order held).Obeys (Allows m.targetServiceGroups) heldAfter := by
  refine m.obeys_releasePass m.visible_releaseEnd (fun p => ?_) order _ h.1
    (fun sgId hmem => h.2 ▸ List.mem_toFinset.mpr hmem)
  split
  · exact ⟨trivial, fun result => ⟨rfl, trivial⟩⟩
  · trivial

/-- The groups that `release_all` has not asked to be released yet. -/
def stillToRelease : (c : CoordinationCall) → c.Reply → Finset ServiceGroupId →
    Finset ServiceGroupId
  | .leaseTryAcquire sgId, _, todo => insert sgId todo
  | .leaseRenew sgId, _, todo => insert sgId todo
  | .leaseRelease sgId, _, todo => todo.erase sgId
  | _, _, todo => todo

theorem stillToRelease_of_leaseOp_none {c : CoordinationCall} (h : leaseOp c = none) (r : c.Reply)
    (todo : Finset ServiceGroupId) : stillToRelease c r todo = todo := by
  cases c <;> simp_all [leaseOp, stillToRelease]

theorem mem_stillToRelease {c : CoordinationCall} {op : TtlLease.Op} {sgId' : ServiceGroupId}
    (h : leaseOp c = some (op, sgId')) (r : c.Reply) {todo : Finset ServiceGroupId}
    {sgId : ServiceGroupId} (hmem : sgId ∈ todo) (hne : sgId = sgId' → op ≠ .release) :
    sgId ∈ stillToRelease c r todo := by
  cases c <;> simp_all [leaseOp, stillToRelease]

theorem self_mem_stillToRelease {c : CoordinationCall} {op : TtlLease.Op} {sgId : ServiceGroupId}
    (h : leaseOp c = some (op, sgId)) (r : c.Reply) (todo : Finset ServiceGroupId)
    (hne : op ≠ .release) : sgId ∈ stillToRelease c r todo := by
  cases c <;> simp_all [leaseOp, stillToRelease]

theorem settles_releasePass {next : TickProgress → CoordinationProgram}
    (hnext : ∀ p, (next p).Settles stillToRelease (· = ∅) ∅) (todo : List ServiceGroupId)
    (p : TickProgress) (hnd : todo.Nodup) :
    (releasePass todo p next).Settles stillToRelease (· = ∅) todo.toFinset := by
  induction todo generalizing p with
  | nil => exact hnext p
  | cons sgId rest ih =>
    obtain ⟨hnot, hnd'⟩ := List.nodup_cons.mp hnd
    intro result
    have hrest : stillToRelease (.leaseRelease sgId) result (sgId :: rest).toFinset =
        rest.toFinset := by
      simp [stillToRelease, hnot]
    rw [hrest]
    dsimp only
    split
    · exact ih _ hnd'
    · exact ih _ hnd'

/-- Whatever its calls are answered, `release_all` asks for every group it started with. -/
theorem settles_releaseAll (order : List ServiceGroupId) (held : HeldLeases)
    (h : Lists order held) :
    (m.releaseAll order held).Settles stillToRelease (· = ∅) held := by
  rw [← h.2]
  refine settles_releasePass (fun p => ?_) order _ h.1
  split
  · exact fun result => rfl
  · rfl

/-- What the shed loop and the acquire loops keep of the progress of a tick over `groups`. -/
structure KeptByPasses (groups : List ServiceGroupId) (J : TickProgress → Prop) : Prop where
  released : ∀ p sgId, J p → J (p.addReleased sgId)
  failed : ∀ p sgId, J p → J (p.addFailed sgId)
  acquired : ∀ p sgId, sgId ∈ groups → J p → J (p.addAcquired sgId)

/-- `K`, of what is still to be tried, what has been attempted and the progress, is followed
through the first acquire loop. -/
structure FollowsAcquire
    (K : List ServiceGroupId → List ServiceGroupId → TickProgress → Prop) : Prop where
  skipped : ∀ sgId rest attempted p, K (sgId :: rest) attempted p → K rest attempted p
  acquired : ∀ sgId rest attempted p, sgId ∉ p.held → K (sgId :: rest) attempted p →
    K rest (sgId :: attempted) (p.addAcquired sgId)
  failed : ∀ sgId rest attempted p, sgId ∉ p.held → K (sgId :: rest) attempted p →
    K rest (sgId :: attempted) (p.addFailed sgId)

/-- The same for the second one, which tries nothing that has been attempted. -/
structure FollowsSweep (attempted : List ServiceGroupId)
    (K : List ServiceGroupId → TickProgress → Prop) : Prop where
  skipped : ∀ sgId rest p, K (sgId :: rest) p → K rest p
  acquired : ∀ sgId rest p, sgId ∉ p.held → sgId ∉ attempted → K (sgId :: rest) p →
    K rest (p.addAcquired sgId)
  failed : ∀ sgId rest p, sgId ∉ p.held → sgId ∉ attempted → K (sgId :: rest) p →
    K rest (p.addFailed sgId)

namespace KeptByPasses
variable {groups : List ServiceGroupId} {J : TickProgress → Prop} (hJ : KeptByPasses groups J)
include hJ

theorem followsAcquire : FollowsAcquire fun todo _ p => (∀ sgId ∈ todo, sgId ∈ groups) ∧ J p where
  skipped _ _ _ _ h := ⟨fun x hx => h.1 x (List.mem_cons_of_mem _ hx), h.2⟩
  acquired sgId _ _ p _ h := ⟨fun x hx => h.1 x (List.mem_cons_of_mem _ hx),
    hJ.acquired p sgId (h.1 sgId List.mem_cons_self) h.2⟩
  failed sgId _ _ p _ h := ⟨fun x hx => h.1 x (List.mem_cons_of_mem _ hx), hJ.failed p sgId h.2⟩

theorem followsSweep {attempted : List ServiceGroupId} :
    FollowsSweep attempted fun todo p => (∀ sgId ∈ todo, sgId ∈ groups) ∧ J p where
  skipped _ _ _ h := ⟨fun x hx => h.1 x (List.mem_cons_of_mem _ hx), h.2⟩
  acquired sgId _ p _ _ h := ⟨fun x hx => h.1 x (List.mem_cons_of_mem _ hx),
    hJ.acquired p sgId (h.1 sgId List.mem_cons_self) h.2⟩
  failed sgId _ p _ _ h := ⟨fun x hx => h.1 x (List.mem_cons_of_mem _ hx), hJ.failed p sgId h.2⟩

end KeptByPasses

section Ends
variable {Q : CoordinationProgram → Prop}
  (hcall : ∀ v c k, leaseOp c ≠ none → (∀ r, Q (k r)) → Q (.call v c k))
include hcall

theorem renewPass_ends {K : List ServiceGroupId → TickProgress → Prop}
    (hrenewed : ∀ sgId rest p, K (sgId :: rest) p → K rest (p.addRenewed sgId))
    (hlost : ∀ sgId rest p, K (sgId :: rest) p → K rest (p.addLost sgId))
    {next : TickProgress → CoordinationProgram} (hnext : ∀ p, K [] p → Q (next p))
    (todo : List ServiceGroupId) (p : TickProgress) (h : K todo p) :
    Q (renewPass todo p next) := by
  induction todo generalizing p with
  | nil => exact hnext p h
  | cons sgId rest ih =>
    refine hcall _ _ _ (by simp [leaseOp]) ?_
    intro result
    split
    · exact ih _ (hrenewed sgId rest p h)
    · exact ih _ (hlost sgId rest p h)

theorem shedPass_ends {J : TickProgress → Prop} (hreleased : ∀ p sgId, J p → J (p.addReleased sgId))
    (hfailed : ∀ p sgId, J p → J (p.addFailed sgId)) {next : TickProgress → CoordinationProgram}
    (hnext : ∀ p, J p → Q (next p)) (todo : List ServiceGroupId) (p : TickProgress) (h : J p) :
    Q (m.shedPass todo p next) := by
  induction todo generalizing p with
  | nil => exact hnext p h
  | cons sgId rest ih =>
    simp only [shedPass]
    split
    · exact hnext p h
    · refine hcall _ _ _ (by simp [leaseOp]) ?_
      intro result
      split
      · exact ih _ (hreleased p sgId h)
      · exact ih _ (hfailed p sgId h)

theorem sweepPass_ends {attempted : List ServiceGroupId}
    {K : List ServiceGroupId → TickProgress → Prop} (hK : FollowsSweep attempted K)
    {next : TickProgress → CoordinationProgram} (hnext : ∀ todo p, K todo p → Q (next p))
    (todo : List ServiceGroupId) (p : TickProgress) (h : K todo p) :
    Q (m.sweepPass attempted todo p next) := by
  induction todo generalizing p with
  | nil => exact hnext [] p h
  | cons sgId rest ih =>
    simp only [sweepPass]
    split
    · exact hnext _ p h
    · split
      · exact ih p (hK.skipped sgId rest p h)
      · next hnot =>
        split
        · exact ih p (hK.skipped sgId rest p h)
        · next hnew =>
          refine hcall _ _ _ (by simp [leaseOp]) ?_
          intro result
          split
          · exact ih _ (hK.acquired sgId rest p hnot hnew h)
          · exact ih _ (hK.failed sgId rest p hnot hnew h)

theorem acquirePass_ends {K : List ServiceGroupId → List ServiceGroupId → TickProgress → Prop}
    (hK : FollowsAcquire K) {next : TickProgress → List ServiceGroupId → CoordinationProgram}
    (hnext : ∀ todo attempted p, K todo attempted p → Q (next p attempted))
    (todo attempted : List ServiceGroupId) (p : TickProgress) (h : K todo attempted p) :
    Q (m.acquirePass todo p attempted next) := by
  induction todo generalizing p attempted with
  | nil => exact hnext [] attempted p h
  | cons sgId rest ih =>
    simp only [acquirePass]
    split
    · exact hnext _ attempted p h
    · split
      · exact ih attempted p (hK.skipped sgId rest attempted p h)
      · next hnot =>
        refine hcall _ _ _ (by simp [leaseOp]) ?_
        intro result
        split
        · exact ih _ _ (hK.acquired sgId rest attempted p hnot h)
        · exact ih _ _ (hK.failed sgId rest attempted p hnot h)

/-- The rule of both acquire loops: `K` is followed through the first, and `L` through the second
from where the first has ended. -/
theorem refillPass_ends {groups : List ServiceGroupId}
    {K : List ServiceGroupId → List ServiceGroupId → TickProgress → Prop}
    {L : List ServiceGroupId → List ServiceGroupId → TickProgress → Prop}
    {J E : TickProgress → Prop} (hK : FollowsAcquire K) (hL : ∀ attempted, FollowsSweep attempted
      (L attempted)) (hstart : ∀ p, J p → K (m.candidateServiceGroups sha256 groups) [] p)
    (hsweep : ∀ todo attempted p, K todo attempted p → L attempted (sortedServiceGroups groups) p)
    (hend : ∀ todo attempted p, L attempted todo p → E p) (hidle : ∀ p, J p → E p)
    {next : TickProgress → CoordinationProgram} (hnext : ∀ p, E p → Q (next p)) (p : TickProgress)
    (h : J p) : Q (m.refillPass sha256 groups next p) := by
  simp only [refillPass]
  split
  · refine m.acquirePass_ends hcall hK ?_ _ _ p (hstart p h)
    intro todo attempted p hp
    have hp' := hsweep todo attempted p hp
    split
    · refine m.sweepPass_ends hcall (hL attempted) ?_ _ p hp'
      intro rest q hq
      exact hnext q (hend rest attempted q hq)
    · exact hnext p (hend _ attempted p hp')
  · exact hnext p (hidle p h)

/-- The rule of the lease pass: `K` is followed through the renewals, and becomes what the
other loops keep. -/
theorem leasePass_ends {groups : List ServiceGroupId} {J : TickProgress → Prop}
    (hJ : KeptByPasses groups J) {next : TickProgress → CoordinationProgram}
    {K : List ServiceGroupId → TickProgress → Prop}
    (hrenewed : ∀ sgId rest p, K (sgId :: rest) p → K rest (p.addRenewed sgId))
    (hlost : ∀ sgId rest p, K (sgId :: rest) p → K rest (p.addLost sgId))
    (hrest : ∀ p, K [] p → J p) (hnext : ∀ p, J p → Q (next p)) (held : HeldLeases)
    (h : K (sortedHeldLeases held) ⟨held, [], [], [], []⟩) :
    Q (m.leasePass sha256 groups held next) := by
  rw [leasePass_eq]
  refine renewPass_ends hcall hrenewed hlost ?_ _ _ h
  intro p hp
  refine m.shedPass_ends hcall hJ.released hJ.failed ?_ _ p (hrest p hp)
  have hacquire := hJ.followsAcquire
  refine m.refillPass_ends sha256 hcall hacquire (fun _ => hJ.followsSweep) ?_ ?_ ?_ ?_ hnext
  · intro q hq
    exact ⟨fun sgId hmem => (m.candidateServiceGroups_perm sha256 groups).mem_iff.mp hmem, hq⟩
  · intro todo attempted q hq
    exact ⟨fun sgId hmem => (sortedServiceGroups_perm groups).mem_iff.mp hmem, hq.2⟩
  · intro todo attempted q hq
    exact hq.2
  · intro q hq
    exact hq

end Ends
end CoordinationManager
end PypnmCmts
