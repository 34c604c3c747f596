import PypnmCmts.InventoryChanges
import PypnmCmts.LauncherRun

/-! The lists that a tick of a manager reports, against what the manager held before it and holds
after it. -/
namespace PypnmCmts

open LabelledRun CallTree

/-- A call of a method of a manager. `release_all` goes through the held set in some order. -/
inductive ManagerCall
  | tick (serviceGroups : List ServiceGroupId)
  | tickLeaderOnly
  | releaseAll (order : List ServiceGroupId)

/-- The lists of a tick: what it acquired or renewed is held after it, and nothing else. What
failed are the groups that were held and not renewed, and then those that were refused. -/
structure TickAccounts (before after : HeldLeases) (result : CoordinationTickResultModel) :
    Prop where
  acquired_nodup : result.acquiredSgIds.Nodup
  renewed_nodup : result.renewedSgIds.Nodup
  released_nodup : result.releasedSgIds.Nodup
  disjoint : ∀ sgId ∈ result.acquiredSgIds, sgId ∉ result.renewedSgIds
  held : ∀ sgId, sgId ∈ after ↔ sgId ∈ result.acquiredSgIds ∨ sgId ∈ result.renewedSgIds
  released : ∀ sgId ∈ result.releasedSgIds, sgId ∉ after
  failed : ∃ lost refused, result.failedSgIds = lost ++ refused ∧ lost.Nodup ∧ refused.Nodup ∧
    (∀ sgId, sgId ∈ lost ↔ sgId ∈ before ∧ sgId ∉ result.renewedSgIds) ∧
    ∀ sgId ∈ refused, sgId ∉ after

/-- The same of the lists on the way, with what has been refused so far. -/
structure AccountsSoFar (before : HeldLeases) (p : TickProgress)
    (refused : List ServiceGroupId) : Prop where
  nodup : (p.acquired ++ p.renewed).Nodup
  held : ∀ sgId, sgId ∈ p.held ↔ sgId ∈ p.acquired ++ p.renewed
  released : p.released = []
  failed : ∃ lost, p.failed = lost ++ refused ∧ lost.Nodup ∧
    ∀ sgId, sgId ∈ lost ↔ sgId ∈ before ∧ sgId ∉ p.renewed
  refused_nodup : refused.Nodup
  refused_held : ∀ sgId ∈ refused, sgId ∉ p.held

namespace AccountsSoFar
variable {before : HeldLeases} {p : TickProgress} {refused : List ServiceGroupId}
  {sgId : ServiceGroupId} (h : AccountsSoFar before p refused)
include h

theorem addAcquired (hheld : sgId ∉ p.held) (hnew : sgId ∉ refused) :
    AccountsSoFar before (p.addAcquired sgId) refused where
  nodup := by
    have hnot : sgId ∉ p.acquired ++ p.renewed := by rwa [← h.held]
    have hperm : (p.acquired ++ [sgId] ++ p.renewed).Perm (sgId :: (p.acquired ++ p.renewed)) := by
      rw [List.append_assoc]
      exact List.perm_middle
    exact hperm.nodup_iff.mpr (List.nodup_cons.mpr ⟨hnot, h.nodup⟩)
  held x := by
    have hx := h.held x
    simp only [TickProgress.addAcquired, Finset.mem_insert, hx, List.mem_append,
      List.mem_singleton]
    tauto
  released := h.released
  failed := h.failed
  refused_nodup := h.refused_nodup
  refused_held x hx := by
    intro hmem
    rcases Finset.mem_insert.mp hmem with rfl | hmem
    · exact hnew hx
    · exact h.refused_held x hx hmem

theorem addRefused (hheld : sgId ∉ p.held) (hnew : sgId ∉ refused) :
    AccountsSoFar before (p.addFailed sgId) (refused ++ [sgId]) where
  nodup := h.nodup
  held := h.held
  released := h.released
  failed := by
    obtain ⟨lost, hfailed, hlost⟩ := h.failed
    refine ⟨lost, ?_, hlost⟩
    rw [← List.append_assoc, ← hfailed]
    rfl
  refused_nodup := List.nodup_append.mpr ⟨h.refused_nodup, List.nodup_singleton _, by
    intro x hx y hy
    obtain rfl := List.mem_singleton.mp hy
    exact fun he => hnew (he ▸ hx)⟩
  refused_held x hx := by
    rcases List.mem_append.mp hx with hx | hx
    · exact h.refused_held x hx
    · obtain rfl := List.mem_singleton.mp hx
      exact hheld

theorem tickAccounts (isLeader : Bool) (leaderId : LeaderId) :
    TickAccounts before p.held (CoordinationManager.tickResult isLeader leaderId p) where
  acquired_nodup := (List.nodup_append.mp h.nodup).1
  renewed_nodup := (List.nodup_append.mp h.nodup).2.1
  released_nodup := by
    change p.released.Nodup
    rw [h.released]
    exact List.nodup_nil
  disjoint x hx hx' := (List.nodup_append.mp h.nodup).2.2 x hx x hx' rfl
  held x := (h.held x).trans List.mem_append
  released x hx := by
    change x ∈ p.released at hx
    rw [h.released] at hx
    cases hx
  failed := by
    obtain ⟨lost, hfailed, hnodup, hlost⟩ := h.failed
    exact ⟨lost, refused, hfailed, hnodup, h.refused_nodup, hlost, h.refused_held⟩

end AccountsSoFar

namespace CoordinationManager
variable (m : CoordinationManager) (sha256 : List UInt8 → List UInt8)

/-- The renewals so far, with the groups `todo` still to be renewed. -/
structure RenewedSoFar (before : HeldLeases) (todo : List ServiceGroupId) (p : TickProgress) :
    Prop where
  perm : (p.renewed ++ (p.failed ++ todo)).Perm (sortedHeldLeases before)
  acquired : p.acquired = []
  released : p.released = []
  held : ∀ sgId, sgId ∈ p.held ↔ sgId ∈ p.renewed ∨ sgId ∈ todo

namespace RenewedSoFar
variable {before : HeldLeases} {todo : List ServiceGroupId} {p : TickProgress}
  {sgId : ServiceGroupId}

theorem addRenewed (h : RenewedSoFar before (sgId :: todo) p) :
    RenewedSoFar before todo (p.addRenewed sgId) where
  perm := by
    refine List.Perm.trans ?_ h.perm
    simp only [TickProgress.addRenewed, List.append_assoc, List.singleton_append]
    exact List.Perm.append_left _ List.perm_middle.symm
  acquired := h.acquired
  released := h.released
  held x := by
    have hx := h.held x
    simp only [TickProgress.addRenewed, hx, List.mem_append, List.mem_cons, List.not_mem_nil,
      or_false]
    tauto

theorem addLost (h : RenewedSoFar before (sgId :: todo) p) :
    RenewedSoFar before todo (p.addLost sgId) where
  perm := by
    refine List.Perm.trans (List.Perm.of_eq ?_) h.perm
    simp [TickProgress.addLost]
  acquired := h.acquired
  released := h.released
  held x := by
    -- a group that is still to be renewed is listed once
    have hnodup := h.perm.nodup_iff.mpr (nodup_sortedHeldLeases before)
    have hx := h.held x
    simp only [List.nodup_append, List.nodup_cons, List.mem_append, List.mem_cons] at hnodup
    simp only [TickProgress.addLost, Finset.mem_erase, hx, List.mem_cons]
    grind

theorem card_le (h : RenewedSoFar before todo p) : p.held.card ≤ before.card := by
  apply Finset.card_le_card
  intro x hx
  rw [← mem_sortedHeldLeases, ← h.perm.mem_iff]
  have hmem := (h.held x).mp hx
  simp only [List.mem_append]
  tauto

theorem accountsSoFar (h : RenewedSoFar before [] p) : AccountsSoFar before p [] := by
  have hperm := h.perm
  rw [List.append_nil] at hperm
  have hnodup := hperm.nodup_iff.mpr (nodup_sortedHeldLeases before)
  obtain ⟨hrenewed, hfailed, hdisjoint⟩ := List.nodup_append.mp hnodup
  refine ⟨?_, ?_, h.released, ⟨p.failed, ?_, hfailed, ?_⟩, List.nodup_nil, ?_⟩
  · rw [h.acquired]
    exact hrenewed
  · intro x
    rw [h.held, h.acquired]
    simp
  · rw [List.append_nil]
  · intro x
    rw [← mem_sortedHeldLeases, ← hperm.mem_iff, List.mem_append]
    constructor
    · intro hx
      exact ⟨Or.inr hx, fun hx' => hdisjoint x hx' x hx rfl⟩
    · intro ⟨hx, hnot⟩
      exact hx.resolve_left hnot
  · intro x hx
    cases hx

end RenewedSoFar

/-- The first acquire loop: what has been refused has been attempted, and what is still to be tried
has not. -/
def AcquiresSoFar (before : HeldLeases) (todo attempted : List ServiceGroupId) (p : TickProgress) :
    Prop :=
  todo.Nodup ∧ (∀ sgId ∈ todo, sgId ∉ attempted) ∧
    ∃ refused, AccountsSoFar before p refused ∧ ∀ sgId ∈ refused, sgId ∈ attempted

/-- The second one: what has been refused has been attempted before it, or is behind. -/
def SweepsSoFar (before : HeldLeases) (attempted todo : List ServiceGroupId) (p : TickProgress) :
    Prop :=
  todo.Nodup ∧ ∃ refused, AccountsSoFar before p refused ∧
    ∀ sgId ∈ refused, sgId ∈ attempted ∨ sgId ∉ todo

section lists
variable {sgId : ServiceGroupId} {rest attempted refused : List ServiceGroupId}

/-- A group that has been tried is not tried again. -/
theorem unattempted_of_cons (hnodup : (sgId :: rest).Nodup)
    (hnew : ∀ x ∈ sgId :: rest, x ∉ attempted) : ∀ x ∈ rest, x ∉ sgId :: attempted := by
  intro x hx
  have hne : x ≠ sgId := fun he => (List.nodup_cons.mp hnodup).1 (he ▸ hx)
  simp [hne, hnew x (List.mem_cons_of_mem _ hx)]

theorem behind_of_cons (h : ∀ x ∈ refused, x ∈ attempted ∨ x ∉ sgId :: rest) :
    ∀ x ∈ refused, x ∈ attempted ∨ x ∉ rest := by
  intro x hx
  apply (h x hx).imp_right
  intro hnot hrest
  exact hnot (List.mem_cons_of_mem _ hrest)

theorem notMem_refused (hnew : sgId ∉ attempted)
    (h : ∀ x ∈ refused, x ∈ attempted ∨ x ∉ sgId :: rest) : sgId ∉ refused := by
  intro hx
  exact (h sgId hx).elim hnew fun hnot => hnot List.mem_cons_self

end lists

theorem followsAcquire_accounts (before : HeldLeases) : FollowsAcquire (AcquiresSoFar before) where
  skipped sgId rest attempted p h := by
    obtain ⟨hnodup, hnew, hrefused⟩ := h
    exact ⟨(List.nodup_cons.mp hnodup).2, fun x hx => hnew x (List.mem_cons_of_mem _ hx), hrefused⟩
  acquired sgId rest attempted p hheld h := by
    obtain ⟨hnodup, hnew, refused, haccounts, hrefused⟩ := h
    have hfresh : sgId ∉ refused := fun hx => hnew sgId List.mem_cons_self (hrefused sgId hx)
    refine ⟨(List.nodup_cons.mp hnodup).2, unattempted_of_cons hnodup hnew, refused,
      haccounts.addAcquired hheld hfresh, ?_⟩
    intro x hx
    exact List.mem_cons_of_mem _ (hrefused x hx)
  failed sgId rest attempted p hheld h := by
    obtain ⟨hnodup, hnew, refused, haccounts, hrefused⟩ := h
    have hfresh : sgId ∉ refused := fun hx => hnew sgId List.mem_cons_self (hrefused sgId hx)
    refine ⟨(List.nodup_cons.mp hnodup).2, unattempted_of_cons hnodup hnew, refused ++ [sgId],
      haccounts.addRefused hheld hfresh, ?_⟩
    intro x hx
    rcases List.mem_append.mp hx with hx | hx
    · exact List.mem_cons_of_mem _ (hrefused x hx)
    · exact List.mem_cons.mpr (Or.inl (List.mem_singleton.mp hx))

theorem followsSweep_accounts (before : HeldLeases) (attempted : List ServiceGroupId) :
    FollowsSweep attempted (SweepsSoFar before attempted) where
  skipped sgId rest p h := by
    obtain ⟨hnodup, refused, haccounts, hrefused⟩ := h
    exact ⟨(List.nodup_cons.mp hnodup).2, refused, haccounts, behind_of_cons hrefused⟩
  acquired sgId rest p hheld hnew h := by
    obtain ⟨hnodup, refused, haccounts, hrefused⟩ := h
    exact ⟨(List.nodup_cons.mp hnodup).2, refused,
      haccounts.addAcquired hheld (notMem_refused hnew hrefused), behind_of_cons hrefused⟩
  failed sgId rest p hheld hnew h := by
    obtain ⟨hnodup, refused, haccounts, hrefused⟩ := h
    refine ⟨(List.nodup_cons.mp hnodup).2, refused ++ [sgId],
      haccounts.addRefused hheld (notMem_refused hnew hrefused), ?_⟩
    intro x hx
    rcases List.mem_append.mp hx with hx | hx
    · exact behind_of_cons hrefused x hx
    · obtain rfl := List.mem_singleton.mp hx
      exact Or.inr (List.nodup_cons.mp hnodup).1

/-- A manager that holds no more than its target releases nothing in a tick. -/
theorem shedPass_of_le {next : TickProgress → CoordinationProgram} (todo : List ServiceGroupId)
    {p : TickProgress} (h : p.held.card ≤ m.targetServiceGroups) :
    m.shedPass todo p next = next p := by
  cases todo with
  | nil => rfl
  | cons sgId rest => rw [shedPass, if_pos h]

/-- How a tick may end. -/
def EndsAccounted (before after : HeldLeases) : CoordinationOutcome → Prop
  | .tick result => TickAccounts before after result
  | _ => True

theorem ends_tick_accounted {groups : List ServiceGroupId} (hgroups : groups.Nodup)
    {before : HeldLeases} (hcard : before.card ≤ m.targetServiceGroups) :
    (m.tick sha256 groups before).Ends (EndsAccounted before) := by
  refine m.ends_leaderPass trivial ?_
  intro isLeader leaderId
  rw [leasePass_eq]
  have hcall : ∀ v c k, leaseOp c ≠ none → (∀ r, (k r).Ends (EndsAccounted before)) →
      (CallTree.call v c k : CoordinationProgram).Ends (EndsAccounted before) := by
    intro v c k _ hk
    exact hk
  have hstart : RenewedSoFar before (sortedHeldLeases before) ⟨before, [], [], [], []⟩ := by
    refine ⟨List.Perm.refl _, rfl, rfl, ?_⟩
    intro x
    simp
  refine renewPass_ends hcall (K := RenewedSoFar before) (fun _ _ _ h => h.addRenewed)
    (fun _ _ _ h => h.addLost) ?_ _ _ hstart
  intro p hp
  rw [m.shedPass_of_le _ (hp.card_le.trans hcard)]
  refine m.refillPass_ends sha256 hcall (followsAcquire_accounts before)
    (followsSweep_accounts before) (J := fun p => AccountsSoFar before p [])
    (E := fun p => ∃ refused, AccountsSoFar before p refused) ?_ ?_ ?_ ?_ ?_ p hp.accountsSoFar
  · intro q hq
    refine ⟨(m.candidateServiceGroups_perm sha256 groups).nodup_iff.mpr hgroups, ?_, [], hq, ?_⟩
    · intro x _
      exact List.not_mem_nil
    · intro x hx
      cases hx
  · intro todo attempted q hq
    obtain ⟨-, -, refused, haccounts, hrefused⟩ := hq
    exact ⟨(sortedServiceGroups_perm groups).nodup_iff.mpr hgroups, refused, haccounts,
      fun x hx => Or.inl (hrefused x hx)⟩
  · intro todo attempted q hq
    obtain ⟨-, refused, haccounts, -⟩ := hq
    exact ⟨refused, haccounts⟩
  · intro q hq
    exact ⟨[], hq⟩
  · intro q hq
    obtain ⟨refused, haccounts⟩ := hq
    exact haccounts.tickAccounts isLeader leaderId

theorem card_heldAfter {target : ℕ} {held : HeldLeases} {c : CoordinationCall} (r : c.Reply)
    (hallows : Allows target held c) (hcard : held.card ≤ target) :
    (heldAfter c r held).card ≤ target := by
  cases c <;> simp only [heldAfter]
  case leaseTryAcquire sgId =>
    split
    · exact (Finset.card_insert_le _ _).trans hallows
    · exact hcard
  case leaseRenew sgId =>
    split
    · exact hcard
    · exact Finset.card_erase_le.trans hcard
  case leaseRelease sgId =>
    split
    · exact Finset.card_erase_le.trans hcard
    · exact hcard
  all_goals exact hcard

variable (held : HeldLeases)

def programOf : ManagerCall → CoordinationProgram
  | .tick serviceGroups => m.tick sha256 serviceGroups held
  | .tickLeaderOnly => m.tickLeaderOnly held
  | .releaseAll order => m.releaseAll order held

/-- The held set after a method, all its calls answered. -/
def heldStep (held : HeldLeases)
    (a : ManagerCall × (ℕ → (c : CoordinationCall) → c.Reply)) : HeldLeases :=
  (answered (m.programOf sha256 held a.1) a.2).1

variable {held}

/-- No method takes the held set beyond the target. -/
theorem card_heldStep (hcard : held.card ≤ m.targetServiceGroups)
    (a : ManagerCall × (ℕ → (c : CoordinationCall) → c.Reply)) :
    (m.heldStep sha256 held a).card ≤ m.targetServiceGroups := by
  have hends : (m.programOf sha256 held a.1).Ends
      fun after _ => after.card ≤ m.targetServiceGroups := by
    cases a.1 with
    | tick serviceGroups =>
      have hobeys := m.obeys_tick sha256 serviceGroups held
      refine hobeys.ends (I := fun after => after.card ≤ m.targetServiceGroups) ?_ ?_
      · intro v c r hallows hle
        exact card_heldAfter r hallows hle
      · rw [visible_tick]
        exact hcard
    | tickLeaderOnly =>
      rw [programOf, tickLeaderOnly]
      refine m.ends_leaderPass (P := fun after _ => after.card ≤ m.targetServiceGroups) hcard ?_
      intro isLeader leaderId
      exact hcard
    | releaseAll order =>
      apply m.ends_releaseAll order
      intro after hsub result
      exact (Finset.card_le_card hsub).trans hcard
  exact hends.run _ _

/-- Every tick over a list without repeats accounts for its held set, whatever methods were called
before it and whatever their calls and its own were answered. -/
theorem tick_accounts (m : CoordinationManager) (sha256 : List UInt8 → List UInt8)
    (calls : List (ManagerCall × (ℕ → (c : CoordinationCall) → c.Reply)))
    (serviceGroups : List ServiceGroupId) (hgroups : serviceGroups.Nodup)
    (replies : ℕ → (c : CoordinationCall) → c.Reply) (after : HeldLeases)
    (result : CoordinationTickResultModel)
    (htick : answered (m.tick sha256 serviceGroups (exec (m.heldStep sha256) ∅ calls)) replies =
      (after, .tick result)) :
    TickAccounts (exec (m.heldStep sha256) ∅ calls) after result := by
  have hcard : (exec (m.heldStep sha256) ∅ calls).card ≤ m.targetServiceGroups :=
    invariant_of_step (I := fun held : HeldLeases => held.card ≤ m.targetServiceGroups)
      (fun _ a h => m.card_heldStep sha256 h a) calls (Nat.zero_le _)
  have hends : EndsAccounted (exec (m.heldStep sha256) ∅ calls)
      (answered (m.tick sha256 serviceGroups (exec (m.heldStep sha256) ∅ calls)) replies).1
      (answered (m.tick sha256 serviceGroups (exec (m.heldStep sha256) ∅ calls)) replies).2 :=
    (m.ends_tick_accounted sha256 hgroups hcard).run _ _
  rwa [htick] at hends

/-- A lease record is locked while its renewal is tried. Whether it still is when it is tried to be
acquired is `busy`. -/
def busyReplies (busy : Bool) : ℕ → (c : CoordinationCall) → c.Reply
  | _, .leaseRenew sgId =>
    ⟨false, false, sgId, "", 0, 0, 0, FileServiceGroupLease.messageBusy⟩
  | _, .leaseTryAcquire sgId =>
    if busy then ⟨false, false, sgId, "", 0, 0, 0, FileServiceGroupLease.messageBusy⟩
    else ⟨true, true, sgId, "a", 0, 10, 10, FileServiceGroupLease.messageAcquired⟩
  | n, c => CmtsOrchestratorLauncher.leaderAnswers.replies n c

def pairManager : CoordinationManager := CoordinationGroup.pairManagers.manager true

/-- The group 1 is acquired. -/
def firstTick : ManagerCall × (ℕ → (c : CoordinationCall) → c.Reply) :=
  (.tick [1], busyReplies false)

theorem tick_accounts_renewed :
    TickAccounts {1} {1} (tickResult true "a" ⟨{1}, [], [1], [], []⟩) :=
  tick_accounts pairManager id [firstTick] [2, 1] (by decide)
    CmtsOrchestratorLauncher.leaderAnswers.replies _ _ (by rfl)

/-- The renewal is refused, and what comes of the attempt to acquire the group again. -/
theorem tick_accounts_lost :
    ∃ regained refused, answered (pairManager.tick id [1]
        (exec (pairManager.heldStep id) ∅ [firstTick])) (busyReplies false) =
      ({1}, .tick regained) ∧
      answered (pairManager.tick id [1]
        (exec (pairManager.heldStep id) ∅ [firstTick])) (busyReplies true) =
      (∅, .tick refused) ∧
      1 ∈ regained.failedSgIds ∧ ¬refused.failedSgIds.Nodup := by
  refine ⟨tickResult true "a" ⟨{1}, [1], [], [], [1]⟩, tickResult true "a" ⟨∅, [], [], [], [1, 1]⟩,
    by rfl, by rfl, by decide, by decide⟩

end CoordinationManager
end PypnmCmts
