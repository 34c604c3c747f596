import PypnmCmts.CoordinationSystem

/-! Uninterrupted ticks within a window of time in which no lease runs out. Over such a
window the record files amount to a map from service groups to owners. -/
namespace PypnmCmts

open CallTree TtlLease

namespace CoordinationGroup
variable {ι : Type*} (group : CoordinationGroup ι) (t₀ H : ℚ)

/-- No record runs out between `t₀` and `H`. -/
def Settled (d : CoordinationDisk) : Prop :=
  ∀ sgId g, group.grant d sgId = some g → g.expires ≤ t₀ ∨ H ≤ g.expires

/-- Who holds a service group throughout the window. -/
def holder (d : CoordinationDisk) (sgId : ServiceGroupId) : Option OwnerId :=
  ((group.grant d sgId).filter fun g => H ≤ g.expires).map (·.owner)

variable {group t₀ H}

theorem inForce_of_settled {d : CoordinationDisk} (hd : group.Settled t₀ H d) {now : ℚ}
    (h0 : t₀ ≤ now) (h1 : now < H) (sgId : ServiceGroupId) :
    inForce (group.grant d sgId) now = (group.grant d sgId).filter fun g => H ≤ g.expires := by
  cases hg : group.grant d sgId with
  | none => rfl
  | some g =>
    have hiff : now < g.expires ↔ H ≤ g.expires := by
      rcases hd sgId g hg with h | h
      · exact ⟨fun hlt => absurd (h.trans h0) (not_le.mpr hlt),
          fun hle => absurd (hle.trans (h.trans h0)) (not_le.mpr h1)⟩
      · exact ⟨fun _ => h, fun _ => h1.trans_le h⟩
    simp only [inForce, Option.filter, hiff]

theorem holder_eq_none {d : CoordinationDisk} {sgId : ServiceGroupId} :
    group.holder H d sgId = none ↔ (group.grant d sgId).filter (fun g => H ≤ g.expires) = none := by
  rw [holder, Option.map_eq_none_iff]

theorem holder_eq_some {d : CoordinationDisk} {sgId : ServiceGroupId} {o : OwnerId} :
    group.holder H d sgId = some o ↔
      ∃ g, (group.grant d sgId).filter (fun g => H ≤ g.expires) = some g ∧ g.owner = o := by
  rw [holder, Option.map_eq_some_iff]

/-- A fresh record of an owner whose leases outlast the window. -/
theorem write_fresh {d d' : CoordinationDisk} (hd : group.Settled t₀ H d) {sgId : ServiceGroupId}
    {o : OwnerId} {e : ℚ} (he : H ≤ e) (hg : group.grant d' sgId = some ⟨o, e⟩)
    (hother : ∀ x, x ≠ sgId → d'.leases x = d.leases x) :
    group.Settled t₀ H d' ∧ group.holder H d' = Function.update (group.holder H d) sgId
      (some o) := by
  have hgrant (x : ServiceGroupId) (hx : x ≠ sgId) : group.grant d' x = group.grant d x := by
    rw [grant, grant, hother x hx]
  refine ⟨?_, ?_⟩
  · intro x g hx
    by_cases hsg : x = sgId
    · subst hsg
      obtain rfl := Option.some.inj (hg.symm.trans hx)
      exact Or.inr he
    · exact hd x g (hgrant x hsg ▸ hx)
  · funext x
    by_cases hsg : x = sgId
    · subst hsg
      rw [Function.update_self, holder_eq_some]
      exact ⟨⟨o, e⟩, by simp [hg, Option.filter, he], rfl⟩
    · rw [Function.update_of_ne hsg, holder, holder, hgrant x hsg]

theorem settled_congr {d d' : CoordinationDisk} (hd : group.Settled t₀ H d)
    (h : ∀ sgId, group.grant d' sgId = group.grant d sgId) :
    group.Settled t₀ H d' ∧ group.holder H d' = group.holder H d := by
  refine ⟨fun sgId g hg => hd sgId g (h sgId ▸ hg), ?_⟩
  funext sgId
  rw [holder, holder, h]

theorem grant_update (d : CoordinationDisk) (sgId x : ServiceGroupId) (file : LeaseFile) :
    group.grant ⟨d.leader, Function.update d.leases sgId file⟩ x =
      if x = sgId then file.grant group.electionName x else group.grant d x := by
  by_cases hx : x = sgId
  · subst hx
    simp [grant]
  · simp [grant, hx]

section Calls
variable {i : ι} {d : CoordinationDisk} {now : ℚ} (hd : group.Settled t₀ H d) (h0 : t₀ ≤ now)
  (h1 : now < H) (httl : H ≤ t₀+(group.manager i).leaseTtlSeconds) (sgId : ServiceGroupId)
include hd h0 h1 httl

/-- Within the window `try_acquire` takes the groups that nobody else holds. -/
theorem acquire_in_window :
    (((group.manager i).handle .ok now (.leaseTryAcquire sgId) d).1.acquired = true ↔
      group.holder H d sgId = none ∨ group.holder H d sgId = some (group.owner i)) ∧
    group.Settled t₀ H ((group.manager i).handle .ok now (.leaseTryAcquire sgId) d).2 ∧
    group.holder H ((group.manager i).handle .ok now (.leaseTryAcquire sgId) d).2 =
      if ((group.manager i).handle .ok now (.leaseTryAcquire sgId) d).1.acquired then
        Function.update (group.holder H d) sgId (some (group.owner i))
      else group.holder H d := by
  have hperf := group.perform_grant i sgId .acquire now d
  have hforce := inForce_of_settled hd h0 h1 sgId
  have httl' : H ≤ now+(group.manager i).leaseTtlSeconds := httl.trans (add_le_add_left h0 _)
  set result := (group.manager i).handle .ok now (.leaseTryAcquire sgId) d with hresult
  have hreply : (((group.manager i).leaseForSg sgId).perform .acquire .ok now
      (d.leases sgId)).1.reply = if result.1.acquired then .told result.1.expiresAt else
        .refused := rfl
  have hgrant (x : ServiceGroupId) : group.grant result.2 x =
      if x = sgId then (((group.manager i).leaseForSg sgId).perform .acquire .ok now
        (d.leases sgId)).2.grant group.electionName x else group.grant d x :=
    grant_update d sgId x _
  rw [hreply] at hperf
  have hfresh (e : ℚ) (he : H ≤ e) (hg : group.grant result.2 sgId = some ⟨group.owner i, e⟩) :=
    write_fresh hd he hg (fun x hx => by
      rw [hresult]
      exact Function.update_of_ne hx _ _)
  cases hf : (group.grant d sgId).filter (fun g => H ≤ g.expires) with
  -- free: the grant is fresh and outlasts the window
  | none =>
    rw [perform_acquire_none (hforce.trans hf)] at hperf
    obtain ⟨hr, hg⟩ := Prod.mk.inj hperf
    have hacq : result.1.acquired = true := by
      by_contra hne
      simp [hne] at hr
    have hg' : group.grant result.2 sgId =
        some ⟨group.owner i, now+(group.manager i).leaseTtlSeconds⟩ := by
      rw [hgrant, if_pos rfl, hg]
    refine ⟨⟨fun _ => Or.inl (holder_eq_none.mpr hf), fun _ => hacq⟩, ?_⟩
    rw [if_pos hacq]
    exact hfresh _ httl' hg'
  | some g =>
    have hholder : group.holder H d sgId = some g.owner := holder_eq_some.mpr ⟨g, hf, rfl⟩
    have hsame (hg : (((group.manager i).leaseForSg sgId).perform .acquire .ok now
        (d.leases sgId)).2.grant group.electionName sgId = group.grant d sgId) :
        group.Settled t₀ H result.2 ∧ group.holder H result.2 = group.holder H d := by
      refine settled_congr hd fun x => ?_
      rw [hgrant]
      split
      · next hx => rw [hx, hg]
      · rfl
    -- a grant in force is renewed by its owner and refused to the others
    by_cases ho : g.owner = group.owner i
    · rw [perform_acquire_own (hforce.trans hf) ho] at hperf
      obtain ⟨hr, hg⟩ := Prod.mk.inj hperf
      have hacq : result.1.acquired = true := by
        by_contra hne
        simp [hne] at hr
      rw [ho] at hholder
      refine ⟨⟨fun _ => Or.inr hholder, fun _ => hacq⟩, (hsame hg).1, ?_⟩
      rw [if_pos hacq, (hsame hg).2, ← hholder, Function.update_eq_self]
    · rw [perform_acquire_other (hforce.trans hf) ho] at hperf
      obtain ⟨hr, hg⟩ := Prod.mk.inj hperf
      have hacq : result.1.acquired = false := by
        by_contra hne
        simp [hne] at hr
      refine ⟨?_, (hsame hg).1, by rw [hacq]; exact (hsame hg).2⟩
      simp [hacq, hholder, ho]

/-- Within the window `renew` succeeds on the own groups, and no group changes hands. -/
theorem renew_in_window :
    (((group.manager i).handle .ok now (.leaseRenew sgId) d).1.renewed = true ↔
      group.holder H d sgId = some (group.owner i)) ∧
    group.Settled t₀ H ((group.manager i).handle .ok now (.leaseRenew sgId) d).2 ∧
    group.holder H ((group.manager i).handle .ok now (.leaseRenew sgId) d).2 =
      group.holder H d := by
  have hperf := group.perform_grant i sgId .renew now d
  have hforce := inForce_of_settled hd h0 h1 sgId
  have httl' : H ≤ now+(group.manager i).leaseTtlSeconds := httl.trans (add_le_add_left h0 _)
  set result := (group.manager i).handle .ok now (.leaseRenew sgId) d with hresult
  have hreply : (((group.manager i).leaseForSg sgId).perform .renew .ok now
      (d.leases sgId)).1.reply = if result.1.renewed then .told result.1.expiresAt else
        .refused := rfl
  have hgrant (x : ServiceGroupId) : group.grant result.2 x =
      if x = sgId then (((group.manager i).leaseForSg sgId).perform .renew .ok now
        (d.leases sgId)).2.grant group.electionName x else group.grant d x :=
    grant_update d sgId x _
  rw [hreply] at hperf
  have hrefused (hp : TtlLease.perform (group.owner i)
      ((group.manager i).leaseTtlSeconds : ℚ) .renew
      now (group.grant d sgId) = (.refused, group.grant d sgId)) :
      result.1.renewed = false ∧ group.Settled t₀ H result.2 ∧
        group.holder H result.2 = group.holder H d := by
    rw [hp] at hperf
    obtain ⟨hr, hg⟩ := Prod.mk.inj hperf
    refine ⟨?_, settled_congr hd fun x => ?_⟩
    · by_contra hne
      simp [hne] at hr
    · rw [hgrant]
      split
      · next hx => rw [hx, hg]
      · rfl
  cases hf : (group.grant d sgId).filter (fun g => H ≤ g.expires) with
  | none =>
    obtain ⟨hr, hrest⟩ := hrefused (perform_renew_none (hforce.trans hf))
    exact ⟨by simp [hr, holder_eq_none.mpr hf], hrest⟩
  | some g =>
    have hholder : group.holder H d sgId = some g.owner := holder_eq_some.mpr ⟨g, hf, rfl⟩
    by_cases ho : g.owner = group.owner i
    · rw [perform_renew_own (hforce.trans hf) ho] at hperf
      obtain ⟨hr, hg⟩ := Prod.mk.inj hperf
      have hren : result.1.renewed = true := by
        by_contra hne
        simp [hne] at hr
      obtain ⟨hset, hnew⟩ := write_fresh hd httl' ((hgrant sgId).trans (by rw [if_pos rfl, hg]))
        (fun x hx => by
          rw [hresult]
          exact Function.update_of_ne hx _ _)
      rw [ho] at hholder
      refine ⟨⟨fun _ => hholder, fun _ => hren⟩, hset, ?_⟩
      rw [hnew, ← hholder, Function.update_eq_self]
    · obtain ⟨hr, hrest⟩ := hrefused (perform_renew_other (hforce.trans hf) ho)
      exact ⟨by simp [hr, hholder, ho], hrest⟩

end Calls

/-- A handler of the calls of manager `i` that handles each of them at some time within the
window, without failure. -/
def Windowed (group : CoordinationGroup ι) (t₀ H : ℚ) (i : ι) {S : Type}
    (disk : S → CoordinationDisk) (handle : (c : CoordinationCall) → S → c.Reply × S) : Prop :=
  ∀ c s, ∃ now, t₀ ≤ now ∧ now < H ∧
    (handle c s).1 = ((group.manager i).handle .ok now c (disk s)).1 ∧
    disk (handle c s).2 = ((group.manager i).handle .ok now c (disk s)).2

/-- The group is not held by the caller and by nobody else. -/
def isFree (o : OwnerId) (holder : ServiceGroupId → Option OwnerId) (held : HeldLeases)
    (sgId : ServiceGroupId) : Bool :=
  sgId ∉ held ∧ (holder sgId = none ∨ holder sgId = some o)

/-- The groups of `todo` that an owner takes. -/
def claimed (target : ℕ) (o : OwnerId) (holder : ServiceGroupId → Option OwnerId)
    (held : HeldLeases) (todo : List ServiceGroupId) : List ServiceGroupId :=
  (todo.filter (isFree o holder held)).take (target-held.card)

section Claimed
variable {target : ℕ} {o : OwnerId} {holder : ServiceGroupId → Option OwnerId} {held : HeldLeases}
  {sgId : ServiceGroupId} {rest : List ServiceGroupId}

theorem claimed_full (h : target ≤ held.card) (todo : List ServiceGroupId) :
    claimed target o holder held todo = [] := by
  rw [claimed, Nat.sub_eq_zero_of_le h, List.take_zero]

theorem claimed_skip (h : isFree o holder held sgId = false) :
    claimed target o holder held (sgId :: rest) = claimed target o holder held rest := by
  rw [claimed, claimed, List.filter_cons_of_neg (by simp [h])]

theorem claimed_take (h : isFree o holder held sgId = true) (hlt : held.card < target)
    (hnot : sgId ∉ rest) :
    claimed target o holder held (sgId :: rest) =
      sgId :: claimed target o (Function.update holder sgId (some o)) (insert sgId held) rest := by
  have hmem : sgId ∉ held := by
    simp only [isFree, decide_eq_true_eq] at h
    exact h.1
  have hcard : target-held.card = (target-(insert sgId held).card)+1 := by
    rw [Finset.card_insert_of_notMem hmem]
    omega
  have hfilter : rest.filter (isFree o holder held) =
      rest.filter (isFree o (Function.update holder sgId (some o)) (insert sgId held)) := by
    refine List.filter_congr fun x hx => ?_
    have hne : x ≠ sgId := fun he => hnot (he ▸ hx)
    simp [isFree, hne]
  rw [claimed, claimed, List.filter_cons_of_pos h, hcard, List.take_succ_cons, hfilter]

end Claimed

section Passes
variable {i : ι} {S : Type} {disk : S → CoordinationDisk}
  {handle : (c : CoordinationCall) → S → c.Reply × S} (hw : Windowed group t₀ H i disk handle)
include hw

theorem leader_in_window {c : CoordinationCall} (hc : CoordinationManager.leaseOp c = none) (s : S)
    (hd : group.Settled t₀ H (disk s)) :
    group.Settled t₀ H (disk (handle c s).2) ∧
      group.holder H (disk (handle c s).2) = group.holder H (disk s) := by
  obtain ⟨now, -, -, -, he⟩ := hw c s
  rw [he]
  refine settled_congr hd fun sgId => ?_
  rw [grant, grant, (CoordinationManager.handle_of_leaseOp_none _ _ _ _ _ hc ∅).1]

/-- Within the window the leader part of a tick goes through and changes no lease. -/
theorem run_leaderPass (held : HeldLeases) (next : Bool → LeaderId → CoordinationProgram) (s : S)
    (hd : group.Settled t₀ H (disk s)) :
    ∃ isLeader leaderId s', group.Settled t₀ H (disk s') ∧
      group.holder H (disk s') = group.holder H (disk s) ∧
      run handle ((group.manager i).leaderPass held next) s =
        run handle (next isLeader leaderId) s' := by
  simp only [CoordinationManager.leaderPass]
  split
  · obtain ⟨hd₁, hh₁⟩ := leader_in_window hw (c := .leaderTryAcquire) rfl s hd
    obtain ⟨result, hresult⟩ : ∃ result, (handle .leaderTryAcquire s).1 = some result := by
      obtain ⟨now, -, -, he, -⟩ := hw .leaderTryAcquire s
      rw [he]
      exact (group.manager i).leaderElection.tryAcquire_ok now _
    rw [run_call, hresult]
    dsimp only
    split
    · obtain ⟨hd₂, hh₂⟩ := leader_in_window hw (c := .leaderRenew) rfl _ hd₁
      obtain ⟨renewal, hrenewal⟩ : ∃ renewal,
          (handle .leaderRenew (handle .leaderTryAcquire s).2).1 = some renewal := by
        obtain ⟨now, -, -, he, -⟩ := hw .leaderRenew (handle .leaderTryAcquire s).2
        rw [he]
        exact (group.manager i).leaderElection.renew_ok now _
      rw [run_call, hrenewal]
      dsimp only
      split
      · exact ⟨_, _, _, hd₂, hh₂.trans hh₁, rfl⟩
      · exact ⟨_, _, _, hd₂, hh₂.trans hh₁, rfl⟩
    · exact ⟨_, _, _, hd₁, hh₁, rfl⟩
  · obtain ⟨hd₁, hh₁⟩ := leader_in_window hw (c := .leaderStatus) rfl s hd
    exact ⟨_, _, _, hd₁, hh₁, rfl⟩

variable (httl : H ≤ t₀+(group.manager i).leaseTtlSeconds)
include httl

/-- Within the window every own lease is renewed. -/
theorem run_renewPass (next : TickProgress → CoordinationProgram) (todo : List ServiceGroupId)
    (p : TickProgress) (s : S) (hd : group.Settled t₀ H (disk s))
    (hown : ∀ sgId ∈ todo, group.holder H (disk s) sgId = some (group.owner i)) :
    ∃ p' s', p'.held = p.held ∧ group.Settled t₀ H (disk s') ∧
      group.holder H (disk s') = group.holder H (disk s) ∧
      run handle (CoordinationManager.renewPass todo p next) s = run handle (next p') s' := by
  induction todo generalizing p s with
  | nil => exact ⟨p, s, rfl, hd, rfl, rfl⟩
  | cons sgId rest ih =>
    obtain ⟨now, h0, h1, hr, hs⟩ := hw (.leaseRenew sgId) s
    obtain ⟨hren, hd', hh'⟩ := renew_in_window hd h0 h1 httl sgId
    rw [← hs] at hd' hh'
    have hyes : (handle (.leaseRenew sgId) s).1.renewed = true := by
      rw [hr]
      exact hren.mpr (hown sgId List.mem_cons_self)
    obtain ⟨p', s', hp', hd'', hh'', hrun⟩ :=
      ih (p.addRenewed sgId) (handle (.leaseRenew sgId) s).2 hd'
      (fun x hx => by
        rw [hh']
        exact hown x (List.mem_cons_of_mem _ hx))
    refine ⟨p', s', hp', hd'', hh''.trans hh', ?_⟩
    rw [CoordinationManager.renewPass, run_call, hyes, if_pos rfl]
    exact hrun

/-- Within the window the acquire loop takes the free groups in order, up to the target, and
leaves below the target only groups that it has attempted. -/
theorem run_acquirePass (next : TickProgress → List ServiceGroupId → CoordinationProgram)
    (todo attempted : List ServiceGroupId) (p : TickProgress) (s : S) (hnd : todo.Nodup)
    (hd : group.Settled t₀ H (disk s)) :
    ∃ p' attempted' s',
      run handle ((group.manager i).acquirePass todo p attempted next) s =
        run handle (next p' attempted') s' ∧
      p'.held = p.held ∪ (claimed (group.manager i).targetServiceGroups (group.owner i)
        (group.holder H (disk s)) p.held todo).toFinset ∧
      group.Settled t₀ H (disk s') ∧
      (∀ x, group.holder H (disk s') x =
        if x ∈ claimed (group.manager i).targetServiceGroups (group.owner i)
          (group.holder H (disk s)) p.held todo then some (group.owner i)
        else group.holder H (disk s) x) ∧
      (p'.held.card < (group.manager i).targetServiceGroups →
        ∀ x ∈ todo, x ∈ p'.held ∨ x ∈ attempted') ∧
      (∀ x ∈ attempted, x ∈ attempted') := by
  -- the candidates not yet tried shrink; what the earlier ones brought is in `p` and the disk
  induction todo generalizing attempted p s with
  | nil =>
    refine ⟨p, attempted, s, rfl, ?_, hd, ?_, ?_, fun x hx => hx⟩
    · simp [claimed]
    · simp [claimed]
    · simp
  | cons sgId rest ih =>
    obtain ⟨hnot, hnd'⟩ := List.nodup_cons.mp hnd
    simp only [CoordinationManager.acquirePass]
    split
    -- the target is reached: the pass ends here
    · next hfull =>
      refine ⟨p, attempted, s, rfl, ?_, hd, ?_, ?_, fun x hx => hx⟩
      · simp [claimed_full hfull]
      · simp [claimed_full hfull]
      · intro hlt
        omega
    · next hlt =>
      split
      · next hmem =>
        have hbusy : isFree (group.owner i) (group.holder H (disk s)) p.held sgId = false := by
          simp [isFree, hmem]
        obtain ⟨p', attempted', s', hrun, hheld, hd', hh', hall, hatt⟩ := ih attempted p s hnd' hd
        refine ⟨p', attempted', s', hrun, ?_, hd', ?_, ?_, hatt⟩
        · rw [claimed_skip hbusy, hheld]
        · rw [claimed_skip hbusy]
          exact hh'
        · intro hbelow
          refine List.forall_mem_cons.mpr ⟨Or.inl ?_, hall hbelow⟩
          rw [hheld]
          exact Finset.mem_union_left _ hmem
      · next hmem =>
        obtain ⟨now, h0, h1, hr, hs⟩ := hw (.leaseTryAcquire sgId) s
        obtain ⟨hiff, hd₁, hh₁⟩ := acquire_in_window hd h0 h1 httl sgId
        rw [← hs] at hd₁ hh₁
        rw [← hr] at hiff hh₁
        rw [run_call]
        cases hacq : (handle (.leaseTryAcquire sgId) s).1.acquired with
        | true =>
          -- the lease came: it was free or the owner's already
          have hfree : isFree (group.owner i) (group.holder H (disk s)) p.held sgId = true := by
            simp only [isFree, decide_eq_true_eq]
            exact ⟨hmem, hiff.mp hacq⟩
          rw [hacq, if_pos rfl] at hh₁
          obtain ⟨p', attempted', s', hrun, hheld, hd', hh', hall, hatt⟩ :=
            ih (sgId :: attempted) (p.addAcquired sgId) _ hnd' hd₁
          have hclaimed := claimed_take hfree (not_le.mp hlt) hnot
          have hrest : claimed (group.manager i).targetServiceGroups (group.owner i)
              (group.holder H (disk (handle (.leaseTryAcquire sgId) s).2))
              (p.addAcquired sgId).held rest =
              claimed (group.manager i).targetServiceGroups (group.owner i)
                (Function.update (group.holder H (disk s)) sgId (some (group.owner i)))
                (insert sgId p.held) rest := by
            rw [hh₁]
            rfl
          rw [hrest] at hheld hh'
          rw [hclaimed]
          refine ⟨p', attempted', s', hrun, ?_, hd', ?_, ?_, ?_⟩
          · rw [hheld]
            ext x
            simp only [TickProgress.addAcquired, Finset.mem_union, Finset.mem_insert,
              List.toFinset_cons]
            tauto
          · intro x
            rw [hh', hh₁]
            by_cases hx : x = sgId
            · subst hx
              simp
            · simp [hx]
          · intro hbelow
            refine List.forall_mem_cons.mpr ⟨Or.inl ?_, hall hbelow⟩
            rw [hheld]
            exact Finset.mem_union_left _ (Finset.mem_insert_self _ _)
          · exact fun x hx => hatt x (List.mem_cons_of_mem _ hx)
        | false =>
          -- somebody else holds it for the whole window
          have hbusy : isFree (group.owner i) (group.holder H (disk s)) p.held sgId = false := by
            simp only [isFree, decide_eq_false_iff_not, not_and]
            intro _ hfree
            simp [hiff.mpr hfree] at hacq
          rw [hacq, if_neg (by simp)] at hh₁
          obtain ⟨p', attempted', s', hrun, hheld, hd', hh', hall, hatt⟩ :=
            ih (sgId :: attempted) (p.addFailed sgId) _ hnd' hd₁
          rw [hh₁] at hheld hh'
          rw [claimed_skip hbusy]
          refine ⟨p', attempted', s', hrun, hheld, hd', hh', ?_, ?_⟩
          · intro hbelow
            exact List.forall_mem_cons.mpr ⟨Or.inr (hatt sgId List.mem_cons_self), hall hbelow⟩
          · exact fun x hx => hatt x (List.mem_cons_of_mem _ hx)

omit hw httl in
theorem shedPass_eq (m : CoordinationManager) (todo : List ServiceGroupId) (p : TickProgress)
    (next : TickProgress → CoordinationProgram) (h : p.held.card ≤ m.targetServiceGroups) :
    m.shedPass todo p next = next p := by
  cases todo with
  | nil => rfl
  | cons sgId rest => rw [CoordinationManager.shedPass, if_pos h]

omit hw httl in
/-- The second sweep makes no call where everything is held or was attempted. -/
theorem sweepPass_eq (m : CoordinationManager) (attempted todo : List ServiceGroupId)
    (p : TickProgress) (next : TickProgress → CoordinationProgram)
    (h : ∀ x ∈ todo, x ∈ p.held ∨ x ∈ attempted) : m.sweepPass attempted todo p next = next p := by
  induction todo with
  | nil => rfl
  | cons sgId rest ih =>
    obtain ⟨hsg, hrest⟩ := List.forall_mem_cons.mp h
    rw [CoordinationManager.sweepPass]
    split
    · rfl
    · split
      · exact ih hrest
      · next hmem => rw [if_pos (hsg.resolve_left hmem), ih hrest]

/-- What an uninterrupted tick within the window comes to: the held leases are kept, and the
free groups are taken in the order of the candidates, up to the target. -/
theorem run_tick (sha256 : List UInt8 → List UInt8) (groups : List ServiceGroupId)
    (hnd : groups.Nodup) (held : HeldLeases) (s : S) (hd : group.Settled t₀ H (disk s))
    (hcard : held.card ≤ (group.manager i).targetServiceGroups)
    (hown : ∀ sgId ∈ held, group.holder H (disk s) sgId = some (group.owner i)) :
    ∃ outcome s',
      run handle ((group.manager i).tick sha256 groups held) s =
        ((held ∪ (claimed (group.manager i).targetServiceGroups (group.owner i)
          (group.holder H (disk s)) held
          ((group.manager i).candidateServiceGroups sha256 groups)).toFinset, outcome), s') ∧
      group.Settled t₀ H (disk s') ∧
      (∀ x, group.holder H (disk s') x =
        if x ∈ claimed (group.manager i).targetServiceGroups (group.owner i)
          (group.holder H (disk s)) held ((group.manager i).candidateServiceGroups sha256 groups)
        then some (group.owner i) else group.holder H (disk s) x) := by
  set m := group.manager i with hm
  -- the election touches no lease, and the renewals keep every lease that is held
  obtain ⟨isLeader, leaderId, s₁, hd₁, hh₁, hrun₁⟩ := run_leaderPass hw held
    (fun isLeader leaderId => m.leasePass sha256 groups held fun p =>
      .done p.held (.tick (CoordinationManager.tickResult isLeader leaderId p))) s hd
  obtain ⟨p, s₂, hp, hd₂, hh₂, hrun₂⟩ := run_renewPass hw httl
    (fun p => m.shedPass (CoordinationManager.sortedHeldLeases p.held).reverse p
      (m.refillPass sha256 groups fun p =>
        .done p.held (.tick (CoordinationManager.tickResult isLeader leaderId p))))
    (CoordinationManager.sortedHeldLeases held) ⟨held, [], [], [], []⟩ s₁ hd₁
    (fun sgId hsg => by
      rw [hh₁]
      exact hown sgId (CoordinationManager.mem_sortedHeldLeases.mp hsg))
  have hp' : p.held = held := hp
  have hrun : run handle (m.tick sha256 groups held) s =
      run handle (m.refillPass sha256 groups
        (fun p => .done p.held (.tick (CoordinationManager.tickResult isLeader leaderId p))) p)
          s₂ := by
    rw [CoordinationManager.tick, hrun₁, CoordinationManager.leasePass_eq, hrun₂,
      shedPass_eq m _ p _ (by rw [hp']; exact hcard)]
  have hh : group.holder H (disk s₂) = group.holder H (disk s) := hh₂.trans hh₁
  rw [hrun, CoordinationManager.refillPass]
  split
  · have hnd' : (m.candidateServiceGroups sha256 groups).Nodup :=
      (m.candidateServiceGroups_perm sha256 groups).nodup_iff.mpr hnd
    obtain ⟨p', attempted', s₃, hrun₃, hheld, hd₃, hh₃, hall, -⟩ := run_acquirePass hw httl
      (fun p attempted =>
        if p.held.card < m.targetServiceGroups then
          m.sweepPass attempted (CoordinationManager.sortedServiceGroups groups) p
            fun p => .done p.held (.tick (CoordinationManager.tickResult isLeader leaderId p))
        else .done p.held (.tick (CoordinationManager.tickResult isLeader leaderId p)))
      (m.candidateServiceGroups sha256 groups) [] p s₂ hnd' hd₂
    rw [hh, hp'] at hheld hh₃
    refine ⟨.tick (CoordinationManager.tickResult isLeader leaderId p'), s₃, ?_, hd₃, hh₃⟩
    rw [hrun₃, ← hheld]
    split
    · next hlt =>
      rw [sweepPass_eq]
      · rfl
      · intro x hx
        refine hall hlt x ((m.candidateServiceGroups_perm sha256 groups).mem_iff.mpr ?_)
        exact (CoordinationManager.sortedServiceGroups_perm groups).mem_iff.mp hx
    · rfl
  -- nothing to refill: the target is met
  · next hfull =>
    have hnone : claimed m.targetServiceGroups (group.owner i) (group.holder H (disk s)) held
        (m.candidateServiceGroups sha256 groups) = [] :=
      claimed_full (by rw [← hp']; exact not_lt.mp hfull) _
    refine ⟨.tick (CoordinationManager.tickResult isLeader leaderId p), s₂, ?_, hd₂, ?_⟩
    · rw [hnone, run_done, hp']
      simp
    · intro x
      rw [hnone, hh]
      simp

end Passes
end CoordinationGroup
end PypnmCmts
