import PypnmCmts.OwnerIdResolver
import PypnmCmts.TickWindow

/-! Replicas: orchestrator processes whose managers work under the resolved owner id. Their
ticks interleave call by call within a window in which no lease runs out. -/
namespace PypnmCmts

open LabelledRun CallTree TtlLease

/-- Replicas that share a state directory and an election name. The owner id of each is
resolved from its configuration and from the name of the host that it runs on. -/
structure ReplicaGroup (ι : Type*) extends CoordinationGroup ι where
  explicitOwnerId : ι → Option String
  hostname : ι → Option String
  manager_ownerId : ∀ i,
    (manager i).ownerId = OwnerIdResolver.resolve (explicitOwnerId i) (hostname i)

namespace ReplicaGroup
variable {ι : Type*} [DecidableEq ι] (group : ReplicaGroup ι)

def ownerId (i : ι) : OwnerId :=
  OwnerIdResolver.resolve (group.explicitOwnerId i) (group.hostname i)

def target (i : ι) : ℕ := (group.manager i).targetServiceGroups

/-- The replicas have just started, and up to `H` no lease of theirs runs out. -/
def Opens (H : ℚ) (s : CoordinationWorld ι) : Prop :=
  (∀ i, s.Idle i ∧ s.held i = ∅) ∧
    (∀ i, H ≤ s.clock+(group.manager i).leaseTtlSeconds) ∧
    ∀ sgId g i, group.grant s.disk sgId = some g → g.owner = group.ownerId i →
      g.expires ≤ s.clock ∨ H ≤ g.expires

/-- An action of a replica before `H`; its lock is free and its writes succeed. -/
def Within (H : ℚ) (s : CoordinationWorld ι) : CoordinationAction ι → Prop
  | .beginTick _ _ => True
  | .beginReleaseAll _ _ => True
  | .call _ wait io => s.clock+wait < H ∧ io = .ok
  | .foreign _ _ _ _ => False

/-- No service group is held twice. -/
def Partition (s : CoordinationWorld ι) : Prop :=
  ∀ i j sgId, i ≠ j → sgId ∈ s.held i → sgId ∉ s.held j

/-- Of two replicas with one owner id, one has nothing to hold. -/
def OwnersApart : Prop :=
  ∀ i j, i ≠ j → group.ownerId i = group.ownerId j → group.target i = 0 ∨ group.target j = 0

variable {group}

omit [DecidableEq ι] in
theorem owner_eq (i : ι) : group.owner i = group.ownerId i := by
  rw [CoordinationGroup.owner, group.manager_ownerId, OwnerIdResolver.strip_resolve, ownerId]

/-- What holds throughout a window from `t₀` to `H`: the held groups are backed by records
that last, and the records of the replicas last or ran out before. -/
structure Windowed (group : ReplicaGroup ι) (t₀ H : ℚ) (s : CoordinationWorld ι) : Prop where
  clock : t₀ ≤ s.clock
  ruled : group.Ruled s
  lasting : ∀ sgId g i, group.grant s.disk sgId = some g → g.owner = group.ownerId i →
    g.expires ≤ t₀ ∨ H ≤ g.expires
  backed : ∀ i sgId, sgId ∈ s.held i →
    ∃ g, group.grant s.disk sgId = some g ∧ g.owner = group.ownerId i ∧ H ≤ g.expires
  capped : ∀ i, (s.held i).card ≤ group.target i

omit [DecidableEq ι] in
theorem windowed_of_opens {H : ℚ} {s : CoordinationWorld ι} (h : group.Opens H s) :
    Windowed group s.clock H s where
  clock := le_rfl
  ruled := CoordinationGroup.ruled_of_idle s fun i => (h.1 i).1
  lasting := h.2.2
  backed i sgId hmem := by simp [(h.1 i).2] at hmem
  capped i := by simp [(h.1 i).2]

omit [DecidableEq ι] in
/-- Who holds a group or may ask for one does not share its owner id with another holder. -/
theorem not_shared (hap : group.OwnersApart) {i j : ι} (hij : i ≠ j)
    (howner : group.ownerId i = group.ownerId j) (hi : 0 < group.target i)
    (hj : 0 < group.target j) : False := by
  rcases hap i j hij howner with h | h <;> omega

omit [DecidableEq ι] in
theorem partition_of_windowed (hap : group.OwnersApart) {t₀ H : ℚ} {s : CoordinationWorld ι}
    (h : Windowed group t₀ H s) : Partition s := by
  intro i j sgId hij hi hj
  obtain ⟨g, hg, hgi, -⟩ := h.backed i sgId hi
  obtain ⟨g', hg', hgj, -⟩ := h.backed j sgId hj
  obtain rfl := Option.some.inj (hg.symm.trans hg')
  exact not_shared hap hij (hgi.symm.trans hgj)
    ((Finset.card_pos.mpr ⟨sgId, hi⟩).trans_le (h.capped i))
    ((Finset.card_pos.mpr ⟨sgId, hj⟩).trans_le (h.capped j))

/-- After a lease call of a replica every held group is still backed. -/
theorem backed_call (hap : group.OwnersApart) {t₀ H : ℚ}
    (hH : ∀ i, H ≤ t₀+(group.manager i).leaseTtlSeconds) {s : CoordinationWorld ι}
    (h : Windowed group t₀ H s) {i : ι} {now : ℚ} (h0 : t₀ ≤ now) (h1 : now < H) {op : Op}
    {sgId : ServiceGroupId} {c : CoordinationCall}
    (hop : CoordinationManager.leaseOp c = some (op, sgId))
    (hallow : CoordinationManager.Allows (group.manager i).targetServiceGroups (s.held i) c)
    {j : ι} (hj : sgId ∈ Function.update s.held i
      (CoordinationManager.heldByReply sgId (s.held i) op
      (TtlLease.perform (group.ownerId i) ((group.manager i).leaseTtlSeconds : ℚ) op now
        (group.grant s.disk sgId)).1) j) :
    ∃ g, (TtlLease.perform (group.ownerId i) ((group.manager i).leaseTtlSeconds : ℚ) op now
        (group.grant s.disk sgId)).2 = some g ∧ g.owner = group.ownerId j ∧ H ≤ g.expires := by
  have hpos (k : ι) (hk : sgId ∈ s.held k) : 0 < group.target k :=
    (Finset.card_pos.mpr ⟨sgId, hk⟩).trans_le (h.capped k)
  -- another holder of the group has an owner id of its own
  have hother (hji : j ≠ i) (g) (hg : group.grant s.disk sgId = some g)
      (hgi : g.owner = group.ownerId i) (hi : sgId ∈ s.held i) : False := by
    rw [Function.update_of_ne hji] at hj
    obtain ⟨g', hg', hgj, -⟩ := h.backed j sgId hj
    obtain rfl := Option.some.inj (hg.symm.trans hg')
    exact not_shared hap hji (hgj.symm.trans hgi) (hpos j hj) (hpos i hi)
  rcases perform_cases (group.ownerId i) ((group.manager i).leaseTtlSeconds : ℚ) op now
    (group.grant s.disk sgId) with ⟨g, hforce, ho, -, hp⟩ | ⟨hfree, hp⟩
      | ⟨g, hg, ho, rfl, hp⟩ | hp <;>
    rw [hp] at hj ⊢
  · obtain ⟨hg, hlive⟩ := inForce_eq_some.mp hforce
    by_cases hji : j = i
    · subst hji
      refine ⟨g, hg, ho, (h.lasting sgId g j hg ho).resolve_left ?_⟩
      exact fun hle => absurd (hlive.trans_le hle) (not_lt.mpr h0)
    · rw [Function.update_of_ne hji] at hj
      exact h.backed j sgId hj
  · by_cases hji : j = i
    · subst hji
      exact ⟨_, rfl, rfl, (hH j).trans (add_le_add_left h0 _)⟩
    · exfalso
      have hj' := hj
      rw [Function.update_of_ne hji] at hj'
      obtain ⟨g, hg, -, hlast⟩ := h.backed j sgId hj'
      obtain ⟨ho, rfl⟩ := hfree g (inForce_eq_some.mpr ⟨hg, h1.trans_le hlast⟩)
      exact hother hji g hg ho (CoordinationManager.mem_of_allows hop (by simp) hallow)
  · exfalso
    by_cases hji : j = i
    · subst hji
      simp [CoordinationManager.heldByReply] at hj
    · exact hother hji g hg ho (CoordinationManager.mem_of_allows hop (by simp) hallow)
  · refine h.backed j sgId ?_
    by_cases hji : j = i
    · subst hji
      rw [Function.update_self] at hj
      exact CoordinationManager.mem_of_mem_heldByReply_refused hj
    · rwa [Function.update_of_ne hji] at hj

omit [DecidableEq ι] in
/-- After a lease call of a replica the records of the replicas still last or ran out before. -/
theorem lasting_call {t₀ H : ℚ} (hH : ∀ i, H ≤ t₀+(group.manager i).leaseTtlSeconds)
    {s : CoordinationWorld ι} (h : Windowed group t₀ H s) (i : ι) {now : ℚ}
    (h0 : t₀ ≤ now) (op : Op)
    (sgId : ServiceGroupId) (g : Grant OwnerId ℚ) (j : ι)
    (hg : (TtlLease.perform (group.ownerId i) ((group.manager i).leaseTtlSeconds : ℚ) op now
      (group.grant s.disk sgId)).2 = some g) (ho : g.owner = group.ownerId j) :
    g.expires ≤ t₀ ∨ H ≤ g.expires := by
  rcases perform_cases (group.ownerId i) ((group.manager i).leaseTtlSeconds : ℚ) op now
    (group.grant s.disk sgId) with ⟨_, _, _, _, hp⟩ | ⟨_, hp⟩ | ⟨_, _, _, _, hp⟩ | hp
      <;> rw [hp] at hg
  · exact h.lasting sgId g j hg ho
  · obtain rfl := Option.some.inj hg
    exact Or.inr ((hH i).trans (add_le_add_left h0 _))
  · simp at hg
  · exact h.lasting sgId g j hg ho

theorem windowed_step (hap : group.OwnersApart) {t₀ H : ℚ}
    (hH : ∀ i, H ≤ t₀+(group.manager i).leaseTtlSeconds) (s : CoordinationWorld ι)
    (a : CoordinationAction ι) (ha : Within H s a) (h : Windowed group t₀ H s) :
    Windowed group t₀ H (group.step s a) := by
  have hclock := h.clock.trans (group.clock_le_step s a)
  have hruled := CoordinationGroup.ruled_step s a h.ruled
  rcases CoordinationGroup.step_cases s a h.ruled with ⟨hd, hheld⟩ |
    ⟨i, wait, io, op, sgId, c, rfl, -, hop, hallow, hd, hheld⟩ | ⟨lease, op, wait, io, rfl, -, -, -⟩
  · refine ⟨hclock, hruled, ?_, ?_, ?_⟩
    · simpa only [CoordinationGroup.grant, hd] using h.lasting
    · simpa only [CoordinationGroup.grant, hd, hheld] using h.backed
    · simpa only [hheld] using h.capped
  · obtain ⟨hlt, rfl⟩ := ha
    have h0 : t₀ ≤ s.clock+wait := h.clock.trans (le_add_of_nonneg_right wait.2)
    obtain ⟨hreply, hcell⟩ := Prod.ext_iff.mp (group.perform_grant i sgId op (s.clock+wait) s.disk)
    rw [owner_eq] at hreply hcell
    dsimp only at hreply hcell
    rw [hreply] at hheld
    have hgrant (x : ServiceGroupId) (hx : x ≠ sgId) :
        group.grant (group.step s (.call i wait .ok)).disk x = group.grant s.disk x := by
      rw [CoordinationGroup.grant, CoordinationGroup.grant, hd, Function.update_of_ne hx]
    have hself : group.grant (group.step s (.call i wait .ok)).disk sgId =
        (TtlLease.perform (group.ownerId i) ((group.manager i).leaseTtlSeconds : ℚ) op
          (s.clock+wait)
          (group.grant s.disk sgId)).2 := by
      rw [CoordinationGroup.grant, hd, Function.update_self, hcell]
    refine ⟨hclock, hruled, ?_, ?_, ?_⟩
    · intro x g j hg ho
      by_cases hx : x = sgId
      · subst hx
        exact lasting_call hH h i h0 op x g j (hself.symm.trans hg) ho
      · exact h.lasting x g j ((hgrant x hx).symm.trans hg) ho
    · intro j x hj
      rw [hheld] at hj
      by_cases hx : x = sgId
      · subst hx
        rw [hself]
        exact backed_call hap hH h h0 hlt hop hallow hj
      · rw [hgrant x hx]
        refine h.backed j x ?_
        by_cases hji : j = i
        · subst hji
          rwa [Function.update_self, CoordinationManager.mem_heldByReply_of_ne hx] at hj
        · rwa [Function.update_of_ne hji] at hj
    · intro j
      rw [hheld]
      by_cases hji : j = i
      · subst hji
        rw [Function.update_self]
        exact CoordinationManager.card_heldByReply hop hallow (h.capped j) _
      · rw [Function.update_of_ne hji]
        exact h.capped j
  · exact absurd ha id

theorem within_calls (group : ReplicaGroup ι) (s : CoordinationWorld ι) (i : ι) (H : ℚ)
    (h : s.clock < H) (n : ℕ) :
    Guarded group.step (Within H) s (List.replicate n (.call i 0 .ok)) := by
  have hzero (t : CoordinationWorld ι) : t.clock+((0 : ℚ≥0) : ℚ) = t.clock := by
    rw [NNRat.coe_zero, add_zero]
  induction n generalizing s with
  | zero => trivial
  | succ n ih =>
    refine ⟨⟨by rw [hzero]; exact h, rfl⟩, ih _ ?_⟩
    rw [group.clock_step, CoordinationAction.wait, hzero]
    exact h

/-- A replica that ticks at once, and alone, over one group that it can have. -/
theorem exists_solo_tick (s : CoordinationWorld ι) (i : ι) (hidle : s.Idle i) (hheld : s.held i = ∅)
    (htarget : 0 < group.target i) (H : ℚ) (hclock : s.clock < H)
    (hH : H ≤ s.clock+(group.manager i).leaseTtlSeconds)
    (hd : group.Settled s.clock H s.disk) (sgId : ServiceGroupId)
    (hfree : group.holder H s.disk sgId = none ∨ group.holder H s.disk sgId = some
      (group.owner i)) :
    ∃ as, Guarded group.step (Within H) s as ∧ (exec group.step s as).clock = s.clock ∧
      sgId ∈ (exec group.step s as).held i ∧
      (∀ j, j ≠ i → (exec group.step s as).program j = s.program j) ∧
      group.Settled s.clock H (exec group.step s as).disk ∧
      group.holder H (exec group.step s as).disk sgId = some (group.owner i) := by
  set m := group.manager i with hm
  have hw : CoordinationGroup.Windowed group.toCoordinationGroup s.clock H i id
      (m.handle .ok s.clock) := fun c d => ⟨s.clock, le_rfl, hclock, rfl, rfl⟩
  obtain ⟨outcome, d', hrun, hd', hholder'⟩ := CoordinationGroup.run_tick hw hH group.sha256 [sgId]
    (by simp) ∅ s.disk hd (by simp) (by simp)
  have hcand : m.candidateServiceGroups group.sha256 [sgId] = [sgId] :=
    List.perm_singleton.mp (m.candidateServiceGroups_perm group.sha256 [sgId])
  have hclaimed : CoordinationGroup.claimed m.targetServiceGroups (group.owner i)
      (group.holder H s.disk) ∅ [sgId] = [sgId] := by
    have hyes : CoordinationGroup.isFree (group.owner i) (group.holder H s.disk) ∅ sgId = true := by
      simpa [CoordinationGroup.isFree] using hfree
    obtain ⟨n, hn⟩ : ∃ n, m.targetServiceGroups = n+1 := Nat.exists_eq_succ_of_ne_zero htarget.ne'
    simp [CoordinationGroup.claimed, hyes, hn]
  rw [hcand] at hrun hholder'
  simp only [id_eq] at hrun hholder' hd'
  rw [hclaimed] at hrun hholder'
  have hbegin : group.step s (.beginTick i [sgId]) =
      { s with program := Function.update s.program i (m.tick group.sha256 [sgId] ∅) } := by
    simp only [CoordinationGroup.step, hidle, if_true, hheld]
    rfl
  obtain ⟨n, hn⟩ := exists_resume_eq_run (m.handle .ok s.clock)
    (m.tick group.sha256 [sgId] ∅) s.disk
  have hexec : exec group.step s (.beginTick i [sgId] :: List.replicate n (.call i 0 .ok)) =
      ⟨s.clock, d', Function.update s.program i (.done {sgId} outcome)⟩ := by
    rw [exec_cons, hbegin, CoordinationGroup.exec_calls]
    simp only [Function.update_self, Function.update_idem]
    rw [hn, hrun]
    simp
  refine ⟨.beginTick i [sgId] :: List.replicate n (.call i 0 .ok), ⟨trivial, ?_⟩, ?_⟩
  · rw [hbegin]
    refine within_calls group _ i H ?_ n
    exact hclock
  · rw [hexec]
    refine ⟨rfl, ?_, ?_, hd', ?_⟩
    · simp [CoordinationWorld.held]
    · intro j hj
      exact Function.update_of_ne hj _ _
    · simp [hholder']

/-- Two replicas with one owner id and something to hold come to hold the same group. -/
theorem exists_shared_group {i j : ι} (hij : i ≠ j) (howner : group.ownerId i = group.ownerId j)
    (hi : 0 < group.target i) (hj : 0 < group.target j) :
    ∃ (s : CoordinationWorld ι) (H : ℚ) (as : List (CoordinationAction ι)), group.Opens H s ∧
      Guarded group.step (Within H) s as ∧ ¬ Partition (exec group.step s as) := by
  let s : CoordinationWorld ι := CoordinationGroup.freshWorld 0
  have httl (k : ι) : (1 : ℚ) ≤ s.clock+(group.manager k).leaseTtlSeconds := by
    have hpos : (1 : ℚ) ≤ (group.manager k).leaseTtlSeconds := by
      exact_mod_cast (group.manager k).leaseTtlSeconds_pos
    simpa [s, CoordinationGroup.freshWorld] using hpos
  have hempty (sgId : ServiceGroupId) : group.grant s.disk sgId = none := rfl
  have hclock : s.clock < 1 := (by decide +kernel : (0 : ℚ) < 1)
  obtain ⟨as, has, hclock₁, hmem₁, hprog₁, hd₁, hholder₁⟩ :=
    exists_solo_tick s i rfl rfl hi 1 hclock
    (httl i) (fun sgId g hg => by simp [hempty] at hg) 1 (Or.inl rfl)
  set s₁ := exec group.step s as with hs₁
  have hheldj : s₁.held j = ∅ := by
    rw [CoordinationWorld.held, hprog₁ j hij.symm]
    rfl
  have hidlej : s₁.Idle j := by
    rw [CoordinationWorld.Idle, hprog₁ j hij.symm]
    rfl
  obtain ⟨bs, hbs, -, hmem₂, hprog₂, -⟩ := exists_solo_tick s₁ j hidlej hheldj hj 1
    (hclock₁ ▸ hclock) (hclock₁ ▸ httl j) (hclock₁ ▸ hd₁) 1
    (Or.inr (by rw [hholder₁, owner_eq, owner_eq, howner]))
  refine ⟨s, 1, as ++ bs, ⟨fun k => ⟨rfl, rfl⟩, httl, ?_⟩, guarded_append.mpr ⟨has, hbs⟩, ?_⟩
  · intro sgId g k hg
    simp [hempty] at hg
  · intro hpart
    rw [exec_append, ← hs₁] at hpart
    refine hpart i j 1 hij ?_ hmem₂
    rw [CoordinationWorld.held, hprog₂ i hij]
    exact hmem₁

/-- Whatever the replicas do within the window, their held sets stay disjoint, if and only
if of any two replicas with one owner id one has nothing to hold. -/
theorem replica_partition (group : ReplicaGroup ι) :
    (∀ (s : CoordinationWorld ι) (H : ℚ) (as : List (CoordinationAction ι)), group.Opens H s →
      Guarded group.step (Within H) s as → Partition (exec group.step s as)) ↔
        group.OwnersApart := by
  constructor
  · intro h i j hij howner
    by_contra hboth
    rw [not_or] at hboth
    obtain ⟨s, H, as, hopen, hwithin, hnot⟩ := exists_shared_group hij howner
      (Nat.pos_of_ne_zero hboth.1) (Nat.pos_of_ne_zero hboth.2)
    exact hnot (h s H as hopen hwithin)
  · intro hap s H as hopen hwithin
    exact partition_of_windowed hap (invariant_of_guarded
      (fun t a ha ht => windowed_step hap hopen.2.1 t a ha ht) hwithin (windowed_of_opens hopen))

/-- Two replicas on one host, both with the owner id left unset. -/
def twinReplicas : ReplicaGroup Bool where
  stateDir := "state"
  electionName := "net"
  sha256 := id
  manager _ :=
    { CoordinationGroup.pairManagers.manager true with
      ownerId := OwnerIdResolver.resolve (some "") (some "cmts-host")
      ownerId_nonempty := by decide }
  manager_stateDir _ := rfl
  manager_electionName _ := CoordinationGroup.pairManagers.manager_electionName true
  explicitOwnerId _ := some ""
  hostname _ := some "cmts-host"
  manager_ownerId _ := rfl

/-- Each of the twins ticks once over group 1; the second one is told that it is the owner
already. -/
theorem twin_replicas_share_group :
    ¬ ∀ as : List (CoordinationAction Bool),
      Guarded twinReplicas.step (Within 10) (CoordinationGroup.freshWorld 0) as →
      Partition (exec twinReplicas.step (CoordinationGroup.freshWorld 0) as) := by
  intro h
  have hrun := h [.beginTick true [1], .call true 0 .ok, .call true 0 .ok, .beginTick false [1],
    .call false 1 .ok, .call false 0 .ok]
    ⟨trivial, ⟨by decide +kernel, rfl⟩, ⟨by decide +kernel, rfl⟩, trivial,
      ⟨by decide +kernel, rfl⟩, ⟨by decide +kernel, rfl⟩, trivial⟩
  exact hrun true false 1 (by decide) (by decide +kernel) (by decide +kernel)

end ReplicaGroup
end PypnmCmts
