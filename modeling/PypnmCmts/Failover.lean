import PypnmCmts.ShardConvergence

/-! Managers that go on after others have failed. What the failed ones held is theirs to take as
soon as its leases are over. -/
namespace PypnmCmts

open LabelledRun CallTree GreedyShare

namespace CoordinationGroup
variable {ι : Type*} [DecidableEq ι] (group : CoordinationGroup ι)

/-- The managers that are left at `t₀`: what they hold is theirs until `H`, and every other
record on disk, whoever wrote it, is over. -/
structure Survivors (t₀ H : ℚ) (base : List ServiceGroupId) (s : ShardWorld ι) : Prop where
  records : ∀ sgId g, group.grant s.disk sgId = some g →
    g.expires ≤ t₀ ∨ ∃ i, sgId ∈ s.held i ∧ g.owner = group.owner i ∧ H ≤ g.expires
  held : ∀ i, ∀ sgId ∈ s.held i,
    sgId ∈ base ∧ ∃ g, group.grant s.disk sgId = some g ∧ g.owner = group.owner i ∧ H ≤ g.expires
  card : ∀ i, (s.held i).card ≤ group.target i

variable {group} {t₀ H : ℚ} {base : List ServiceGroupId}

/-- The groups that survivors hold have one owner each. -/
theorem Survivors.exists_shares (hown : Function.Injective group.owner) (hlt : t₀ < H)
    {s : ShardWorld ι} (h : group.Survivors t₀ H base s) :
    ∃ owned, (∀ sgId i, owned sgId = some i → sgId ∈ s.held i) ∧
      group.Shares t₀ H base s owned := by
  classical
  have hunique (i j : ι) (sgId : ServiceGroupId) (hi : sgId ∈ s.held i) (hj : sgId ∈ s.held j) :
      i = j := by
    obtain ⟨-, g, hg, ho, -⟩ := h.held i sgId hi
    obtain ⟨-, g', hg', ho', -⟩ := h.held j sgId hj
    obtain rfl := Option.some.inj (hg.symm.trans hg')
    exact hown (ho.symm.trans ho')
  let owned (sgId : ServiceGroupId) : Option ι :=
    if hheld : ∃ i, sgId ∈ s.held i then some hheld.choose else none
  have howned (sgId : ServiceGroupId) (i : ι) : owned sgId = some i ↔ sgId ∈ s.held i := by
    simp only [owned]
    split
    · next hheld =>
      rw [Option.some.injEq]
      exact ⟨fun he => he ▸ hheld.choose_spec, fun hi => hunique _ _ sgId hheld.choose_spec hi⟩
    · next hheld =>
      refine ⟨fun he => by simp at he, fun hi => absurd ⟨i, hi⟩ hheld⟩
  refine ⟨owned, fun sgId i => (howned sgId i).mp, ?_, ?_, ?_, h.card⟩
  · intro sgId g hg
    exact (h.records sgId g hg).imp id fun ⟨_, _, _, hle⟩ => hle
  · intro sgId
    cases ho : owned sgId with
    | none =>
      rw [Option.map_none, holder_eq_none, Option.filter_eq_none_iff]
      intro g hg
      rcases h.records sgId g hg with hover | ⟨i, hi, -, -⟩
      · simpa using hover.trans_lt hlt
      · rw [← howned, ho] at hi
        simp at hi
    | some i =>
      obtain ⟨-, g, hg, hname, hle⟩ := h.held i sgId ((howned sgId i).mp ho)
      rw [Option.map_some, holder_eq_some]
      exact ⟨g, by simp [hg, Option.filter, hle], hname⟩
  · intro i
    ext sgId
    rw [mem_share, howned, List.mem_toFinset]
    exact ⟨fun hi => ⟨(h.held i sgId hi).1, hi⟩, fun hi => hi.2⟩

/-- Whatever ran before, and whoever has failed since: once the leases of the failed managers are
over, the others keep what they hold, share out the rest without overlap until it is used up or
every one of them has its target, and change nothing after that. -/
theorem failover_converges (group : CoordinationGroup ι) (hown : Function.Injective group.owner)
    (t₀ H : ℚ) (hlt : t₀ < H) (hH : ∀ i, H ≤ t₀+(group.manager i).leaseTtlSeconds)
    (base : List ServiceGroupId) (hbase : base.Nodup) (s : ShardWorld ι)
    (h0 : group.Survivors t₀ H base s) (es : List (TickEvent ι))
    (hes : ∀ e ∈ es, InWindow t₀ H base e) :
    (∀ i, s.held i ⊆ (exec group.tickStep s es).held i) ∧
    (∀ i j, i ≠ j →
      Disjoint ((exec group.tickStep s es).held i) ((exec group.tickStep s es).held j)) ∧
    ((∀ i, (s.held i).Nonempty → i ∈ es.map (·.who)) →
      (heldBy (exec group.tickStep s es) (es.map (·.who))).card =
        min base.length (∑ i ∈ (es.map (·.who)).toFinset, group.target i)) ∧
    ∀ further : List (TickEvent ι),
      (∀ e ∈ further, InWindow t₀ H base e ∧ e.who ∈ es.map (·.who)) →
      (exec group.tickStep s (es ++ further)).held = (exec group.tickStep s es).held := by
  obtain ⟨owned, howned, hshares⟩ := h0.exists_shares hown hlt
  have hprefs (i : ι) : (group.prefs base i).Nodup ∧ ∀ x, x ∈ group.prefs base i ↔
      x ∈ base.toFinset :=
    prefs_listing hbase i
  have hrun (es : List (TickEvent ι)) (hes : ∀ e ∈ es, InWindow t₀ H base e) :
      group.Shares t₀ H base (exec group.tickStep s es)
        (turns base.toFinset (group.prefs base) group.target owned (es.map (·.who))) :=
    shares_exec hown hH hbase es hes hshares
  obtain ⟨-, -, hheld, hcard⟩ := hrun es hes
  have hstart := hshares.2.2.1
  refine ⟨?_, ?_, ?_, ?_⟩
  · intro i
    rw [hstart, hheld]
    exact share_subset_turns _
  · intro i j hij
    rw [hheld, hheld]
    exact disjoint_share hij
  -- after its turn an owner is saturated, and those without a turn own nothing
  · intro hall
    rw [heldBy, funext hheld, ← List.toFinset_card_of_nodup hbase]
    refine card_biUnion_of_saturated _ ?_ ?_ ?_
    · intro x i hi
      rcases owner_of_turns hi with hmem | hold
      · exact hmem
      · exact hall i ⟨x, howned x i hold⟩
    · intro i _
      rw [← hheld]
      exact hcard i
    · intro i hi
      exact saturated_of_mem hprefs _ hi
  · intro further hfurther
    have hes' : ∀ e ∈ es ++ further, InWindow t₀ H base e := by
      intro e he
      exact (List.mem_append.mp he).elim (hes e) fun h => (hfurther e h).1
    funext i
    rw [(hrun _ hes').2.2.1, hheld, List.map_append, turns_append, turns_of_saturated hprefs]
    intro o ho
    obtain ⟨e, he, rfl⟩ := List.mem_map.mp ho
    exact saturated_of_mem hprefs _ (hfurther e he).2

/-- The first manager holds group 7. The owner of group 4 has failed, and its lease ran out at
time 2; group 9 was never taken. -/
def afterFailure : ShardWorld Bool where
  disk := ⟨.missing, fun sgId =>
    if sgId = 7 then .record ⟨"net", 7, "a", 0, 10⟩
    else if sgId = 4 then .record ⟨"net", 4, "failed", 0, 2⟩
    else .missing⟩
  held who := if who then {7} else ∅

theorem survivors_afterFailure : pairManagers.Survivors 2 10 [4, 7, 9] afterFailure := by
  have hgrant (sgId : ServiceGroupId) : pairManagers.grant afterFailure.disk sgId =
      if sgId = 7 then some ⟨"a", 10⟩ else if sgId = 4 then some ⟨"failed", 2⟩ else none := by
    by_cases h7 : sgId = 7
    · subst h7
      rfl
    · by_cases h4 : sgId = 4
      · subst h4
        rfl
      · simp [grant, afterFailure, LeaseFile.grant, h7, h4]
  refine ⟨?_, ?_, ?_⟩
  · intro sgId g hg
    rw [hgrant] at hg
    split_ifs at hg with h7 h4
    · obtain rfl := Option.some.inj hg
      exact Or.inr ⟨true, by simp [afterFailure, h7], by decide +kernel, le_rfl⟩
    · obtain rfl := Option.some.inj hg
      exact Or.inl le_rfl
  · intro i sgId hmem
    cases i with
    | false => simp [afterFailure] at hmem
    | true =>
      obtain rfl : sgId = 7 := by simpa [afterFailure] using hmem
      exact ⟨by decide, _, hgrant 7, by decide +kernel, le_rfl⟩
  · intro i
    cases i <;> decide

/-- The other manager takes over the group of the failed one. -/
theorem failover_converges_pair :
    (exec pairManagers.tickStep afterFailure [⟨false, [9, 7, 4], fun _ => 3⟩,
      ⟨true, [9, 7, 4], fun _ => 4⟩]).held false = {4} ∧
    (heldBy (exec pairManagers.tickStep afterFailure [⟨false, [9, 7, 4], fun _ => 3⟩,
      ⟨true, [9, 7, 4], fun _ => 4⟩]) [false, true]).card = 2 := by
  refine ⟨by decide +kernel, (failover_converges pairManagers pairManagers_owner_injective 2 10
    (by decide +kernel) (fun i => by cases i <;> decide +kernel) [4, 7, 9] (by decide) afterFailure
    survivors_afterFailure [⟨false, [9, 7, 4], fun _ => 3⟩,
      ⟨true, [9, 7, 4], fun _ => 4⟩] ?_).2.2.1 ?_⟩
  · refine List.forall_mem_cons.mpr ⟨⟨by decide, fun _ => ?_⟩, List.forall_mem_cons.mpr
      ⟨⟨by decide, fun _ => ?_⟩, by simp⟩⟩
    · exact (by decide +kernel : (2 : ℚ) ≤ 3 ∧ (3 : ℚ) < 10)
    · exact (by decide +kernel : (2 : ℚ) ≤ 4 ∧ (4 : ℚ) < 10)
  · intro i _
    cases i <;> decide

end CoordinationGroup
end PypnmCmts
