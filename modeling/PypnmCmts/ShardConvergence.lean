import PypnmCmts.GreedyShare
import PypnmCmts.TickWindow

/-! Uninterrupted ticks of managers with distinct owner ids, one after the other, over one
list of service groups. They refine turns of agents that share a stock. -/
namespace PypnmCmts

open LabelledRun CallTree GreedyShare

/-- A tick of a manager. `now n` is what its clock shows at its `n`-th call. -/
structure TickEvent (ι : Type*) where
  who : ι
  serviceGroups : List ServiceGroupId
  now : ℕ → ℚ

structure ShardWorld (ι : Type*) where
  disk : CoordinationDisk
  held : ι → HeldLeases

namespace CoordinationGroup
variable {ι : Type*} [DecidableEq ι] (group : CoordinationGroup ι)

/-- The calls of one tick, handled one after the other without failure. -/
def clocked (i : ι) (now : ℕ → ℚ) (c : CoordinationCall) (s : CoordinationDisk × ℕ) :
    c.Reply × (CoordinationDisk × ℕ) :=
  let (reply, disk) := (group.manager i).handle .ok (now s.2) c s.1
  (reply, (disk, s.2+1))

def tickStep (s : ShardWorld ι) (e : TickEvent ι) : ShardWorld ι :=
  let program := (group.manager e.who).tick group.sha256 e.serviceGroups (s.held e.who)
  let ((held, _), (disk, _)) := run (group.clocked e.who e.now) program (s.disk, 0)
  ⟨disk, Function.update s.held e.who held⟩

/-- The ticks `es` from an empty state directory. -/
def ticks (es : List (TickEvent ι)) : ShardWorld ι :=
  exec group.tickStep ⟨⟨.missing, fun _ => .missing⟩, fun _ => ∅⟩ es

/-- All that the managers of `is` hold. -/
def heldBy (s : ShardWorld ι) (is : List ι) : Finset ServiceGroupId :=
  is.toFinset.biUnion s.held

/-- A tick over some listing of `base`, all its calls between `t₀` and `H`. -/
def InWindow (t₀ H : ℚ) (base : List ServiceGroupId) (e : TickEvent ι) : Prop :=
  e.serviceGroups.Perm base ∧ ∀ n, t₀ ≤ e.now n ∧ e.now n < H

/-- The order in which a manager takes groups. -/
def prefs (base : List ServiceGroupId) (i : ι) : List ServiceGroupId :=
  (group.manager i).candidateServiceGroups group.sha256 base

def target (i : ι) : ℕ := (group.manager i).targetServiceGroups

/-- The record files and the held sets say that the groups are shared as in `owned`. -/
def Shares (t₀ H : ℚ) (base : List ServiceGroupId) (s : ShardWorld ι)
    (owned : ServiceGroupId → Option ι) : Prop :=
  group.Settled t₀ H s.disk ∧ (∀ x, group.holder H s.disk x = (owned x).map group.owner) ∧
    (∀ i, s.held i = share base.toFinset owned i) ∧ ∀ i, (s.held i).card ≤ group.target i

variable {group} {t₀ H : ℚ} {base : List ServiceGroupId}

omit [DecidableEq ι] in
theorem prefs_listing (hbase : base.Nodup) (i : ι) :
    (group.prefs base i).Nodup ∧ ∀ x, x ∈ group.prefs base i ↔ x ∈ base.toFinset := by
  have hperm := (group.manager i).candidateServiceGroups_perm group.sha256 base
  refine ⟨hperm.nodup_iff.mpr hbase, ?_⟩
  intro x
  rw [List.mem_toFinset]
  exact hperm.mem_iff

omit [DecidableEq ι] in
theorem windowed_clocked (i : ι) (now : ℕ → ℚ) (h : ∀ n, t₀ ≤ now n ∧ now n < H) :
    Windowed group t₀ H i Prod.fst (group.clocked i now) :=
  fun _ s => ⟨now s.2, (h s.2).1, (h s.2).2, rfl, rfl⟩

/-- What a tick claims is what its manager takes in its turn. -/
theorem claimed_eq_taken (hown : Function.Injective group.owner) {s : ShardWorld ι}
    {owned : ServiceGroupId → Option ι} (h : group.Shares t₀ H base s owned) (i : ι)
    (hbase : base.Nodup) :
    claimed (group.target i) (group.owner i) (group.holder H s.disk) (s.held i)
      (group.prefs base i) = taken base.toFinset (group.prefs base) group.target owned i := by
  obtain ⟨-, hholder, hheld, -⟩ := h
  rw [claimed, taken, hheld i]
  congr 1
  refine List.filter_congr fun x hx => ?_
  have hmem : x ∈ base.toFinset := ((prefs_listing hbase i).2 x).mp hx
  simp only [isFree, hholder, mem_share, hmem, true_and, decide_eq_decide]
  cases ho : owned x with
  | none => simp
  | some j =>
    simp only [Option.some.injEq, Option.map_some, reduceCtorEq, false_or, iff_false, not_and]
    intro hne he
    exact hne (hown he)

/-- A tick within the window refines a turn. -/
theorem shares_tickStep (hown : Function.Injective group.owner)
    (hH : ∀ i, H ≤ t₀+(group.manager i).leaseTtlSeconds) (hbase : base.Nodup)
    {s : ShardWorld ι} {owned : ServiceGroupId → Option ι} (h : group.Shares t₀ H base s owned)
    (e : TickEvent ι) (he : InWindow t₀ H base e) :
    group.Shares t₀ H base (group.tickStep s e)
      (turn base.toFinset (group.prefs base) group.target owned e.who) := by
  obtain ⟨hd, hholder, hheld, hcard⟩ := id h
  have hmine : ∀ x ∈ s.held e.who, group.holder H s.disk x = some (group.owner e.who) := by
    intro x hx
    rw [hheld, mem_share] at hx
    rw [hholder, hx.2, Option.map_some]
  have hnd : e.serviceGroups.Nodup := he.1.nodup_iff.mpr hbase
  -- within the window the tick is the abstract turn of its owner
  obtain ⟨outcome, s', hrun, hd', hholder'⟩ := run_tick (windowed_clocked e.who e.now he.2)
    (hH e.who) group.sha256 e.serviceGroups hnd (s.held e.who) (s.disk, 0) hd (hcard e.who) hmine
  have hprefs (i : ι) : (group.prefs base i).Nodup ∧ ∀ x, x ∈ group.prefs base i ↔
      x ∈ base.toFinset :=
    prefs_listing hbase i
  have hclaimed := claimed_eq_taken hown h e.who hbase
  rw [CoordinationManager.candidateServiceGroups_congr _ _ he.1] at hrun hholder'
  change claimed (group.manager e.who).targetServiceGroups _ _ _
    ((group.manager e.who).candidateServiceGroups group.sha256 base) = _ at hclaimed
  rw [hclaimed] at hrun hholder'
  have hstep : group.tickStep s e = ⟨s'.1, Function.update s.held e.who (s.held e.who ∪
      (taken base.toFinset (group.prefs base) group.target owned e.who).toFinset)⟩ := by
    rw [tickStep, hrun]
  have hheld' (i : ι) : (group.tickStep s e).held i =
      share base.toFinset (turn base.toFinset (group.prefs base) group.target owned e.who) i := by
    rw [hstep]
    dsimp only
    by_cases hi : i = e.who
    · subst hi
      rw [Function.update_self, share_turn_self hprefs, hheld]
    · rw [Function.update_of_ne hi, share_turn_of_ne hi, hheld]
  rw [Shares]
  refine ⟨?_, ?_, hheld', ?_⟩
  · rw [hstep]
    exact hd'
  · intro x
    rw [hstep]
    change group.holder H s'.1 x = _
    rw [hholder', turn]
    split
    · rfl
    · exact hholder x
  · intro i
    rw [hheld']
    have hle := hcard i
    rw [hheld] at hle
    by_cases hi : i = e.who
    · subst hi
      rw [card_share_turn_self hprefs]
      omega
    · rwa [share_turn_of_ne hi]

theorem shares_exec (hown : Function.Injective group.owner)
    (hH : ∀ i, H ≤ t₀+(group.manager i).leaseTtlSeconds) (hbase : base.Nodup)
    (es : List (TickEvent ι)) (hes : ∀ e ∈ es, InWindow t₀ H base e)
    {s : ShardWorld ι} {owned : ServiceGroupId → Option ι} (h : group.Shares t₀ H base s owned) :
    group.Shares t₀ H base (exec group.tickStep s es)
      (turns base.toFinset (group.prefs base) group.target owned (es.map (·.who))) := by
  induction es generalizing s owned with
  | nil => exact h
  | cons e es ih =>
    obtain ⟨he, hes'⟩ := List.forall_mem_cons.mp hes
    exact ih hes' (shares_tickStep hown hH hbase h e he)

theorem shares_ticks (hown : Function.Injective group.owner)
    (hH : ∀ i, H ≤ t₀+(group.manager i).leaseTtlSeconds) (hbase : base.Nodup)
    (es : List (TickEvent ι)) (hes : ∀ e ∈ es, InWindow t₀ H base e) :
    group.Shares t₀ H base (group.ticks es)
      (turns base.toFinset (group.prefs base) group.target (fun _ => none) (es.map (·.who))) := by
  refine shares_exec hown hH hbase es hes ⟨?_, ?_, ?_, ?_⟩
  · intro x g hg
    simp [grant, LeaseFile.grant] at hg
  · intro x
    simp [holder, grant, LeaseFile.grant]
  · intro i
    simp [share]
  · intro i
    simp

theorem held_ticks (hown : Function.Injective group.owner)
    (hH : ∀ i, H ≤ t₀+(group.manager i).leaseTtlSeconds) (hbase : base.Nodup)
    {es : List (TickEvent ι)} (hes : ∀ e ∈ es, InWindow t₀ H base e) (i : ι) :
    (group.ticks es).held i = share base.toFinset
      (turns base.toFinset (group.prefs base) group.target (fun _ => none) (es.map (·.who))) i :=
  (shares_ticks hown hH hbase es hes).2.2.1 i

/-- What the managers of a run hold together, and what they leave free. -/
theorem card_heldBy_add_free (hown : Function.Injective group.owner)
    (hH : ∀ i, H ≤ t₀+(group.manager i).leaseTtlSeconds) (hbase : base.Nodup)
    {es : List (TickEvent ι)} (hes : ∀ e ∈ es, InWindow t₀ H base e) :
    (heldBy (group.ticks es) (es.map (·.who))).card+
      (free base.toFinset (turns base.toFinset (group.prefs base) group.target (fun _ => none)
        (es.map (·.who)))).card = base.length := by
  rw [heldBy, funext (held_ticks hown hH hbase hes), ← List.toFinset_card_of_nodup hbase]
  refine card_biUnion_share _ fun x i hi => ?_
  exact (owner_of_turns hi).resolve_right (by simp)

/-- Managers that tick once hold as much as their targets come to, or everything. -/
theorem card_heldBy_ticks (hown : Function.Injective group.owner)
    (hH : ∀ i, H ≤ t₀+(group.manager i).leaseTtlSeconds) (hbase : base.Nodup)
    {es : List (TickEvent ι)} (hes : ∀ e ∈ es, InWindow t₀ H base e)
    (honce : (es.map (·.who)).Nodup) :
    (heldBy (group.ticks es) (es.map (·.who))).card =
      min base.length ((es.map (·.who)).map group.target).sum := by
  have hfree : (free base.toFinset (turns base.toFinset (group.prefs base) group.target
      (fun _ => none) (es.map (·.who)))).card = _ :=
    card_free_turns (fun i => prefs_listing hbase i) (es.map (·.who)) honce (by simp [share])
  have hleft := card_heldBy_add_free hown hH hbase hes
  have hall : (free base.toFinset (fun _ => (none : Option ι))).card = base.length := by
    rw [← List.toFinset_card_of_nodup hbase]
    simp [free]
  omega

/-- First ticks share the list without overlap, each manager taking its target or what the
earlier ones left; later ticks and other listings of the same groups change nothing. -/
theorem shards_converge (group : CoordinationGroup ι) (hown : Function.Injective group.owner)
    (t₀ H : ℚ) (hH : ∀ i, H ≤ t₀+(group.manager i).leaseTtlSeconds)
    (base : List ServiceGroupId) (hbase : base.Nodup) (first : List (TickEvent ι))
    (hfirst : ∀ e ∈ first, InWindow t₀ H base e) (honce : (first.map (·.who)).Nodup) :
    (∀ i j, i ≠ j → Disjoint ((group.ticks first).held i) ((group.ticks first).held j)) ∧
    (∀ pre e post, first = pre ++ e :: post →
      ((group.ticks first).held e.who).card =
        min (group.target e.who)
          (base.length-(heldBy (group.ticks pre) (pre.map (·.who))).card)) ∧
    (heldBy (group.ticks first) (first.map (·.who))).card =
      min base.length ((first.map (·.who)).map group.target).sum ∧
    (∀ further : List (TickEvent ι),
      (∀ e ∈ further, InWindow t₀ H base e ∧ e.who ∈ first.map (·.who)) →
      (group.ticks (first ++ further)).held = (group.ticks first).held) ∧
    (∀ other : List (TickEvent ι), other.map (·.who) = first.map (·.who) →
      (∀ e ∈ other, InWindow t₀ H base e) →
      (group.ticks other).held = (group.ticks first).held) := by
  have hprefs (i : ι) : (group.prefs base i).Nodup ∧ ∀ x, x ∈ group.prefs base i ↔
      x ∈ base.toFinset :=
    prefs_listing hbase i
  have hshare (es : List (TickEvent ι)) (hes : ∀ e ∈ es, InWindow t₀ H base e) (i : ι) :=
    held_ticks hown hH hbase hes i
  refine ⟨?_, ?_, ?_, ?_, ?_⟩
  · intro i j hij
    rw [hshare first hfirst, hshare first hfirst]
    exact disjoint_share hij
  -- an owner takes what those before it have left, up to its target
  · rintro pre e post rfl
    have hpre : ∀ a ∈ pre, InWindow t₀ H base a := fun a ha => hfirst a (by simp [ha])
    rw [List.map_append, List.map_cons] at honce
    have hnotpost : e.who ∉ post.map (·.who) :=
      (List.nodup_cons.mp (List.nodup_append.mp honce).2.1).1
    have hnotpre : e.who ∉ pre.map (·.who) := fun hmem =>
      (List.nodup_append.mp honce).2.2 e.who hmem e.who List.mem_cons_self rfl
    have hempty : share base.toFinset (turns base.toFinset (group.prefs base) group.target
        (fun _ => none) (pre.map (·.who))) e.who = ∅ := by
      rw [share_turns_of_notMem _ hnotpre]
      simp [share]
    have hleft := card_heldBy_add_free hown hH hbase hpre
    rw [hshare _ hfirst, List.map_append, List.map_cons, turns_append, turns_cons,
      share_turns_of_notMem _ hnotpost, card_share_turn_self hprefs, hempty, Finset.card_empty]
    omega
  · exact card_heldBy_ticks hown hH hbase hfirst honce
  -- after the first round every owner is saturated or nothing is free
  · intro further hfurther
    have hes : ∀ e ∈ first ++ further, InWindow t₀ H base e := by
      intro e he
      exact (List.mem_append.mp he).elim (hfirst e) fun h => (hfurther e h).1
    funext i
    rw [hshare _ hes, hshare _ hfirst, List.map_append, turns_append, turns_of_saturated hprefs]
    intro o ho
    obtain ⟨e, he, rfl⟩ := List.mem_map.mp ho
    exact saturated_of_mem hprefs _ (hfurther e he).2
  · intro other hwho hother
    funext i
    rw [hshare _ hother, hshare _ hfirst, hwho]

/-- Two managers with one group to hold each share out three groups. -/
theorem shards_converge_pair :
    (heldBy (pairManagers.ticks [⟨true, [7, 4, 9], fun _ => 0⟩, ⟨false, [9, 7, 4], fun _ => 3⟩])
      [true, false]).card = 2 :=
  (shards_converge pairManagers pairManagers_owner_injective 0 10
    (fun i => by cases i <;> decide +kernel) [4, 7, 9] (by decide)
    [⟨true, [7, 4, 9], fun _ => 0⟩, ⟨false, [9, 7, 4], fun _ => 3⟩]
    (List.forall_mem_cons.mpr ⟨⟨by decide, fun _ => (by decide +kernel : (0 : ℚ) ≤ 0 ∧
      (0 : ℚ) < 10)⟩,
      List.forall_mem_cons.mpr
        ⟨⟨by decide, fun _ => (by decide +kernel : (0 : ℚ) ≤ 3 ∧ (3 : ℚ) < 10)⟩, by simp⟩⟩)
    (by decide)).2.2.1

end CoordinationGroup
end PypnmCmts
