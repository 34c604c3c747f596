import PypnmCmts.TtlLease

/-! Implementations of a lease with a time to live: contenders that work on one state, each of
whose operations is the abstract one on the grant that the state holds. -/
namespace TtlLease

open LabelledRun

structure Implementation (ι ω τ σ : Type*) [DecidableEq ω] [LinearOrder τ] [Add τ] where
  owner : ι → ω
  ttl : ι → τ
  run : ι → Op → τ → σ → Reply τ × σ
  grant : σ → Option (Grant ω τ)
  refines : ∀ i op now s, ((run i op now s).1, grant (run i op now s).2) =
    perform (owner i) (ttl i) op now (grant s)

namespace Implementation
variable {ι ω τ σ : Type*} [DecidableEq ω] [AddCommGroup τ] [LinearOrder τ]
  (impl : Implementation ι ω τ σ)

/-- What a call is told that is made after the clock has advanced by its `wait`. -/
def reply (s : σ × τ) (c : Call ι τ) : Reply τ := (impl.run c.who c.op (s.2+c.wait) s.1).1

def step (s : σ × τ) (c : Call ι τ) : σ × τ :=
  ((impl.run c.who c.op (s.2+c.wait) s.1).2, s.2+c.wait)

def Advances (_ : σ × τ) (c : Call ι τ) : Prop := 0 ≤ c.wait

/-- The clock does not go back and `i` does not give the lease up. -/
def KeptBy (i : ι) (s : σ × τ) (c : Call ι τ) : Prop :=
  0 ≤ c.wait ∧ ¬(c.who = i ∧ impl.reply s c = .released)

/-- In every run a contender that is told of the lease until `e` keeps every other one out until
then, unless it gives the lease up. -/
def Excludes (s : σ × τ) : Prop :=
  ∀ (as bs : List (Call ι τ)) (c c' : Call ι τ) (e e' : τ),
    Guarded impl.step Advances s (as ++ [c]) →
    impl.reply (exec impl.step s as) c = .told e →
    Guarded impl.step (impl.KeptBy c.who) (exec impl.step s (as ++ [c])) bs →
    0 ≤ c'.wait → c'.who ≠ c.who →
    impl.reply (exec impl.step s (as ++ c :: bs)) c' = .told e' →
    e ≤ (exec impl.step s (as ++ c :: bs)).2+c'.wait

/-- Two contenders with one owner do not: the second is told of the grant of the first. -/
theorem owner_injective_of_excludes [IsOrderedAddMonoid τ] (hpos : ∀ i, 0 < impl.ttl i)
    (s : σ × τ) (h0 : impl.grant s.1 = none) (h : impl.Excludes s) :
    Function.Injective impl.owner := by
  intro i j hij
  by_contra hne
  let first : Call ι τ := ⟨0, i, .acquire⟩
  let second : Call ι τ := ⟨0, j, .acquire⟩
  have hfirst := impl.refines i .acquire (s.2+0) s.1
  rw [h0, perform_acquire_none (by simp [inForce])] at hfirst
  obtain ⟨htold, hgrant⟩ := Prod.mk.inj hfirst
  have hlive : inForce (impl.grant (impl.step s first).1) (s.2+0+0) =
      some ⟨impl.owner i, s.2+0+impl.ttl i⟩ := by
    refine inForce_eq_some.mpr ⟨hgrant, ?_⟩
    simpa using hpos i
  have hsecond := impl.refines j .acquire (s.2+0+0) (impl.step s first).1
  rw [perform_acquire_own hlive hij] at hsecond
  have hguard : Guarded impl.step Advances s ([] ++ [first]) := ⟨le_refl _, trivial⟩
  have hle := h [] [] first second _ _ hguard htold trivial (le_refl _) (fun hji => hne hji.symm)
    (Prod.mk.inj hsecond).1
  have hclock : s.2+0+impl.ttl i ≤ s.2+0+0 := hle
  simp only [add_zero, add_le_iff_nonpos_right] at hclock
  exact absurd (hpos i) hclock.not_gt

section Injective
variable (hinj : Function.Injective impl.owner)

/-- The time to live that goes with an owner. -/
noncomputable def ownerTtl : ω → τ := Function.extend impl.owner impl.ttl 0

def view (s : σ × τ) : World ω τ := ⟨impl.grant s.1, s.2⟩

def label (c : Call ι τ) : Call ω τ := ⟨c.wait, impl.owner c.who, c.op⟩

include hinj

theorem run_view (s : σ × τ) (c : Call ι τ) :
    (impl.reply s c, impl.grant (impl.step s c).1) =
      perform (impl.label c).who (impl.ownerTtl (impl.label c).who) c.op (s.2+c.wait)
        (impl.view s).cell := by
  have httl : impl.ownerTtl (impl.owner c.who) = impl.ttl c.who := hinj.extend_apply _ _ _
  rw [label, httl]
  exact impl.refines c.who c.op (s.2+c.wait) s.1

theorem reply_view (s : σ × τ) (c : Call ι τ) :
    impl.reply s c = TtlLease.reply impl.ownerTtl (impl.view s) (impl.label c) :=
  congrArg Prod.fst (impl.run_view hinj s c)

theorem view_step (s : σ × τ) (c : Call ι τ) :
    impl.view (impl.step s c) = TtlLease.step impl.ownerTtl (impl.view s) (impl.label c) := by
  have h := congrArg Prod.snd (impl.run_view hinj s c)
  exact congrArg (World.mk · (s.2+c.wait)) h

/-- Runs of the implementation are runs of the abstract lease. -/
theorem view_exec (s : σ × τ) (cs : List (Call ι τ)) :
    impl.view (exec impl.step s cs) =
      exec (TtlLease.step impl.ownerTtl) (impl.view s) (cs.map impl.label) :=
  exec_simulation (G := fun _ _ => True) impl.view impl.label
    (fun s c _ => impl.view_step hinj s c) (guarded_true (fun _ _ => trivial) s cs)

theorem guarded_advances (s : σ × τ) (cs : List (Call ι τ)) (h : Guarded impl.step Advances s cs) :
    Guarded (TtlLease.step impl.ownerTtl) TtlLease.Advances (impl.view s) (cs.map impl.label) := by
  induction cs generalizing s with
  | nil => trivial
  | cons c cs ih =>
    refine ⟨h.1, ?_⟩
    have hrest := ih _ h.2
    rwa [impl.view_step hinj] at hrest

theorem guarded_keeps (i : ι) (s : σ × τ) (cs : List (Call ι τ))
    (h : Guarded impl.step (impl.KeptBy i) s cs) :
    Guarded (TtlLease.step impl.ownerTtl) (Keeps impl.ownerTtl (impl.owner i)) (impl.view s)
      (cs.map impl.label) := by
  induction cs generalizing s with
  | nil => trivial
  | cons c cs ih =>
    refine ⟨⟨h.1.1, ?_⟩, ?_⟩
    · intro ⟨hwho, hrel⟩
      rw [← impl.reply_view hinj] at hrel
      exact h.1.2 ⟨hinj hwho, hrel⟩
    · have hrest := ih _ h.2
      rwa [impl.view_step hinj] at hrest

/-- Contenders with owners of their own exclude each other. -/
theorem excludes_of_injective [IsOrderedAddMonoid τ] (s : σ × τ) (h0 : impl.grant s.1 = none) :
    impl.Excludes s := by
  intro as bs c c' e e' has hc hbs hwait hne hc'
  have hview := impl.view_exec hinj s
  have hempty : WithinTtl impl.ownerTtl (impl.view s) := by
    intro g hg
    rw [view, h0] at hg
    cases hg
  rw [impl.reply_view hinj, hview] at hc hc'
  have hkeeps := impl.guarded_keeps hinj c.who _ bs hbs
  rw [hview, List.map_append, List.map_singleton] at hkeeps
  have hadv := impl.guarded_advances hinj s _ has
  rw [List.map_append, List.map_singleton] at hadv
  rw [List.map_append, List.map_cons] at hc'
  have hmain := told_excludes (impl.view s) hempty (as.map impl.label) (bs.map impl.label)
    (impl.label c) (impl.label c') e e' hadv hc hkeeps hwait (fun h => hne (hinj h)) hc'
  have hclock := congrArg World.clock (hview (as ++ c :: bs))
  rw [List.map_append, List.map_cons] at hclock
  exact hmain.trans_eq (congrArg (·+c'.wait) hclock.symm)

end Injective
end Implementation
end TtlLease
