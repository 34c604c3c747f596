import Mathlib.Algebra.Order.Group.Defs
import Mathlib.Data.List.Induction
import Mathlib.Order.Defs.LinearOrder
import PypnmCmts.LabelledRun

/-! A lease with a time to live: one cell that names an owner and an expiry. Owners
and times are arbitrary; every owner has a time to live of its own. -/
namespace TtlLease

open LabelledRun

/-- Who holds the lease, and until when. -/
structure Grant (ω τ : Type*) where
  owner : ω
  expires : τ
deriving DecidableEq

inductive Op
  | acquire
  | renew
  | release
deriving DecidableEq

/-- What a caller is told. -/
inductive Reply (τ : Type*)
  | told (expires : τ)
  | released
  | refused
deriving DecidableEq

section Cell
variable {ω τ : Type*} [LinearOrder τ]

/-- The grant in force at `now`. -/
def inForce (cell : Option (Grant ω τ)) (now : τ) : Option (Grant ω τ) :=
  cell.filter (fun g => now < g.expires)

theorem inForce_eq_some {cell : Option (Grant ω τ)} {now : τ} {g : Grant ω τ} :
    inForce cell now = some g ↔ cell = some g ∧ now < g.expires := by
  simp [inForce, Option.filter_eq_some_iff]

theorem inForce_eq_none {cell : Option (Grant ω τ)} {now : τ} :
    inForce cell now = none ↔ ∀ g, cell = some g → g.expires ≤ now := by
  cases cell <;> simp [inForce, Option.filter]

variable [DecidableEq ω] [Add τ]

/-- One call by `o`, whose leases live for `ttl`. -/
def perform (o : ω) (ttl : τ) (op : Op) (now : τ) (cell : Option (Grant ω τ)) :
    Reply τ × Option (Grant ω τ) :=
  match op, inForce cell now, cell with
  | .acquire, none, _ => (.told (now+ttl), some ⟨o, now+ttl⟩)
  | .acquire, some g, _ => if g.owner = o then (.told g.expires, cell) else (.refused, cell)
  | .renew, none, _ => (.refused, cell)
  | .renew, some g, _ =>
    if g.owner = o then (.told (now+ttl), some ⟨o, now+ttl⟩) else (.refused, cell)
  | .release, _, none => (.refused, none)
  | .release, _, some g => if g.owner = o then (.released, none) else (.refused, cell)

section Equations
variable {o : ω} {ttl now : τ} {cell : Option (Grant ω τ)} {g : Grant ω τ}

theorem perform_acquire_none (h : inForce cell now = none) :
    perform o ttl .acquire now cell = (.told (now+ttl), some ⟨o, now+ttl⟩) := by
  simp [perform, h]

theorem perform_acquire_own (h : inForce cell now = some g) (ho : g.owner = o) :
    perform o ttl .acquire now cell = (.told g.expires, cell) := by
  simp [perform, h, ho]

theorem perform_acquire_other (h : inForce cell now = some g) (ho : g.owner ≠ o) :
    perform o ttl .acquire now cell = (.refused, cell) := by
  simp [perform, h, ho]

theorem perform_renew_none (h : inForce cell now = none) :
    perform o ttl .renew now cell = (.refused, cell) := by
  simp [perform, h]

theorem perform_renew_own (h : inForce cell now = some g) (ho : g.owner = o) :
    perform o ttl .renew now cell = (.told (now+ttl), some ⟨o, now+ttl⟩) := by
  simp [perform, h, ho]

theorem perform_renew_other (h : inForce cell now = some g) (ho : g.owner ≠ o) :
    perform o ttl .renew now cell = (.refused, cell) := by
  simp [perform, h, ho]

theorem perform_release_none : perform o ttl .release now none = (.refused, none) := rfl

theorem perform_release_own (ho : g.owner = o) :
    perform o ttl .release now (some g) = (.released, none) := by
  simp [perform, ho]

theorem perform_release_other (ho : g.owner ≠ o) :
    perform o ttl .release now (some g) = (.refused, some g) := by
  simp [perform, ho]

end Equations

/-- Everything one call can do: leave the cell alone, write the caller's own fresh
grant over a cell with no foreign grant in force, or clear the caller's own grant. -/
theorem perform_cases (o : ω) (ttl : τ) (op : Op) (now : τ) (cell : Option (Grant ω τ)) :
    (∃ g, inForce cell now = some g ∧ g.owner = o ∧ op = .acquire ∧
      perform o ttl op now cell = (.told g.expires, cell)) ∨
    ((∀ g, inForce cell now = some g → g.owner = o ∧ op = .renew) ∧
      perform o ttl op now cell = (.told (now+ttl), some ⟨o, now+ttl⟩)) ∨
    (∃ g, cell = some g ∧ g.owner = o ∧ op = .release ∧
      perform o ttl op now cell = (.released, none)) ∨
    perform o ttl op now cell = (.refused, cell) := by
  cases op with
  | acquire =>
    cases hf : inForce cell now with
    | none => exact Or.inr (Or.inl ⟨by simp, perform_acquire_none hf⟩)
    | some g =>
      by_cases ho : g.owner = o
      · exact Or.inl ⟨g, rfl, ho, rfl, perform_acquire_own hf ho⟩
      · exact Or.inr (Or.inr (Or.inr (perform_acquire_other hf ho)))
  | renew =>
    cases hf : inForce cell now with
    | none => exact Or.inr (Or.inr (Or.inr (perform_renew_none hf)))
    | some g =>
      by_cases ho : g.owner = o
      · refine Or.inr (Or.inl ⟨?_, perform_renew_own hf ho⟩)
        intro g' hg'
        exact ⟨(Option.some.inj hg') ▸ ho, rfl⟩
      · exact Or.inr (Or.inr (Or.inr (perform_renew_other hf ho)))
  | release =>
    cases cell with
    | none => exact Or.inr (Or.inr (Or.inr perform_release_none))
    | some g =>
      by_cases ho : g.owner = o
      · exact Or.inr (Or.inr (Or.inl ⟨g, rfl, ho, rfl, perform_release_own ho⟩))
      · exact Or.inr (Or.inr (Or.inr (perform_release_other ho)))

/-- What one call by `o` can come to: its grant in force is confirmed, a fresh one is written where
no foreign grant is in force, its own grant is cleared, or all stays as it is. -/
inductive Outcome (o : ω) (ttl now : τ) (cell : Option (Grant ω τ)) :
    Reply τ → Option (Grant ω τ) → Prop
  | confirmed (g : Grant ω τ) (hg : inForce cell now = some g) (ho : g.owner = o) :
      Outcome o ttl now cell (.told g.expires) cell
  | granted (hown : ∀ g, inForce cell now = some g → g.owner = o) :
      Outcome o ttl now cell (.told (now+ttl)) (some ⟨o, now+ttl⟩)
  | cleared (g : Grant ω τ) (hg : cell = some g) (ho : g.owner = o) :
      Outcome o ttl now cell .released none
  | refused : Outcome o ttl now cell .refused cell

theorem outcome_perform (o : ω) (ttl : τ) (op : Op) (now : τ) (cell : Option (Grant ω τ)) :
    Outcome o ttl now cell (perform o ttl op now cell).1 (perform o ttl op now cell).2 := by
  rcases perform_cases o ttl op now cell with
    ⟨g, hf, ho, -, hp⟩ | ⟨hown, hp⟩ | ⟨g, hg, ho, -, hp⟩ | hp <;> rw [hp]
  · exact .confirmed g hf ho
  · exact .granted fun g hg => (hown g hg).1
  · exact .cleared g hg ho
  · exact .refused

end Cell

section Runs
variable {ω τ : Type*} [AddCommGroup τ] [LinearOrder τ]

structure World (ω τ : Type*) where
  cell : Option (Grant ω τ)
  clock : τ

/-- `who` calls `op` after the shared clock has advanced by `wait`. -/
structure Call (ω τ : Type*) where
  wait : τ
  who : ω
  op : Op

/-- No grant outlives a fresh grant of its owner. -/
def WithinTtl (ttl : ω → τ) (s : World ω τ) : Prop :=
  ∀ g, s.cell = some g → g.expires ≤ s.clock+ttl g.owner

/-- What `o` was told is over, or the cell still grants it at least that long. -/
def Backed (o : ω) (e : τ) (s : World ω τ) : Prop :=
  e ≤ s.clock ∨ ∃ g, s.cell = some g ∧ g.owner = o ∧ e ≤ g.expires

/-- A system whose steps are calls for a lease, and the lease that its states hold. -/
structure Users (σ κ ω τ : Type*) where
  step : σ → κ → σ
  reply : σ → κ → Reply τ
  who : κ → ω
  view : σ → World ω τ

namespace Users
variable {σ κ : Type*} (users : Users σ κ ω τ) (ttl : ω → τ)

/-- The clock does not go back, and the call comes to what a call may come to. -/
def Lawful (s : σ) (c : κ) : Prop :=
  (users.view s).clock ≤ (users.view (users.step s c)).clock ∧
    Outcome (users.who c) (ttl (users.who c)) (users.view (users.step s c)).clock
      (users.view s).cell (users.reply s c) (users.view (users.step s c)).cell

/-- The caller is told of the lease although that of somebody else is in force. -/
def Usurps (s : σ) (c : κ) : Prop :=
  ∃ g e, inForce (users.view s).cell (users.view (users.step s c)).clock = some g ∧
    g.owner ≠ users.who c ∧ users.reply s c = .told e

/-- The call is not one by which `o` gives the lease up. -/
def KeptBy (o : ω) (s : σ) (c : κ) : Prop := ¬(users.who c = o ∧ users.reply s c = .released)

/-- In the run of `cs` nobody is told of the lease before what another one was told of it is over,
unless that one has given it up. -/
def Excludes (s : σ) (cs : List κ) : Prop :=
  ∀ as c bs c' ds e e', cs = as ++ c :: bs ++ c' :: ds →
    users.reply (exec users.step s as) c = .told e →
    Guarded users.step (users.KeptBy (users.who c)) (exec users.step s (as ++ [c])) bs →
    users.who c' ≠ users.who c →
    users.reply (exec users.step s (as ++ c :: bs)) c' = .told e' →
    e ≤ (users.view (exec users.step s (as ++ c :: bs ++ [c']))).clock

variable {users ttl} {s : σ} {c : κ} {o : ω} {e e' : τ}

/-- After a caller is told that it holds the lease, the cell backs it. -/
theorem backed_of_told (hc : users.Lawful ttl s c) (h : users.reply s c = .told e) :
    Backed (users.who c) e (users.view (users.step s c)) := by
  obtain ⟨-, hout⟩ := hc
  rw [h] at hout
  generalize hcell : (users.view (users.step s c)).cell = cell at hout
  cases hout with
  | confirmed g hg ho => exact Or.inr ⟨g, hcell.trans (inForce_eq_some.mp hg).1, ho, le_rfl⟩
  | granted => exact Or.inr ⟨_, hcell, rfl, le_rfl⟩

/-- While the cell backs `o`, nobody else is told that it holds the lease. -/
theorem expired_of_told_other (hc : users.Lawful ttl s c) (h : Backed o e (users.view s))
    (hne : users.who c ≠ o) (ht : users.reply s c = .told e') :
    e ≤ (users.view (users.step s c)).clock := by
  obtain ⟨hle, hout⟩ := hc
  rcases h with h | ⟨g, hg, ho, he⟩
  · exact h.trans hle
  by_contra hlt
  have hf : inForce (users.view s).cell (users.view (users.step s c)).clock = some g :=
    inForce_eq_some.mpr ⟨hg, (not_le.mp hlt).trans_le he⟩
  rw [ht] at hout
  generalize (users.view (users.step s c)).cell = cell at hout
  cases hout with
  | confirmed g' hf' ho' =>
    obtain rfl := Option.some.inj (hf ▸ hf')
    exact hne (ho' ▸ ho)
  | granted hown => exact hne ((hown g hf) ▸ ho)

variable [IsOrderedAddMonoid τ]

theorem within_ttl_step (hc : users.Lawful ttl s c) (h : WithinTtl ttl (users.view s)) :
    WithinTtl ttl (users.view (users.step s c)) := by
  obtain ⟨hle, hout⟩ := hc
  intro g hg
  generalize users.reply s c = reply at hout
  generalize hcell : (users.view (users.step s c)).cell = cell at hout hg
  cases hout with
  | confirmed => exact (h g hg).trans (add_le_add_left hle _)
  | granted =>
    obtain rfl := Option.some.inj hg
    exact le_rfl
  | cleared => cases hg
  | refused => exact (h g hg).trans (add_le_add_left hle _)

theorem backed_step (hc : users.Lawful ttl s c) (hk : users.KeptBy o s c)
    (hw : WithinTtl ttl (users.view s)) (h : Backed o e (users.view s)) :
    Backed o e (users.view (users.step s c)) := by
  obtain ⟨hle, hout⟩ := hc
  rcases h with h | ⟨g, hg, ho, he⟩
  · exact Or.inl (h.trans hle)
  by_cases hlive : (users.view (users.step s c)).clock < g.expires
  · have hf : inForce (users.view s).cell (users.view (users.step s c)).clock = some g :=
      inForce_eq_some.mpr ⟨hg, hlive⟩
    generalize hreply : users.reply s c = reply at hout
    generalize hcell : (users.view (users.step s c)).cell = cell at hout
    cases hout with
    | confirmed => exact Or.inr ⟨g, hcell.trans hg, ho, he⟩
    | granted hown =>
      -- a fresh grant over one in force is a renewal by its owner, which cannot shorten it
      have hwho := hown g hf
      refine Or.inr ⟨_, hcell, hwho ▸ ho, he.trans ?_⟩
      have hb := hw g hg
      rw [hwho] at hb
      exact hb.trans (add_le_add_left hle _)
    | cleared g' hg' ho' =>
      obtain rfl := Option.some.inj (hg ▸ hg')
      exact absurd ⟨ho' ▸ ho, hreply⟩ hk
    | refused => exact Or.inr ⟨g, hcell.trans hg, ho, he⟩
  · exact Or.inl (he.trans (not_lt.mp hlive))

/-- Exclusion over runs: an owner told that it holds the lease until `e` keeps every other owner
out until then, unless it gives the lease up. -/
theorem excludes_of_lawful {cs : List κ} (h0 : WithinTtl ttl (users.view s))
    (hcs : Guarded users.step (users.Lawful ttl) s cs) : users.Excludes s cs := by
  rintro as c bs c' ds e e' rfl hc hbs hne hc'
  obtain ⟨htold, hrest⟩ := guarded_append.mp hcs
  obtain ⟨has, hlawful, hkept⟩ := guarded_append.mp htold
  have hlast := hrest.1
  have hw : WithinTtl ttl (users.view (exec users.step s as)) :=
    invariant_of_guarded (I := fun s => WithinTtl ttl (users.view s))
      (fun s a ha h => within_ttl_step ha h) has h0
  rw [exec_concat] at hbs
  have hboth := invariant_of_guarded
    (I := fun s => WithinTtl ttl (users.view s) ∧ Backed (users.who c) e (users.view s))
    (fun s a ha h => ⟨within_ttl_step ha.1 h.1, backed_step ha.1 ha.2 h.1 h.2⟩)
    (hkept.and hbs) ⟨within_ttl_step hlawful hw, backed_of_told hlawful hc⟩
  rw [← exec_append_cons] at hboth
  rw [exec_concat]
  exact expired_of_told_other hlast hboth.2 hne hc'

omit [IsOrderedAddMonoid τ] in
/-- A grant in the cell is what its owner was told last, which has not given it up since. -/
theorem exists_told {cs : List κ} (h0 : (users.view s).cell = none)
    (hcs : Guarded users.step (users.Lawful ttl) s cs) {g : Grant ω τ}
    (hg : (users.view (exec users.step s cs)).cell = some g) :
    ∃ as c bs, cs = as ++ c :: bs ∧ users.who c = g.owner ∧
      users.reply (exec users.step s as) c = .told g.expires ∧
      Guarded users.step (users.KeptBy g.owner) (exec users.step s (as ++ [c])) bs := by
  induction cs using List.reverseRecOn with
  | nil =>
    rw [exec_nil, h0] at hg
    cases hg
  | append_singleton cs c ih =>
    obtain ⟨hcs, ⟨-, hout⟩, -⟩ := guarded_append.mp hcs
    rw [exec_concat] at hg
    have hgo (hsame : (users.view (exec users.step s cs)).cell = some g)
        (hkept : users.KeptBy g.owner (exec users.step s cs) c) :
        ∃ as c' bs, cs ++ [c] = as ++ c' :: bs ∧ users.who c' = g.owner ∧
          users.reply (exec users.step s as) c' = .told g.expires ∧
          Guarded users.step (users.KeptBy g.owner) (exec users.step s (as ++ [c'])) bs := by
      obtain ⟨as, c', bs, rfl, hwho, htold, hbs⟩ := ih hcs hsame
      refine ⟨as, c', bs ++ [c], by simp, hwho, htold, guarded_append.mpr ⟨hbs, ?_, trivial⟩⟩
      rwa [← exec_append, List.append_assoc, List.singleton_append]
    rw [hg] at hout
    generalize hreply : users.reply (exec users.step s cs) c = reply at hout
    generalize hcell : (users.view (exec users.step s cs)).cell = cell at hout
    cases hout with
    | confirmed g' =>
      -- the grant was there before, and whoever was told of it has kept it
      refine hgo hcell ?_
      rintro ⟨-, hreleased⟩
      rw [hreply] at hreleased
      cases hreleased
    | granted => exact ⟨cs, c, [], rfl, rfl, hreply, trivial⟩
    | refused =>
      refine hgo hcell ?_
      rintro ⟨-, hreleased⟩
      rw [hreply] at hreleased
      cases hreleased

/-- Where a call is lawful or usurps the lease, the run excludes if and only if no call usurps. -/
theorem excludes_iff {G : σ → κ → Prop} (hlawful : ∀ s c, G s c → users.Lawful ttl s c)
    (husurps : ∀ s c, ¬G s c → users.Usurps s c) (h0 : (users.view s).cell = none) (cs : List κ) :
    users.Excludes s cs ↔ Guarded users.step G s cs := by
  constructor
  · intro h
    induction cs using List.reverseRecOn with
    | nil => trivial
    | append_singleton cs c' ih =>
      have hcs : Guarded users.step G s cs := by
        apply ih
        rintro as c bs d ds e e' rfl
        exact h as c bs d (ds ++ [c']) e e' (by simp)
      refine guarded_append.mpr ⟨hcs, ?_, trivial⟩
      by_contra hnot
      -- a call that usurps a lease is told of its own while an older answer stands
      obtain ⟨g, e', hforce, hother, hreply⟩ := husurps _ _ hnot
      obtain ⟨hg, hlive⟩ := inForce_eq_some.mp hforce
      obtain ⟨as, c, bs, rfl, hwho, htold, hkept⟩ :=
        exists_told h0 (hcs.mono fun s c => hlawful s c) hg
      have hover := h as c bs c' [] g.expires e' rfl htold (hwho ▸ hkept)
        (fun hsame => hother (hwho.symm.trans hsame.symm)) hreply
      rw [exec_concat] at hover
      exact absurd hlive hover.not_gt
  · intro h
    have hempty : WithinTtl ttl (users.view s) := by
      intro g hg
      rw [h0] at hg
      cases hg
    exact excludes_of_lawful hempty (h.mono fun s c => hlawful s c)

end Users

variable [DecidableEq ω]

variable (ttl : ω → τ)

def reply (s : World ω τ) (c : Call ω τ) : Reply τ :=
  (perform c.who (ttl c.who) c.op (s.clock+c.wait) s.cell).1

def step (s : World ω τ) (c : Call ω τ) : World ω τ :=
  ⟨(perform c.who (ttl c.who) c.op (s.clock+c.wait) s.cell).2, s.clock+c.wait⟩

def Advances (_ : World ω τ) (c : Call ω τ) : Prop := 0 ≤ c.wait

/-- The clock does not go back and `o` does not give the lease up. -/
def Keeps (o : ω) (s : World ω τ) (c : Call ω τ) : Prop :=
  0 ≤ c.wait ∧ ¬ (c.who = o ∧ reply ttl s c = .released)

variable {ttl} [IsOrderedAddMonoid τ]

/-- The lease itself as a system of calls. -/
def users (ttl : ω → τ) : Users (World ω τ) (Call ω τ) ω τ := ⟨step ttl, reply ttl, Call.who, id⟩

theorem lawful_users (s : World ω τ) (c : Call ω τ) (hc : 0 ≤ c.wait) :
    (users ttl).Lawful ttl s c :=
  ⟨le_add_of_nonneg_right hc, outcome_perform _ _ _ _ _⟩

theorem within_ttl_step (s : World ω τ) (c : Call ω τ) (hc : 0 ≤ c.wait)
    (h : WithinTtl ttl s) : WithinTtl ttl (step ttl s c) :=
  Users.within_ttl_step (lawful_users s c hc) h

theorem backed_step (o : ω) (e : τ) (s : World ω τ) (c : Call ω τ) (hk : Keeps ttl o s c)
    (hw : WithinTtl ttl s) (h : Backed o e s) : Backed o e (step ttl s c) :=
  Users.backed_step (lawful_users s c hk.1) hk.2 hw h

/-- After a caller is told that it holds the lease, the cell backs it. -/
theorem backed_of_told (s : World ω τ) (c : Call ω τ) (e : τ) (hc : 0 ≤ c.wait)
    (h : reply ttl s c = .told e) : Backed c.who e (step ttl s c) :=
  Users.backed_of_told (lawful_users s c hc) h

/-- While the cell backs `o`, nobody else is told that it holds the lease. -/
theorem expired_of_told_other (o : ω) (e : τ) (s : World ω τ) (c : Call ω τ) (e' : τ)
    (hc : 0 ≤ c.wait) (h : Backed o e s) (hne : c.who ≠ o) (ht : reply ttl s c = .told e') :
    e ≤ s.clock+c.wait :=
  Users.expired_of_told_other (lawful_users s c hc) h hne ht

/-- Exclusion over the runs of the lease itself. -/
theorem told_excludes (s : World ω τ) (h0 : WithinTtl ttl s) (as bs : List (Call ω τ))
    (c c' : Call ω τ) (e e' : τ)
    (has : Guarded (step ttl) Advances s (as ++ [c]))
    (hc : reply ttl (exec (step ttl) s as) c = .told e)
    (hbs : Guarded (step ttl) (Keeps ttl c.who) (exec (step ttl) s (as ++ [c])) bs)
    (hwait : 0 ≤ c'.wait) (hne : c'.who ≠ c.who)
    (hc' : reply ttl (exec (step ttl) s (as ++ c :: bs)) c' = .told e') :
    e ≤ (exec (step ttl) s (as ++ c :: bs)).clock+c'.wait := by
  have hlawful : Guarded (step ttl) ((users ttl).Lawful ttl) s (as ++ c :: bs ++ [c']) := by
    rw [guarded_append, List.append_cons, guarded_append]
    exact ⟨⟨has.mono fun s c hc => lawful_users s c hc,
      hbs.mono fun s c hc => lawful_users s c hc.1⟩, lawful_users _ c' hwait, trivial⟩
  have hexcludes : (users ttl).Excludes s (as ++ c :: bs ++ [c']) :=
    Users.excludes_of_lawful h0 hlawful
  have hmain := hexcludes as c bs c' [] e e' rfl hc (hbs.mono fun s c hk => hk.2) hne hc'
  rwa [exec_concat] at hmain

end Runs

end TtlLease
