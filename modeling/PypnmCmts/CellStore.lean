import Mathlib
import PypnmCmts.CallTree
import PypnmCmts.LabelledRun

/-! Programs that work on a store of cells. Every call acts on the cells that it names and on no
others, so programs that name different cells do not disturb each other in any interleaving. -/

open LabelledRun CallTree

/-- What the calls do to a store. The environment has its say in an answer to each. -/
structure CellStore (C : Type) (R : C → Type) (κ ν ε : Type) where
  handle : ε → (c : C) → (κ → ν) → R c × (κ → ν)
  cells : C → Set κ
  frame : ∀ e c s k, k ∉ cells c → (handle e c s).2 k = s k
  reads : ∀ e c s s', Set.EqOn s s' (cells c) →
    (handle e c s).1 = (handle e c s').1 ∧ Set.EqOn (handle e c s).2 (handle e c s').2 (cells c)

namespace CellStore
variable {C : Type} {R : C → Type} {κ ν ε V α ι O : Type} [DecidableEq ι]

/-- The cells, and what each party is still to do. -/
structure World (C : Type) (R : C → Type) (κ ν V α ι : Type) where
  store : κ → ν
  program : ι → CallTree C R V α

/-- A party that has nothing to do starts an operation, or makes its next call. -/
inductive Action (ι O ε : Type)
  | start (who : ι) (op : O)
  | call (who : ι) (answer : ε)

def Action.who : Action ι O ε → ι
  | start i _ => i
  | call i _ => i

variable (cs : CellStore C R κ ν ε) (ops : ι → O → CallTree C R V α)

def step (w : World C R κ ν V α ι) : Action ι O ε → World C R κ ν V α ι
  | .start i op =>
    if (w.program i).isDone then { w with program := Function.update w.program i (ops i op) } else w
  | .call i e =>
    let (program, store) := resume (cs.handle e) (w.program i) w.store
    ⟨store, Function.update w.program i program⟩

/-- The program makes calls on cells of `A` only. -/
def Within (A : Set κ) (t : CallTree C R V α) : Prop := t.Makes fun c => cs.cells c ⊆ A

/-- Two worlds that some parties cannot tell apart: those parties have the same to do, and the
cells of `A` hold the same. -/
def SameFor (own : ι → Prop) (A : Set κ) (w w' : World C R κ ν V α ι) : Prop :=
  (∀ i, own i → w.program i = w'.program i) ∧ Set.EqOn w.store w'.store A

/-- Every party keeps to the cells of its side. -/
def Sided (own : ι → Prop) (A B : Set κ) (w : World C R κ ν V α ι) : Prop :=
  ∀ i, (own i → cs.Within A (w.program i)) ∧ (¬own i → cs.Within B (w.program i))

variable {cs ops} {own : ι → Prop} {A B : Set κ}

omit [DecidableEq ι] in
theorem handle_eqOn {c : C} (hc : cs.cells c ⊆ A) (e : ε) {s s' : κ → ν} (h : Set.EqOn s s' A) :
    Set.EqOn (cs.handle e c s).2 (cs.handle e c s').2 A := by
  intro k hk
  by_cases hmem : k ∈ cs.cells c
  · exact (cs.reads e c s s' (h.mono hc)).2 hmem
  · rw [cs.frame e c s k hmem, cs.frame e c s' k hmem, h hk]

theorem sided_step (hops : ∀ i op, (own i → cs.Within A (ops i op)) ∧
      (¬own i → cs.Within B (ops i op))) (w : World C R κ ν V α ι) (a : Action ι O ε)
    (h : cs.Sided own A B w) : cs.Sided own A B (cs.step ops w a) := by
  have hupdate : ∀ (i : ι) (t : CallTree C R V α) (store : κ → ν),
      ((own i → cs.Within A t) ∧ (¬own i → cs.Within B t)) →
      cs.Sided own A B ⟨store, Function.update w.program i t⟩ := by
    intro i t store ht j
    by_cases hj : j = i
    · subst hj
      simpa using ht
    · simpa [hj] using h j
  cases a with
  | start i op =>
    simp only [step]
    split
    · exact hupdate i _ _ (hops i op)
    · exact h
  | call i e =>
    have hi := h i
    cases hp : w.program i with
    | done v o =>
      simp only [step, hp, resume]
      exact hupdate i _ _ ⟨fun _ => trivial, fun _ => trivial⟩
    | call v c next =>
      rw [hp] at hi
      simp only [step, hp, resume]
      exact hupdate i _ _ ⟨fun ho => (hi.1 ho).2 _, fun ho => (hi.2 ho).2 _⟩

/-- An action of one side does the same in both worlds. -/
theorem sameFor_own {w w' : World C R κ ν V α ι} {a : Action ι O ε} (hown : own a.who)
    (hsided : cs.Sided own A B w) (h : SameFor own A w w') :
    SameFor own A (cs.step ops w a) (cs.step ops w' a) := by
  have hupdate : ∀ (t : CallTree C R V α) (i j : ι), own j →
      Function.update w.program i t j = Function.update w'.program i t j := by
    intro t i j hj
    by_cases hij : j = i
    · subst hij
      simp
    · simpa [hij] using h.1 j hj
  cases a with
  | start i op =>
    have hi : w.program i = w'.program i := h.1 i hown
    simp only [step, ← hi]
    split
    · exact ⟨hupdate _ i, h.2⟩
    · exact h
  | call i e =>
    have hi : w.program i = w'.program i := h.1 i hown
    have hwithin := (hsided i).1 hown
    cases hp : w.program i with
    | done v o =>
      simp only [step, ← hi, hp, resume]
      exact ⟨hupdate _ i, h.2⟩
    | call v c next =>
      rw [hp] at hwithin
      simp only [step, ← hi, hp, resume]
      -- the cells that the call reads agree, so it is answered alike
      rw [(cs.reads e c w.store w'.store (h.2.mono hwithin.1)).1]
      exact ⟨hupdate _ i, handle_eqOn hwithin.1 e h.2⟩

/-- An action of the other side is not noticed. -/
theorem sameFor_other (hdisj : Disjoint A B) {w w' : World C R κ ν V α ι} {a : Action ι O ε}
    (hother : ¬own a.who) (hsided : cs.Sided own A B w) (h : SameFor own A w w') :
    SameFor own A (cs.step ops w a) w' := by
  have hupdate : ∀ (t : CallTree C R V α) (i j : ι), ¬own i → own j →
      Function.update w.program i t j = w'.program j := by
    intro t i j hi hj
    have hij : j ≠ i := fun he => hi (he ▸ hj)
    simpa [hij] using h.1 j hj
  cases a with
  | start i op =>
    simp only [step]
    split
    · exact ⟨fun j => hupdate _ i j hother, h.2⟩
    · exact h
  | call i e =>
    have hwithin := (hsided i).2 hother
    cases hp : w.program i with
    | done v o =>
      simp only [step, hp, resume]
      exact ⟨fun j => hupdate _ i j hother, h.2⟩
    | call v c next =>
      rw [hp] at hwithin
      simp only [step, hp, resume]
      refine ⟨fun j => hupdate _ i j hother, ?_⟩
      intro k hk
      have hnot : k ∉ cs.cells c := fun hmem => hdisj.notMem_of_mem_left hk (hwithin.1 hmem)
      exact (cs.frame e c w.store k hnot).trans (h.2 hk)

/-- Parties on cells of their own go through every run as if the others did nothing. -/
theorem undisturbed [DecidablePred own] (hdisj : Disjoint A B)
    (hops : ∀ i op, (own i → cs.Within A (ops i op)) ∧ (¬own i → cs.Within B (ops i op)))
    (w w' : World C R κ ν V α ι) (hsided : cs.Sided own A B w) (h : SameFor own A w w')
    (actions : List (Action ι O ε)) :
    SameFor own A (exec (cs.step ops) w actions)
      (exec (cs.step ops) w' (actions.filter fun a => own a.who)) := by
  induction actions generalizing w w' with
  | nil => exact h
  | cons a rest ih =>
    by_cases hown : own a.who
    · rw [List.filter_cons_of_pos (by simpa using hown), exec_cons, exec_cons]
      exact ih _ _ (sided_step hops w a hsided) (sameFor_own hown hsided h)
    · rw [List.filter_cons_of_neg (by simpa using hown), exec_cons]
      exact ih _ _ (sided_step hops w a hsided) (sameFor_other hdisj hown hsided h)

end CellStore
