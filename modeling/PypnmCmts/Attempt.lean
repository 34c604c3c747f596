import Mathlib.Data.List.Basic

/-! Programs that put numbered questions to an environment and can fail. Each failure is recorded
under its place, also when the program catches it, so that one can say of a run which failures it
met and which of them it let through. -/

/-- The number of questions asked so far, and the failures met. -/
structure Trace (φ : Type) where
  asked : ℕ := 0
  failures : List φ := []
deriving DecidableEq

def Attempt (φ α : Type) : Type := Trace φ → Except String α × Trace φ

namespace Attempt
variable {φ α β : Type}

def run (x : Attempt φ α) (t : Trace φ) : Except String α × Trace φ := x t

instance : Monad (Attempt φ) where
  pure a := fun t => (.ok a, t)
  bind x f := fun t =>
    match x t with
    | (.ok a, t') => f a t'
    | (.error e, t') => (.error e, t')

/-- Put the next question. -/
def ask (answer : ℕ → α) : Attempt φ α :=
  fun t => (.ok (answer t.asked), { t with asked := t.asked+1 })

def fail (place : φ) (message : String) : Attempt φ α :=
  fun t => (.error message, { t with failures := t.failures ++ [place] })

def ofExcept (place : φ) : Except String α → Attempt φ α
  | .ok a => pure a
  | .error message => fail place message

/-- Catch every failure and go on with a default. -/
def rescue (x : Attempt φ α) (default : α) : Attempt φ α :=
  fun t =>
    match x t with
    | (.ok a, t') => (.ok a, t')
    | (.error _, t') => (.ok default, t')

/-- Raise a failure again under another text. -/
def relabel (text : String → String) (x : Attempt φ α) : Attempt φ α :=
  fun t =>
    match x t with
    | (.ok a, t') => (.ok a, t')
    | (.error e, t') => (.error (text e), t')

/-- One attempt for each element, in order. -/
def forEach (f : α → Attempt φ β) : List α → Attempt φ (List β)
  | [] => pure []
  | a :: as => do
    let b ← f a
    let bs ← forEach f as
    pure (b :: bs)

section Rules

theorem run_bind (x : Attempt φ α) (f : α → Attempt φ β) (t : Trace φ) :
    (x >>= f).run t = match x.run t with
      | (.ok a, t') => (f a).run t'
      | (.error e, t') => (.error e, t') := rfl

/-- A rescued attempt does not fail, and the failures that it meets are those of the attempt. -/
theorem run_rescue (x : Attempt φ α) (default : α) (t : Trace φ) :
    (∃ a, ((x.rescue default).run t).1 = .ok a) ∧
      ((x.rescue default).run t).2 = (x.run t).2 := by
  unfold run rescue
  rcases x t with ⟨_ | a, t'⟩
  · exact ⟨⟨default, rfl⟩, rfl⟩
  · exact ⟨⟨a, rfl⟩, rfl⟩

theorem run_relabel (text : String → String) (x : Attempt φ α) (t : Trace φ) :
    ((∃ e, ((x.relabel text).run t).1 = .error e) ↔ ∃ e, (x.run t).1 = .error e) ∧
      ((x.relabel text).run t).2 = (x.run t).2 := by
  unfold run relabel
  rcases x t with ⟨e | a, t'⟩
  · exact ⟨⟨fun _ => ⟨e, rfl⟩, fun _ => ⟨text e, rfl⟩⟩, rfl⟩
  · exact ⟨Iff.rfl, rfl⟩

theorem ok_of_run_bind {x : Attempt φ α} {f : α → Attempt φ β} {t : Trace φ} {b : β}
    (h : ((x >>= f).run t).1 = .ok b) :
    ∃ a t', x.run t = (.ok a, t') ∧ ((f a).run t').1 = .ok b := by
  rw [run_bind] at h
  cases hrun : x.run t with
  | mk r t' =>
    rw [hrun] at h
    cases r with
    | error e => cases h
    | ok a => exact ⟨a, t', rfl, h⟩

theorem ok_of_run_relabel {text : String → String} {x : Attempt φ α} {t : Trace φ} {a : α}
    (h : ((x.relabel text).run t).1 = .ok a) : (x.run t).1 = .ok a := by
  revert h
  unfold run relabel
  rcases x t with ⟨e | a', t'⟩
  · intro h
    cases h
  · exact id

/-- The failures that `x` meets all satisfy `P`. -/
def Within (P : φ → Prop) (x : Attempt φ α) : Prop :=
  ∀ t, ∃ met, (x.run t).2.failures = t.failures ++ met ∧ ∀ f ∈ met, P f

/-- `x` fails exactly when it meets a failure of the kind that it lets through. -/
def FailsAt (passes : φ → Prop) (x : Attempt φ α) : Prop :=
  ∀ t, ∃ met, (x.run t).2.failures = t.failures ++ met ∧
    ((∃ e, (x.run t).1 = .error e) ↔ ∃ f ∈ met, passes f)

variable {P passes : φ → Prop} {x : Attempt φ α} {f : α → Attempt φ β}

theorem Within.pure (a : α) : Within P (Pure.pure a : Attempt φ α) :=
  fun t => ⟨[], (List.append_nil _).symm, fun _ h => by cases h⟩

theorem Within.ask (answer : ℕ → α) : Within P (ask answer : Attempt φ α) :=
  fun t => ⟨[], (List.append_nil _).symm, fun _ h => by cases h⟩

theorem Within.fail {place : φ} (h : P place) (message : String) :
    Within P (fail place message : Attempt φ α) := by
  intro t
  refine ⟨[place], rfl, ?_⟩
  intro f hf
  rw [List.mem_singleton.mp hf]
  exact h

theorem Within.ofExcept {place : φ} (h : P place) (r : Except String α) :
    Within P (ofExcept place r) := by
  cases r with
  | ok a => exact .pure a
  | error message => exact .fail h message

theorem Within.bind (hx : Within P x) (hf : ∀ a, Within P (f a)) : Within P (x >>= f) := by
  intro t
  obtain ⟨met, hmet, hall⟩ := hx t
  rw [run_bind]
  cases hrun : x.run t with
  | mk r t' =>
    rw [hrun] at hmet
    cases r with
    | error e => exact ⟨met, hmet, hall⟩
    | ok a =>
      obtain ⟨more, hmore, hall'⟩ := hf a t'
      refine ⟨met ++ more, ?_, ?_⟩
      · rw [hmore, hmet, List.append_assoc]
      · intro g hg
        rcases List.mem_append.mp hg with hg | hg
        · exact hall g hg
        · exact hall' g hg

theorem Within.rescue (hx : Within P x) (default : α) : Within P (x.rescue default) := by
  intro t
  obtain ⟨met, hmet, hall⟩ := hx t
  refine ⟨met, ?_, hall⟩
  rw [(run_rescue x default t).2, hmet]

theorem Within.forEach {g : α → Attempt φ β} (hg : ∀ a, Within P (g a)) (as : List α) :
    Within P (forEach g as) := by
  induction as with
  | nil => exact .pure []
  | cons a as ih => exact (hg a).bind fun b => ih.bind fun bs => .pure (b :: bs)

theorem FailsAt.pure (a : α) : FailsAt passes (Pure.pure a : Attempt φ α) := by
  intro _
  refine ⟨[], (List.append_nil _).symm, ?_⟩
  constructor
  · rintro ⟨e, he⟩
    cases he
  · rintro ⟨f, hf, -⟩
    cases hf

theorem FailsAt.ask (answer : ℕ → α) : FailsAt passes (ask answer : Attempt φ α) := by
  intro _
  refine ⟨[], (List.append_nil _).symm, ?_⟩
  constructor
  · rintro ⟨e, he⟩
    cases he
  · rintro ⟨f, hf, -⟩
    cases hf

theorem FailsAt.fail {place : φ} (h : passes place) (message : String) :
    FailsAt passes (fail place message : Attempt φ α) :=
  fun _ => ⟨[place], rfl, fun _ => ⟨place, List.mem_singleton.mpr rfl, h⟩, fun _ => ⟨message, rfl⟩⟩

theorem FailsAt.ofExcept {place : φ} (h : passes place) (r : Except String α) :
    FailsAt passes (ofExcept place r) := by
  cases r with
  | ok a => exact .pure a
  | error message => exact .fail h message

/-- The second part runs only if the first has let nothing through. -/
theorem FailsAt.bind (hx : FailsAt passes x) (hf : ∀ a, FailsAt passes (f a)) :
    FailsAt passes (x >>= f) := by
  intro t
  obtain ⟨met, hmet, hiff⟩ := hx t
  rw [run_bind]
  cases hrun : x.run t with
  | mk r t' =>
    rw [hrun] at hmet hiff
    cases r with
    | error e =>
      refine ⟨met, hmet, ?_⟩
      simpa using hiff
    | ok a =>
      obtain ⟨more, hmore, hiff'⟩ := hf a t'
      have hquiet : ¬ ∃ f ∈ met, passes f := by
        rw [← hiff]
        rintro ⟨e, he⟩
        cases he
      refine ⟨met ++ more, ?_, ?_⟩
      · rw [hmore, hmet, List.append_assoc]
      · dsimp only
        rw [hiff']
        constructor
        · rintro ⟨g, hg, hpass⟩
          exact ⟨g, List.mem_append_right _ hg, hpass⟩
        · rintro ⟨g, hg, hpass⟩
          rcases List.mem_append.mp hg with hg | hg
          · exact absurd ⟨g, hg, hpass⟩ hquiet
          · exact ⟨g, hg, hpass⟩

/-- What is caught must be of the kind that is not let through. -/
theorem FailsAt.rescue (hx : Within (fun f => ¬ passes f) x) (default : α) :
    FailsAt passes (x.rescue default) := by
  intro t
  obtain ⟨met, hmet, hall⟩ := hx.rescue default t
  refine ⟨met, hmet, ?_⟩
  have hok : ¬ ∃ e, ((x.rescue default).run t).1 = .error e := by
    rintro ⟨e, he⟩
    obtain ⟨a, ha⟩ := (run_rescue x default t).1
    rw [ha] at he
    cases he
  constructor
  · exact fun h => absurd h hok
  · rintro ⟨f, hf, hpass⟩
    exact absurd hpass (hall f hf)

theorem FailsAt.relabel (hx : FailsAt passes x) (text : String → String) :
    FailsAt passes (x.relabel text) := by
  intro t
  obtain ⟨met, hmet, hiff⟩ := hx t
  refine ⟨met, ?_, ?_⟩
  · rw [(run_relabel text x t).2, hmet]
  · rw [(run_relabel text x t).1, hiff]

theorem FailsAt.forEach {g : α → Attempt φ β} (hg : ∀ a, FailsAt passes (g a)) (as : List α) :
    FailsAt passes (forEach g as) := by
  induction as with
  | nil => exact .pure []
  | cons a as ih => exact (hg a).bind fun b => ih.bind fun bs => .pure (b :: bs)

/-- The rule for a whole run: it fails exactly if a failure was let through. -/
theorem FailsAt.run_error_iff (hx : FailsAt passes x) :
    (∃ e, (x.run {}).1 = .error e) ↔ ∃ f ∈ (x.run {}).2.failures, passes f := by
  obtain ⟨met, hmet, hiff⟩ := hx {}
  rw [hiff, hmet, List.nil_append]

/-- Whatever has been asked and met before, `x` ends in `r`. -/
def Answers (x : Attempt φ α) (r : Except String α) : Prop := ∀ t, (x.run t).1 = r

theorem Answers.pure (a : α) : Answers (Pure.pure a : Attempt φ α) (.ok a) := fun _ => rfl

theorem Answers.ask {answer : ℕ → α} {a : α} (h : ∀ n, answer n = a) :
    Answers (Attempt.ask answer : Attempt φ α) (.ok a) :=
  fun t => congrArg Except.ok (h t.asked)

theorem Answers.ofExcept (place : φ) (r : Except String α) : Answers (ofExcept place r) r := by
  intro t
  cases r with
  | ok a => rfl
  | error message => rfl

theorem Answers.bind {a : α} {r : Except String β} (hx : Answers x (.ok a))
    (hf : Answers (f a) r) : Answers (x >>= f) r := by
  intro t
  have hrun := hx t
  rw [run_bind]
  cases hx' : x.run t with
  | mk outcome t' =>
    rw [hx'] at hrun
    dsimp only at hrun
    subst hrun
    exact hf t'

theorem Answers.bind_error {e : String} (hx : Answers x (.error e)) (f : α → Attempt φ β) :
    Answers (x >>= f) (.error e) := by
  intro t
  have hrun := hx t
  rw [run_bind]
  cases hx' : x.run t with
  | mk outcome t' =>
    rw [hx'] at hrun
    dsimp only at hrun
    subst hrun
    rfl

theorem Answers.rescue {a : α} (hx : Answers x (.ok a)) (default : α) :
    Answers (x.rescue default) (.ok a) := by
  intro t
  have hrun := hx t
  unfold run at hrun
  unfold run Attempt.rescue
  cases hx' : x t with
  | mk outcome t' =>
    rw [hx'] at hrun
    dsimp only at hrun
    subst hrun
    rfl

theorem Answers.fail (place : φ) (message : String) :
    Answers (Attempt.fail place message : Attempt φ α) (.error message) := fun _ => rfl

theorem Answers.rescue_error {e : String} (hx : Answers x (.error e)) (default : α) :
    Answers (x.rescue default) (.ok default) := by
  intro t
  have hrun := hx t
  unfold run at hrun
  unfold run Attempt.rescue
  cases hx' : x t with
  | mk outcome t' =>
    rw [hx'] at hrun
    dsimp only at hrun
    subst hrun
    rfl

theorem Answers.forEach {g : α → Attempt φ β} {b : α → β} {as : List α}
    (h : ∀ a ∈ as, Answers (g a) (.ok (b a))) :
    Answers (Attempt.forEach g as) (.ok (as.map b)) := by
  induction as with
  | nil => exact .pure []
  | cons a as ih =>
    have htail := ih fun c hc => h c (List.mem_cons_of_mem _ hc)
    exact (h a List.mem_cons_self).bind (htail.bind (.pure _))

theorem Answers.unique {r r' : Except String α} (h : Answers x r) (h' : Answers x r') : r = r' :=
  (h {}).symm.trans (h' {})

/-- A loop fails if one of its turns does. -/
theorem Answers.forEach_error {g : α → Attempt φ β} {as : List α}
    (hg : ∀ a ∈ as, ∃ r, Answers (g a) r) {a : α} (ha : a ∈ as) {e : String}
    (h : Answers (g a) (.error e)) : ∃ e', Answers (Attempt.forEach g as) (.error e') := by
  induction as with
  | nil => cases ha
  | cons c cs ih =>
    obtain ⟨r, hc⟩ := hg c List.mem_cons_self
    cases r with
    | error e' => exact ⟨e', hc.bind_error _⟩
    | ok b =>
      rcases List.mem_cons.mp ha with rfl | ha
      · cases hc.unique h
      · obtain ⟨e', he'⟩ := ih (fun d hd => hg d (List.mem_cons_of_mem _ hd)) ha
        exact ⟨e', hc.bind (he'.bind_error _)⟩

/-- `x` always ends in the same way, whatever has been asked and met before. -/
def Settled (x : Attempt φ α) : Prop := ∃ r, Answers x r

theorem Settled.pure (a : α) : Settled (Pure.pure a : Attempt φ α) := ⟨.ok a, .pure a⟩

theorem Settled.ofExcept (place : φ) (r : Except String α) : Settled (ofExcept place r) :=
  ⟨r, .ofExcept place r⟩

theorem Settled.bind (hx : Settled x) (hf : ∀ a, Settled (f a)) : Settled (x >>= f) := by
  obtain ⟨r, hr⟩ := hx
  cases r with
  | error e => exact ⟨.error e, hr.bind_error f⟩
  | ok a =>
    obtain ⟨r', hr'⟩ := hf a
    exact ⟨r', hr.bind hr'⟩

theorem Settled.rescue (hx : Settled x) (default : α) : Settled (x.rescue default) := by
  obtain ⟨r, hr⟩ := hx
  cases r with
  | error e => exact ⟨.ok default, hr.rescue_error default⟩
  | ok a => exact ⟨.ok a, hr.rescue default⟩

theorem Settled.forEach {g : α → Attempt φ β} (hg : ∀ a, Settled (g a)) (as : List α) :
    Settled (forEach g as) := by
  induction as with
  | nil => exact .pure []
  | cons a as ih => exact (hg a).bind fun b => ih.bind fun bs => .pure (b :: bs)

/-- What `x` returns satisfies `Q`, if it returns. -/
def Returns (Q : α → Prop) (x : Attempt φ α) : Prop := ∀ t a, (x.run t).1 = .ok a → Q a

theorem Returns.pure {Q : α → Prop} {a : α} (h : Q a) : Returns Q (Pure.pure a : Attempt φ α) := by
  intro t b hb
  rwa [← Except.ok.inj hb]

theorem Returns.bind {Q : α → Prop} {R : β → Prop} (hx : Returns Q x)
    (hf : ∀ a, Q a → Returns R (f a)) : Returns R (x >>= f) := by
  intro t b hb
  rw [run_bind] at hb
  have hrun := hx t
  cases hx' : x.run t with
  | mk outcome t' =>
    rw [hx'] at hb hrun
    cases outcome with
    | error e => cases hb
    | ok a => exact hf a (hrun a rfl) t' b hb

theorem Returns.mono {Q R : α → Prop} (hx : Returns Q x) (h : ∀ a, Q a → R a) : Returns R x :=
  fun t a ha => h a (hx t a ha)

/-- The first part need not say anything about the second. -/
theorem Returns.after {R : β → Prop} (hf : ∀ a, Returns R (f a)) : Returns R (x >>= f) :=
  Returns.bind (Q := fun _ => True) (fun _ _ _ => trivial) fun a _ => hf a

theorem Returns.forEach {R : α → β → Prop} {g : α → Attempt φ β}
    (hg : ∀ a, Returns (R a) (g a)) (as : List α) :
    Returns (List.Forall₂ R as) (forEach g as) := by
  induction as with
  | nil => exact .pure .nil
  | cons a as ih => exact (hg a).bind fun b hb => ih.bind fun bs hbs => .pure (.cons hb hbs)

end Rules

end Attempt
