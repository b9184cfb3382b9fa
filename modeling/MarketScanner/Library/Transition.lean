import Mathlib.Tactic.Common
import Mathlib.Data.List.Basic

/-! Labelled transition systems with an executable, guarded step function. A run is the list of
actions taken; every theorem about all runs is an induction over that list. -/
namespace MarketScanner.Library

/-- `step s a` is `none` when action `a` is not enabled in state `s`. -/
structure Machine (σ α : Type*) where
  step : σ → α → Option σ

namespace Machine
variable {σ α : Type*} (M : Machine σ α)

/-- Replay a list of actions; `none` as soon as one of them is not enabled. -/
def exec : σ → List α → Option σ
  | s, [] => some s
  | s, a::as => (M.step s a).bind fun t => exec t as

inductive Run : σ → List α → σ → Prop
  | nil (s : σ) : Run s [] s
  | cons {s t u : σ} {a : α} {as : List α} (step : M.step s a = some t) (tail : Run t as u) :
      Run s (a::as) u

variable {M}

theorem run_iff_exec {s t : σ} {as : List α} : M.Run s as t ↔ M.exec s as = some t := by
  induction as generalizing s with
  | nil =>
    constructor
    · rintro ⟨⟩; rfl
    · intro h
      obtain rfl : s = t := Option.some.inj h
      exact Run.nil s
  | cons a as ih =>
    constructor
    · rintro (_ | ⟨step,tail⟩)
      simp only [exec, step, Option.bind_some]
      exact ih.mp tail
    · intro h
      obtain ⟨u,hu,ht⟩ := Option.bind_eq_some_iff.mp h
      exact Run.cons hu (ih.mpr ht)

variable (M) in
/-- A replay whose last state passes a test is a run to a state that passes it. -/
theorem exists_run_of_exec (s : σ) (as : List α) (p : σ → Bool)
    (h : (M.exec s as).any p = true) : ∃ t, M.Run s as t ∧ p t = true := by
  obtain ⟨t,ht,hp⟩ := (Option.any_eq_true p _).mp h
  exact ⟨t,run_iff_exec.mpr ht,hp⟩

theorem Run.append {s t u : σ} {as bs : List α} (h : M.Run s as t) (h' : M.Run t bs u) :
    M.Run s (as ++ bs) u := by
  induction h with
  | nil s => exact h'
  | cons step tail ih => exact Run.cons step (ih h')

theorem Run.single {s t : σ} {a : α} (h : M.step s a = some t) : M.Run s [a] t :=
  Run.cons h (Run.nil t)

theorem Run.split {s u : σ} {as bs : List α} (h : M.Run s (as ++ bs) u) :
    ∃ t, M.Run s as t ∧ M.Run t bs u := by
  induction as generalizing s with
  | nil => exact ⟨s,Run.nil s,h⟩
  | cons a as ih =>
    obtain _ | ⟨step,tail⟩ := h
    obtain ⟨t,ht,hu⟩ := ih tail
    exact ⟨t,Run.cons step ht,hu⟩

/-- The step function leaves no choice once the actions are given. -/
theorem Run.functional {s t u : σ} {as : List α} (h : M.Run s as t) (h' : M.Run s as u) :
    t = u := by
  rw [run_iff_exec] at h h'
  exact Option.some.inj (h.symm.trans h')

variable (M)

/-- `P` holds at every step taken from `s` along `as`: state before, action, state after. -/
def Steps (P : σ → α → σ → Prop) (s : σ) (as : List α) : Prop :=
  ∀ ⦃pre : List α⦄ ⦃a : α⦄ ⦃post : List α⦄ ⦃t u : σ⦄,
    as = pre ++ a::post → M.Run s pre t → M.step t a = some u → P t a u

/-- `P` holds in every state that the actions `as` pass through, the first and last included. -/
def Throughout (P : σ → Prop) (s : σ) (as : List α) : Prop :=
  ∀ ⦃pre post : List α⦄ ⦃t : σ⦄, as = pre ++ post → M.Run s pre t → P t

/-- Once `P` has held along `as`, `Q` holds in every later state. -/
def Since (P Q : σ → Prop) (s : σ) (as : List α) : Prop :=
  ∀ ⦃pre mid post : List α⦄ ⦃t u : σ⦄,
    as = pre ++ (mid ++ post) → M.Run s pre t → P t → M.Run t mid u → Q u

/-- `P` holds of every stretch of `as` during which `I` holds: the states before and after the step
that opened it, the actions since, and a step `b` taken while it is still open. -/
def Windows (I : σ → Prop) (P : σ → σ → List α → σ → α → Prop) (s : σ) (as : List α) : Prop :=
  ∀ ⦃pre : List α⦄ ⦃a : α⦄ ⦃mid : List α⦄ ⦃b : α⦄ ⦃post : List α⦄ ⦃t t' u v : σ⦄,
    as = pre ++ a::(mid ++ b::post) → M.Run s pre t → ¬ I t → M.step t a = some t' →
    M.Run t' mid u → M.Throughout I t' mid → M.step u b = some v → P t t' mid u b

/-- Replay `as`, testing every step that is taken. -/
def check (p : σ → α → σ → Bool) : σ → List α → Bool
  | _, [] => true
  | s, a::as =>
    match M.step s a with
    | none => true
    | some t => p s a t && check p t as

variable {M} {P Q G : σ → α → σ → Prop}

theorem Steps.head {s t : σ} {a : α} {as : List α} (h : M.Steps P s (a::as))
    (step : M.step s a = some t) : P s a t :=
  @h [] a as s t rfl (Run.nil s) step

theorem Steps.tail {s t : σ} {a : α} {as : List α} (h : M.Steps P s (a::as))
    (step : M.step s a = some t) : M.Steps P t as := by
  intro pre b post u v has hrun hstep
  exact @h (a::pre) b post u v (by rw [has]; rfl) (Run.cons step hrun) hstep

theorem steps_nil (s : σ) : M.Steps P s [] := by
  intro pre a post t u h
  simp at h

theorem Steps.cons {s t : σ} {a : α} {as : List α} (step : M.step s a = some t)
    (hhead : P s a t) (htail : M.Steps P t as) : M.Steps P s (a::as) := by
  intro pre b post u v has hrun hstep
  cases hrun with
  | nil s =>
    obtain ⟨rfl,rfl⟩ := List.cons.inj has
    obtain rfl : t = v := Option.some.inj (step.symm.trans hstep)
    exact hhead
  | cons hfirst hrest =>
    obtain ⟨rfl,rfl⟩ := List.cons.inj has
    obtain rfl := Option.some.inj (step.symm.trans hfirst)
    exact htail rfl hrest hstep

theorem steps_of_check [∀ s a t, Decidable (P s a t)] {s : σ} {as : List α}
    (h : M.check (fun s a t => decide (P s a t)) s as = true) : M.Steps P s as := by
  induction as generalizing s with
  | nil => exact steps_nil s
  | cons a as ih =>
    rw [check] at h
    cases hstep : M.step s a with
    | none =>
      intro pre b post t u has hrun hb
      cases hrun with
      | nil s =>
        obtain ⟨rfl,rfl⟩ := List.cons.inj has
        rw [hstep] at hb
        contradiction
      | cons hfirst hrest =>
        obtain ⟨rfl,rfl⟩ := List.cons.inj has
        rw [hstep] at hfirst
        contradiction
    | some t =>
      rw [hstep] at h
      obtain ⟨hhead,htail⟩ := Bool.and_eq_true_iff.mp h
      exact Steps.cons hstep (of_decide_eq_true hhead) (ih htail)

/-- A condition that holds at every step passes the replay's test. -/
theorem Steps.check [∀ s a t, Decidable (P s a t)] {s : σ} {as : List α} (h : M.Steps P s as) :
    M.check (fun s a t => decide (P s a t)) s as = true := by
  induction as generalizing s with
  | nil => rfl
  | cons a as ih =>
    rw [Machine.check]
    cases hstep : M.step s a with
    | none => rfl
    | some t =>
      simp only
      rw [decide_eq_true (h.head hstep), Bool.true_and]
      exact ih (h.tail hstep)

theorem Steps.left {s : σ} {as bs : List α} (h : M.Steps P s (as ++ bs)) : M.Steps P s as := by
  intro pre a post t u has hrun hstep
  exact h (by rw [has, List.append_assoc]; rfl) hrun hstep

theorem Steps.right {s t : σ} {as bs : List α} (h : M.Steps P s (as ++ bs))
    (hrun : M.Run s as t) : M.Steps P t bs := by
  intro pre a post u v hbs hpre hstep
  exact @h (as ++ pre) a post u v (by rw [hbs, List.append_assoc]) (hrun.append hpre) hstep

/-- An invariant that every step meeting `G` preserves holds at the end of a run all of whose
steps meet `G`. -/
theorem Run.invariant {I : σ → Prop}
    (hpres : ∀ s a t, I s → G s a t → M.step s a = some t → I t)
    {s t : σ} {as : List α} (h : M.Run s as t) (hG : M.Steps G s as) (hs : I s) : I t := by
  induction h with
  | nil s => exact hs
  | cons step tail ih => exact ih (hG.tail step) (hpres _ _ _ hs (hG.head step) step)

/-- The same invariant in every state that the run passes through. -/
theorem Steps.throughout {I : σ → Prop}
    (hpres : ∀ s a t, I s → G s a t → M.step s a = some t → I t)
    {s : σ} {as : List α} (hG : M.Steps G s as) (hs : I s) : M.Throughout I s as := by
  rintro pre post t rfl hrun
  exact hrun.invariant hpres hG.left hs

/-- Where a step keeps the invariant exactly when it meets `G`, the invariant holds throughout a run
exactly when every step of it meets `G`. -/
theorem throughout_iff_steps {I : σ → Prop}
    (hstep : ∀ s a t, I s → M.step s a = some t → (I t ↔ G s a t)) {s : σ} {as : List α}
    (hs : I s) : M.Throughout I s as ↔ M.Steps G s as := by
  constructor
  · rintro h pre a post t u rfl hrun ht
    have hbefore : I t := h rfl hrun
    have hafter : I u := by
      have hlast := hrun.append (Run.single ht)
      exact h (List.append_assoc pre [a] post).symm hlast
    exact (hstep t a u hbefore ht).mp hafter
  · intro h
    exact h.throughout (fun t a u ht hG htu => (hstep t a u ht htu).mpr hG) hs

/-- What steps meeting `G` never undo, once it holds, holds ever after. -/
theorem Steps.since {I : σ → Prop} (hpres : ∀ s a t, I s → G s a t → M.step s a = some t → I t)
    {s : σ} {as : List α} (hG : M.Steps G s as) : M.Since I I s as := by
  rintro pre mid post t u rfl hpre hI hmid
  exact hmid.invariant hpres (hG.right hpre).left hI

/-- Where steps meeting `G` never undo `I` and it does not hold at the end, no step brought it about. -/
theorem Steps.avoids {I : σ → Prop} (hpres : ∀ s a t, I s → G s a t → M.step s a = some t → I t)
    {s u : σ} {as : List α} (hG : M.Steps G s as) (hrun : M.Run s as u) (hu : ¬ I u) :
    M.Steps (fun _ _ t => ¬ I t) s as := by
  rintro pre a post t t' rfl hpre hstep hI
  obtain ⟨w,hw,hrest⟩ := hrun.split
  obtain rfl := hpre.functional hw
  obtain _ | ⟨hstep',htail⟩ := hrest
  obtain rfl := Option.some.inj (hstep.symm.trans hstep')
  exact hu (htail.invariant hpres ((hG.right hpre).tail hstep) hI)

/-- `Since` speaks about each single step. -/
theorem Since.step {I J : σ → Prop} {s : σ} {as pre post : List α} {a : α} {t u : σ}
    (h : M.Since I J s as) (has : as = pre ++ a::post) (hrun : M.Run s pre t)
    (hstep : M.step t a = some u) (hI : I t) : J u :=
  @h pre [a] post t u has hrun hI (Run.single hstep)

/-- An invariant that every single step preserves needs no condition on the run. -/
theorem Run.stable {I : σ → Prop} (hpres : ∀ s a t, I s → M.step s a = some t → I t)
    {s t : σ} {as : List α} (h : M.Run s as t) (hs : I s) : I t := by
  induction h with
  | nil s => exact hs
  | cons step tail ih => exact ih (hpres _ _ _ hs step)

theorem throughout_nil {I : σ → Prop} {s : σ} (hs : I s) : M.Throughout I s [] := by
  intro pre post t has hrun
  obtain ⟨rfl,-⟩ := List.append_eq_nil_iff.mp has.symm
  cases hrun
  exact hs

theorem Throughout.cons {I : σ → Prop} {s t : σ} {a : α} {as : List α}
    (step : M.step s a = some t) (hs : I s) (htail : M.Throughout I t as) :
    M.Throughout I s (a::as) := by
  intro pre post u has hrun
  cases hrun with
  | nil s => exact hs
  | cons hfirst hrest =>
    obtain ⟨rfl,rfl⟩ := List.cons.inj has
    obtain rfl := Option.some.inj (step.symm.trans hfirst)
    exact htail rfl hrest

theorem Throughout.last {I : σ → Prop} {s t : σ} {as : List α} (h : M.Throughout I s as)
    (hrun : M.Run s as t) : I t := h (List.append_nil as).symm hrun

/-- What holds at the end of a run held all along it, or a step of it is the last that opened it. -/
theorem Run.exists_opening {I : σ → Prop} {s u : σ} {as : List α} (h : M.Run s as u) (hu : I u) :
    M.Throughout I s as ∨ ∃ pre a mid t t', as = pre ++ a::mid ∧ M.Run s pre t ∧ ¬ I t ∧
      M.step t a = some t' ∧ M.Run t' mid u ∧ M.Throughout I t' mid := by
  induction h with
  | nil s => exact Or.inl (throughout_nil hu)
  | @cons s t u a as step tail ih =>
    rcases ih hu with hall | ⟨pre,b,mid,w,w',rfl,hpre,hw,hstep,hmid,hopen⟩
    · by_cases hs : I s
      · exact Or.inl (Throughout.cons step hs hall)
      · exact Or.inr ⟨[],a,as,s,t,rfl,Run.nil s,hs,step,tail,hall⟩
    · exact Or.inr ⟨a::pre,b,mid,w,w',rfl,Run.cons step hpre,hw,hstep,hmid,hopen⟩

/-- A step taken while `I` holds, in a run that began without it, is in a stretch that some step of
the run opened. -/
theorem Windows.at_step {I : σ → Prop} {P : σ → σ → List α → σ → α → Prop} {s u v : σ}
    {pre post : List α} {b : α} (h : M.Windows I P s (pre ++ b::post)) (hs : ¬ I s)
    (hrun : M.Run s pre u) (hu : I u) (hstep : M.step u b = some v) :
    ∃ a mid t t' before, pre = before ++ a::mid ∧ M.Run s before t ∧ ¬ I t ∧
      M.step t a = some t' ∧ M.Run t' mid u ∧ I t' ∧ P t t' mid u b := by
  rcases hrun.exists_opening hu with hall | ⟨before,a,mid,t,t',rfl,hbefore,ht,hopen,hmid,hsince⟩
  · exact absurd (hall rfl (Run.nil s)) hs
  · refine ⟨a,mid,t,t',before,rfl,hbefore,ht,hopen,hmid,hsince rfl (Run.nil t'),?_⟩
    exact h (List.append_assoc before (a::mid) (b::post)) hbefore ht hopen hmid hsince hstep

/-- Under an invariant, a condition on each step can be traded for what it implies there. -/
theorem Steps.imp {I : σ → Prop}
    (hpres : ∀ s a t, I s → G s a t → M.step s a = some t → I t)
    (himp : ∀ s a t, I s → G s a t → M.step s a = some t → P s a t)
    {s : σ} {as : List α} (hG : M.Steps G s as) (hs : I s) : M.Steps P s as := by
  rintro pre a post t u rfl hrun hstep
  exact himp t a u (hrun.invariant hpres hG.left hs) (hG rfl hrun hstep) hstep

end Machine
end MarketScanner.Library
