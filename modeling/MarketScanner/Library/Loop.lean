import Mathlib.Tactic.Common
import Mathlib.Algebra.BigOperators.Group.List.Basic
import Mathlib.Algebra.Order.Ring.Nat
import Mathlib.Data.List.Basic

/-! Loops over a list that leave some elements out. An element is inert when its turn changes
nothing that is observed; leaving inert elements out is then not observed either. And loops in which
every turn adds to what is observed. -/
namespace MarketScanner.Library
variable {σ α ω : Type*}

/-- Under an invariant of the whole loop, the loop over the kept elements is observed to do what the
whole loop does, if the others are inert. -/
theorem foldl_filter_of_inert (obs : σ → ω) {keep : α → Bool} {step : σ → α → σ} {I : σ → Prop}
    {l : List α}
    (hcongr : ∀ s s' a, obs s = obs s' → obs (step s a) = obs (step s' a))
    (hinert : ∀ s, ∀ a ∈ l, keep a = false → I s → obs (step s a) = obs s)
    (hstep : ∀ s, ∀ a ∈ l, I s → I (step s a)) {s s' : σ} (hobs : obs s = obs s') (hI : I s') :
    obs ((l.filter keep).foldl step s) = obs (l.foldl step s') := by
  induction l generalizing s s' with
  | nil => exact hobs
  | cons a l ih =>
    have hnext := hstep s' a List.mem_cons_self hI
    have hrest := fun {s s'} => @ih
      (fun s b hb => hinert s b (List.mem_cons_of_mem a hb))
      (fun s b hb => hstep s b (List.mem_cons_of_mem a hb)) s s'
    rw [List.filter_cons, List.foldl_cons]
    cases hkeep : keep a with
    | true =>
      rw [if_pos rfl, List.foldl_cons]
      exact hrest (hcongr s s' a hobs) hnext
    | false =>
      rw [if_neg Bool.false_ne_true]
      exact hrest (hobs.trans (hinert s' a List.mem_cons_self hkeep hI).symm) hnext

/-- What every turn adds to is the sum in the end. -/
theorem foldl_of_additive {M : Type*} [AddMonoid M] (obs : σ → M) {step : σ → α → σ} (weight : α → M)
    {l : List α} (h : ∀ s, ∀ a ∈ l, obs (step s a) = obs s+weight a) (s : σ) :
    obs (l.foldl step s) = obs s+(l.map weight).sum := by
  induction l generalizing s with
  | nil => simp
  | cons a l ih =>
    rw [List.foldl_cons, ih fun s b hb => h s b (List.mem_cons_of_mem a hb), h s a List.mem_cons_self,
      List.map_cons, List.sum_cons, add_assoc]

/-- What every turn appends to is all that the turns append. -/
theorem foldl_of_appending {β : Type*} (obs : σ → List β) {step : σ → α → σ} (more : α → List β)
    {l : List α} (h : ∀ s, ∀ a ∈ l, obs (step s a) = obs s ++ more a) (s : σ) :
    obs (l.foldl step s) = obs s ++ l.flatMap more := by
  induction l generalizing s with
  | nil => simp
  | cons a l ih =>
    rw [List.foldl_cons, ih fun s b hb => h s b (List.mem_cons_of_mem a hb), h s a List.mem_cons_self,
      List.flatMap_cons, List.append_assoc]

theorem flatMap_if (p : α → Bool) (l : List α) : (l.flatMap fun a => if p a then [a] else []) = l.filter p := by
  induction l with
  | nil => rfl
  | cons a l ih =>
    rw [List.flatMap_cons, ih]
    cases hp : p a <;> simp [hp]

/-- A loop whose turns can raise has, when none did, done what a loop over their values does. -/
theorem foldlM_eq_ok.{v} {ε : Type*} {σ β : Type v} [Inhabited β] {eval : α → Except ε β} {step : σ → α → β → σ}
    {l : List α} {s t : σ}
    (h : l.foldlM (fun s a => do let b ← eval a; return step s a b) s = .ok t) :
    ∃ value : α → β, (∀ a ∈ l, eval a = .ok (value a)) ∧
      t = l.foldl (fun s a => step s a (value a)) s := by
  refine ⟨fun a => (eval a).toOption.getD default,?_⟩
  induction l generalizing s with
  | nil => exact ⟨by simp,(Except.ok.inj h).symm⟩
  | cons a l ih =>
    rw [List.foldlM_cons] at h
    cases heval : eval a with
    | error e =>
      rw [heval] at h
      cases h
    | ok b =>
      rw [heval] at h
      obtain ⟨hvalues,ht⟩ := ih h
      have hvalue : (eval a).toOption.getD default = b := by
        rw [heval]
        rfl
      refine ⟨List.forall_mem_cons.mpr ⟨?_,hvalues⟩,?_⟩
      · simp only [hvalue]
        exact heval
      · simp only [List.foldl_cons, hvalue]
        exact ht

/-- A sum of ones counts. -/
theorem sum_map_eq_length_filter {weight : α → ℕ} {p : α → Bool} {l : List α}
    (h : ∀ a ∈ l, weight a = if p a then 1 else 0) : (l.map weight).sum = (l.filter p).length := by
  induction l with
  | nil => rfl
  | cons a l ih =>
    rw [List.map_cons, List.sum_cons, ih fun b hb => h b (List.mem_cons_of_mem a hb),
      h a List.mem_cons_self, List.filter_cons]
    cases p a with
    | true => simp [Nat.add_comm]
    | false => simp

end MarketScanner.Library
