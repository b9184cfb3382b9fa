import Mathlib.Tactic.Common
import Mathlib.Data.List.Forall2

/-! Columns computed from columns. A column function is causal when truncating its input truncates
its output: each entry is then determined by the input up to its own position. -/
namespace MarketScanner.Library
variable {α β γ σ : Type*}

def Causal (F : List α → List β) : Prop := ∀ n xs, F (xs.take n) = (F xs).take n

/-- The column moved `k` places down, the first `k` places filled. -/
def shift (k : ℕ) (fill : α) (xs : List α) : List α :=
  (List.replicate k fill ++ xs).take xs.length

/-- The column of a left-to-right pass with a carried state. -/
def accumulate (step : σ → α → σ × β) : σ → List α → List β
  | _, [] => []
  | s, x::xs => (step s x).2::accumulate step (step s x).1 xs

/-- For each position the last `w` entries up to it, fewer at the start. -/
def windows (w : ℕ) (xs : List α) : List (List α) :=
  (List.range xs.length).map fun i => (xs.take (i+1)).drop (i+1-w)

/-- For each position the entries within `half` of it, where that many exist on both sides. -/
def centeredWindows (half : ℕ) (xs : List α) : List (Option (List α)) :=
  (List.range xs.length).map fun i =>
    if half ≤ i ∧ i+half < xs.length then some ((xs.drop (i-half)).take (2*half+1)) else none

theorem causal_map (f : α → β) : Causal (List.map f) := fun _ _ => List.map_take

theorem Causal.comp {F : List α → List β} {G : List β → List γ} (hG : Causal G)
    (hF : Causal F) : Causal fun xs => G (F xs) := by
  intro n xs
  change G (F (xs.take n)) = (G (F xs)).take n
  rw [hF n xs, hG n (F xs)]

@[simp] theorem length_shift (k : ℕ) (fill : α) (xs : List α) :
    (shift k fill xs).length = xs.length := by
  simp [shift]

@[simp] theorem length_accumulate (step : σ → α → σ × β) (s : σ) (xs : List α) :
    (accumulate step s xs).length = xs.length := by
  induction xs generalizing s with
  | nil => rfl
  | cons x xs ih => simp [accumulate, ih]

@[simp] theorem length_windows (w : ℕ) (xs : List α) : (windows w xs).length = xs.length := by
  simp [windows]

@[simp] theorem length_centeredWindows (half : ℕ) (xs : List α) :
    (centeredWindows half xs).length = xs.length := by
  simp [centeredWindows]

theorem causal_shift (k : ℕ) (fill : α) : Causal (shift k fill) := by
  intro n xs
  unfold shift
  rw [List.take_take, List.length_take, List.take_append, List.take_append, List.take_take]
  congr 2
  omega

theorem causal_accumulate (step : σ → α → σ × β) (s : σ) : Causal (accumulate step s) := by
  intro n xs
  induction xs generalizing n s with
  | nil => simp [accumulate]
  | cons x xs ih =>
    cases n with
    | zero => rfl
    | succ n =>
      rw [List.take_succ_cons, accumulate, accumulate, List.take_succ_cons]
      rw [ih]

theorem causal_windows (w : ℕ) : Causal (windows (α := α) w) := by
  intro n xs
  unfold windows
  rw [← List.map_take, List.take_range, List.length_take]
  apply List.map_congr_left
  intro i hi
  have hlt : i < n := by
    have := List.mem_range.mp hi
    omega
  rw [List.take_take, Nat.min_eq_left (by omega)]

theorem getElem?_centeredWindows (half : ℕ) (xs : List α) {i : ℕ} (hi : i < xs.length) :
    (centeredWindows half xs)[i]? =
      some (if half ≤ i ∧ i+half < xs.length then some ((xs.drop (i-half)).take (2*half+1))
        else none) := by
  rw [centeredWindows, List.getElem?_map, List.getElem?_range hi, Option.map_some]

/-- What a pass has emitted at a position is determined by the state after the entries before. -/
theorem getElem?_accumulate (step : σ → α → σ × β) (s : σ) (xs : List α) (i : ℕ) :
    (accumulate step s xs)[i]? =
      xs[i]?.map fun x => (step ((xs.take i).foldl (fun s x => (step s x).1) s) x).2 := by
  induction xs generalizing s i with
  | nil => rfl
  | cons x xs ih =>
    cases i with
    | zero => rfl
    | succ i =>
      rw [accumulate, List.getElem?_cons_succ, List.getElem?_cons_succ, ih, List.take_succ_cons,
        List.foldl_cons]

theorem accumulate_concat (step : σ → α → σ × β) (s : σ) (xs : List α) (x : α) :
    accumulate step s (xs ++ [x]) =
      accumulate step s xs ++ [(step (xs.foldl (fun s x => (step s x).1) s) x).2] := by
  induction xs generalizing s with
  | nil => rfl
  | cons y xs ih => simp only [List.cons_append, accumulate, ih, List.foldl_cons]

theorem getElem?_shift (k : ℕ) (fill : α) (xs : List α) {i : ℕ} (hi : i < xs.length) :
    (shift k fill xs)[i]? = if i < k then some fill else xs[i-k]? := by
  rw [shift, List.getElem?_take_of_lt hi, List.getElem?_append, List.length_replicate]
  split
  · rename_i hk
    rw [List.getElem?_replicate, if_pos hk]
  · rfl

theorem getElem?_windows (w : ℕ) (xs : List α) {i : ℕ} (hi : i < xs.length) :
    (windows w xs)[i]? = some ((xs.take (i+1)).drop (i+1-w)) := by
  rw [windows, List.getElem?_map, List.getElem?_range hi, Option.map_some]

section Invariants
variable {α' β' σ' : Type*} {step : σ → α → σ × β} {step' : σ' → α' → σ' × β'}

/-- What a pass emits has a property that each step gives it from an invariant of the state. -/
theorem forall_mem_accumulate {P : α → Prop} {Q : β → Prop} {I : σ → Prop}
    (hstep : ∀ s x, I s → P x → I (step s x).1 ∧ Q (step s x).2) {s : σ} {xs : List α}
    (hs : I s) (hxs : ∀ x ∈ xs, P x) : ∀ y ∈ accumulate step s xs, Q y := by
  induction xs generalizing s with
  | nil => simp [accumulate]
  | cons x xs ih =>
    obtain ⟨hnext,hout⟩ := hstep s x hs (hxs x List.mem_cons_self)
    rw [accumulate, List.forall_mem_cons]
    exact ⟨hout,ih hnext fun y hy => hxs y (List.mem_cons_of_mem x hy)⟩

/-- Two passes emit related columns when their steps keep their states related. -/
theorem forall₂_accumulate {R : α → α' → Prop} {T : β → β' → Prop} {S : σ → σ' → Prop}
    (hstep : ∀ s t x y, S s t → R x y →
      S (step s x).1 (step' t y).1 ∧ T (step s x).2 (step' t y).2)
    {s : σ} {t : σ'} {xs : List α} {ys : List α'} (hs : S s t) (h : List.Forall₂ R xs ys) :
    List.Forall₂ T (accumulate step s xs) (accumulate step' t ys) := by
  induction h generalizing s t with
  | nil => exact List.Forall₂.nil
  | cons hxy _ ih =>
    obtain ⟨hnext,hout⟩ := hstep s t _ _ hs hxy
    exact List.Forall₂.cons hout (ih hnext)

end Invariants

end MarketScanner.Library
