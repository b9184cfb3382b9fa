import Mathlib.Data.List.Induction
import MarketScanner.Library.Transition

/-! What happened along a run. A property of a run's actions and its last state is proved from the
start outwards, one action at a time; it may look back at every step taken before. -/
namespace MarketScanner.Library
namespace Machine
variable {σ α : Type*} {M : Machine σ α}

/-- A step meeting `P` was taken along `as`; `P` sees the actions before it, too. -/
def Happened (M : Machine σ α) (P : List α → σ → α → σ → Prop) (s : σ) (as : List α) : Prop :=
  ∃ pre a post t u, as = pre ++ a::post ∧ M.Run s pre t ∧ M.step t a = some u ∧ P pre t a u

variable {P Q : List α → σ → α → σ → Prop} {s t u : σ} {as bs : List α} {a : α}

theorem Happened.append (h : M.Happened P s as) (bs : List α) : M.Happened P s (as ++ bs) := by
  obtain ⟨pre,a,post,t,u,rfl,hrun,hstep,hP⟩ := h
  exact ⟨pre,a,post ++ bs,t,u,by simp,hrun,hstep,hP⟩

theorem happened_last (hrun : M.Run s as t) (hstep : M.step t a = some u) (hP : P as t a u) :
    M.Happened P s (as ++ [a]) :=
  ⟨as,a,[],t,u,rfl,hrun,hstep,hP⟩

theorem Happened.imp (h : M.Happened P s as)
    (himp : ∀ pre t a u, M.Run s pre t → P pre t a u → Q pre t a u) : M.Happened Q s as := by
  obtain ⟨pre,a,post,t,u,has,hrun,hstep,hP⟩ := h
  exact ⟨pre,a,post,t,u,has,hrun,hstep,himp pre t a u hrun hP⟩

/-- Induction along a run from its start, on the actions taken and the state reached. -/
theorem Run.history {I : List α → σ → Prop} (h : M.Run s as t) (hstart : I [] s)
    (hstep : ∀ bs b u v, M.Run s bs u → I bs u → M.step u b = some v → I (bs ++ [b]) v) : I as t := by
  induction as using List.reverseRecOn generalizing t with
  | nil =>
    cases h
    exact hstart
  | append_singleton as a ih =>
    obtain ⟨u,hu,hlast⟩ := h.split
    cases hlast with
    | cons step tail =>
      cases tail
      exact hstep as a u t hu (ih hu) step

end Machine
end MarketScanner.Library
