import Mathlib.Tactic.Common
import Mathlib.Data.List.Basic

/-! Keeping, of each key, the first entry that passes a check: a loop over the entries with the keys kept so
far as its state. The check can also fail altogether, and that ends the loop. -/
namespace MarketScanner.Library.Sieve
variable {α κ ε : Type*} (key : α → κ)

/-- An entry that is looked at: its key is not seen, and no good entry before it has the key. -/
def Reached (good : α → Bool) (seen : List κ) (l : List α) (a : α) : Prop :=
  ∃ before after, l = before ++ a::after ∧ key a ∉ seen ∧ ∀ b ∈ before, good b = true → key b ≠ key a

/-- The first good entry of each new key, in order. -/
structure Keeps (good : α → Bool) (seen : List κ) (l kept : List α) : Prop where
  sublist : kept.Sublist l
  distinct : (kept.map key).Nodup
  sound : ∀ a ∈ kept, good a = true
  occurs : ∀ k, k ∈ kept.map key ↔ k ∉ seen ∧ ∃ a ∈ l, good a = true ∧ key a = k
  first : ∀ a, Reached key good seen l a → good a = true → a ∈ kept

variable {key} {good : α → Bool} {seen : List κ} {l kept : List α} {a c : α}

theorem not_reached_nil : ¬ Reached key good seen [] c := by
  rintro ⟨before,after,h,-⟩
  simp at h

theorem reached_cons_iff :
    Reached key good seen (a::l) c ↔
      (c = a ∧ key c ∉ seen) ∨ Reached key good seen l c ∧ (good a = true → key a ≠ key c) := by
  constructor
  · rintro ⟨before,after,h,hseen,hbefore⟩
    cases before with
    | nil => exact Or.inl ⟨(List.cons.inj h).1.symm,hseen⟩
    | cons b before =>
      obtain ⟨rfl,rfl⟩ := List.cons.inj h
      obtain ⟨hhead,htail⟩ := List.forall_mem_cons.mp hbefore
      exact Or.inr ⟨⟨before,after,rfl,hseen,htail⟩,hhead⟩
  · rintro (⟨rfl,hseen⟩ | ⟨⟨before,after,rfl,hseen,hbefore⟩,hhead⟩)
    · exact ⟨[],l,rfl,hseen,by simp⟩
    · exact ⟨a::before,after,rfl,hseen,List.forall_mem_cons.mpr ⟨hhead,hbefore⟩⟩

/-- Having seen one more key rules out the entries of that key. -/
theorem reached_seen_cons_iff {k : κ} :
    Reached key good (k::seen) l c ↔ Reached key good seen l c ∧ k ≠ key c := by
  unfold Reached
  simp only [List.mem_cons, not_or]
  constructor
  · rintro ⟨before,after,h,⟨hne,hseen⟩,hbefore⟩
    exact ⟨⟨before,after,h,hseen,hbefore⟩,Ne.symm hne⟩
  · rintro ⟨⟨before,after,h,hseen,hbefore⟩,hne⟩
    exact ⟨before,after,h,⟨Ne.symm hne,hseen⟩,hbefore⟩

/-- Behind an entry of a seen key, or a good one, the loop goes on among the entries of other keys. -/
theorem reached_of_seen (hseen : key a ∈ seen) (h : Reached key good seen l c) :
    Reached key good seen (a::l) c := by
  refine reached_cons_iff.mpr (Or.inr ⟨h,fun _ heq => ?_⟩)
  obtain ⟨-,-,-,hnew,-⟩ := h
  exact hnew (heq ▸ hseen)

theorem reached_of_good (h : Reached key good (key a::seen) l c) : Reached key good seen (a::l) c := by
  obtain ⟨hold,hne⟩ := reached_seen_cons_iff.mp h
  exact reached_cons_iff.mpr (Or.inr ⟨hold,fun _ => hne⟩)

theorem reached_of_bad (hbad : good a = false) (h : Reached key good seen l c) :
    Reached key good seen (a::l) c :=
  reached_cons_iff.mpr (Or.inr ⟨h,fun hgood => by simp [hbad] at hgood⟩)

section Loop
variable [DecidableEq κ] (key)

def sift (check : α → Except ε Bool) (seen : List κ) : List α → Except ε (List α)
  | [] => .ok []
  | a::l =>
    if key a ∈ seen then sift check seen l
    else
      match check a with
      | .error e => .error e
      | .ok false => sift check seen l
      | .ok true => (sift check (key a::seen) l).map (a::·)

/-- What the loop keeps when the check never fails. -/
def firsts (good : α → Bool) (seen : List κ) : List α → List α
  | [] => []
  | a::l =>
    if key a ∈ seen then firsts good seen l
    else if good a then a::firsts good (key a::seen) l
    else firsts good seen l

variable {key} {check : α → Except ε Bool}

/-- Where every entry that is looked at is told right, the loop keeps the firsts. -/
theorem sift_eq_firsts (h : ∀ a, Reached key good seen l a → check a = .ok (good a)) :
    sift key check seen l = .ok (firsts key good seen l) := by
  induction l generalizing seen with
  | nil => rfl
  | cons a l ih =>
    unfold sift firsts
    by_cases hseen : key a ∈ seen
    · rw [if_pos hseen, if_pos hseen]
      exact ih fun c hc => h c (reached_of_seen hseen hc)
    · rw [if_neg hseen, if_neg hseen, h a (reached_cons_iff.mpr (Or.inl ⟨rfl,hseen⟩))]
      cases hgood : good a with
      | false => exact ih fun c hc => h c (reached_of_bad hgood hc)
      | true =>
        have hrest := @ih (key a::seen) fun c hc => h c (reached_of_good hc)
        simp only [hrest, if_true]
        rfl

theorem sublist_firsts (seen : List κ) (l : List α) : (firsts key good seen l).Sublist l := by
  induction l generalizing seen with
  | nil => exact List.Sublist.refl _
  | cons a l ih =>
    unfold firsts
    split
    · exact (ih seen).cons a
    · split
      · exact (ih _).cons_cons a
      · exact (ih seen).cons a

/-- More entries add to what is kept and take nothing from it. -/
theorem firsts_append_more (seen : List κ) (l l' : List α) :
    firsts key good seen l <+: firsts key good seen (l ++ l') := by
  induction l generalizing seen with
  | nil => exact List.nil_prefix
  | cons a l ih =>
    rw [List.cons_append]
    unfold firsts
    split
    · exact ih seen
    · split
      · exact List.prefix_cons_inj a |>.mpr (ih _)
      · exact ih seen

theorem good_of_mem_firsts (h : a ∈ firsts key good seen l) : good a = true := by
  induction l generalizing seen with
  | nil => cases h
  | cons b l ih =>
    unfold firsts at h
    split at h
    · exact ih h
    · split at h
      · rename_i hgood
        rcases List.mem_cons.mp h with rfl | hrest
        · exact hgood
        · exact ih hrest
      · exact ih h

/-- A key is kept just when it is new and some good entry has it. -/
theorem mem_keys_firsts {k : κ} :
    k ∈ (firsts key good seen l).map key ↔ k ∉ seen ∧ ∃ a ∈ l, good a = true ∧ key a = k := by
  induction l generalizing seen with
  | nil => simp [firsts]
  | cons a l ih =>
    unfold firsts
    split
    · rename_i hseen
      rw [ih]
      simp only [List.mem_cons, exists_eq_or_imp]
      grind
    · rename_i hseen
      split
      · rename_i hgood
        rw [List.map_cons, List.mem_cons, ih]
        simp only [List.mem_cons, exists_eq_or_imp]
        grind
      · rename_i hgood
        rw [ih]
        simp only [List.mem_cons, exists_eq_or_imp]
        grind

theorem nodup_keys_firsts (seen : List κ) (l : List α) : ((firsts key good seen l).map key).Nodup := by
  induction l generalizing seen with
  | nil => exact List.nodup_nil
  | cons a l ih =>
    unfold firsts
    split
    · exact ih seen
    · split
      · rw [List.map_cons, List.nodup_cons]
        refine ⟨fun hmem => ?_,ih _⟩
        exact (mem_keys_firsts.mp hmem).1 List.mem_cons_self
      · exact ih seen

theorem mem_firsts_of_reached (h : Reached key good seen l c) (hgood : good c = true) :
    c ∈ firsts key good seen l := by
  induction l generalizing seen with
  | nil => exact absurd h not_reached_nil
  | cons a l ih =>
    unfold firsts
    rcases reached_cons_iff.mp h with ⟨rfl,hseen⟩ | ⟨hrest,hne⟩
    · rw [if_neg hseen, if_pos hgood]
      exact List.mem_cons_self
    · split
      · exact ih hrest
      · split
        · rename_i hfirst
          exact List.mem_cons_of_mem a (ih (reached_seen_cons_iff.mpr ⟨hrest,hne hfirst⟩))
        · exact ih hrest

theorem keeps_firsts (seen : List κ) (l : List α) : Keeps key good seen l (firsts key good seen l) where
  sublist := sublist_firsts seen l
  distinct := nodup_keys_firsts seen l
  sound _ h := good_of_mem_firsts h
  occurs _ := mem_keys_firsts
  first _ h hgood := mem_firsts_of_reached h hgood

theorem check_of_mem_sift (hsift : sift key check seen l = .ok kept) (h : c ∈ kept) :
    check c = .ok true := by
  induction l generalizing seen kept with
  | nil =>
    obtain rfl := Except.ok.inj hsift
    cases h
  | cons a l ih =>
    unfold sift at hsift
    split at hsift
    · exact ih hsift h
    · split at hsift
      · cases hsift
      · exact ih hsift h
      · rename_i hcheck
        cases hrest : sift key check (key a::seen) l with
        | error e =>
          rw [hrest] at hsift
          cases hsift
        | ok rest =>
          rw [hrest] at hsift
          obtain rfl := Except.ok.inj hsift
          rcases List.mem_cons.mp h with rfl | hmem
          · exact hcheck
          · exact ih hrest hmem

/-- An entry that is looked at is checked, and kept if it passes. -/
theorem checked_of_reached (hsift : sift key check seen l = .ok kept)
    (hsound : ∀ a ∈ kept, good a = true) (h : Reached key good seen l c) :
    ∃ b, check c = .ok b ∧ (b = true → c ∈ kept) := by
  induction l generalizing seen kept with
  | nil => exact absurd h not_reached_nil
  | cons a l ih =>
    have hcases := reached_cons_iff.mp h
    unfold sift at hsift
    split at hsift
    · rename_i hseen
      rcases hcases with ⟨rfl,hnew⟩ | ⟨hrest,-⟩
      · exact absurd hseen hnew
      · exact ih hsift hsound hrest
    · split at hsift
      · cases hsift
      · rename_i hcheck
        rcases hcases with ⟨rfl,-⟩ | ⟨hrest,-⟩
        · exact ⟨false,hcheck,by simp⟩
        · exact ih hsift hsound hrest
      · rename_i hcheck
        cases hkept : sift key check (key a::seen) l with
        | error e =>
          rw [hkept] at hsift
          cases hsift
        | ok rest =>
          rw [hkept] at hsift
          obtain rfl := Except.ok.inj hsift
          obtain ⟨hhead,htail⟩ := List.forall_mem_cons.mp hsound
          rcases hcases with ⟨rfl,-⟩ | ⟨hrest,hne⟩
          · exact ⟨true,hcheck,fun _ => List.mem_cons_self⟩
          · obtain ⟨b,hb,hmem⟩ := ih hkept htail (reached_seen_cons_iff.mpr ⟨hrest,hne hhead⟩)
            exact ⟨b,hb,fun htrue => List.mem_cons_of_mem a (hmem htrue)⟩

/-- The loop ends with the first good entry of each key just when the check tells every entry it looks at
right. -/
theorem sift_keeps_iff :
    (∃ kept, sift key check seen l = .ok kept ∧ Keeps key good seen l kept) ↔
      ∀ a, Reached key good seen l a → check a = .ok (good a) := by
  constructor
  · rintro ⟨kept,hsift,hkeeps⟩ a ha
    obtain ⟨b,hb,hmem⟩ := checked_of_reached hsift hkeeps.sound ha
    rw [hb]
    cases hgood : good a with
    | true =>
      have hpasses := check_of_mem_sift hsift (hkeeps.first a ha hgood)
      rwa [hb] at hpasses
    | false =>
      cases b with
      | false => rfl
      | true =>
        have hsound := hkeeps.sound a (hmem rfl)
        rw [hgood] at hsound
        cases hsound
  · exact fun h => ⟨_,sift_eq_firsts h,keeps_firsts seen l⟩

end Loop

end MarketScanner.Library.Sieve
