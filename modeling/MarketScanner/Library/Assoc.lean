import Mathlib.Tactic.Common
import Mathlib.Data.List.Basic
import Mathlib.Data.List.Nodup

/-! Insertion-ordered dictionaries. The structure carries the distinctness of the keys, so that the
items of a dictionary and its lookups say the same. -/
namespace MarketScanner.Library

structure Assoc (κ ν : Type*) where
  items : List (κ × ν)
  distinct : (items.map Prod.fst).Nodup

namespace Assoc
variable {κ ν : Type*}

def empty : Assoc κ ν := ⟨[],List.nodup_nil⟩

variable [DecidableEq κ]

def setItem (k : κ) (v : ν) : List (κ × ν) → List (κ × ν)
  | [] => [(k,v)]
  | item::rest => if item.1 = k then (k,v)::rest else item::setItem k v rest

theorem mem_keys_setItem {k k' : κ} {v : ν} {items : List (κ × ν)} :
    k' ∈ (setItem k v items).map Prod.fst ↔ k' = k ∨ k' ∈ items.map Prod.fst := by
  induction items with
  | nil => simp [setItem]
  | cons item rest ih =>
    rw [setItem]
    split
    · rename_i hk
      simp [hk]
    · rw [List.map_cons, List.mem_cons, ih, List.map_cons, List.mem_cons]
      tauto

theorem nodup_setItem (k : κ) (v : ν) {items : List (κ × ν)} (h : (items.map Prod.fst).Nodup) :
    ((setItem k v items).map Prod.fst).Nodup := by
  induction items with
  | nil => simp [setItem]
  | cons item rest ih =>
    obtain ⟨hhead,htail⟩ := List.nodup_cons.mp h
    rw [setItem]
    split
    · rename_i hk
      exact List.nodup_cons.mpr ⟨by rwa [hk] at hhead,htail⟩
    · rename_i hk
      refine List.nodup_cons.mpr ⟨?_,ih htail⟩
      rw [mem_keys_setItem]
      rintro (heq | hmem)
      · exact hk heq
      · exact hhead hmem

theorem mem_setItem {k : κ} {v : ν} {items : List (κ × ν)} {item : κ × ν}
    (h : item ∈ setItem k v items) : item = (k,v) ∨ item ∈ items := by
  induction items with
  | nil => exact Or.inl (List.mem_singleton.mp h)
  | cons first rest ih =>
    rw [setItem] at h
    split at h
    · rcases List.mem_cons.mp h with rfl | hrest
      · exact Or.inl rfl
      · exact Or.inr (List.mem_cons_of_mem first hrest)
    · rcases List.mem_cons.mp h with rfl | hrest
      · exact Or.inr List.mem_cons_self
      · exact (ih hrest).imp_right (List.mem_cons_of_mem first)

theorem lookup_setItem (k k' : κ) (v : ν) (items : List (κ × ν)) :
    (setItem k v items).lookup k' = if k' = k then some v else items.lookup k' := by
  induction items with
  | nil =>
    by_cases h : k' = k
    · simp [setItem, h]
    · simp [setItem, List.lookup_cons, beq_eq_false_iff_ne.mpr h, h]
  | cons item rest ih =>
    obtain ⟨key,value⟩ := item
    by_cases hkey : key = k
    · subst hkey
      by_cases h : k' = key
      · simp [setItem, h]
      · simp [setItem, List.lookup_cons, beq_eq_false_iff_ne.mpr h, h]
    · rw [setItem, if_neg hkey, List.lookup_cons, List.lookup_cons]
      by_cases h : k' = key
      · subst h
        simp [hkey]
      · simp only [beq_eq_false_iff_ne.mpr h]
        exact ih

/-- `d[k] = v`: an assigned key keeps its place, a new one goes last. -/
def set (d : Assoc κ ν) (k : κ) (v : ν) : Assoc κ ν :=
  ⟨setItem k v d.items,nodup_setItem k v d.distinct⟩

/-- `d.get(k)`. -/
def get? (d : Assoc κ ν) (k : κ) : Option ν := d.items.lookup k

@[simp] theorem get?_empty (k : κ) : (empty : Assoc κ ν).get? k = none := rfl

theorem get?_set (d : Assoc κ ν) (k k' : κ) (v : ν) :
    (d.set k v).get? k' = if k' = k then some v else d.get? k' :=
  lookup_setItem k k' v d.items

/-- A dictionary filled in a loop holds the last value assigned to each key. -/
theorem get?_foldl_set {α : Type*} (key : α → κ) (value : α → ν) (l : List α) (d : Assoc κ ν)
    (k : κ) :
    (l.foldl (fun d a => d.set (key a) (value a)) d).get? k =
      (((l.filter fun a => decide (key a = k)).getLast?).map value).or (d.get? k) := by
  induction l generalizing d with
  | nil => rfl
  | cons a l ih =>
    rw [List.foldl_cons, ih, get?_set, List.filter_cons]
    by_cases hk : key a = k
    · simp only [hk, if_true, decide_true]
      cases hrest : l.filter fun a => decide (key a = k) with
      | nil => rfl
      | cons b rest => rw [List.getLast?_cons_cons]; rfl
    · simp only [hk, Ne.symm hk, if_false, decide_false, Bool.false_eq_true]

/-- Where no key comes twice, every assignment is held. -/
theorem get?_foldl_set_of_mem {α : Type*} (key : α → κ) (value : α → ν) {l : List α}
    (h : (l.map key).Nodup) (d : Assoc κ ν) {a : α} (ha : a ∈ l) :
    (l.foldl (fun d a => d.set (key a) (value a)) d).get? (key a) = some (value a) := by
  rw [get?_foldl_set]
  cases hlast : (l.filter fun b => decide (key b = key a)).getLast? with
  | none =>
    have hmem : a ∈ l.filter fun b => decide (key b = key a) := by simpa using ha
    rw [List.getLast?_eq_none_iff.mp hlast] at hmem
    cases hmem
  | some b =>
    obtain ⟨hb,hkey⟩ := List.mem_filter.mp (List.mem_of_getLast? hlast)
    obtain rfl := List.inj_on_of_nodup_map h hb ha (of_decide_eq_true hkey)
    rfl

theorem mem_of_get?_foldl_set {α : Type*} {key : α → κ} {value : α → ν} {l : List α} {k : κ} {v : ν}
    (h : (l.foldl (fun d a => d.set (key a) (value a)) empty).get? k = some v) :
    ∃ a ∈ l, key a = k ∧ value a = v := by
  rw [get?_foldl_set, get?_empty, Option.or_none, Option.map_eq_some_iff] at h
  obtain ⟨a,hlast,hvalue⟩ := h
  obtain ⟨ha,hkey⟩ := List.mem_filter.mp (List.mem_of_getLast? hlast)
  exact ⟨a,ha,of_decide_eq_true hkey,hvalue⟩

theorem mem_keys_foldl_set {α : Type*} (key : α → κ) (value : α → ν) (l : List α) (d : Assoc κ ν)
    (k : κ) : k ∈ (l.foldl (fun d a => d.set (key a) (value a)) d).items.map Prod.fst ↔
      k ∈ d.items.map Prod.fst ∨ k ∈ l.map key := by
  induction l generalizing d with
  | nil => simp
  | cons a l ih =>
    rw [List.foldl_cons, ih, set, mem_keys_setItem, List.map_cons, List.mem_cons]
    tauto

/-- An entry where there is a value. -/
def setSome (d : Assoc κ ν) (k : κ) : Option ν → Assoc κ ν
  | some v => d.set k v
  | none => d

theorem get?_setSome (d : Assoc κ ν) (k k' : κ) (v : Option ν) :
    (d.setSome k v).get? k' = if k' = k then v.or (d.get? k') else d.get? k' := by
  cases v with
  | none => simp [setSome]
  | some v => rw [setSome, get?_set, Option.some_or]

/-- A dictionary of the keys that have a value. -/
theorem get?_foldl_setSome (g : κ → Option ν) (ks : List κ) (d : Assoc κ ν) (k : κ) :
    (ks.foldl (fun d k => d.setSome k (g k)) d).get? k =
      if k ∈ ks then (g k).or (d.get? k) else d.get? k := by
  induction ks generalizing d with
  | nil => simp
  | cons key ks ih =>
    rw [List.foldl_cons, ih, get?_setSome]
    by_cases hk : k = key
    · subst hk
      cases g k <;> simp
    · simp [hk]

theorem lookup_eq_some_iff {items : List (κ × ν)} (h : (items.map Prod.fst).Nodup) {k : κ} {v : ν} :
    items.lookup k = some v ↔ (k,v) ∈ items := by
  induction items with
  | nil => simp
  | cons item rest ih =>
    obtain ⟨key,value⟩ := item
    obtain ⟨hhead,htail⟩ := List.nodup_cons.mp h
    rw [List.lookup_cons, List.mem_cons, Prod.mk.injEq]
    by_cases hk : k = key
    · subst hk
      have hrest : (k,v) ∉ rest := fun hmem => hhead (List.mem_map.mpr ⟨(k,v),hmem,rfl⟩)
      simp [hrest, eq_comm]
    · simp [beq_eq_false_iff_ne.mpr hk, hk, ih htail]

theorem get?_eq_some_iff {d : Assoc κ ν} {k : κ} {v : ν} : d.get? k = some v ↔ (k,v) ∈ d.items :=
  lookup_eq_some_iff d.distinct

/-- A dictionary that answers for each of the given keys what `g` does holds those items, in some
order. -/
theorem items_perm {d : Assoc κ ν} {ks : List κ} (hks : ks.Nodup) {g : κ → Option ν}
    (h : ∀ k, d.get? k = if k ∈ ks then g k else none) :
    d.items.Perm (ks.filterMap fun k => (g k).map fun v => (k,v)) := by
  have hitems : d.items.Nodup := List.Nodup.of_map Prod.fst d.distinct
  have hlisted : (ks.filterMap fun k => (g k).map fun v => (k,v)).Nodup := by
    apply hks.filterMap
    intro k k' item hitem hitem'
    obtain ⟨v,-,rfl⟩ := Option.map_eq_some_iff.mp hitem
    obtain ⟨v',-,heq⟩ := Option.map_eq_some_iff.mp hitem'
    exact (congrArg Prod.fst heq).symm
  apply (List.perm_ext_iff_of_nodup hitems hlisted).mpr
  rintro ⟨k,v⟩
  rw [← get?_eq_some_iff, h, List.mem_filterMap]
  constructor
  · intro hget
    split at hget
    · rename_i hk
      exact ⟨k,hk,by rw [hget, Option.map_some]⟩
    · cases hget
  · rintro ⟨k',hk',hitem⟩
    obtain ⟨v',hv',heq⟩ := Option.map_eq_some_iff.mp hitem
    obtain ⟨rfl,rfl⟩ := Prod.mk.inj heq
    rw [if_pos hk', hv']

end Assoc
end MarketScanner.Library
