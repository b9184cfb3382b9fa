import Mathlib.Order.Lattice
import MarketScanner.Library.Sweep

/-! A keyed store whose entries expire. An entry is put under a lease and read while the lease lasts; a
lease can be renewed while it lasts and not revived once it is over. -/
namespace MarketScanner.Library

structure Lease (ε τ : Type*) where
  entry : ε
  deadline : τ
  deriving DecidableEq, Repr

structure LeaseStore (ε τ : Type*) where
  clock : τ
  leases : List (Lease ε τ)
  deriving DecidableEq, Repr

namespace LeaseStore
variable {ε τ κ : Type*} [DecidableEq κ] (key : ε → κ) (s : LeaseStore ε τ)

def drop (k : κ) : LeaseStore ε τ :=
  { s with leases := s.leases.filter fun l => !decide (key l.entry = k) }

/-- Drop the entry of a key if it is doomed. -/
def dropIf (doomed : ε → Bool) (k : κ) : LeaseStore ε τ :=
  { s with leases := s.leases.filter fun l => !(decide (key l.entry = k) && doomed l.entry) }

/-- The leases of a key. -/
def leasesOf (k : κ) : List (Lease ε τ) := s.leases.filter fun l => decide (key l.entry = k)

/-- `k` holds `e` until `d`, and nothing else. -/
def Holds (k : κ) (e : ε) (d : τ) : Prop := s.leasesOf key k = [⟨e,d⟩]

/-- Put an entry for `ttl` from now, in the place of what its key held. -/
def put [Add τ] (ttl : τ) (e : ε) : LeaseStore ε τ :=
  { s with leases := (s.drop key (key e)).leases ++ [⟨e,s.clock+ttl⟩] }

def wait [Add τ] (d : τ) : LeaseStore ε τ := { s with clock := s.clock+d }

section Shape
variable {key s} {k k' : κ} {e : ε} {d ttl : τ} {doomed : ε → Bool}

theorem leasesOf_drop : (s.drop key k').leasesOf key k = if k' = k then [] else s.leasesOf key k := by
  simp only [leasesOf, drop, List.filter_filter]
  split_ifs with h
  · subst h
    simp
  · refine List.filter_congr fun l _ => ?_
    by_cases hl : key l.entry = k
    · simp [hl, Ne.symm h]
    · simp [hl]

theorem leasesOf_dropIf : (s.dropIf key doomed k').leasesOf key k =
    if k' = k then (s.leasesOf key k).filter fun l => !doomed l.entry else s.leasesOf key k := by
  simp only [leasesOf, dropIf, List.filter_filter]
  split_ifs with h
  · subst h
    refine List.filter_congr fun l _ => ?_
    by_cases hl : key l.entry = k' <;> simp [hl]
  · refine List.filter_congr fun l _ => ?_
    by_cases hl : key l.entry = k
    · simp [hl, Ne.symm h]
    · simp [hl]

@[simp] theorem leasesOf_wait [Add τ] : (s.wait d).leasesOf key k = s.leasesOf key k := rfl

theorem holds_put [Add τ] : (s.put key ttl e).Holds key (key e) e (s.clock+ttl) := by
  have hold : (s.drop key (key e)).leases.filter (fun l => decide (key l.entry = key e)) = [] := by
    simp [drop, List.filter_filter]
  simp [Holds, leasesOf, put, List.filter_append, hold]

theorem leasesOf_put_of_ne [Add τ] (h : key e ≠ k) :
    (s.put key ttl e).leasesOf key k = s.leasesOf key k := by
  have hnew : decide (key e = k) = false := by simp [h]
  simp only [leasesOf, put, drop, List.filter_append, List.filter_filter, List.filter_cons, hnew]
  simp only [Bool.false_eq_true, if_false, List.filter_nil, List.append_nil]
  refine List.filter_congr fun l _ => ?_
  by_cases hl : key l.entry = k
  · simp [hl, Ne.symm h]
  · simp [hl]

end Shape

section Reading
variable [LinearOrder τ]

/-- The entries whose lease is not over. -/
def live : List ε := (s.leases.filter fun l => decide (s.clock < l.deadline)).map Lease.entry

def get? (k : κ) : Option ε := s.live.find? fun e => decide (key e = k)

/-- The lease of `k` lasts for `ttl` from now, if it is not over. -/
def renew [Add τ] (ttl : τ) (k : κ) : LeaseStore ε τ :=
  { s with
    leases := s.leases.map fun l =>
      if key l.entry = k ∧ s.clock < l.deadline then { l with deadline := s.clock+ttl } else l }

variable {key s} {k k' : κ} {e e' : ε} {d ttl : τ} {doomed : ε → Bool}

omit [DecidableEq κ] in
theorem mem_live : e ∈ s.live ↔ ∃ d, ⟨e,d⟩ ∈ s.leases ∧ s.clock < d := by
  simp only [live, List.mem_map, List.mem_filter, decide_eq_true_eq]
  constructor
  · rintro ⟨l,⟨hl,hlive⟩,rfl⟩
    exact ⟨l.deadline,hl,hlive⟩
  · rintro ⟨d,hd,hlive⟩
    exact ⟨⟨e,d⟩,⟨hd,hlive⟩,rfl⟩

theorem of_get? (h : s.get? key k = some e) : e ∈ s.live ∧ key e = k :=
  ⟨List.mem_of_find?_eq_some h,by simpa using List.find?_some h⟩

theorem get?_eq_none_iff : s.get? key k = none ↔ ∀ e ∈ s.live, key e ≠ k := by
  simp [get?]

/-- What is read is decided by the leases of the key and the clock alone. -/
theorem get?_eq_leasesOf : s.get? key k =
    (((s.leasesOf key k).filter fun l => decide (s.clock < l.deadline)).head?).map Lease.entry := by
  rw [get?, live, leasesOf, List.find?_map, ← List.head?_filter, List.filter_filter,
    List.filter_filter]
  congr 2
  refine List.filter_congr fun l _ => ?_
  simp [Bool.and_comm]

theorem Holds.get? (h : s.Holds key k e d) : s.get? key k = if s.clock < d then some e else none := by
  rw [get?_eq_leasesOf, h]
  by_cases hd : s.clock < d <;> simp [hd]

/-- A key with one lease at most holds what is read of it. -/
theorem exists_holds (hone : (s.leasesOf key k).length ≤ 1) (h : s.get? key k = some e) :
    ∃ d, s.Holds key k e d ∧ s.clock < d := by
  obtain ⟨hlive,hk⟩ := of_get? h
  obtain ⟨d,hd,hclock⟩ := mem_live.mp hlive
  have hmem : (⟨e,d⟩ : Lease ε τ) ∈ s.leasesOf key k := List.mem_filter.mpr ⟨hd,by simpa using hk⟩
  obtain ⟨l,hl⟩ := List.length_eq_one_iff.mp (Nat.le_antisymm hone (List.length_pos_of_mem hmem))
  rw [hl, List.mem_singleton] at hmem
  exact ⟨d,by rw [Holds, hl, hmem],hclock⟩

theorem live_of_drop (h : e ∈ (s.drop key k).live) : e ∈ s.live ∧ key e ≠ k := by
  obtain ⟨d,hd,hlive⟩ := mem_live.mp h
  obtain ⟨hmem,hk⟩ := List.mem_filter.mp hd
  exact ⟨mem_live.mpr ⟨d,hmem,hlive⟩,by simpa using hk⟩

theorem live_of_dropIf (h : e ∈ (s.dropIf key doomed k).live) :
    e ∈ s.live ∧ (key e = k → doomed e = false) := by
  obtain ⟨d,hd,hlive⟩ := mem_live.mp h
  obtain ⟨hmem,hk⟩ := List.mem_filter.mp hd
  exact ⟨mem_live.mpr ⟨d,hmem,hlive⟩,by simpa [imp_iff_not_or] using hk⟩

variable [Add τ]

theorem live_of_put (h : e' ∈ (s.put key ttl e).live) : e' = e ∨ e' ∈ s.live := by
  obtain ⟨d,hd,hlive⟩ := mem_live.mp h
  rcases List.mem_append.mp hd with hold | hnew
  · exact .inr (mem_live.mpr ⟨d,(List.mem_filter.mp hold).1,hlive⟩)
  · obtain ⟨rfl,-⟩ : e' = e ∧ d = s.clock+ttl := by simpa using hnew
    exact .inl rfl

omit [DecidableEq κ] in
theorem live_of_wait (hd : s.clock ≤ s.clock+d) (h : e ∈ (s.wait d).live) : e ∈ s.live := by
  obtain ⟨b,hb,hlive⟩ := mem_live.mp h
  exact mem_live.mpr ⟨b,hb,hd.trans_lt hlive⟩

theorem live_of_renew (h : e ∈ (s.renew key ttl k).live) : e ∈ s.live := by
  obtain ⟨d,hd,hlive⟩ := mem_live.mp h
  obtain ⟨l,hl,heq⟩ := List.mem_map.mp hd
  split_ifs at heq with hk
  · obtain ⟨rfl,-⟩ : l.entry = e ∧ s.clock+ttl = d := by simpa using heq
    exact mem_live.mpr ⟨l.deadline,hl,hk.2⟩
  · subst heq
    exact mem_live.mpr ⟨d,hl,hlive⟩

theorem leasesOf_renew : (s.renew key ttl k').leasesOf key k =
    if k' = k then (s.leasesOf key k).map fun l =>
      if s.clock < l.deadline then { l with deadline := s.clock+ttl } else l
    else s.leasesOf key k := by
  have hfilter : ((fun l : Lease ε τ => decide (key l.entry = k)) ∘ fun l : Lease ε τ =>
      if key l.entry = k' ∧ s.clock < l.deadline then { l with deadline := s.clock+ttl } else l) =
      fun l => decide (key l.entry = k) := by
    funext l
    simp only [Function.comp_apply]
    split_ifs <;> rfl
  simp only [leasesOf, renew, List.filter_map, hfilter]
  split_ifs with h
  · subst h
    refine List.map_congr_left fun l hl => ?_
    have hk : key l.entry = k' := by simpa using (List.mem_filter.mp hl).2
    simp [hk]
  · conv_rhs => rw [← List.map_id (List.filter _ _)]
    refine List.map_congr_left fun l hl => ?_
    have hk : key l.entry = k := by simpa using (List.mem_filter.mp hl).2
    simp [hk, Ne.symm h]

theorem Holds.renew (h : s.Holds key k e d) (hd : s.clock < d) :
    (s.renew key ttl k).Holds key k e (s.clock+ttl) := by
  rw [Holds, leasesOf_renew, if_pos rfl, h]
  simp [hd]

end Reading
end LeaseStore
end MarketScanner.Library
