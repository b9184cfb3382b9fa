import Mathlib.Tactic.Common
import Mathlib.Data.List.Basic
import Mathlib.Data.List.Nodup

/-! Relational tables with a serial primary key. The structure carries the order of the ids, so a
table with two rows of one id, or with an id the sequence could hand out again, cannot be built. -/
namespace MarketScanner.Library

structure Row (ρ : Type*) where
  id : ℕ
  val : ρ
  deriving DecidableEq, Repr

/-- Apply `f` to the value of a row whose id satisfies `q`. -/
def Row.change {ρ : Type*} (q : ℕ → Bool) (f : ρ → ρ) (r : Row ρ) : Row ρ :=
  if q r.id then ⟨r.id,f r.val⟩ else r

@[simp] theorem Row.change_id {ρ : Type*} (q : ℕ → Bool) (f : ρ → ρ) (r : Row ρ) :
    (Row.change q f r).id = r.id := by
  unfold Row.change
  split <;> rfl

theorem Row.change_of_true {ρ : Type*} {q : ℕ → Bool} {f : ρ → ρ} {r : Row ρ}
    (h : q r.id = true) : Row.change q f r = ⟨r.id,f r.val⟩ := if_pos h

theorem Row.change_of_false {ρ : Type*} {q : ℕ → Bool} {f : ρ → ρ} {r : Row ρ}
    (h : q r.id = false) : Row.change q f r = r := by
  simp [Row.change, h]

structure Table (ρ : Type*) where
  rows : List (Row ρ)
  nextId : ℕ
  ordered : rows.Pairwise fun a b => a.id < b.id
  below : ∀ r ∈ rows, r.id < nextId

namespace Table
variable {ρ : Type*}

def empty : Table ρ := ⟨[],1,List.Pairwise.nil,by simp⟩

/-- `INSERT`: the new row takes the next id of the sequence. -/
def insert (t : Table ρ) (v : ρ) : Table ρ where
  rows := t.rows ++ [⟨t.nextId,v⟩]
  nextId := t.nextId+1
  ordered := by
    refine List.pairwise_append.mpr ⟨t.ordered,List.pairwise_singleton _ _,?_⟩
    intro a ha b hb
    obtain rfl := List.mem_singleton.mp hb
    exact t.below a ha
  below := by
    intro r hr
    rcases List.mem_append.mp hr with h | h
    · exact Nat.lt_succ_of_lt (t.below r h)
    · obtain rfl := List.mem_singleton.mp h
      exact Nat.lt_succ_self _

/-- `UPDATE ... WHERE`: rewrite the rows addressed by `q`; ids and order stay. -/
def modifyWhere (t : Table ρ) (q : ℕ → Bool) (f : ρ → ρ) : Table ρ where
  rows := t.rows.map (Row.change q f)
  nextId := t.nextId
  ordered := by
    rw [List.pairwise_map]
    simpa only [Row.change_id] using t.ordered
  below := by
    intro r hr
    obtain ⟨r',hr',rfl⟩ := List.mem_map.mp hr
    rw [Row.change_id]
    exact t.below r' hr'

def modify (t : Table ρ) (i : ℕ) (f : ρ → ρ) : Table ρ := t.modifyWhere (· == i) f

/-- `DELETE ... WHERE id = i`. -/
def delete (t : Table ρ) (i : ℕ) : Table ρ where
  rows := t.rows.filter fun r => r.id != i
  nextId := t.nextId
  ordered := t.ordered.filter _
  below r hr := t.below r (List.mem_of_mem_filter hr)

/-- Lookup by primary key. -/
def get? (t : Table ρ) (i : ℕ) : Option (Row ρ) := t.rows.find? fun r => r.id == i

/-- `ORDER BY id DESC LIMIT 1` over the rows satisfying `p`. -/
def latest (t : Table ρ) (p : Row ρ → Bool) : Option (Row ρ) := (t.rows.filter p).getLast?

@[simp] theorem rows_empty : (empty : Table ρ).rows = [] := rfl
@[simp] theorem rows_insert (t : Table ρ) (v : ρ) :
    (t.insert v).rows = t.rows ++ [⟨t.nextId,v⟩] := rfl
@[simp] theorem rows_modifyWhere (t : Table ρ) (q : ℕ → Bool) (f : ρ → ρ) :
    (t.modifyWhere q f).rows = t.rows.map (Row.change q f) := rfl
@[simp] theorem nextId_insert (t : Table ρ) (v : ρ) : (t.insert v).nextId = t.nextId+1 := rfl
@[simp] theorem nextId_modifyWhere (t : Table ρ) (q : ℕ → Bool) (f : ρ → ρ) :
    (t.modifyWhere q f).nextId = t.nextId := rfl

theorem mem_insert {t : Table ρ} {v : ρ} {r : Row ρ} :
    r ∈ (t.insert v).rows ↔ r ∈ t.rows ∨ r = ⟨t.nextId,v⟩ := by
  simp

theorem mem_modifyWhere {t : Table ρ} {q : ℕ → Bool} {f : ρ → ρ} {r : Row ρ} :
    r ∈ (t.modifyWhere q f).rows ↔ ∃ r' ∈ t.rows, Row.change q f r' = r := by
  simp

/-- A selection that sees a rewritten row neither before nor after the update is not changed. -/
theorem filter_modifyWhere {t : Table ρ} {q : ℕ → Bool} {f : ρ → ρ} {p : Row ρ → Bool}
    (h : ∀ r ∈ t.rows, q r.id = true → p r = false ∧ p ⟨r.id,f r.val⟩ = false) :
    (t.modifyWhere q f).rows.filter p = t.rows.filter p := by
  rw [rows_modifyWhere]
  generalize t.rows = rows at h
  induction rows with
  | nil => rfl
  | cons r rows ih =>
    have htail := ih fun r' hr' => h r' (List.mem_cons_of_mem r hr')
    rw [List.map_cons, List.filter_cons, List.filter_cons, htail]
    by_cases hq : q r.id = true
    · obtain ⟨hbefore,hafter⟩ := h r List.mem_cons_self hq
      simp [Row.change_of_true hq, hbefore, hafter]
    · rw [Row.change_of_false (by simpa using hq)]

/-- The primary key identifies a row. -/
theorem eq_of_id {t : Table ρ} {a b : Row ρ} (ha : a ∈ t.rows) (hb : b ∈ t.rows)
    (h : a.id = b.id) : a = b := by
  have hnodup : (t.rows.map Row.id).Nodup :=
    List.pairwise_map.mpr (t.ordered.imp fun h => Nat.ne_of_lt h)
  exact List.inj_on_of_nodup_map hnodup ha hb h

theorem mem_delete {t : Table ρ} {i : ℕ} {r : Row ρ} :
    r ∈ (t.delete i).rows ↔ r ∈ t.rows ∧ r.id ≠ i := by
  simp [delete]

theorem length_filter_id_le (t : Table ρ) (i : ℕ) :
    (t.rows.filter fun r => decide (r.id = i)).length ≤ 1 := by
  have hpair := t.ordered.filter fun r => decide (r.id = i)
  match hfilter : t.rows.filter fun r => decide (r.id = i) with
  | [] => rw [hfilter]; simp
  | [_] => rw [hfilter]; simp
  | a::b::rest =>
    rw [hfilter] at hpair
    have ha : a ∈ t.rows.filter fun r => decide (r.id = i) := by rw [hfilter]; simp
    have hb : b ∈ t.rows.filter fun r => decide (r.id = i) := by rw [hfilter]; simp
    have hlt : a.id < b.id := (List.pairwise_cons.mp hpair).1 b (by simp)
    simp only [List.mem_filter, decide_eq_true_eq] at ha hb
    omega

/-- Where more than one row passes a test, another row than `i` passes it. -/
theorem exists_other_of_countP {t : Table ρ} {p : Row ρ → Bool} (h : 1 < t.rows.countP p) (i : ℕ) :
    ∃ r ∈ t.rows, r.id ≠ i ∧ p r = true := by
  have hsplit : t.rows.countP p =
      (t.rows.filter fun r => decide (r.id = i)).countP p +
        (t.rows.filter fun r => decide (r.id ≠ i)).countP p := by
    rw [← List.countP_append]
    apply List.Perm.countP_eq
    simpa using (List.filter_append_perm (fun r : Row ρ => decide (r.id = i)) t.rows).symm
  have hone := length_filter_id_le t i
  have hfew := List.countP_le_length (p := p) (l := t.rows.filter fun r => decide (r.id = i))
  have hother : 0 < (t.rows.filter fun r => decide (r.id ≠ i)).countP p := by omega
  obtain ⟨r,hr,hp⟩ := List.countP_pos_iff.mp hother
  simp only [List.mem_filter, decide_eq_true_eq] at hr
  exact ⟨r,hr.1,hr.2,hp⟩

theorem get?_eq_some_iff {t : Table ρ} {i : ℕ} {r : Row ρ} :
    t.get? i = some r ↔ r ∈ t.rows ∧ r.id = i := by
  constructor
  · intro h
    exact ⟨List.mem_of_find?_eq_some h,by simpa using List.find?_some h⟩
  · rintro ⟨hr,rfl⟩
    cases h : t.get? r.id with
    | none =>
      have hnone := List.find?_eq_none.mp h r hr
      simp at hnone
    | some r' =>
      have hmem : r' ∈ t.rows := List.mem_of_find?_eq_some h
      have hid : r'.id = r.id := by simpa using List.find?_some h
      rw [eq_of_id hmem hr hid]

@[simp] theorem get?_modifyWhere (t : Table ρ) (q : ℕ → Bool) (f : ρ → ρ) (i : ℕ) :
    (t.modifyWhere q f).get? i = (t.get? i).map (Row.change q f) := by
  simp only [get?, rows_modifyWhere, List.find?_map]
  congr 2
  funext r
  simp

/-- An insert leaves every row that was there readable as it was. -/
theorem get?_insert_of_some {t : Table ρ} {v : ρ} {i : ℕ} {r : Row ρ} (h : t.get? i = some r) :
    (t.insert v).get? i = some r := by
  obtain ⟨hr,hid⟩ := get?_eq_some_iff.mp h
  exact get?_eq_some_iff.mpr ⟨mem_insert.mpr (Or.inl hr),hid⟩

theorem id_of_get? {t : Table ρ} {i : ℕ} {r : Row ρ} (h : t.get? i = some r) : r.id = i :=
  (get?_eq_some_iff.mp h).2

theorem latest_eq_none_iff {t : Table ρ} {p : Row ρ → Bool} :
    t.latest p = none ↔ ∀ r ∈ t.rows, p r = false := by
  simp [latest]

/-- `latest` returns the row of greatest id among those satisfying the predicate. -/
theorem latest_eq_some {t : Table ρ} {p : Row ρ → Bool} {r : Row ρ} (h : t.latest p = some r) :
    r ∈ t.rows ∧ p r = true ∧ ∀ r' ∈ t.rows, p r' = true → r'.id ≤ r.id := by
  obtain ⟨front,hfront⟩ := List.getLast?_eq_some_iff.mp h
  have hr : r ∈ t.rows.filter p := by rw [hfront]; simp
  have hpair := t.ordered.filter p
  rw [hfront] at hpair
  refine ⟨List.mem_of_mem_filter hr,(List.mem_filter.mp hr).2,?_⟩
  intro r' hr' hp
  have hmem : r' ∈ front ++ [r] := by rw [← hfront]; exact List.mem_filter.mpr ⟨hr',hp⟩
  rcases List.mem_append.mp hmem with hold | hlast
  · exact Nat.le_of_lt ((List.pairwise_append.mp hpair).2.2 r' hold r (by simp))
  · obtain rfl := List.mem_singleton.mp hlast
    exact Nat.le_refl _

theorem eq_of_rows {t t' : Table ρ} (hrows : t.rows = t'.rows) (hnext : t.nextId = t'.nextId) :
    t = t' := by
  cases t
  cases t'
  dsimp only at hrows hnext
  subst hrows hnext
  rfl

/-- Rewriting distinct rows one by one is rewriting them together. -/
theorem foldl_modify {ids : List ℕ} (h : ids.Nodup) (f : ρ → ρ) (t : Table ρ) :
    ids.foldl (fun t i => t.modify i f) t = t.modifyWhere (fun i => decide (i ∈ ids)) f := by
  induction ids generalizing t with
  | nil =>
    refine eq_of_rows ?_ rfl
    have hsame : ∀ r ∈ t.rows, Row.change (fun i => decide (i ∈ ([] : List ℕ))) f r = r :=
      fun r _ => Row.change_of_false (by simp)
    rw [List.foldl_nil, rows_modifyWhere, List.map_congr_left hsame, List.map_id']
  | cons i rest ih =>
    obtain ⟨hi,hrest⟩ := List.nodup_cons.mp h
    rw [List.foldl_cons, ih hrest]
    refine eq_of_rows ?_ rfl
    rw [rows_modifyWhere, modify, rows_modifyWhere, List.map_map, rows_modifyWhere]
    refine List.map_congr_left fun r _ => ?_
    rw [Function.comp_apply]
    by_cases hid : r.id = i
    · rw [Row.change_of_true (q := (· == i)) (by simpa using hid),
        Row.change_of_false (by simpa [hid] using hi), Row.change_of_true (by simp [hid])]
    · rw [Row.change_of_false (q := (· == i)) (by simpa using hid)]
      by_cases hmem : r.id ∈ rest
      · rw [Row.change_of_true (by simpa using hmem), Row.change_of_true (by simp [hmem])]
      · rw [Row.change_of_false (by simpa using hmem), Row.change_of_false (by simp [hid, hmem])]

end Table
end MarketScanner.Library
