import Mathlib.Order.Defs.LinearOrder
import MarketScanner.Library.Assoc
import MarketScanner.Library.Query
import MarketScanner.Library.Table

/-! Tables with at most one row for each owner and stamp, as daily data has. The structure carries
that uniqueness, which makes every newest-first query independent of the order of the scan. -/
namespace MarketScanner.Library
variable {ρ κ δ : Type*} [DecidableEq κ] [LinearOrder δ]

structure Stamped (owner : ρ → κ) (stamp : ρ → δ) where
  table : Table ρ
  unique : ∀ r ∈ table.rows, ∀ r' ∈ table.rows, owner r.val = owner r'.val →
    stamp r.val = stamp r'.val → r.id = r'.id

namespace Stamped
variable {owner : ρ → κ} {stamp : ρ → δ}

def empty : Stamped owner stamp := ⟨Table.empty,by simp⟩

/-- The row of an owner and stamp. -/
def find? (t : Stamped owner stamp) (k : κ) (d : δ) : Option (Row ρ) :=
  t.table.rows.find? fun r => decide (owner r.val = k) && decide (stamp r.val = d)

theorem find?_some {t : Stamped owner stamp} {k : κ} {d : δ} {r : Row ρ}
    (h : t.find? k d = some r) : r ∈ t.table.rows ∧ owner r.val = k ∧ stamp r.val = d := by
  have hkey := List.find?_some h
  simp only [Bool.and_eq_true, decide_eq_true_eq] at hkey
  exact ⟨List.mem_of_find?_eq_some h,hkey⟩

theorem find?_none {t : Stamped owner stamp} {k : κ} {d : δ} (h : t.find? k d = none)
    {r : Row ρ} (hr : r ∈ t.table.rows) (hk : owner r.val = k) : stamp r.val ≠ d := by
  have hmiss := List.find?_eq_none.mp h r hr
  simpa [hk] using hmiss

/-- Insert the row of an owner and stamp, or overwrite it. -/
def put (t : Stamped owner stamp) (v : ρ) : Stamped owner stamp :=
  match hfind : t.find? (owner v) (stamp v) with
  | some row =>
    { table := t.table.modify row.id fun _ => v
      unique := by
        obtain ⟨hrow,howner,hstamp⟩ := find?_some hfind
        have hold : ∀ r ∈ (t.table.modify row.id fun _ => v).rows, ∃ r₀ ∈ t.table.rows,
            r₀.id = r.id ∧ owner r₀.val = owner r.val ∧ stamp r₀.val = stamp r.val := by
          intro r hr
          obtain ⟨r₀,hr₀,rfl⟩ := Table.mem_modifyWhere.mp hr
          refine ⟨r₀,hr₀,(Row.change_id _ _ _).symm,?_⟩
          by_cases hid : r₀.id = row.id
          · rw [Row.change_of_true (by simpa using hid), Table.eq_of_id hr₀ hrow hid]
            exact ⟨howner,hstamp⟩
          · rw [Row.change_of_false (by simpa using hid)]
            exact ⟨rfl,rfl⟩
        intro r hr r' hr' hk hd
        obtain ⟨r₀,hr₀,hid,hk₀,hd₀⟩ := hold r hr
        obtain ⟨r₁,hr₁,hid',hk₁,hd₁⟩ := hold r' hr'
        rw [← hid, ← hid']
        exact t.unique r₀ hr₀ r₁ hr₁ (by rw [hk₀, hk₁, hk]) (by rw [hd₀, hd₁, hd]) }
  | none =>
    { table := t.table.insert v
      unique := by
        intro r hr r' hr' hk hd
        rcases Table.mem_insert.mp hr with hold | rfl
        · rcases Table.mem_insert.mp hr' with hold' | rfl
          · exact t.unique r hold r' hold' hk hd
          · exact absurd hd (find?_none hfind hold hk)
        · rcases Table.mem_insert.mp hr' with hold' | rfl
          · exact absurd hd.symm (find?_none hfind hold' hk.symm)
          · rfl }

theorem put_table_of_some {t : Stamped owner stamp} {v : ρ} {row : Row ρ}
    (h : t.find? (owner v) (stamp v) = some row) :
    (t.put v).table = t.table.modify row.id fun _ => v := by
  unfold put
  split
  · rename_i row' hfind
    obtain rfl := Option.some.inj (h.symm.trans hfind)
    rfl
  · rename_i hfind
    rw [h] at hfind
    cases hfind

theorem put_table_of_none {t : Stamped owner stamp} {v : ρ}
    (h : t.find? (owner v) (stamp v) = none) : (t.put v).table = t.table.insert v := by
  unfold put
  split
  · rename_i row' hfind
    rw [h] at hfind
    cases hfind
  · rfl

/-- `ORDER BY stamp DESC`. -/
def Newer (stamp : ρ → δ) (a b : Row ρ) : Prop := stamp b.val ≤ stamp a.val

instance (stamp : ρ → δ) : DecidableRel (Newer stamp) := fun a b =>
  inferInstanceAs (Decidable (stamp b.val ≤ stamp a.val))

instance (stamp : ρ → δ) : Std.Total (Newer stamp) := ⟨fun a b => le_total (stamp b.val) (stamp a.val)⟩

instance (stamp : ρ → δ) : IsTrans (Row ρ) (Newer stamp) := ⟨fun _ _ _ h h' => h'.trans h⟩

/-- `WHERE owner = k ORDER BY stamp DESC`. -/
def newestFirst (scan : ScanOrder (Row ρ)) (t : Stamped owner stamp) (k : κ) : List (Row ρ) :=
  orderBy scan (Newer stamp) (t.table.rows.filter fun r => decide (owner r.val = k))

@[simp] theorem mem_newestFirst {scan : ScanOrder (Row ρ)} {t : Stamped owner stamp} {k : κ}
    {r : Row ρ} : r ∈ newestFirst scan t k ↔ r ∈ t.table.rows ∧ owner r.val = k := by
  simp [newestFirst]

/-- The rows of an owner come strictly newest first. -/
theorem newestFirst_pairwise (scan : ScanOrder (Row ρ)) (t : Stamped owner stamp) (k : κ) :
    (newestFirst scan t k).Pairwise fun a b => stamp b.val < stamp a.val := by
  have hsorted : (newestFirst scan t k).Pairwise (Newer stamp) :=
    List.pairwise_insertionSort (Newer stamp) _
  have hnodup : (newestFirst scan t k).Nodup := by
    have hrows : t.table.rows.Nodup := t.table.ordered.imp fun h => by
      rintro rfl
      exact Nat.lt_irrefl _ h
    exact (orderBy_perm scan (Newer stamp) _).nodup_iff.mpr (hrows.filter _)
  apply (hsorted.and hnodup).imp_of_mem
  rintro a b ha hb ⟨hle,hne⟩
  refine lt_of_le_of_ne hle fun heq => hne ?_
  obtain ⟨ha,hka⟩ := mem_newestFirst.mp ha
  obtain ⟨hb,hkb⟩ := mem_newestFirst.mp hb
  exact Table.eq_of_id ha hb (t.unique a ha b hb (hka.trans hkb.symm) heq.symm)

/-- Two lists strictly newest first with the same rows are one list. -/
theorem eq_of_newestFirst {l l' : List (Row ρ)}
    (h : l.Pairwise fun a b => stamp b.val < stamp a.val)
    (h' : l'.Pairwise fun a b => stamp b.val < stamp a.val) (hmem : ∀ r, r ∈ l ↔ r ∈ l') :
    l = l' := by
  have hnodup : ∀ {l : List (Row ρ)}, (l.Pairwise fun a b => stamp b.val < stamp a.val) →
      l.Nodup := fun h => h.imp fun hlt => by
    rintro rfl
    exact lt_irrefl _ hlt
  have hperm : l.Perm l' := (List.perm_ext_iff_of_nodup (hnodup h) (hnodup h')).mpr hmem
  exact hperm.eq_of_pairwise (fun a b _ _ hab hba => absurd hab (lt_asymm hba)) h h'

theorem newestFirst_scan (scan scan' : ScanOrder (Row ρ)) (t : Stamped owner stamp) (k : κ) :
    newestFirst scan t k = newestFirst scan' t k :=
  eq_of_newestFirst (newestFirst_pairwise scan t k) (newestFirst_pairwise scan' t k)
    fun r => by rw [mem_newestFirst, mem_newestFirst]

/-- A write is not seen by the queries about another owner. -/
theorem newestFirst_put_of_ne (scan : ScanOrder (Row ρ)) (t : Stamped owner stamp) {v : ρ} {k : κ}
    (hk : k ≠ owner v) : newestFirst scan (t.put v) k = newestFirst scan t k := by
  unfold newestFirst
  congr 1
  cases hfind : t.find? (owner v) (stamp v) with
  | none =>
    rw [put_table_of_none hfind, Table.rows_insert, List.filter_append, List.filter_singleton]
    simp [hk.symm]
  | some row =>
    obtain ⟨hrow,howner,-⟩ := find?_some hfind
    rw [put_table_of_some hfind]
    apply Table.filter_modifyWhere
    intro r hr hid
    obtain rfl : r = row := Table.eq_of_id hr hrow (by simpa using hid)
    simp [howner, hk.symm]

/-- A write with a newer stamp comes first, before what was there. -/
theorem newestFirst_put_newer (scan : ScanOrder (Row ρ)) (t : Stamped owner stamp) {v : ρ}
    (hnewer : ∀ r ∈ newestFirst scan t (owner v), stamp r.val < stamp v) :
    newestFirst scan (t.put v) (owner v) =
      ⟨t.table.nextId,v⟩::newestFirst scan t (owner v) := by
  have hfind : t.find? (owner v) (stamp v) = none := by
    cases hfind : t.find? (owner v) (stamp v) with
    | none => rfl
    | some row =>
      obtain ⟨hrow,howner,hstamp⟩ := find?_some hfind
      exact absurd hstamp (ne_of_lt (hnewer row (mem_newestFirst.mpr ⟨hrow,howner⟩)))
  apply eq_of_newestFirst (newestFirst_pairwise scan (t.put v) (owner v))
    (List.pairwise_cons.mpr ⟨hnewer,newestFirst_pairwise scan t (owner v)⟩)
  intro r
  rw [mem_newestFirst, put_table_of_none hfind, Table.mem_insert, List.mem_cons, mem_newestFirst]
  constructor
  · rintro ⟨hold | rfl,hk⟩
    · exact Or.inr ⟨hold,hk⟩
    · exact Or.inl rfl
  · rintro (rfl | ⟨hold,hk⟩)
    · exact ⟨Or.inr rfl,rfl⟩
    · exact ⟨Or.inl hold,hk⟩

/-- What is stored for an owner, oldest first. -/
def history (t : Stamped owner stamp) (k : κ) : List ρ :=
  ((newestFirst (ScanOrder.insertion _) t k).map Row.val).reverse

theorem map_newestFirst (scan : ScanOrder (Row ρ)) (t : Stamped owner stamp) (k : κ) :
    (newestFirst scan t k).map Row.val = (t.history k).reverse := by
  rw [history, List.reverse_reverse, newestFirst_scan scan (ScanOrder.insertion _)]

theorem history_pairwise (t : Stamped owner stamp) (k : κ) :
    (t.history k).Pairwise fun a b => stamp a < stamp b := by
  rw [history, List.pairwise_reverse, List.pairwise_map]
  exact newestFirst_pairwise _ t k

/-- In a list with ever later stamps nothing is later than the last entry. -/
theorem stamp_le_getLast {l : List ρ} (h : l.Pairwise fun a b => stamp a < stamp b) {a last : ρ}
    (hlast : l.getLast? = some last) (ha : a ∈ l) : stamp a ≤ stamp last := by
  obtain ⟨init,rfl⟩ := List.getLast?_eq_some_iff.mp hlast
  rw [List.pairwise_append] at h
  rw [List.mem_append, List.mem_singleton] at ha
  rcases ha with hold | rfl
  · exact le_of_lt (h.2.2 a hold last List.mem_cons_self)
  · exact le_rfl

@[simp] theorem history_empty (k : κ) : (empty : Stamped owner stamp).history k = [] := rfl

theorem history_put_of_ne (t : Stamped owner stamp) {v : ρ} {k : κ} (hk : k ≠ owner v) :
    (t.put v).history k = t.history k := by
  rw [history, newestFirst_put_of_ne _ t hk]
  rfl

theorem history_put_newer (t : Stamped owner stamp) {v : ρ}
    (hnewer : ∀ v' ∈ t.history (owner v), stamp v' < stamp v) :
    (t.put v).history (owner v) = t.history (owner v) ++ [v] := by
  rw [history, newestFirst_put_newer, List.map_cons, List.reverse_cons]
  · rfl
  · intro r hr
    exact hnewer r.val (List.mem_reverse.mpr (List.mem_map_of_mem hr))

theorem mem_history {t : Stamped owner stamp} {k : κ} {v : ρ} :
    v ∈ t.history k ↔ (∃ r ∈ t.table.rows, r.val = v) ∧ owner v = k := by
  unfold history
  rw [List.mem_reverse, List.mem_map]
  constructor
  · rintro ⟨r,hr,rfl⟩
    obtain ⟨hrow,hk⟩ := mem_newestFirst.mp hr
    exact ⟨⟨r,hrow,rfl⟩,hk⟩
  · rintro ⟨⟨r,hrow,rfl⟩,hk⟩
    exact ⟨r,mem_newestFirst.mpr ⟨hrow,hk⟩,rfl⟩

/-- A write takes no stamp away. -/
theorem exists_stamp_put {t : Stamped owner stamp} {k : κ} {d : δ} (v : ρ)
    (h : ∃ v' ∈ t.history k, stamp v' = d) : ∃ v' ∈ (t.put v).history k, stamp v' = d := by
  obtain ⟨v',hv',rfl⟩ := h
  obtain ⟨⟨r,hr,rfl⟩,hk⟩ := mem_history.mp hv'
  cases hfind : t.find? (owner v) (stamp v) with
  | none =>
    refine ⟨r.val,mem_history.mpr ⟨⟨r,?_,rfl⟩,hk⟩,rfl⟩
    rw [put_table_of_none hfind, Table.mem_insert]
    exact Or.inl hr
  | some row =>
    obtain ⟨hrow,howner,hstamp⟩ := find?_some hfind
    by_cases hid : r.id = row.id
    · obtain rfl := Table.eq_of_id hr hrow hid
      refine ⟨v,mem_history.mpr ⟨⟨⟨r.id,v⟩,?_,rfl⟩,howner.symm.trans hk⟩,hstamp.symm⟩
      rw [put_table_of_some hfind]
      exact Table.mem_modifyWhere.mpr ⟨r,hr,Row.change_of_true (beq_self_eq_true r.id)⟩
    · refine ⟨r.val,mem_history.mpr ⟨⟨r,?_,rfl⟩,hk⟩,rfl⟩
      rw [put_table_of_some hfind]
      exact Table.mem_modifyWhere.mpr ⟨r,hr,Row.change_of_false (beq_eq_false_iff_ne.mpr hid)⟩

/-- What is stored for an owner and stamp. -/
def value? (t : Stamped owner stamp) (k : κ) (d : δ) : Option ρ := (t.find? k d).map Row.val

theorem value?_eq_some_iff {t : Stamped owner stamp} {k : κ} {d : δ} {v : ρ} :
    t.value? k d = some v ↔ (∃ r ∈ t.table.rows, r.val = v) ∧ owner v = k ∧ stamp v = d := by
  unfold value?
  rw [Option.map_eq_some_iff]
  constructor
  · rintro ⟨r,hr,rfl⟩
    obtain ⟨hrow,hkey⟩ := find?_some hr
    exact ⟨⟨r,hrow,rfl⟩,hkey⟩
  · rintro ⟨⟨r,hrow,rfl⟩,hk,hd⟩
    cases hfind : t.find? k d with
    | none => exact absurd hd (find?_none hfind hrow hk)
    | some r' =>
      obtain ⟨hrow',hk',hd'⟩ := find?_some hfind
      have hid := t.unique r' hrow' r hrow (hk'.trans hk.symm) (hd'.trans hd.symm)
      exact ⟨r',rfl,congrArg Row.val (Table.eq_of_id hrow' hrow hid)⟩

/-- A write leaves its own row, and those of other owners and stamps. -/
theorem exists_val_put {t : Stamped owner stamp} {v v' : ρ} :
    (∃ r ∈ (t.put v).table.rows, r.val = v') ↔ v' = v ∨ (∃ r ∈ t.table.rows, r.val = v') ∧
      ¬ (owner v = owner v' ∧ stamp v = stamp v') := by
  cases hfind : t.find? (owner v) (stamp v) with
  | none =>
    rw [put_table_of_none hfind]
    constructor
    · rintro ⟨r,hr,rfl⟩
      rcases Table.mem_insert.mp hr with hold | rfl
      · exact Or.inr ⟨⟨r,hold,rfl⟩,fun h => find?_none hfind hold h.1.symm h.2.symm⟩
      · exact Or.inl rfl
    · rintro (rfl | ⟨⟨r,hr,rfl⟩,-⟩)
      · exact ⟨_,Table.mem_insert.mpr (Or.inr rfl),rfl⟩
      · exact ⟨r,Table.mem_insert.mpr (Or.inl hr),rfl⟩
  | some row =>
    obtain ⟨hrow,howner,hstamp⟩ := find?_some hfind
    rw [put_table_of_some hfind]
    constructor
    · rintro ⟨_,hr,rfl⟩
      obtain ⟨r,hold,rfl⟩ := Table.mem_modifyWhere.mp hr
      by_cases hid : r.id = row.id
      · rw [Row.change_of_true (by simpa using hid)]
        exact Or.inl rfl
      · rw [Row.change_of_false (by simpa using hid)]
        refine Or.inr ⟨⟨r,hold,rfl⟩,fun h => hid ?_⟩
        exact t.unique r hold row hrow (h.1.symm.trans howner.symm) (h.2.symm.trans hstamp.symm)
    · rintro (rfl | ⟨⟨r,hr,rfl⟩,hne⟩)
      · exact ⟨⟨row.id,v'⟩,Table.mem_modifyWhere.mpr ⟨row,hrow,
          Row.change_of_true (beq_self_eq_true row.id)⟩,rfl⟩
      · refine ⟨r,Table.mem_modifyWhere.mpr ⟨r,hr,Row.change_of_false ?_⟩,rfl⟩
        rw [beq_eq_false_iff_ne]
        intro hid
        obtain rfl := Table.eq_of_id hr hrow hid
        exact hne ⟨howner.symm,hstamp.symm⟩

theorem value?_put (t : Stamped owner stamp) (v : ρ) (k : κ) (d : δ) :
    (t.put v).value? k d = if owner v = k ∧ stamp v = d then some v else t.value? k d := by
  apply Option.ext
  intro v'
  rw [value?_eq_some_iff, exists_val_put]
  by_cases hkey : owner v = k ∧ stamp v = d
  · rw [if_pos hkey, Option.some.injEq]
    obtain ⟨rfl,rfl⟩ := hkey
    constructor
    · rintro ⟨rfl | ⟨-,hne⟩,hk,hd⟩
      · rfl
      · exact absurd ⟨hk.symm,hd.symm⟩ hne
    · rintro rfl
      exact ⟨Or.inl rfl,rfl,rfl⟩
  · rw [if_neg hkey, value?_eq_some_iff]
    constructor
    · rintro ⟨rfl | ⟨hstored,-⟩,hk,hd⟩
      · exact absurd ⟨hk,hd⟩ hkey
      · exact ⟨hstored,hk,hd⟩
    · rintro ⟨hstored,rfl,rfl⟩
      exact ⟨Or.inr ⟨hstored,hkey⟩,rfl,rfl⟩

/-- After a series of writes the last one for an owner and stamp counts. -/
theorem value?_foldl_put (l : List ρ) (t : Stamped owner stamp) (k : κ) (d : δ) :
    (l.foldl put t).value? k d =
      ((l.filter fun v => decide (owner v = k ∧ stamp v = d)).getLast?).or (t.value? k d) := by
  induction l generalizing t with
  | nil => rfl
  | cons v l ih =>
    rw [List.foldl_cons, ih, value?_put, List.filter_cons]
    by_cases hkey : owner v = k ∧ stamp v = d
    · simp only [hkey, and_self, if_true, decide_true, List.getLast?_cons]
      cases (l.filter fun v => decide (owner v = k ∧ stamp v = d)).getLast? <;> rfl
    · simp only [hkey, if_false, decide_false, Bool.false_eq_true]

/-- `row_number() OVER (PARTITION BY owner ORDER BY stamp DESC)` of a row. -/
def rowNumber (scan : ScanOrder (Row ρ)) (t : Stamped owner stamp) (r : Row ρ) : ℕ :=
  (newestFirst scan t (owner r.val)).findIdx (fun r' => r'.id == r.id)+1

/-- The rows of a given rank of the listed owners, as a dictionary by owner. -/
def atRank (scan : ScanOrder (Row ρ)) (t : Stamped owner stamp) (owners : List κ) (rank : ℕ) :
    Assoc κ (Row ρ) :=
  (t.table.rows.filter fun r =>
    decide (owner r.val ∈ owners) && decide (rowNumber scan t r = rank)).foldl
      (fun d r => d.set (owner r.val) r) Assoc.empty

/-- A row is the one of its rank among its owner's. -/
theorem rowNumber_eq_iff {scan : ScanOrder (Row ρ)} {t : Stamped owner stamp} {r : Row ρ}
    (hr : r ∈ t.table.rows) {rank : ℕ} :
    rowNumber scan t r = rank+1 ↔ (newestFirst scan t (owner r.val))[rank]? = some r := by
  have hmem : r ∈ newestFirst scan t (owner r.val) := mem_newestFirst.mpr ⟨hr,rfl⟩
  have hsame : ∀ r' ∈ newestFirst scan t (owner r.val), r'.id = r.id → r' = r := fun r' hr' =>
    Table.eq_of_id (mem_newestFirst.mp hr').1 hr
  have hpair := newestFirst_pairwise scan t (owner r.val)
  unfold rowNumber
  generalize newestFirst scan t (owner r.val) = l at *
  rw [Nat.succ_inj]
  constructor
  · intro h
    have hlt : l.findIdx (fun r' => r'.id == r.id) < l.length :=
      List.findIdx_lt_length_of_exists ⟨r,hmem,by simp⟩
    have hfound : (l[l.findIdx fun r' => r'.id == r.id].id == r.id) = true :=
      List.findIdx_getElem (p := fun r' : Row ρ => r'.id == r.id) (w := hlt)
    rw [← h, List.getElem?_eq_getElem hlt]
    exact congrArg some (hsame _ (List.getElem_mem hlt) (by simpa using hfound))
  · intro h
    obtain ⟨hlt,hget⟩ := List.getElem?_eq_some_iff.mp h
    rw [List.findIdx_eq hlt]
    refine ⟨by simp [hget],fun j hj => ?_⟩
    have hlater := List.pairwise_iff_getElem.mp hpair j rank (by omega) hlt hj
    rw [beq_eq_false_iff_ne]
    intro hid
    rw [hsame _ (List.getElem_mem _) hid, hget] at hlater
    exact lt_irrefl _ hlater

/-- The bulk query answers for every listed owner what the query for that owner alone does. -/
theorem get?_atRank (scan : ScanOrder (Row ρ)) (t : Stamped owner stamp) (owners : List κ)
    (rank : ℕ) (k : κ) :
    (atRank scan t owners (rank+1)).get? k =
      if k ∈ owners then (newestFirst scan t k)[rank]? else none := by
  unfold atRank
  rw [Assoc.get?_foldl_set (fun r : Row ρ => owner r.val) fun r => r, List.filter_filter,
    Assoc.get?_empty, Option.or_none, Option.map_id']
  have hmem : ∀ r, r ∈ t.table.rows.filter (fun r => decide (owner r.val = k) &&
      (decide (owner r.val ∈ owners) && decide (rowNumber scan t r = rank+1))) ↔
        k ∈ owners ∧ (newestFirst scan t k)[rank]? = some r := by
    intro r
    simp only [List.mem_filter, Bool.and_eq_true, decide_eq_true_eq]
    constructor
    · rintro ⟨hr,rfl,hin,hrank⟩
      exact ⟨hin,(rowNumber_eq_iff hr).mp hrank⟩
    · rintro ⟨hin,hget⟩
      obtain ⟨hr,rfl⟩ := mem_newestFirst.mp (List.mem_of_getElem? hget)
      exact ⟨hr,rfl,hin,(rowNumber_eq_iff hr).mpr hget⟩
  generalize t.table.rows.filter (fun r => decide (owner r.val = k) &&
      (decide (owner r.val ∈ owners) && decide (rowNumber scan t r = rank+1))) = l at hmem
  cases hlast : l.getLast? with
  | none =>
    have hnil : l = [] := List.getLast?_eq_none_iff.mp hlast
    split
    · rename_i hin
      cases hget : (newestFirst scan t k)[rank]? with
      | none => rfl
      | some r =>
        have hr := (hmem r).mpr ⟨hin,hget⟩
        rw [hnil] at hr
        cases hr
    · rfl
  | some r =>
    obtain ⟨hin,hget⟩ := (hmem r).mp (List.mem_of_getLast? hlast)
    rw [if_pos hin, hget]

/-- `ORDER BY stamp ASC`. -/
def Older (stamp : ρ → δ) (a b : Row ρ) : Prop := stamp a.val ≤ stamp b.val

instance (stamp : ρ → δ) : DecidableRel (Older stamp) := fun a b =>
  inferInstanceAs (Decidable (stamp a.val ≤ stamp b.val))

instance (stamp : ρ → δ) : Std.Total (Older stamp) := ⟨fun a b => le_total (stamp a.val) (stamp b.val)⟩

instance (stamp : ρ → δ) : IsTrans (Row ρ) (Older stamp) := ⟨fun _ _ _ h h' => le_trans h h'⟩

/-- `WHERE owner = k AND stamp >= d ORDER BY stamp ASC LIMIT 1`. -/
def firstFrom (scan : ScanOrder (Row ρ)) (t : Stamped owner stamp) (k : κ) (d : δ) : Option (Row ρ) :=
  (orderBy scan (Older stamp) (t.table.rows.filter fun r =>
    decide (owner r.val = k) && decide (d ≤ stamp r.val))).head?

/-- The earliest row of an owner that is not before a stamp. -/
structure IsFirstFrom (t : Stamped owner stamp) (k : κ) (d : δ) (r : Row ρ) : Prop where
  mem : r ∈ t.table.rows
  owner_eq : owner r.val = k
  from_stamp : d ≤ stamp r.val
  earliest : ∀ r' ∈ t.table.rows, owner r'.val = k → d ≤ stamp r'.val → stamp r.val ≤ stamp r'.val

theorem firstFrom_eq_some_iff {scan : ScanOrder (Row ρ)} {t : Stamped owner stamp} {k : κ} {d : δ}
    {r : Row ρ} : t.firstFrom scan k d = some r ↔ t.IsFirstFrom k d r := by
  unfold firstFrom
  have hsorted := List.pairwise_insertionSort (Older stamp) (scan.arrange
    (t.table.rows.filter fun r => decide (owner r.val = k) && decide (d ≤ stamp r.val)))
  have hmem : ∀ r', r' ∈ orderBy scan (Older stamp) (t.table.rows.filter fun r =>
      decide (owner r.val = k) && decide (d ≤ stamp r.val)) ↔
        r' ∈ t.table.rows ∧ owner r'.val = k ∧ d ≤ stamp r'.val := by
    intro r'
    simp
  change (orderBy scan (Older stamp) _).Pairwise _ at hsorted
  generalize orderBy scan (Older stamp) (t.table.rows.filter fun r =>
    decide (owner r.val = k) && decide (d ≤ stamp r.val)) = l at hsorted hmem
  cases l with
  | nil =>
    refine iff_of_false (by simp) fun h => ?_
    have hr := (hmem r).mpr ⟨h.mem,h.owner_eq,h.from_stamp⟩
    cases hr
  | cons first rest =>
    obtain ⟨hrow,howner,hfrom⟩ := (hmem first).mp List.mem_cons_self
    have hle : ∀ r' ∈ t.table.rows, owner r'.val = k → d ≤ stamp r'.val →
        stamp first.val ≤ stamp r'.val := by
      intro r' hr' hk hd
      rcases List.mem_cons.mp ((hmem r').mpr ⟨hr',hk,hd⟩) with rfl | hrest
      · exact le_rfl
      · exact (List.pairwise_cons.mp hsorted).1 r' hrest
    rw [List.head?_cons, Option.some.injEq]
    constructor
    · rintro rfl
      exact ⟨hrow,howner,hfrom,hle⟩
    · intro h
      have hstamp : stamp first.val = stamp r.val :=
        le_antisymm (hle r h.mem h.owner_eq h.from_stamp) (h.earliest first hrow howner hfrom)
      exact Table.eq_of_id hrow h.mem (t.unique first hrow r h.mem (howner.trans h.owner_eq.symm) hstamp)

end Stamped
end MarketScanner.Library
