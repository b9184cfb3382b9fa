import MarketScanner.Library.KeepFirst
import MarketScanner.Library.Sieve
import MarketScanner.Universe.Backfill

/-! The account that a listing-date backfill gives of its rows. Duplicates are detected by the symbol of
the row, while dates are written under the local symbol that the row is matched to. -/
namespace MarketScanner.Universe
open MarketScanner.Library MarketScanner.Python

section
variable (symbolToIsin : Assoc String String) (knownSymbols : Finset String)

/-- The local symbols that an ISIN is recorded under. -/
def holders (isin : String) : List String :=
  (symbolToIsin.items.filter fun item => item.2 == isin).map Prod.fst

/-- The local symbol that a row stands for: the one that holds its ISIN or, where its ISIN is missing or
held by none, the one of its own name, unless that one holds another ISIN. -/
def localSymbol (row : BackfillRow) : Option String :=
  match row.isin.filter (· != "") with
  | none => if row.symbol ∈ knownSymbols then some row.symbol else none
  | some isin =>
    match holders symbolToIsin isin with
    | [] =>
      if row.symbol ∈ knownSymbols ∧ (symbolToIsin.get? row.symbol).filter (· != "") = none then
        some row.symbol
      else none
    | [held] => some held
    | _ => none

/-- The local symbol and the date of a row that has a date, is not excluded and stands for a symbol. -/
def chosen (row : BackfillRow) : Option (String × Date) :=
  row.listingDate.bind fun listingDate =>
    if row.classification.any fun c => !validClassifications.contains c then none
    else (localSymbol symbolToIsin knownSymbols row).map fun symbol => (symbol,listingDate)

/-- What the first row of every source symbol not seen yet stands for. -/
def chosenFrom (seen : List String) (rows : List BackfillRow) : List (String × Date) :=
  (Sieve.firsts BackfillRow.symbol (fun _ => true) seen rows).filterMap
    (chosen symbolToIsin knownSymbols)

/-- Every row is accounted for once, as many are counted as written as there are dates, and a date that
is chosen stays. -/
structure AccountsForRows (rows : List BackfillRow) : Prop where
  sum : let report := (matchRows rows symbolToIsin knownSymbols).2
    report.processed = report.populated+report.unmatched.length+report.ambiguous.length+
      report.duplicate.length+report.invalidDate.length+report.excluded.length
  populated : (matchRows rows symbolToIsin knownSymbols).2.populated =
    (matchRows rows symbolToIsin knownSymbols).1.items.length
  kept : ∀ earlier later, rows = earlier ++ later → ∀ symbol listingDate,
    (matchRows earlier symbolToIsin knownSymbols).1.get? symbol = some listingDate →
      (matchRows rows symbolToIsin knownSymbols).1.get? symbol = some listingDate

end

variable {symbolToIsin : Assoc String String} {knownSymbols : Finset String}

theorem get?_isinToSymbols (symbolToIsin : Assoc String String) (isin : String) :
    ((isinToSymbols symbolToIsin).get? isin).getD [] = holders symbolToIsin isin := by
  unfold isinToSymbols holders
  induction symbolToIsin.items using List.reverseRecOn with
  | nil => rfl
  | append_singleton items item ih =>
    rw [List.foldl_append, List.filter_append, List.map_append, ← ih, List.foldl_cons, List.foldl_nil,
      Assoc.get?_set]
    by_cases heq : isin = item.2
    · subst heq
      simp
    · simp [heq, Ne.symm heq]

/-- The one symbol of a name that holds no ISIN or, no symbol holding this one, another. -/
theorem get?_of_holders_nil {isin : String} (h : holders symbolToIsin isin = []) (symbol : String) :
    symbolToIsin.get? symbol ≠ some isin := by
  intro hget
  have hmem := Assoc.get?_eq_some_iff.mp hget
  have hholder : symbol ∈ holders symbolToIsin isin :=
    List.mem_map.mpr ⟨_,List.mem_filter.mpr ⟨hmem,beq_self_eq_true isin⟩,rfl⟩
  rw [h] at hholder
  cases hholder

/-! ### One row -/
namespace Matching

/-- The rows that the report has settled one way or the other. -/
def settled (m : Matching) : ℕ :=
  m.report.populated+m.report.unmatched.length+m.report.ambiguous.length+m.report.duplicate.length+
    m.report.invalidDate.length+m.report.excluded.length

/-- One more row is settled, and what it stands for, if anything, is written and counted. -/
structure Settles (m m' : Matching) (choice : Option (String × Date)) : Prop where
  seen : m'.seen = m.seen
  processed : m'.report.processed = m.report.processed
  toWrite : m'.toWrite = choice.elim m.toWrite fun c => m.toWrite.set c.1 c.2
  populated : m'.report.populated = m.report.populated+choice.toList.length
  settled : m'.settled = m.settled+1

variable {m : Matching}

theorem settles_write (m : Matching) (byIsin bySymbol : ℕ) (symbol : String) (listingDate : Date) :
    Settles m (write { m with
      report.matchedByIsin := byIsin
      report.matchedBySymbol := bySymbol } symbol listingDate) (some (symbol,listingDate)) where
  seen := rfl
  processed := rfl
  toWrite := rfl
  populated := rfl
  settled := by
    simp only [settled, write]
    omega

theorem settles_bySymbol (symbolToIsin : Assoc String String)
    (knownSymbols : Finset String) (m : Matching) {row : BackfillRow} {isin : Option String}
    (hisin : ∀ i, isin = some i → holders symbolToIsin i = []) (listingDate : Date) :
    Settles m (m.bySymbol symbolToIsin knownSymbols row isin listingDate)
      (if row.symbol ∈ knownSymbols ∧
          (isin = none ∨ (symbolToIsin.get? row.symbol).filter (· != "") = none) then
        some (row.symbol,listingDate) else none) := by
  unfold bySymbol
  by_cases hknown : row.symbol ∈ knownSymbols
  · rw [if_pos hknown]
    cases isin with
    | none =>
      rw [if_pos ⟨hknown,.inl rfl⟩]
      exact settles_write m _ _ _ _
    | some isin =>
      cases hlocal : (symbolToIsin.get? row.symbol).filter (· != "") with
      | none =>
        rw [if_pos ⟨hknown,.inr rfl⟩]
        exact settles_write m _ _ _ _
      | some localIsin =>
        have hne : localIsin ≠ isin := by
          rintro rfl
          exact get?_of_holders_nil (hisin _ rfl) _ (Option.filter_eq_some_iff.mp hlocal).1
        rw [if_neg (by simp)]
        dsimp only
        rw [if_neg hne]
        refine ⟨rfl,rfl,rfl,rfl,?_⟩
        simp only [settled, List.length_append, List.length_singleton]
        omega
  · rw [if_neg hknown, if_neg fun h => hknown h.1]
    refine ⟨rfl,rfl,rfl,rfl,?_⟩
    simp only [settled, List.length_append, List.length_singleton]
    omega

end Matching

/-- What a row that comes after the given symbols adds to the dates. -/
def newChoice (symbolToIsin : Assoc String String) (knownSymbols : Finset String)
    (seen : List String) (row : BackfillRow) : Option (String × Date) :=
  if row.symbol ∈ seen then none else chosen symbolToIsin knownSymbols row

structure MatchStep (symbolToIsin : Assoc String String) (knownSymbols : Finset String)
    (m m' : Matching) (row : BackfillRow) : Prop where
  seen : m'.seen = if row.symbol ∈ m.seen then m.seen else row.symbol::m.seen
  processed : m'.report.processed = m.report.processed+1
  toWrite : m'.toWrite = (newChoice symbolToIsin knownSymbols m.seen row).elim m.toWrite
    fun c => m.toWrite.set c.1 c.2
  populated : m'.report.populated =
    m.report.populated+(newChoice symbolToIsin knownSymbols m.seen row).toList.length
  settled : m'.settled = m.settled+1

/-- Two states that are the same to the account, but for one more row processed. -/
structure Matching.Counted (m m₁ : Matching) (symbol : String) : Prop where
  seen : m₁.seen = symbol::m.seen
  processed : m₁.report.processed = m.report.processed+1
  toWrite : m₁.toWrite = m.toWrite
  populated : m₁.report.populated = m.report.populated
  settled : m₁.settled = m.settled

/-- A row of a new symbol is counted, and every way it can go from there settles it. -/
theorem exists_settles (symbolToIsin : Assoc String String) (knownSymbols : Finset String)
    {m : Matching} {row : BackfillRow} (hseen : row.symbol ∉ m.seen) :
    ∃ m₁ : Matching, m.Counted m₁ row.symbol ∧
      m₁.Settles (matchRow symbolToIsin knownSymbols m row) (chosen symbolToIsin knownSymbols row) := by
  let m₁ : Matching := { m with
    report.processed := m.report.processed+1
    seen := row.symbol::m.seen }
  have hcounted : m.Counted m₁ row.symbol := ⟨rfl,rfl,rfl,rfl,rfl⟩
  unfold matchRow chosen
  dsimp only
  rw [if_neg hseen]
  cases hdate : row.listingDate with
  | none =>
    refine ⟨m₁,hcounted,rfl,rfl,rfl,rfl,?_⟩
    simp only [Matching.settled, List.length_append, List.length_singleton, m₁]
    omega
  | some listingDate =>
    dsimp only [Option.bind_some]
    split
    · refine ⟨m₁,hcounted,rfl,rfl,rfl,rfl,?_⟩
      simp only [Matching.settled, List.length_append, List.length_singleton, m₁]
      omega
    · unfold localSymbol
      cases hisin : row.isin.filter (· != "") with
      | none =>
        let m₂ : Matching := { m₁ with report.missingIsin := m₁.report.missingIsin ++ [row.symbol] }
        have h := @Matching.settles_bySymbol symbolToIsin knownSymbols m₂ row none (by simp) listingDate
        refine ⟨m₂,⟨rfl,rfl,rfl,rfl,rfl⟩,?_⟩
        simp only [true_or, and_true] at h
        dsimp only
        rw [apply_ite (Option.map fun symbol => (symbol,listingDate))]
        exact h
      | some isin =>
        dsimp only
        rw [get?_isinToSymbols]
        cases hheld : holders symbolToIsin isin with
        | nil =>
          have h := @Matching.settles_bySymbol symbolToIsin knownSymbols m₁ row (some isin)
            (by simpa using hheld) listingDate
          refine ⟨m₁,hcounted,?_⟩
          simp only [reduceCtorEq, false_or] at h
          rw [apply_ite (Option.map fun symbol => (symbol,listingDate))]
          exact h
        | cons held rest =>
          cases rest with
          | nil => exact ⟨m₁,hcounted,m₁.settles_write _ _ _ _⟩
          | cons other rest =>
            refine ⟨m₁,hcounted,rfl,rfl,rfl,rfl,?_⟩
            simp only [Matching.settled, List.length_append, List.length_singleton, m₁]
            omega

/-- Every row is settled once, and what is written is what it stands for. -/
theorem matchStep (symbolToIsin : Assoc String String) (knownSymbols : Finset String)
    (m : Matching) (row : BackfillRow) :
    MatchStep symbolToIsin knownSymbols m (matchRow symbolToIsin knownSymbols m row) row := by
  by_cases hseen : row.symbol ∈ m.seen
  · have hchoice : newChoice symbolToIsin knownSymbols m.seen row = none := if_pos hseen
    have hrow : matchRow symbolToIsin knownSymbols m row =
        { m with
          report.processed := m.report.processed+1
          report.duplicate := m.report.duplicate ++ [row.symbol] } := if_pos hseen
    rw [hrow]
    refine ⟨(if_pos hseen).symm,rfl,by rw [hchoice]; rfl,by rw [hchoice]; rfl,?_⟩
    simp only [Matching.settled, List.length_append, List.length_singleton]
    omega
  · have hchoice : newChoice symbolToIsin knownSymbols m.seen row =
        chosen symbolToIsin knownSymbols row := if_neg hseen
    obtain ⟨m₁,hcounted,h⟩ := exists_settles symbolToIsin knownSymbols hseen
    rw [← hchoice] at h
    exact ⟨by rw [h.seen, hcounted.seen, if_neg hseen],h.processed.trans hcounted.processed,
      by rw [h.toWrite, hcounted.toWrite],by rw [h.populated, hcounted.populated],
      by rw [h.settled, hcounted.settled]⟩

/-! ### All rows -/

theorem chosenFrom_cons (symbolToIsin : Assoc String String) (knownSymbols : Finset String)
    (seen : List String) (row : BackfillRow) (rows : List BackfillRow) :
    chosenFrom symbolToIsin knownSymbols seen (row::rows) =
      (newChoice symbolToIsin knownSymbols seen row).toList ++
        chosenFrom symbolToIsin knownSymbols
          (if row.symbol ∈ seen then seen else row.symbol::seen) rows := by
  unfold chosenFrom newChoice
  rw [Sieve.firsts]
  by_cases hseen : row.symbol ∈ seen
  · rw [if_pos hseen, if_pos hseen, if_pos hseen, Option.toList_none, List.nil_append]
  · rw [if_neg hseen, if_neg hseen, if_neg hseen, if_pos rfl, List.filterMap_cons]
    cases chosen symbolToIsin knownSymbols row <;> rfl

/-- What the loop has written and counted after the rows. -/
structure MatchRun (symbolToIsin : Assoc String String) (knownSymbols : Finset String)
    (m m' : Matching) (rows : List BackfillRow) : Prop where
  processed : m'.report.processed = m.report.processed+rows.length
  toWrite : m'.toWrite = (chosenFrom symbolToIsin knownSymbols m.seen rows).foldl
    (fun d c => d.set c.1 c.2) m.toWrite
  populated : m'.report.populated =
    m.report.populated+(chosenFrom symbolToIsin knownSymbols m.seen rows).length
  settled : m'.settled = m.settled+rows.length

theorem matchRun (symbolToIsin : Assoc String String) (knownSymbols : Finset String)
    (m : Matching) (rows : List BackfillRow) : MatchRun symbolToIsin knownSymbols m
      (rows.foldl (matchRow symbolToIsin knownSymbols) m) rows := by
  induction rows generalizing m with
  | nil => exact ⟨rfl,rfl,rfl,rfl⟩
  | cons row rows ih =>
    have hstep := matchStep symbolToIsin knownSymbols m row
    have hrest := ih (matchRow symbolToIsin knownSymbols m row)
    have hchosen := chosenFrom_cons symbolToIsin knownSymbols m.seen row rows
    rw [← hstep.seen] at hchosen
    rw [List.foldl_cons]
    constructor
    · rw [hrest.processed, hstep.processed, List.length_cons]
      omega
    · rw [hrest.toWrite, hstep.toWrite, hchosen, List.foldl_append]
      cases newChoice symbolToIsin knownSymbols m.seen row <;> rfl
    · rw [hrest.populated, hstep.populated, hchosen, List.length_append, Nat.add_assoc]
    · rw [hrest.settled, hstep.settled, List.length_cons]
      omega

theorem matchRows_toWrite (rows : List BackfillRow) :
    (matchRows rows symbolToIsin knownSymbols).1 =
      (chosenFrom symbolToIsin knownSymbols [] rows).foldl (fun d c => d.set c.1 c.2) Assoc.empty :=
  (matchRun _ _ {} rows).toWrite

theorem matchRows_populated (rows : List BackfillRow) :
    (matchRows rows symbolToIsin knownSymbols).2.populated =
      (chosenFrom symbolToIsin knownSymbols [] rows).length :=
  (matchRun _ _ {} rows).populated.trans (Nat.zero_add _)

/-- Later rows come after what the earlier ones stand for. -/
theorem chosenFrom_append_more (seen : List String) (earlier later : List BackfillRow) :
    chosenFrom symbolToIsin knownSymbols seen earlier <+:
      chosenFrom symbolToIsin knownSymbols seen (earlier ++ later) :=
  (Sieve.firsts_append_more seen earlier later).filterMap _

/-- As many rows are counted as written as there are dates just when no two of them meet at one local
symbol. -/
theorem populated_iff (rows : List BackfillRow) :
    (matchRows rows symbolToIsin knownSymbols).2.populated =
        (matchRows rows symbolToIsin knownSymbols).1.items.length ↔
      ((chosenFrom symbolToIsin knownSymbols [] rows).map Prod.fst).Nodup := by
  rw [matchRows_populated, matchRows_toWrite]
  have hkeys := @Assoc.mem_keys_foldl_set String Date _ _ Prod.fst Prod.snd
    (chosenFrom symbolToIsin knownSymbols [] rows) Assoc.empty
  have h := @KeepFirst.length_eq_iff_nodup _ _ _ ((chosenFrom symbolToIsin knownSymbols [] rows).map Prod.fst)
    (Assoc.distinct _) fun symbol => (hkeys symbol).trans (by simp [Assoc.empty])
  rwa [List.length_map, List.length_map] at h

/-- The account holds just when no two rows, each the first of its source symbol, stand for one local
symbol. -/
theorem accountsForRows_iff (rows : List BackfillRow) (symbolToIsin : Assoc String String)
    (knownSymbols : Finset String) : AccountsForRows symbolToIsin knownSymbols rows ↔
      ((chosenFrom symbolToIsin knownSymbols [] rows).map Prod.fst).Nodup := by
  constructor
  · intro h
    exact (populated_iff rows).mp h.populated
  · intro hdistinct
    refine ⟨?_,(populated_iff rows).mpr hdistinct,?_⟩
    · have hrun := matchRun symbolToIsin knownSymbols {} rows
      exact hrun.processed.trans hrun.settled.symm
    · rintro earlier later rfl symbol listingDate hget
      rw [matchRows_toWrite] at hget ⊢
      obtain ⟨c,hc,rfl,rfl⟩ := Assoc.mem_of_get?_foldl_set hget
      exact Assoc.get?_foldl_set_of_mem Prod.fst Prod.snd hdistinct Assoc.empty
        ((chosenFrom_append_more [] earlier later).subset hc)

/-- A symbol that was renamed: the list carries it under both names, with the ISIN it kept. -/
def renamedRows : List BackfillRow :=
  [⟨"OLDCO",some "INE0SAME001",some ⟨20000⟩,none⟩,⟨"NEWCO",some "INE0SAME001",some ⟨20001⟩,none⟩]

def renamedIsins : Assoc String String := Assoc.empty.set "NEWCO" "INE0SAME001"

/-- The second row replaces the date of the first, and two are counted where there is one. -/
theorem renamedRows_not_accounted : ¬ AccountsForRows renamedIsins {"NEWCO"} renamedRows := by
  intro h
  have hpopulated : 2 = 1 := h.populated
  omega

end MarketScanner.Universe
