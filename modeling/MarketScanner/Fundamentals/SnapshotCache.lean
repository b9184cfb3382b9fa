import Mathlib.Data.List.Induction
import MarketScanner.Library.Assoc
import MarketScanner.Universe.SymbolMaster
import MarketScanner.Fundamentals.Models

/-! `fundamental_snapshots`: one row for each symbol, with the last data that came and the outcome of the
last attempt. -/
namespace MarketScanner.Fundamentals
open MarketScanner.Library MarketScanner.Python MarketScanner.Config MarketScanner.Universe

structure FundamentalSnapshot where
  source : Option String := none
  data : Option Dict := none
  asOf : Option Date := none
  fetchedAt : Option DateTime := none
  lastCheckedAt : DateTime
  status : FetchStatus
  errorMessage : Option String

/-- The rows by `symbol_id`, which is unique. -/
abbrev FundamentalSnapshots := Assoc ℕ FundamentalSnapshot

structure CachedFundamentalSnapshot where
  symbolId : ℕ
  data : Option FundamentalData
  source : Option String
  asOf : Option Date
  fetchedAt : Option DateTime
  lastCheckedAt : DateTime
  status : FetchStatus
  errorMessage : Option String
  isFresh : Bool

namespace FundamentalSnapshotRepository

/-- `_to_cache_dict`: the values that are there, then the risk notes if there are any. -/
def toCacheDict (data : FundamentalData) : Dict :=
  (FundamentalField.mergeableFields.filterMap fun field =>
    ((data.value field).map PyValue.float).map fun value => (field.name,value)) ++
    if data.riskNotes = [] then [] else [("risk_notes",.list (data.riskNotes.map PyValue.str))]

/-- An entry of a numeric field. -/
def numberEntry : PyValue → Option PyFloat
  | .float x => some x
  | .int n => some (.finite n)
  | _ => none

def textEntry : PyValue → Option String
  | .str s => some s
  | _ => none

/-- `_from_cache_dict`: an absent entry leaves the field's default. -/
def fromCacheDict (symbol : String) (asOf : Option Date) (raw : Dict) : FundamentalData where
  symbol := symbol
  asOf := asOf
  value field := (raw.lookup field.name).bind numberEntry
  riskNotes := match raw.lookup "risk_notes" with
    | some (.list notes) => notes.filterMap textEntry
    | _ => []

/-- One fetch attempt that is recorded, and when. -/
structure Attempt where
  symbolId : ℕ
  data : Option FundamentalData
  source : Option String
  status : FetchStatus
  errorMessage : Option String
  now : DateTime

/-- The row after an attempt; one without data touches the outcome only. -/
def revised (row : FundamentalSnapshot) (attempt : Attempt) : FundamentalSnapshot :=
  let row := { row with
    lastCheckedAt := attempt.now
    status := attempt.status
    errorMessage := attempt.errorMessage }
  match attempt.data with
  | none => row
  | some data => { row with
      source := attempt.source
      data := some (toCacheDict data)
      asOf := data.asOf
      fetchedAt := some attempt.now }

/-- The row as it is added for a symbol's first attempt. -/
def newRow (attempt : Attempt) : FundamentalSnapshot where
  lastCheckedAt := attempt.now
  status := attempt.status
  errorMessage := attempt.errorMessage

def upsert (snapshots : FundamentalSnapshots) (attempt : Attempt) : FundamentalSnapshots :=
  snapshots.set attempt.symbolId
    (revised ((snapshots.get? attempt.symbolId).getD (newRow attempt)) attempt)

/-- The symbol's name, or its id where its row is gone. -/
def symbolName (symbols : SymbolTable) (symbolId : ℕ) : String :=
  match symbols.get? symbolId with
  | some row => row.val.symbol
  | none => toString symbolId

def getCached (settings : Settings) (now : DateTime) (symbols : SymbolTable)
    (snapshots : FundamentalSnapshots) (symbolId : ℕ) : Option CachedFundamentalSnapshot :=
  (snapshots.get? symbolId).map fun row =>
    { symbolId
      data := row.data.map fun raw => fromCacheDict (symbolName symbols symbolId) row.asOf raw
      source := row.source
      asOf := row.asOf
      fetchedAt := row.fetchedAt
      lastCheckedAt := row.lastCheckedAt
      status := row.status
      errorMessage := row.errorMessage
      isFresh := match row.fetchedAt with
        | none => false
        | some fetchedAt =>
          decide (now.utc-fetchedAt.utc < TimeDelta.minutes settings.fundamentalCacheTtlMinutes) }

/-! ### The encoding -/

/-- What the cache keeps of data: all but the provenance of its fields. -/
def withoutSnapshots (data : FundamentalData) : FundamentalData := { data with fieldSnapshots := [] }

theorem lookup_toCacheDict (data : FundamentalData) (field : FundamentalField) :
    (toCacheDict data).lookup field.name = (data.value field).map PyValue.float := by
  have hnotes : (field.name == "risk_notes") = false := by cases field <;> decide
  rw [toCacheDict, List.lookup_append, lookup_fieldName,
    if_pos (FundamentalField.mem_mergeableFields field)]
  split <;> simp [List.lookup_cons, hnotes]

theorem lookup_riskNotes (data : FundamentalData) :
    (toCacheDict data).lookup "risk_notes" =
      if data.riskNotes = [] then none else some (.list (data.riskNotes.map PyValue.str)) := by
  have hkey : ∀ field : FundamentalField, "risk_notes" ≠ field.name := by
    intro field
    cases field <;> decide
  rw [toCacheDict, List.lookup_append, lookup_otherKey _ hkey]
  split <;> simp

/-- Decoding an encoding gives the data back, under the name and the date that it is decoded with. -/
theorem fromCacheDict_toCacheDict (symbol : String) (asOf : Option Date) (data : FundamentalData) :
    fromCacheDict symbol asOf (toCacheDict data) =
      { withoutSnapshots data with
        symbol := symbol
        asOf := asOf } := by
  have hvalue : ∀ field : FundamentalField,
      ((toCacheDict data).lookup field.name).bind numberEntry = data.value field := by
    intro field
    rw [lookup_toCacheDict]
    cases data.value field <;> rfl
  have htexts : (data.riskNotes.map PyValue.str).filterMap textEntry = data.riskNotes := by
    rw [List.filterMap_map]
    exact List.filterMap_some
  unfold fromCacheDict withoutSnapshots
  rw [lookup_riskNotes]
  simp only [hvalue]
  split
  · rename_i notes hnotes
    by_cases hnil : data.riskNotes = []
    · simp [hnil] at hnotes
    · rw [if_neg hnil] at hnotes
      obtain rfl := PyValue.list.inj (Option.some.inj hnotes)
      rw [htexts]
  · rename_i hnone
    by_cases hnil : data.riskNotes = []
    · rw [hnil]
    · exact absurd (if_neg hnil) (hnone _)

/-! ### Sequences of attempts -/

def lastAttempt (history : List Attempt) (symbolId : ℕ) : Option Attempt :=
  (history.filter fun attempt => decide (attempt.symbolId = symbolId)).getLast?

/-- The last attempt for a symbol that carried data, with that data. -/
def lastWithData (history : List Attempt) (symbolId : ℕ) : Option (Attempt × FundamentalData) :=
  (history.filterMap fun attempt =>
    if attempt.symbolId = symbolId then attempt.data.map fun data => (attempt,data) else none).getLast?

/-- What the cache tells of a symbol: the data, source and time of the last attempt that carried data, and
the outcome of the last attempt. -/
structure Recalls (history : List Attempt) (symbolId : ℕ) (name : String)
    (cached : Option CachedFundamentalSnapshot) : Prop where
  unseen : lastAttempt history symbolId = none → cached = none
  seen : ∀ attempt, lastAttempt history symbolId = some attempt → ∃ snapshot,
    cached = some snapshot ∧ snapshot.symbolId = symbolId ∧ snapshot.status = attempt.status ∧
      snapshot.errorMessage = attempt.errorMessage ∧ snapshot.lastCheckedAt = attempt.now ∧
      (lastWithData history symbolId = none →
        snapshot.data = none ∧ snapshot.source = none ∧ snapshot.fetchedAt = none) ∧
      ∀ found data, lastWithData history symbolId = some (found,data) →
        snapshot.data = some { withoutSnapshots data with symbol := name } ∧
          snapshot.source = found.source ∧ snapshot.fetchedAt = some found.now

/-- The cache after a sequence of attempts, one more attempt, and the encoding. -/
structure KeepsLastData (settings : Settings) (now : DateTime) (symbols : SymbolTable)
    (history : List Attempt) : Prop where
  recalls : ∀ symbolId, Recalls history symbolId (symbolName symbols symbolId)
    (getCached settings now symbols (history.foldl upsert Assoc.empty) symbolId)
  others : ∀ (snapshots : FundamentalSnapshots) (attempt : Attempt) (symbolId : ℕ),
    symbolId ≠ attempt.symbolId → (upsert snapshots attempt).get? symbolId = snapshots.get? symbolId
  roundTrip : ∀ data : FundamentalData,
    fromCacheDict data.symbol data.asOf (toCacheDict data) = withoutSnapshots data

/-- The row of a symbol, from the last attempt and the last one that carried data. -/
def rowOf (attempt : Attempt) (found : Option (Attempt × FundamentalData)) : FundamentalSnapshot where
  source := found.bind fun x => x.1.source
  data := found.map fun x => toCacheDict x.2
  asOf := found.bind fun x => x.2.asOf
  fetchedAt := found.map fun x => x.1.now
  lastCheckedAt := attempt.now
  status := attempt.status
  errorMessage := attempt.errorMessage

/-- The data an attempt carries, with the attempt. -/
def carried (attempt : Attempt) : Option (Attempt × FundamentalData) :=
  attempt.data.map fun data => (attempt,data)

@[simp] theorem revised_rowOf (last attempt : Attempt) (found : Option (Attempt × FundamentalData)) :
    revised (rowOf last found) attempt = rowOf attempt ((carried attempt).or found) := by
  unfold revised carried
  cases attempt.data <;> rfl

@[simp] theorem revised_newRow (attempt : Attempt) :
    revised (newRow attempt) attempt = rowOf attempt (carried attempt) := by
  unfold revised carried
  cases attempt.data <;> rfl

theorem get?_upsert (snapshots : FundamentalSnapshots) (attempt : Attempt) (symbolId : ℕ) :
    (upsert snapshots attempt).get? symbolId =
      if symbolId = attempt.symbolId then
        some (revised ((snapshots.get? attempt.symbolId).getD (newRow attempt)) attempt)
      else snapshots.get? symbolId :=
  Assoc.get?_set _ _ _ _

section Snoc
variable (history : List Attempt) (attempt : Attempt) (symbolId : ℕ)

theorem lastAttempt_append :
    lastAttempt (history ++ [attempt]) symbolId =
      if attempt.symbolId = symbolId then some attempt else lastAttempt history symbolId := by
  by_cases h : attempt.symbolId = symbolId <;> simp [lastAttempt, h]

theorem lastWithData_append :
    lastWithData (history ++ [attempt]) symbolId =
      if attempt.symbolId = symbolId then (carried attempt).or (lastWithData history symbolId)
      else lastWithData history symbolId := by
  unfold lastWithData carried
  by_cases h : attempt.symbolId = symbolId <;> cases hdata : attempt.data <;> simp [h, hdata]

theorem lastWithData_of_unseen (h : lastAttempt history symbolId = none) :
    lastWithData history symbolId = none := by
  simp only [lastAttempt, lastWithData, List.getLast?_eq_none_iff, List.filter_eq_nil_iff,
    List.filterMap_eq_nil_iff, decide_eq_true_eq] at h ⊢
  intro attempt hattempt
  rw [if_neg (h attempt hattempt)]

end Snoc

/-- The row of each symbol after a sequence of attempts. -/
theorem get?_foldl_upsert (history : List Attempt) (symbolId : ℕ) :
    (history.foldl upsert Assoc.empty).get? symbolId =
      (lastAttempt history symbolId).map fun attempt =>
        rowOf attempt (lastWithData history symbolId) := by
  induction history using List.reverseRecOn with
  | nil => rfl
  | append_singleton history attempt ih =>
    rw [List.foldl_append, List.foldl_cons, List.foldl_nil, get?_upsert, lastAttempt_append,
      lastWithData_append]
    by_cases h : symbolId = attempt.symbolId
    · subst h
      rw [if_pos rfl, if_pos rfl, if_pos rfl, ih]
      cases hlast : lastAttempt history attempt.symbolId with
      | none => simp [lastWithData_of_unseen history attempt.symbolId hlast]
      | some last => simp
    · rw [if_neg h, if_neg (Ne.symm h), if_neg (Ne.symm h), ih]

theorem recalls_getCached (settings : Settings) (now : DateTime) (symbols : SymbolTable)
    (history : List Attempt) (symbolId : ℕ) :
    Recalls history symbolId (symbolName symbols symbolId)
      (getCached settings now symbols (history.foldl upsert Assoc.empty) symbolId) := by
  constructor
  · intro hlast
    rw [getCached, get?_foldl_upsert, hlast]
    rfl
  · intro attempt hlast
    rw [getCached, get?_foldl_upsert, hlast]
    refine ⟨_,rfl,rfl,rfl,rfl,rfl,?_,?_⟩
    · intro hnone
      simp [rowOf, hnone]
    · intro found data hfound
      simp [rowOf, hfound, fromCacheDict_toCacheDict, withoutSnapshots]

/-- For every sequence of attempts for any symbols. -/
theorem keepsLastData (settings : Settings) (now : DateTime) (symbols : SymbolTable)
    (history : List Attempt) : KeepsLastData settings now symbols history where
  recalls := recalls_getCached settings now symbols history
  others snapshots attempt symbolId h := by rw [get?_upsert, if_neg h]
  roundTrip data := by
    rw [fromCacheDict_toCacheDict]
    rfl

end FundamentalSnapshotRepository
end MarketScanner.Fundamentals
