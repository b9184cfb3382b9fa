import MarketScanner.Library.StableSort
import MarketScanner.Fundamentals.QueueService

/-! The order in which pending candidates are fetched, against the tiers that the queue documents: a
rejected row keeps the tier of its setup state. -/
namespace MarketScanner.Fundamentals
open MarketScanner.Library MarketScanner.Python MarketScanner.Config MarketScanner.Scanner

section Order
variable [Builtins]

/-- BREAKOUT_CONFIRMED, then MOMENTUM, then PRE_BREAKOUT, then every rejected row, then the rest. -/
def documentedTier (row : ScannerResult) : ℕ :=
  let setupState := (row.featureSnapshot.get "setup_state").toStr
  if row.status = .rejected then 3
  else if setupState = "BREAKOUT_CONFIRMED" then 0
  else if setupState = "MOMENTUM" then 1
  else if setupState = "PRE_BREAKOUT" then 2
  else 4

/-- A row of an earlier tier, or of the same one and scored no lower. -/
def DocumentedOrder (a b : Row ScannerResult) : Prop :=
  documentedTier a.val < documentedTier b.val ∨ documentedTier a.val = documentedTier b.val ∧
    (technicalScore b.val).le (technicalScore a.val) = true

/-- The rows come by tier and, within a tier, by score; so no rejected row comes before a row that has
qualified in one of the three setup states. -/
structure ByPriority (rows : List (Row ScannerResult)) : Prop where
  sorted : rows.Pairwise DocumentedOrder
  qualifiedFirst : rows.Pairwise fun a b => a.val.status = .rejected → documentedTier b.val < 3 → False

/-- A rejected row in one of the three setup states that is put before a row that belongs first: one
qualified in a later state, or in the same one with a lower score; or a rejected row of a later tier with
a higher score. -/
def Overtakes (a b : ScannerResult) : Prop :=
  a.status = .rejected ∧ setupStateTier a < 3 ∧
    ((b.status ≠ .rejected ∧ setupStateTier b < 3 ∧ (setupStateTier a < setupStateTier b ∨ setupStateTier a = setupStateTier b ∧
        (technicalScore a).le (technicalScore b) = false)) ∨
      (b.status = .rejected ∧ setupStateTier a < setupStateTier b ∧
        (technicalScore b).le (technicalScore a) = false))

/-- A rejected row in one of the three setup states, with the score of a row that has qualified in it. -/
def Ties (a b : ScannerResult) : Prop :=
  a.status = .rejected ∧ b.status ≠ .rejected ∧ setupStateTier a < 3 ∧ setupStateTier a = setupStateTier b ∧
    (technicalScore a).le (technicalScore b) = true ∧
      (technicalScore b).le (technicalScore a) = true

/-- No rejected row overtakes another, nor comes from the database before one it ties with. -/
def NoneOvertaken (rows : List (Row ScannerResult)) : Prop :=
  rows.Pairwise fun a b =>
    ¬ Overtakes a.val b.val ∧ ¬ Overtakes b.val a.val ∧ ¬ Ties a.val b.val

/-- The order of a stable sort by the priority key, of rows whose score can be read. -/
def PriorityOrder (a b : Row ScannerResult) : Prop :=
  keyLt (setupStateTier b.val,(technicalScore b.val).neg)
    (setupStateTier a.val,(technicalScore a.val).neg) = false

instance : DecidableRel PriorityOrder := fun a b =>
  inferInstanceAs (Decidable (keyLt (setupStateTier b.val,(technicalScore b.val).neg)
    (setupStateTier a.val,(technicalScore a.val).neg) = false))

theorem coerceFloat_cases (value : PyValue) :
    (value.overflows = false ∧ ∃ x, coerceFloat value = .ok x) ∨
      value.overflows = true ∧ coerceFloat value = .error .overflowError := by
  cases hover : value.overflows with
  | true =>
    right
    unfold coerceFloat
    rw [PyValue.toFloat_eq_overflowError_iff.mpr hover]
    exact ⟨rfl,rfl⟩
  | false =>
    left
    refine ⟨rfl,?_⟩
    unfold coerceFloat
    split
    · exact ⟨_,rfl⟩
    · rename_i herror
      rw [PyValue.toFloat_eq_overflowError_iff.mp herror] at hover
      cases hover
    · exact ⟨_,rfl⟩

/-- A row has a key unless its score is an int past the floats. -/
theorem priorityKey_cases (row : ScannerResult) :
    ((row.featureSnapshot.get "technical_score").overflows = false ∧
        priorityKey row = .ok (setupStateTier row,(technicalScore row).neg)) ∨
      (row.featureSnapshot.get "technical_score").overflows = true ∧
        priorityKey row = .error .overflowError := by
  unfold priorityKey technicalScore
  rcases coerceFloat_cases (row.featureSnapshot.get "technical_score") with ⟨hfine,x,hx⟩ | ⟨hover,hraise⟩
  · rw [hx]
    exact Or.inl ⟨hfine,rfl⟩
  · rw [hraise]
    exact Or.inr ⟨hover,rfl⟩

/-- The score of every pending row can be read. -/
def ScoresFit (rows : List (Row ScannerResult)) : Prop :=
  ∀ r ∈ rows, (r.val.featureSnapshot.get "technical_score").overflows = false

/-- The time of every fetch with success names its zone. -/
def ZonesNamed (rows : List (Row ScannerResult)) : Prop :=
  ∀ r ∈ rows, ∀ fetchedAtRaw,
    r.val.featureSnapshot.get "fundamental_status" = .str FetchStatus.success.text →
      r.val.featureSnapshot.get "fundamental_fetched_at" = .str fetchedAtRaw →
        (Builtins.datetimeFromIso fetchedAtRaw).isSome → Builtins.isNaive fetchedAtRaw = false

theorem takeAge_ok_iff {row : ScannerResult} :
    takeAge row = .ok () ↔ ∀ fetchedAtRaw,
      row.featureSnapshot.get "fundamental_status" = .str FetchStatus.success.text →
        row.featureSnapshot.get "fundamental_fetched_at" = .str fetchedAtRaw →
          (Builtins.datetimeFromIso fetchedAtRaw).isSome → Builtins.isNaive fetchedAtRaw = false := by
  unfold takeAge
  split
  · rename_i status fetchedAtRaw hstatus hfetchedAt
    rw [hstatus, hfetchedAt]
    split
    · rename_i hnaive
      obtain ⟨rfl,hiso,hnaive⟩ := hnaive
      refine iff_of_false (fun h => by cases h) fun h => ?_
      rw [h fetchedAtRaw rfl rfl hiso] at hnaive
      cases hnaive
    · rename_i hfine
      refine iff_of_true rfl fun raw hsuccess hraw hiso => ?_
      obtain rfl := PyValue.str.inj hsuccess
      obtain rfl := PyValue.str.inj hraw
      exact Bool.eq_false_iff.mpr fun hnaive => hfine ⟨rfl,hiso,hnaive⟩
  · rename_i hother
    exact iff_of_true rfl fun raw hsuccess hraw _ => absurd hraw (hother _ _ hsuccess)

/-- `_select_pending` returns just where every age can be taken and every pending score can be read. -/
theorem exists_selectPending_iff (settings : Settings) (env : QueueEnv) (results : ScannerResults) :
    (∃ rows, selectPending settings env results = .ok rows) ↔
      ZonesNamed (candidateRows env results) ∧ ScoresFit (pendingRows settings env results) := by
  simp only [selectPending_eq_ok_iff, exists_and_left, StableSort.exists_sortByKey_iff, takeAge_ok_iff]
  refine and_congr_right fun _ => forall₂_congr fun r _ => ?_
  rcases priorityKey_cases r.val with ⟨hfine,hkey⟩ | ⟨hover,hraise⟩
  · exact iff_of_true ⟨_,hkey⟩ hfine
  · rw [hraise, hover]
    exact iff_of_false (by rintro ⟨k,⟨⟩⟩) (by decide)

theorem selectPending_eq {settings : Settings} {env : QueueEnv} {results : ScannerResults}
    (hzones : ZonesNamed (candidateRows env results)) (hfit : ScoresFit (pendingRows settings env results)) :
    selectPending settings env results =
      .ok ((pendingRows settings env results).insertionSort PriorityOrder) := by
  refine selectPending_eq_ok_iff.mpr ⟨fun r hr => takeAge_ok_iff.mpr (hzones r hr),?_⟩
  refine StableSort.sortByKey_eq (k := fun r : Row ScannerResult => (setupStateTier r.val,(technicalScore r.val).neg))
    fun r hr => ?_
  rcases priorityKey_cases r.val with ⟨-,hkey⟩ | ⟨hover,-⟩
  · exact hkey
  · rw [hfit r hr] at hover
    cases hover

/-- Of a row that is not rejected, the tier is the documented one. -/
theorem tier_of_qualified {row : ScannerResult} (h : row.status ≠ .rejected) :
    setupStateTier row = documentedTier row := by
  simp only [setupStateTier, documentedTier, if_neg h, if_pos h]

theorem documentedTier_of_rejected {row : ScannerResult} (h : row.status = .rejected) :
    documentedTier row = 3 := if_pos h

theorem tier_of_rejected {row : ScannerResult} (h : row.status = .rejected) : setupStateTier row ≤ 3 := by
  simp only [setupStateTier, h]
  split
  · omega
  · split
    · omega
    · split <;> simp

theorem documentedTier_ne_of_qualified {row : ScannerResult} (h : row.status ≠ .rejected) :
    documentedTier row ≠ 3 := by
  simp only [documentedTier, if_neg h]
  split
  · omega
  · split
    · omega
    · split <;> omega

/-- The order of the sort key. -/
theorem priorityOrder_iff {a b : Row ScannerResult} (ha : technicalScore a.val ≠ .nan)
    (hb : technicalScore b.val ≠ .nan) :
    PriorityOrder a b ↔ setupStateTier a.val < setupStateTier b.val ∨ setupStateTier a.val = setupStateTier b.val ∧
      (technicalScore b.val).le (technicalScore a.val) = true := by
  have hor := PyFloat.le_or_le ha hb
  unfold PriorityOrder keyLt PyFloat.lt
  rw [PyFloat.le_neg, PyFloat.le_neg]
  rcases lt_trichotomy (setupStateTier a.val) (setupStateTier b.val) with hlt | heq | hgt
  · have hnot : ¬ setupStateTier b.val < setupStateTier a.val := by omega
    have hne : setupStateTier b.val ≠ setupStateTier a.val := by omega
    simp [hlt, hnot, hne]
  · rw [heq]
    cases hab : (technicalScore a.val).le (technicalScore b.val) <;>
      cases hba : (technicalScore b.val).le (technicalScore a.val) <;> simp_all
  · have hnot : ¬ setupStateTier a.val < setupStateTier b.val := by omega
    have hne : setupStateTier a.val ≠ setupStateTier b.val := by omega
    simp [hgt, hnot, hne]

theorem orders_priorityOrder {rows : List (Row ScannerResult)}
    (h : ∀ r ∈ rows, technicalScore r.val ≠ .nan) : StableSort.Orders PriorityOrder rows where
  total := by
    intro a ha b hb
    rw [priorityOrder_iff (h a ha) (h b hb), priorityOrder_iff (h b hb) (h a ha)]
    have hor := PyFloat.le_or_le (h a ha) (h b hb)
    rcases lt_trichotomy (setupStateTier a.val) (setupStateTier b.val) with hlt | heq | hgt
    · exact Or.inl (Or.inl hlt)
    · rcases hor with hle | hle
      · exact Or.inr (Or.inr ⟨heq.symm,hle⟩)
      · exact Or.inl (Or.inr ⟨heq,hle⟩)
    · exact Or.inr (Or.inl hgt)
  trans := by
    intro a ha b hb c hc
    rw [priorityOrder_iff (h a ha) (h b hb), priorityOrder_iff (h b hb) (h c hc),
      priorityOrder_iff (h a ha) (h c hc)]
    rintro (hab | ⟨hab,hle⟩) (hbc | ⟨hbc,hle'⟩)
    · exact Or.inl (hab.trans hbc)
    · exact Or.inl (hbc ▸ hab)
    · exact Or.inl (hab ▸ hbc)
    · exact Or.inr ⟨hab.trans hbc,PyFloat.le_chain hle' hle⟩

section Pair
variable {a b : Row ScannerResult} (ha : technicalScore a.val ≠ .nan)
variable (hb : technicalScore b.val ≠ .nan)
include ha hb

/-- A row that is not rejected goes first only where the documents put it first. -/
theorem documentedOrder_of_qualified (h : PriorityOrder a b) (hqualified : a.val.status ≠ .rejected) :
    DocumentedOrder a b := by
  rw [priorityOrder_iff ha hb, tier_of_qualified hqualified] at h
  have hne := documentedTier_ne_of_qualified hqualified
  unfold DocumentedOrder
  by_cases hrejected : b.val.status = .rejected
  · have htier := tier_of_rejected hrejected
    rw [documentedTier_of_rejected hrejected]
    exact Or.inl (by omega)
  · rwa [tier_of_qualified hrejected] at h

/-- Of two rejected rows the first one overtakes the other where it is scored lower. -/
theorem documentedOrder_iff_of_rejected (h : PriorityOrder a b) (hfirst : a.val.status = .rejected)
    (hsecond : b.val.status = .rejected) : DocumentedOrder a b ↔ ¬ Overtakes a.val b.val := by
  rw [priorityOrder_iff ha hb] at h
  have htier := tier_of_rejected hsecond
  unfold DocumentedOrder Overtakes
  rw [documentedTier_of_rejected hfirst, documentedTier_of_rejected hsecond]
  cases hle : (technicalScore b.val).le (technicalScore a.val) with
  | true => simp [hsecond]
  | false =>
    have hlt : setupStateTier a.val < setupStateTier b.val := by simpa [hle] using h
    have hstate : setupStateTier a.val < 3 := by omega
    simp [hfirst, hsecond, hlt, hstate]

/-- A rejected row goes before one that is not where it overtakes it or ties with it, or where that one is
in none of the three states. -/
theorem documentedOrder_iff_of_mixed (h : PriorityOrder a b) (hfirst : a.val.status = .rejected)
    (hsecond : b.val.status ≠ .rejected) :
    DocumentedOrder a b ↔ ¬ Overtakes a.val b.val ∧ ¬ Ties a.val b.val := by
  rw [priorityOrder_iff ha hb] at h
  have hne : setupStateTier b.val ≠ 3 := by
    rw [tier_of_qualified hsecond]
    exact documentedTier_ne_of_qualified hsecond
  unfold DocumentedOrder
  rw [documentedTier_of_rejected hfirst, ← tier_of_qualified hsecond]
  by_cases hstate : setupStateTier b.val < 3
  · refine iff_of_false (by omega) ?_
    rintro ⟨hovertakes,hties⟩
    rcases h with hlt | ⟨heq,hle⟩
    · exact hovertakes ⟨hfirst,by omega,Or.inl ⟨hsecond,hstate,Or.inl hlt⟩⟩
    · cases hge : (technicalScore a.val).le (technicalScore b.val) with
      | true => exact hties ⟨hfirst,hsecond,by omega,heq,hge,hle⟩
      | false =>
        exact hovertakes ⟨hfirst,by omega,Or.inl ⟨hsecond,hstate,Or.inr ⟨heq,hge⟩⟩⟩
  · refine iff_of_true (Or.inl (by omega)) ⟨?_,?_⟩
    · rintro ⟨-,-,⟨-,hlt,-⟩ | ⟨hrejected,-⟩⟩
      · exact hstate hlt
      · exact hsecond hrejected
    · rintro ⟨-,-,hlt,heq,-⟩
      omega

/-- Where the key puts a row first, the documents do too, unless it is a rejected row that overtakes the
other one or ties with it. -/
theorem documentedOrder_iff (h : PriorityOrder a b) :
    DocumentedOrder a b ↔ ¬ Overtakes a.val b.val ∧ ¬ Ties a.val b.val := by
  by_cases hfirst : a.val.status = .rejected
  · by_cases hsecond : b.val.status = .rejected
    · rw [documentedOrder_iff_of_rejected ha hb h hfirst hsecond]
      exact (and_iff_left fun hties => hties.2.1 hsecond).symm
    · exact documentedOrder_iff_of_mixed ha hb h hfirst hsecond
  · exact iff_of_true (documentedOrder_of_qualified ha hb h hfirst)
      ⟨fun hovertakes => hfirst hovertakes.1,fun hties => hfirst hties.1⟩

/-- A row that overtakes another goes before it, and not the other way round. -/
theorem not_overtakes_of_priorityOrder (h : PriorityOrder a b) : ¬ Overtakes b.val a.val := by
  rw [priorityOrder_iff ha hb] at h
  rintro ⟨-,-,⟨-,-,hlt | ⟨heq,hle⟩⟩ | ⟨-,hlt,-⟩⟩
  · omega
  · rw [hle] at h
    simp at h
    omega
  · omega

theorem not_ties_of_not_priorityOrder (h : ¬ PriorityOrder a b) :
    ¬ Ties a.val b.val ∧ ¬ Ties b.val a.val := by
  rw [priorityOrder_iff ha hb] at h
  constructor
  · rintro ⟨-,-,-,heq,-,hle⟩
    exact h (Or.inr ⟨heq,hle⟩)
  · rintro ⟨-,-,-,heq,hle,-⟩
    exact h (Or.inr ⟨heq.symm,hle⟩)

theorem arranged_iff (hor : PriorityOrder a b ∨ PriorityOrder b a) :
    StableSort.Arranged PriorityOrder DocumentedOrder a b ↔
      ¬ Overtakes a.val b.val ∧ ¬ Overtakes b.val a.val ∧ ¬ Ties a.val b.val := by
  unfold StableSort.Arranged
  by_cases hab : PriorityOrder a b
  · rw [if_pos hab, documentedOrder_iff ha hb hab]
    have hnot := not_overtakes_of_priorityOrder ha hb hab
    tauto
  · have hba := hor.resolve_left hab
    rw [if_neg hab, documentedOrder_iff hb ha hba]
    have hnot := not_overtakes_of_priorityOrder hb ha hba
    have hties := not_ties_of_not_priorityOrder ha hb hab
    tauto

end Pair

/-- Rows in the documented order have no rejected row before a qualified one of the three states. -/
theorem qualifiedFirst_of_sorted {a b : Row ScannerResult} (h : DocumentedOrder a b)
    (ha : a.val.status = .rejected) (hb : documentedTier b.val < 3) : False := by
  unfold DocumentedOrder at h
  rw [documentedTier_of_rejected ha] at h
  omega

/-- Among rows whose scores are no NaN, `_select_pending` returns a list in the documented order just when
every age can be taken, every score can be read, no rejected row overtakes another, and none comes from the
database before one it ties with. -/
theorem byPriority_iff (settings : Settings) (env : QueueEnv) (results : ScannerResults)
    (h : ∀ r ∈ pendingRows settings env results, technicalScore r.val ≠ .nan) :
    (∃ rows, selectPending settings env results = .ok rows ∧ ByPriority rows) ↔
      ZonesNamed (candidateRows env results) ∧ ScoresFit (pendingRows settings env results) ∧
        NoneOvertaken (pendingRows settings env results) := by
  have horders := orders_priorityOrder h
  have hsorted : ((pendingRows settings env results).insertionSort PriorityOrder).Pairwise
      DocumentedOrder ↔ NoneOvertaken (pendingRows settings env results) := by
    rw [horders.pairwise_iff]
    apply List.Pairwise.iff_of_mem
    intro a b ha hb
    exact arranged_iff (h a ha) (h b hb) (horders.total a ha b hb)
  rw [← hsorted]
  constructor
  · rintro ⟨rows,hselect,hby⟩
    obtain ⟨hzones,hfit⟩ := (exists_selectPending_iff settings env results).mp ⟨rows,hselect⟩
    rw [selectPending_eq hzones hfit] at hselect
    obtain rfl := Except.ok.inj hselect
    exact ⟨hzones,hfit,hby.sorted⟩
  · rintro ⟨hzones,hfit,hdoc⟩
    exact ⟨_,selectPending_eq hzones hfit,hdoc,hdoc.imp qualifiedFirst_of_sorted⟩

end Order

/-! ### A rejected breakout before a qualified setup -/

def candidateRow (symbolId : ℕ) (status : ResultStatus) (setupState : String) (score : ℚ) :
    ScannerResult :=
  ⟨symbolId,"fno_momentum_v1",⟨20001⟩,score,status,"",
    [("setup_state",.str setupState),("technical_score",.float (.finite score)),
      ("fundamental_status",.str "PENDING")]⟩

/-- A setup that has qualified, and a breakout that was rejected. -/
def rejectedBreakout : ScannerResults :=
  ScannerResultRepository.upsert (ScannerResultRepository.upsert ScannerResults.empty
    (candidateRow 1 .qualified "PRE_BREAKOUT" 90)) (candidateRow 2 .rejected "BREAKOUT_CONFIRMED" 40)

/-- The queue at ten in the morning, with the rows in the order of insertion. -/
def selectingEnv : QueueEnv where
  lockFree := true
  now := DateTime.ofUtc ⟨20001⟩ 270
  today := DateTime.ofUtc ⟨20001⟩ 270
  selectedAt := DateTime.ofUtc ⟨20001⟩ 270
  scan := ScanOrder.insertion _
  provider _ := ⟨"trendlyne_mcp",true,fun _ => .responded none .failed none⟩
  transactionStart _ := DateTime.ofUtc ⟨20001⟩ 270
  fetchedAt _ := DateTime.ofUtc ⟨20001⟩ 270

theorem byPriority_iff_rejectedBreakout :
    (∃ rows, @selectPending (Builtins.tabulated [] [] []) {} selectingEnv rejectedBreakout = .ok rows ∧
        @ByPriority (Builtins.tabulated [] [] []) rows) ↔
      @ZonesNamed (Builtins.tabulated [] [] []) (candidateRows selectingEnv rejectedBreakout) ∧
        ScoresFit (@pendingRows (Builtins.tabulated [] [] []) {} selectingEnv rejectedBreakout) ∧
          @NoneOvertaken (Builtins.tabulated [] [] [])
            (@pendingRows (Builtins.tabulated [] [] []) {} selectingEnv rejectedBreakout) := by
  let _ := Builtins.tabulated [] [] []
  exact byPriority_iff {} selectingEnv rejectedBreakout (by decide +kernel)

/-- The rejected breakout is fetched first. -/
theorem rejectedBreakout_first :
    ¬ ∃ rows, @selectPending (Builtins.tabulated [] [] []) {} selectingEnv rejectedBreakout = .ok rows ∧
      @ByPriority (Builtins.tabulated [] [] []) rows := by
  let _ := Builtins.tabulated [] [] []
  rintro ⟨rows,hselect,hby⟩
  have hfirst : selectPending {} selectingEnv rejectedBreakout =
      .ok [⟨2,candidateRow 2 .rejected "BREAKOUT_CONFIRMED" 40⟩,
        ⟨1,candidateRow 1 .qualified "PRE_BREAKOUT" 90⟩] := rfl
  obtain rfl := Except.ok.inj (hselect.symm.trans hfirst)
  have hpair := hby.qualifiedFirst
  rw [List.pairwise_pair] at hpair
  exact hpair rfl (by decide +kernel)

end MarketScanner.Fundamentals
