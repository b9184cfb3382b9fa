import MarketScanner.Momentum.Followup

/-! When a follow-up run fills every horizon that has elapsed. Its queries are bounded and unordered, and rows
that cannot be filled are selected again by every run. -/
namespace MarketScanner.Momentum
open MarketScanner.Library MarketScanner.Python MarketScanner.Config MarketScanner.Market
open MomentumAlertObservationRepository

/-- The earliest stored bar at or after the target of a horizon has the close. -/
def HasClose (settings : Settings) (bars : PriceBars) :
    Horizon → NewObservation → PyFloat → Prop
  | .after15m, row, close => ∃ bar, bars.intraday.IsFirstFrom row.symbolId
      (row.triggerAt.add Horizon.after15m.delta).utc bar ∧ bar.val.bar.close = some close
  | .after1h, row, close => ∃ bar, bars.intraday.IsFirstFrom row.symbolId
      (row.triggerAt.add Horizon.after1h.delta).utc bar ∧ bar.val.bar.close = some close
  | .after1d, row, close => ∃ bar, bars.daily.IsFirstFrom row.symbolId
      (targetDate settings row.triggerAt).day bar ∧ close = .finite bar.val.close.toRat

/-- So much time has passed since the trigger. -/
def Elapsed (horizon : Horizon) (now : DateTime) (row : NewObservation) : Prop :=
  row.triggerAt.add horizon.delta ≤ now

/-- A row of the table has the price for a horizon, or none. -/
def HasPrice (t : MomentumAlertObservations) (id : ℕ) (horizon : Horizon) (price : Option PyFloat) :
    Prop :=
  ∃ r ∈ t.rows, r.id = id ∧ r.val.priceAfter horizon = price

/-- What a run at `now` makes of the table: elapsed horizons with a bar are filled, and only these, with the
close of the earliest bar; what is filled stays, whatever comes after the run. -/
structure FollowedUp (settings : Settings) (bars : PriceBars) (now : DateTime)
    (t after : MomentumAlertObservations) : Prop where
  complete : ∀ r ∈ t.rows, ∀ horizon close, Elapsed horizon now r.val.toNewObservation →
    HasClose settings bars horizon r.val.toNewObservation close →
      HasPrice after r.id horizon ((r.val.priceAfter horizon).or (some close))
  sound : ∀ r ∈ t.rows, ∀ horizon close, r.val.priceAfter horizon = none →
    HasPrice after r.id horizon (some close) → Elapsed horizon now r.val.toNewObservation ∧
      HasClose settings bars horizon r.val.toNewObservation close
  stable : ∀ r ∈ t.rows, ∀ horizon price, r.val.priceAfter horizon = some price →
    ∀ actions later, followupMachine.Run after actions later → HasPrice later r.id horizon (some price)

/-- A row that waits for a horizon at `now`, as the query for it selects rows. -/
def Waits (horizon : Horizon) (now : DateTime) (r : Row MomentumAlertObservation) : Bool :=
  awaits horizon (now.sub horizon.delta) r

theorem waits_iff {horizon : Horizon} {now : DateTime} {r : Row MomentumAlertObservation} :
    Waits horizon now r = true ↔
      Elapsed horizon now r.val.toNewObservation ∧ r.val.priceAfter horizon = none := by
  have htime : r.val.triggerAt ≤ now.sub horizon.delta ↔
      Elapsed horizon now r.val.toNewObservation := by
    change r.val.triggerAt.utc ≤ now.utc-horizon.delta ↔ r.val.triggerAt.utc+horizon.delta ≤ now.utc
    omega
  rw [Waits, awaits, Bool.and_eq_true, decide_eq_true_iff, htime, Option.isNone_iff_eq_none]

section Run
variable (settings : Settings) (scans : ScanOrders) (bars : PriceBars) (now : DateTime)

/-! ### One row -/

/-- The fill of a horizon. -/
def fillOf : Horizon → MomentumAlertObservation → Option MomentumAlertObservation
  | .after15m => fill15m scans bars
  | .after1h => fill1h scans bars
  | .after1d => fill1d settings scans bars

/-- The close that a fill finds. -/
def closeOf (horizon : Horizon) (row : NewObservation) : Option PyFloat :=
  match horizon with
  | .after15m => (getIntradayAtOrAfter scans.intraday bars.intraday row.symbolId
      (row.triggerAt.add Horizon.after15m.delta)).bind fun bar => bar.val.bar.close
  | .after1h => (getIntradayAtOrAfter scans.intraday bars.intraday row.symbolId
      (row.triggerAt.add Horizon.after1h.delta)).bind fun bar => bar.val.bar.close
  | .after1d => (getDailyAtOrAfter scans.daily bars.daily row.symbolId
      (targetDate settings row.triggerAt)).map fun bar => .finite bar.val.close.toRat

/-- What is found is the close of the earliest bar, in whatever order the scan delivers the bars. -/
theorem closeOf_eq_some_iff {horizon : Horizon} {row : NewObservation} {close : PyFloat} :
    closeOf settings scans bars horizon row = some close ↔ HasClose settings bars horizon row close := by
  cases horizon with
  | after15m =>
    simp only [closeOf, getIntradayAtOrAfter, Option.bind_eq_some_iff, Stamped.firstFrom_eq_some_iff,
      HasClose]
  | after1h =>
    simp only [closeOf, getIntradayAtOrAfter, Option.bind_eq_some_iff, Stamped.firstFrom_eq_some_iff,
      HasClose]
  | after1d =>
    simp only [closeOf, getDailyAtOrAfter, Option.map_eq_some_iff, Stamped.firstFrom_eq_some_iff,
      HasClose, eq_comm (a := close)]

/-- A row is filled just where a close is found. -/
theorem fillOf_eq (horizon : Horizon) (row : MomentumAlertObservation) :
    fillOf settings scans bars horizon row =
      (closeOf settings scans bars horizon row.toNewObservation).map fun close =>
        filledWith horizon row (some close) := by
  have hclosed : ∀ moment, (getIntradayAtOrAfter scans.intraday bars.intraday row.symbolId moment).map
      (fun bar => filledWith horizon row bar.val.bar.close) =
        ((getIntradayAtOrAfter scans.intraday bars.intraday row.symbolId moment).bind
          fun bar => bar.val.bar.close).map fun close => filledWith horizon row (some close) := by
    intro moment
    cases hbar : getIntradayAtOrAfter scans.intraday bars.intraday row.symbolId moment with
    | none => rfl
    | some bar =>
      have hmem := (Stamped.firstFrom_eq_some_iff.mp hbar).mem
      obtain ⟨close,hclose⟩ := Option.ne_none_iff_exists'.mp (bars.closed bar hmem)
      simp [hclose]
  cases horizon with
  | after15m => exact hclosed _
  | after1h => exact hclosed _
  | after1d => simp [fillOf, fill1d, closeOf, Function.comp_def]

/-! ### One loop -/

/-- The rows that the loop of a horizon looks at. -/
def picked (horizon : Horizon) (t : MomentumAlertObservations) : List (Row MomentumAlertObservation) :=
  listAwaiting horizon (scans.observations horizon) t (now.sub horizon.delta) awaitingLimit

theorem picked_eq (horizon : Horizon) (t : MomentumAlertObservations) :
    picked scans now horizon t =
      ((scans.observations horizon).arrange (t.rows.filter (Waits horizon now))).take awaitingLimit := rfl

/-- The loop of a horizon. -/
def stage (horizon : Horizon) (t : MomentumAlertObservations) : MomentumAlertObservations :=
  (fillEach (fillOf settings scans bars horizon) (picked scans now horizon t) t).1

/-- What the loop of a horizon reads and writes of a row. -/
def seen (horizon : Horizon) (r : Row MomentumAlertObservation) :
    ℕ × NewObservation × Option PyFloat :=
  (r.id,r.val.toNewObservation,r.val.priceAfter horizon)

theorem waits_congr {horizon : Horizon} {q r : Row MomentumAlertObservation}
    (h : seen horizon q = seen horizon r) : Waits horizon now q = Waits horizon now r := by
  obtain ⟨-,hrest⟩ := Prod.mk.inj h
  obtain ⟨hdata,hprice⟩ := Prod.mk.inj hrest
  rw [Waits, Waits, awaits, awaits, hdata, hprice]

theorem mem_of_mem_picked {horizon : Horizon} {t : MomentumAlertObservations}
    {r : Row MomentumAlertObservation} (h : r ∈ picked scans now horizon t) :
    r ∈ t.rows.filter (Waits horizon now) :=
  ((scans.observations horizon).perm _).mem_iff.mp (List.mem_of_mem_take h)

theorem nodup_waiting (horizon : Horizon) (t : MomentumAlertObservations) :
    ((t.rows.filter (Waits horizon now)).map Row.id).Nodup := by
  have hids : (t.rows.map Row.id).Nodup :=
    List.pairwise_map.mpr (t.ordered.imp fun h => Nat.ne_of_lt h)
  exact hids.sublist (List.filter_sublist.map Row.id)

theorem fillEach_fst (fill : MomentumAlertObservation → Option MomentumAlertObservation)
    (rows : List (Row MomentumAlertObservation)) (t : MomentumAlertObservations) :
    (fillEach fill rows t).1 =
      (rows.map Row.id).foldl (fun t i => t.modify i fun row => (fill row).getD row) t := by
  have hloop : ∀ s : MomentumAlertObservations × ℕ,
      (rows.foldl (fun s r => (s.1.modify r.id fun row => (fill row).getD row,
        s.2+if (fill r.val).isSome then 1 else 0)) s).1 =
          (rows.map Row.id).foldl (fun t i => t.modify i fun row => (fill row).getD row) s.1 := by
    induction rows with
    | nil => exact fun s => rfl
    | cons r rest ih =>
      intro s
      rw [List.foldl_cons, List.map_cons, List.foldl_cons, ih]
  exact hloop (t,0)

/-- The rows that are looked at are filled where they can be. -/
theorem stage_eq (horizon : Horizon) (t : MomentumAlertObservations) :
    stage settings scans bars now horizon t =
      t.modifyWhere (fun i => decide (i ∈ (picked scans now horizon t).map Row.id))
        fun row => (fillOf settings scans bars horizon row).getD row := by
  have hnodup : ((picked scans now horizon t).map Row.id).Nodup := by
    have hall := ((scans.observations horizon).perm (t.rows.filter (Waits horizon now))).map Row.id
    exact (hall.nodup_iff.mpr (nodup_waiting now horizon t)).sublist
      ((List.take_sublist _ _).map Row.id)
  rw [stage, fillEach_fst, Table.foldl_modify hnodup]

/-- A fill writes the columns of its own horizon. -/
theorem fillOf_frame (horizon : Horizon) (row : MomentumAlertObservation) :
    ((fillOf settings scans bars horizon row).getD row).toNewObservation = row.toNewObservation ∧
      ∀ other ≠ horizon,
        ((fillOf settings scans bars horizon row).getD row).priceAfter other = row.priceAfter other := by
  rw [fillOf_eq]
  cases closeOf settings scans bars horizon row.toNewObservation with
  | none => exact ⟨rfl,fun _ _ => rfl⟩
  | some close => exact ⟨rfl,fun other hne => Function.update_of_ne hne _ _⟩

/-- The loop of a horizon is not seen by the others. -/
theorem map_seen_stage (horizon other : Horizon) (hne : other ≠ horizon)
    (t : MomentumAlertObservations) :
    (stage settings scans bars now horizon t).rows.map (seen other) = t.rows.map (seen other) := by
  rw [stage_eq, Table.rows_modifyWhere, List.map_map]
  refine List.map_congr_left fun r _ => ?_
  obtain ⟨hdata,hprice⟩ := fillOf_frame settings scans bars horizon r.val
  rw [Function.comp_apply, Row.change]
  split
  · rw [seen, seen, hdata, hprice other hne]
  · rfl

/-- What the loop of a horizon makes of a row. -/
theorem stage_row {horizon : Horizon} {t : MomentumAlertObservations}
    {r : Row MomentumAlertObservation} (hr : r ∈ t.rows) [Decidable (r ∈ picked scans now horizon t)] :
    ∃ r' ∈ (stage settings scans bars now horizon t).rows, r'.id = r.id ∧
      r'.val.priceAfter horizon = if r ∈ picked scans now horizon t then
        closeOf settings scans bars horizon r.val.toNewObservation else r.val.priceAfter horizon := by
  rw [stage_eq]
  refine ⟨_,Table.mem_modifyWhere.mpr ⟨r,hr,rfl⟩,Row.change_id _ _ _,?_⟩
  by_cases hmem : r ∈ picked scans now horizon t
  · have hwaits := List.mem_filter.mp (mem_of_mem_picked scans now hmem)
    have hnone := (waits_iff.mp hwaits.2).2
    rw [Row.change_of_true (by simpa using ⟨r,hmem,rfl⟩), if_pos hmem]
    dsimp only
    rw [fillOf_eq]
    cases closeOf settings scans bars horizon r.val.toNewObservation with
    | none => exact hnone
    | some close => exact Function.update_self _ _ _
  · have hother : r.id ∉ (picked scans now horizon t).map Row.id := by
      intro hid
      obtain ⟨r',hr',heq⟩ := List.mem_map.mp hid
      have hsame := Table.eq_of_id (List.mem_of_mem_filter (mem_of_mem_picked scans now hr')) hr heq
      exact hmem (hsame ▸ hr')
    rw [Row.change_of_false (by simpa using hother), if_neg hmem]

/-! ### A run -/

/-- The table that the loop of a horizon finds. -/
def before (horizon : Horizon) (t : MomentumAlertObservations) : MomentumAlertObservations :=
  match horizon with
  | .after15m => t
  | .after1h => stage settings scans bars now .after15m t
  | .after1d => stage settings scans bars now .after1h (stage settings scans bars now .after15m t)

theorem map_seen_before (horizon : Horizon) (t : MomentumAlertObservations) :
    (before settings scans bars now horizon t).rows.map (seen horizon) = t.rows.map (seen horizon) := by
  cases horizon with
  | after15m => rfl
  | after1h => exact map_seen_stage settings scans bars now _ _ (by decide) t
  | after1d =>
    have hsecond := map_seen_stage settings scans bars now .after1h .after1d (by decide)
      (stage settings scans bars now .after15m t)
    exact hsecond.trans (map_seen_stage settings scans bars now _ _ (by decide) t)

/-- What a horizon has after its loop it has after the run. -/
theorem map_seen_runFollowup (horizon : Horizon) (t : MomentumAlertObservations) :
    (runFollowup settings scans bars now t).1.rows.map (seen horizon) =
      (stage settings scans bars now horizon (before settings scans bars now horizon t)).rows.map
        (seen horizon) := by
  have hrun : (runFollowup settings scans bars now t).1 =
      stage settings scans bars now .after1d (before settings scans bars now .after1d t) := rfl
  rw [hrun]
  cases horizon with
  | after15m =>
    have hsecond := map_seen_stage settings scans bars now .after1h .after15m (by decide)
      (stage settings scans bars now .after15m t)
    exact (map_seen_stage settings scans bars now _ _ (by decide) _).trans hsecond
  | after1h => exact map_seen_stage settings scans bars now _ _ (by decide) _
  | after1d => rfl

omit settings scans bars in
/-- As many rows wait for a horizon in tables that are the same to it. -/
theorem length_waiting_congr {horizon : Horizon} {t t' : MomentumAlertObservations}
    (h : t'.rows.map (seen horizon) = t.rows.map (seen horizon)) :
    (t'.rows.filter (Waits horizon now)).length = (t.rows.filter (Waits horizon now)).length := by
  have hcount : ∀ t : MomentumAlertObservations, (t.rows.filter (Waits horizon now)).length =
      ((t.rows.map (seen horizon)).filter fun s =>
        decide (s.2.1.triggerAt ≤ now.sub horizon.delta) && s.2.2.isNone).length := by
    intro t
    rw [List.filter_map, List.length_map]
    rfl
  rw [hcount, hcount, h]

omit settings scans bars now in
/-- A row of one table has its like in a table that is the same to the horizon. -/
theorem exists_seen {horizon : Horizon} {t t' : MomentumAlertObservations}
    (h : t'.rows.map (seen horizon) = t.rows.map (seen horizon)) {r : Row MomentumAlertObservation}
    (hr : r ∈ t.rows) : ∃ q ∈ t'.rows, seen horizon q = seen horizon r := by
  have hmem := List.mem_map_of_mem (f := seen horizon) hr
  rw [← h] at hmem
  exact List.mem_map.mp hmem

omit settings scans bars now in
theorem hasPrice_unique {t : MomentumAlertObservations} {id : ℕ} {horizon : Horizon}
    {price price' : Option PyFloat} (h : HasPrice t id horizon price)
    (h' : HasPrice t id horizon price') : price = price' := by
  obtain ⟨r,hr,hid,rfl⟩ := h
  obtain ⟨r',hr',hid',rfl⟩ := h'
  rw [Table.eq_of_id hr hr' (hid.trans hid'.symm)]

open Classical in
/-- What a run makes of a row: its like in the table that the loop of the horizon finds decides. -/
theorem runFollowup_row {t : MomentumAlertObservations} {r : Row MomentumAlertObservation}
    (hr : r ∈ t.rows) (horizon : Horizon) :
    ∃ q ∈ (before settings scans bars now horizon t).rows, seen horizon q = seen horizon r ∧
      HasPrice (runFollowup settings scans bars now t).1 r.id horizon
        (if q ∈ picked scans now horizon (before settings scans bars now horizon t) then
          closeOf settings scans bars horizon r.val.toNewObservation
        else r.val.priceAfter horizon) := by
  obtain ⟨q,hq,hseen⟩ := exists_seen (map_seen_before settings scans bars now horizon t) hr
  obtain ⟨r₁,hr₁,hid₁,hprice₁⟩ := stage_row settings scans bars now hq
  obtain ⟨r₂,hr₂,hseen₂⟩ := exists_seen (map_seen_runFollowup settings scans bars now horizon t) hr₁
  obtain ⟨hqid,hqrest⟩ := Prod.mk.inj hseen
  obtain ⟨hqdata,hqprice⟩ := Prod.mk.inj hqrest
  obtain ⟨hid₂,hrest₂⟩ := Prod.mk.inj hseen₂
  refine ⟨q,hq,hseen,r₂,hr₂,hid₂.trans (hid₁.trans hqid),?_⟩
  rw [(Prod.mk.inj hrest₂).2, hprice₁, hqdata, hqprice]

/-- A run fills only what has elapsed and has a bar, and changes nothing that is filled. -/
theorem runFollowup_cases {t : MomentumAlertObservations} {r : Row MomentumAlertObservation}
    (hr : r ∈ t.rows) (horizon : Horizon) :
    HasPrice (runFollowup settings scans bars now t).1 r.id horizon (r.val.priceAfter horizon) ∨
      ∃ close, r.val.priceAfter horizon = none ∧ Elapsed horizon now r.val.toNewObservation ∧
        HasClose settings bars horizon r.val.toNewObservation close ∧
        HasPrice (runFollowup settings scans bars now t).1 r.id horizon (some close) := by
  obtain ⟨q,hq,hseen,hprice⟩ := runFollowup_row settings scans bars now hr horizon
  split at hprice
  · rename_i hpicked
    have hwaits := (List.mem_filter.mp (mem_of_mem_picked scans now hpicked)).2
    rw [waits_congr now hseen] at hwaits
    obtain ⟨helapsed,hnone⟩ := waits_iff.mp hwaits
    cases hclose : closeOf settings scans bars horizon r.val.toNewObservation with
    | none =>
      rw [hclose] at hprice
      rw [hnone]
      exact .inl hprice
    | some close =>
      rw [hclose] at hprice
      exact .inr ⟨close,hnone,helapsed,(closeOf_eq_some_iff settings scans bars).mp hclose,hprice⟩
  · exact .inl hprice

end Run

/-! ### Runs of the job -/

/-- No step changes a price that is filled. -/
theorem hasPrice_step {t t' : MomentumAlertObservations} {a : FollowupAction}
    (hstep : followupMachine.step t a = some t') {id : ℕ} {horizon : Horizon} {price : PyFloat}
    (h : HasPrice t id horizon (some price)) : HasPrice t' id horizon (some price) := by
  obtain ⟨r,hr,rfl,hprice⟩ := h
  cases a with
  | insert data =>
    change (MomentumAlertObservationRepository.insert t data).toOption = some t' at hstep
    unfold MomentumAlertObservationRepository.insert at hstep
    split at hstep
    · cases hstep
    · obtain rfl := Option.some.inj hstep
      exact ⟨r,Table.mem_insert.mpr (.inl hr),rfl,hprice⟩
  | run settings scans bars now raised =>
    obtain rfl := Option.some.inj hstep
    cases raised with
    | true => exact ⟨r,hr,rfl,hprice⟩
    | false =>
      rcases runFollowup_cases settings scans bars now hr horizon with hsame | ⟨_,hnone,-⟩
      · rwa [hprice] at hsame
      · rw [hnone] at hprice
        cases hprice

theorem hasPrice_run {t later : MomentumAlertObservations} {actions : List FollowupAction}
    (hrun : followupMachine.Run t actions later) {id : ℕ} {horizon : Horizon} {price : PyFloat}
    (h : HasPrice t id horizon (some price)) : HasPrice later id horizon (some price) := by
  induction hrun with
  | nil => exact h
  | cons step _ ih => exact ih (hasPrice_step step h)

section Crowd
variable {settings : Settings} {bars : PriceBars} {now : DateTime} {t : MomentumAlertObservations}

/-- Where nothing can be filled or all that waits fits into the query, a run does what it should. -/
theorem followedUp_of_room (scans : ScanOrders)
    (hroom : ∀ horizon, (∃ r ∈ t.rows, Waits horizon now r = true ∧
      ∃ close, HasClose settings bars horizon r.val.toNewObservation close) →
        (t.rows.filter (Waits horizon now)).length ≤ awaitingLimit) :
    FollowedUp settings bars now t (runFollowup settings scans bars now t).1 where
  complete r hr horizon close helapsed hclose := by
    cases hprice : r.val.priceAfter horizon with
    | some price =>
      rcases runFollowup_cases settings scans bars now hr horizon with hsame | ⟨_,hnone,-⟩
      · rwa [hprice] at hsame
      · rw [hnone] at hprice
        cases hprice
    | none =>
      obtain ⟨q,hq,hseen,hrun⟩ := runFollowup_row settings scans bars now hr horizon
      have hwaits : Waits horizon now r = true := waits_iff.mpr ⟨helapsed,hprice⟩
      have hfits : ((before settings scans bars now horizon t).rows.filter
          (Waits horizon now)).length ≤ awaitingLimit := by
        rw [length_waiting_congr now (map_seen_before settings scans bars now horizon t)]
        exact hroom horizon ⟨r,hr,hwaits,close,hclose⟩
      have hpicked : q ∈ picked scans now horizon (before settings scans bars now horizon t) := by
        have hperm := (scans.observations horizon).perm
          ((before settings scans bars now horizon t).rows.filter (Waits horizon now))
        rw [picked_eq, List.take_of_length_le (hperm.length_eq.trans_le hfits)]
        exact hperm.mem_iff.mpr (List.mem_filter.mpr ⟨hq,(waits_congr now hseen).trans hwaits⟩)
      rwa [if_pos hpicked, (closeOf_eq_some_iff settings scans bars).mpr hclose] at hrun
  sound r hr horizon close hnone hafter := by
    rcases runFollowup_cases settings scans bars now hr horizon with
      hsame | ⟨close',-,helapsed,hclose,hfilled⟩
    · rw [hnone] at hsame
      cases hasPrice_unique hsame hafter
    · obtain rfl := Option.some.inj (hasPrice_unique hfilled hafter)
      exact ⟨helapsed,hclose⟩
  stable r hr horizon price hprice := by
    rcases runFollowup_cases settings scans bars now hr horizon with hsame | ⟨_,hnone,-⟩
    · rw [hprice] at hsame
      exact fun actions later hrun => hasPrice_run hrun hsame
    · rw [hnone] at hprice
      cases hprice

/-- Where more rows wait than the query lets through, some order of the scan leaves out a row that could be
filled. -/
theorem not_followedUp_of_crowded {horizon : Horizon} {r : Row MomentumAlertObservation}
    {close : PyFloat} (hr : r ∈ t.rows) (hwaits : Waits horizon now r = true)
    (hclose : HasClose settings bars horizon r.val.toNewObservation close)
    (hcrowd : awaitingLimit < (t.rows.filter (Waits horizon now)).length) :
    ∃ scans, ¬FollowedUp settings bars now t (runFollowup settings scans bars now t).1 := by
  classical
  let insertion : ScanOrders := ⟨fun _ => .insertion _,.insertion _,.insertion _⟩
  obtain ⟨q,hq,hseen⟩ := exists_seen (map_seen_before settings insertion bars now horizon t) hr
  have hqwaits : q ∈ (before settings insertion bars now horizon t).rows.filter (Waits horizon now) :=
    List.mem_filter.mpr ⟨hq,(waits_congr now hseen).trans hwaits⟩
  obtain ⟨scan,hleft⟩ : ∃ scan : ScanOrder (Row MomentumAlertObservation),
      q ∉ (scan.arrange ((before settings insertion bars now horizon t).rows.filter
        (Waits horizon now))).take awaitingLimit := by
    by_contra hall
    push Not at hall
    have hnodup := List.Nodup.of_map Row.id (nodup_waiting now horizon
      (before settings insertion bars now horizon t))
    have hfits := (forall_scan_mem_take_iff hnodup (· = q) awaitingLimit).mp
      (fun scan r' _ heq => heq ▸ hall scan) ⟨q,hqwaits,rfl⟩
    rw [length_waiting_congr now (map_seen_before settings insertion bars now horizon t)] at hfits
    omega
  let scans : ScanOrders :=
    ⟨fun other => if other = horizon then scan else .insertion _,.insertion _,.insertion _⟩
  have hbefore : before settings scans bars now horizon t =
      before settings insertion bars now horizon t := by
    cases horizon <;> rfl
  refine ⟨scans,fun hfollowed => ?_⟩
  obtain ⟨helapsed,hnone⟩ := waits_iff.mp hwaits
  have hfilled := hfollowed.complete r hr horizon close helapsed hclose
  obtain ⟨q',hq',hseen',hrun⟩ := runFollowup_row settings scans bars now hr horizon
  have hsame : q' = q := by
    rw [hbefore] at hq'
    exact Table.eq_of_id hq' hq (Prod.mk.inj (hseen'.trans hseen.symm)).1
  have hpicked : q' ∉ picked scans now horizon (before settings scans bars now horizon t) := by
    have hscan : scans.observations horizon = scan := if_pos rfl
    rw [hsame, hbefore, picked_eq, hscan]
    exact hleft
  rw [if_neg hpicked, hnone] at hrun
  rw [hnone] at hfilled
  cases hasPrice_unique hrun hfilled

/-- In whatever order the database delivers its rows, a run does what it should: just when, for each
horizon, no row that waits can be filled or the rows that wait fit into the query. -/
theorem followedUp_iff :
    (∀ scans, FollowedUp settings bars now t (runFollowup settings scans bars now t).1) ↔
      ∀ horizon, (∃ r ∈ t.rows, Waits horizon now r = true ∧
        ∃ close, HasClose settings bars horizon r.val.toNewObservation close) →
          (t.rows.filter (Waits horizon now)).length ≤ 200 := by
  constructor
  · rintro h horizon ⟨r,hr,hwaits,close,hclose⟩
    by_contra hcrowd
    obtain ⟨scans,hnot⟩ := not_followedUp_of_crowded hr hwaits hclose (not_le.mp hcrowd)
    exact hnot (h scans)
  · intro hroom scans
    exact followedUp_of_room scans hroom

end Crowd

/-- An observation of 10:00 on day 20000. -/
def observedAtTen (transitionId symbolId : ℕ) : NewObservation :=
  ⟨transitionId,symbolId,none,"TRIGGERED",DateTime.ofUtc ⟨20000⟩ 600,.finite 85,some (.finite 70),none,
    none,false,none⟩

/-- Two hundred observations of a symbol without bars. -/
def stuckTable : MomentumAlertObservations :=
  (List.range 200).foldl (fun t i => Table.insert t { toNewObservation := observedAtTen i 2 }) Table.empty

/-- After them, one of a symbol with a bar. -/
def crowdedTable : MomentumAlertObservations :=
  stuckTable.insert { toNewObservation := observedAtTen 200 1 }

/-- A bar of 10:15 that closes at 100. -/
def barAtQuarterPast : ProviderCandle :=
  ⟨DateTime.ofUtc ⟨20000⟩ 615,some (.finite 100),some (.finite 101),some (.finite 99),
    some (.finite 100),some (.finite 1000),none⟩

def crowdedBars : PriceBars where
  intraday := PriceRepository.upsertIntraday Stamped.empty 1 barAtQuarterPast
  daily := Stamped.empty
  closed := by
    intro r hr
    obtain rfl := List.mem_singleton.mp hr
    exact Option.some_ne_none _

theorem hasClose_crowded :
    HasClose {} crowdedBars .after15m (observedAtTen 200 1) (.finite 100) := by
  refine ⟨⟨1,⟨1,barAtQuarterPast⟩⟩,⟨List.mem_singleton.mpr rfl,rfl,by decide,?_⟩,rfl⟩
  intro r hr _ _
  obtain rfl := List.mem_singleton.mp hr
  exact le_rfl

/-- With the rows in the order of their insertion, the bar at 10:15 does not reach the last observation in the
run at 10:20. -/
theorem crowdedTable_not_followedUp :
    let scans : ScanOrders := ⟨fun _ => .insertion _,.insertion _,.insertion _⟩
    let now := DateTime.ofUtc ⟨20000⟩ 620
    ¬FollowedUp {} crowdedBars now crowdedTable (runFollowup {} scans crowdedBars now crowdedTable).1 := by
  intro scans now hfollowed
  let last : Row MomentumAlertObservation := ⟨201,{ toNewObservation := observedAtTen 200 1 }⟩
  have hmem : last ∈ crowdedTable.rows := by
    have hnext : stuckTable.nextId = 201 := by decide +kernel
    rw [crowdedTable, Table.mem_insert, hnext]
    exact .inr rfl
  have hfilled := hfollowed.complete last hmem .after15m (.finite 100)
    (by unfold Elapsed; decide) hasClose_crowded
  obtain ⟨q,hq,hseen,hrun⟩ := runFollowup_row {} scans crowdedBars now hmem .after15m
  have hpicked : q ∉ picked scans now .after15m
      (before {} scans crowdedBars now .after15m crowdedTable) := by
    have hids : (((scans.observations .after15m).arrange
        ((before {} scans crowdedBars now .after15m crowdedTable).rows.filter
          (Waits .after15m now))).take awaitingLimit).all fun r => decide (r.id ≤ 200) := by
      decide +kernel
    intro hpicked
    rw [picked_eq] at hpicked
    have hid : q.id ≤ 200 := of_decide_eq_true (List.all_eq_true.mp hids q hpicked)
    have hlast : q.id = 201 := (Prod.mk.inj hseen).1
    omega
  rw [if_neg hpicked] at hrun
  cases hasPrice_unique hrun hfilled

end MarketScanner.Momentum
