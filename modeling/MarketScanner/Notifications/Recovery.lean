import MarketScanner.Notifications.Manager

/-! Restart recovery as a whole: which of the undelivered alerts `recover_pending` hands on. -/
namespace MarketScanner.Notifications
open MarketScanner.Library MarketScanner.Python MarketScanner.Config MarketScanner.Alerts
open MarketScanner.Decisions

/-- The rows that are PENDING or RETRYING. -/
def undelivered (store : AlertStore) : List (Row Alert) :=
  store.alerts.rows.filter fun r => [AlertStatus.pending,.retrying].contains r.val.status

namespace NotificationManager

/-- One call for each row of the list, in its order, whatever the deliveries do to the tables. -/
theorem deliverEach_calls (deliver : ℕ → AlertStore → Except PyException Unit × AlertStore)
    (pending : List (Row Alert)) (store : AlertStore) :
    (deliverEach deliver pending store).1 = pending.map Row.id := by
  induction pending generalizing store with
  | nil => rfl
  | cons alert rest ih =>
    rw [deliverEach]
    simp only [List.map_cons, ih]

section Recover
variable [Builtins] (settings : Settings) (router : NotificationRouter) (scan : ScanOrder (Row Alert))
  (outcomes : ℕ → ℕ → SendOutcome) (store : AlertStore)

/-- The ids that `recover_pending` passes to `deliver_now`, in order. -/
def recovered : List ℕ := (recoverPending settings router scan outcomes store).2.1

/-- The rows of `undelivered` in the order of the query, before its limit. -/
def recoveryOrder : List (Row Alert) :=
  orderBy scan (fun a b => a.val.createdAt ≤ b.val.createdAt) (undelivered store)

theorem recovered_eq :
    recovered settings router scan outcomes store =
      ((recoveryOrder scan store).take AlertRepository.defaultLimit).map Row.id := by
  rw [recovered, recoverPending, deliverEach_calls]
  rfl

omit [Builtins] in
theorem nodup_recoveryOrder : ((recoveryOrder scan store).map Row.id).Nodup := by
  have hperm : (recoveryOrder scan store).Perm (undelivered store) := orderBy_perm _ _ _
  have hrows : (store.alerts.rows.map Row.id).Nodup :=
    List.pairwise_map.mpr (store.alerts.ordered.imp fun h => Nat.ne_of_lt h)
  have hsub : ((undelivered store).map Row.id).Sublist (store.alerts.rows.map Row.id) :=
    List.Sublist.map _ List.filter_sublist
  exact (hperm.map Row.id).nodup_iff.mpr (hrows.sublist hsub)

/-- An id is passed on at most once. -/
theorem nodup_recovered : (recovered settings router scan outcomes store).Nodup := by
  rw [recovered_eq, List.map_take]
  exact (nodup_recoveryOrder scan store).sublist (List.take_sublist _ _)

/-- Being passed on is a matter of the row's place in the query's order. -/
theorem count_recovered_iff {r : Row Alert} (hr : r ∈ undelivered store) :
    (recovered settings router scan outcomes store).count r.id = 1 ↔
      r ∈ (recoveryOrder scan store).take AlertRepository.defaultLimit := by
  have hnodup := nodup_recovered settings router scan outcomes store
  constructor
  · intro hcount
    have hmem : r.id ∈ recovered settings router scan outcomes store :=
      List.count_pos_iff.mp (by omega)
    rw [recovered_eq] at hmem
    obtain ⟨r',hr',hid⟩ := List.mem_map.mp hmem
    have hrow : r ∈ store.alerts.rows := List.mem_of_mem_filter hr
    have hrow' : r' ∈ store.alerts.rows :=
      List.mem_of_mem_filter (mem_orderBy.mp (List.mem_of_mem_take hr'))
    rwa [← Table.eq_of_id hrow' hrow hid]
  · intro hmem
    apply List.count_eq_one_of_mem hnodup
    rw [recovered_eq]
    exact List.mem_map_of_mem hmem

/-- `recover_pending` passes every PENDING or RETRYING alert to `deliver_now` exactly once if and
only if they fit under the query's limit, whatever the deliveries do. -/
theorem recovered_all_iff :
    (∀ r ∈ undelivered store, (recovered settings router scan outcomes store).count r.id = 1) ↔
      (undelivered store).length ≤ AlertRepository.defaultLimit := by
  have hnodup : (recoveryOrder scan store).Nodup :=
    List.Nodup.of_map Row.id (nodup_recoveryOrder scan store)
  have hlength : (recoveryOrder scan store).length = (undelivered store).length :=
    length_orderBy _ _ _
  have htake := forall_mem_take_iff hnodup AlertRepository.defaultLimit
  rw [hlength] at htake
  rw [← htake]
  constructor
  · intro h r hr
    have hund : r ∈ undelivered store := mem_orderBy.mp hr
    exact (count_recovered_iff settings router scan outcomes store hund).mp (h r hund)
  · intro h r hr
    exact (count_recovered_iff settings router scan outcomes store hr).mpr
      (h r (mem_orderBy.mpr hr))

end Recover

/-- The `i`-th of a series of alerts created a minute apart, one for each symbol. -/
def pendingAlert (i : ℕ) : Alert where
  symbolId := i
  scannerName := "breakout_v1"
  signalType := "BREAKOUT"
  decision := .alert
  score := .finite 86
  quality := .medium
  entryReference := none
  breakoutLevel := none
  supportLevel := none
  resistanceLevel := none
  featureSnapshot := []
  reason := "all conditions met: "
  passedRules := []
  status := .pending
  fingerprint := toString i
  signalDate := Date.ofCivil 2026 1 6
  createdAt := DateTime.ofUtc (Date.ofCivil 2026 1 6) i
  expiresAt := none

def pendingStore (n : ℕ) : AlertStore :=
  ⟨(List.range n).foldl (fun t i => t.insert (pendingAlert i)) Table.empty,[],[]⟩

/-- With 201 pending alerts and every delivery raising, the last one is not passed on. -/
theorem alert_201_left_behind :
    ¬ ∀ r ∈ undelivered (pendingStore 201),
      (@recovered (Builtins.tabulated [] [] []) {} ⟨⟨"telegram","market"⟩,⟨"telegram","ipo"⟩,⟨"telegram","fno"⟩⟩
        (ScanOrder.insertion _) (fun _ _ => .raises) (pendingStore 201)).count r.id = 1 := by
  let _ := Builtins.tabulated [] [] []
  intro h
  obtain ⟨r,hr,hid⟩ : ∃ r ∈ undelivered (pendingStore 201), r.id = 201 := by decide +kernel
  have hcount := h r hr
  rw [hid, recovered_eq] at hcount
  revert hcount
  decide +kernel

end NotificationManager
end MarketScanner.Notifications
