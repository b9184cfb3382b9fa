import MarketScanner.Alerts.Lifecycle

/-! What a delivery or an expiry job in flight rests on: the statuses that its own first session found
stored. -/
namespace MarketScanner.Alerts
open MarketScanner.Library MarketScanner.Python MarketScanner.Config MarketScanner.Notifications
open MarketScanner.Scheduler

/-- The call is between its read of the alert and its last write. -/
def InFlight (call alertId : ℕ) (s : SystemState) : Prop :=
  (s.deliveries call).map Delivery.alertId = some alertId

/-- The expiry job has selected the rows and not yet written them. -/
def Selected (job : ℕ) (ids : List ℕ) (s : SystemState) : Prop := s.expiries job = some ids

theorem inFlight_setDelivery (s : SystemState) (call other alertId : ℕ) (d : Option Delivery) :
    InFlight call alertId (s.setDelivery other d) ↔
      if call = other then d.map Delivery.alertId = some alertId else InFlight call alertId s := by
  by_cases hcall : call = other
  · simp [InFlight, SystemState.setDelivery, hcall]
  · simp [InFlight, SystemState.setDelivery, hcall]

theorem selected_setExpiry (s : SystemState) (job other : ℕ) (ids : List ℕ) (rows : Option (List ℕ)) :
    Selected job ids (s.setExpiry other rows) ↔
      if job = other then rows = some ids else Selected job ids s := by
  by_cases hjob : job = other
  · simp [Selected, SystemState.setExpiry, hjob]
  · simp [Selected, SystemState.setExpiry, hjob]

section Step
variable [Builtins] {settings : Settings} {router : NotificationRouter} {s t : SystemState}
  {a : SystemAction}

omit [Builtins] in
theorem inFlight_recordStep {call other alertId : ℕ} {d : Delivery} {result : DeliveryResult}
    (hother : s.deliveries other = some d)
    (h : InFlight call alertId (recordStep settings s other d result)) : InFlight call alertId s := by
  have hsame : ∀ next : Option Delivery, (∀ d' ∈ next, d'.alertId = d.alertId) →
      ∀ s' : SystemState, s'.deliveries = s.deliveries →
      InFlight call alertId (s'.setDelivery other next) → InFlight call alertId s := by
    intro next hnext s' hs' hflight
    rw [inFlight_setDelivery] at hflight
    split at hflight
    case isTrue hcall =>
      subst hcall
      obtain ⟨d',hd',hid⟩ := Option.map_eq_some_iff.mp hflight
      simp [InFlight, hother, ← hid, hnext d' hd']
    case isFalse => simpa only [InFlight, hs'] using hflight
  unfold recordStep at h
  split at h
  · exact hsame none (by simp) _ rfl h
  · exact hsame _ (by simp) _ rfl h
  · exact hsame none (by simp) _ rfl h

omit [Builtins] in
theorem selected_recordStep {job other : ℕ} {ids : List ℕ} {d : Delivery} {result : DeliveryResult} :
    Selected job ids (recordStep settings s other d result) ↔ Selected job ids s := by
  unfold recordStep
  split <;> rfl

/-- A call is in flight for an alert only through `deliver_now` having found it stored and not SENT, and
an expiry job holds rows only through its select having found them stale. -/
theorem flights_step (hstep : (lifecycle settings router).step s a = some t) :
    (∀ call alertId, InFlight call alertId t → InFlight call alertId s ∨ t.world = s.world ∧
      ∃ provider, NotificationManager.openDelivery router s.world.store alertId = some provider) ∧
    (∀ job ids, Selected job ids t → Selected job ids s ∨ t.world = s.world ∧
      ∃ now, ids = (AlertRepository.staleAlerts s.world.store now).map Row.id) := by
  cases systemStep_move settings router hstep with
  | process | queueGet => exact ⟨fun _ _ h => Or.inl h,fun _ _ h => Or.inl h⟩
  | deliverNow other alertId' =>
    refine ⟨fun call alertId h => ?_,fun _ _ h => Or.inl h⟩
    rw [inFlight_setDelivery] at h
    split at h
    · rw [Option.map_map] at h
      obtain ⟨provider,hopen,rfl⟩ := Option.map_eq_some_iff.mp h
      exact Or.inr ⟨rfl,provider,hopen⟩
    · exact Or.inl h
  | send other d alert result hother =>
    refine ⟨fun call alertId h => Or.inl ?_,fun _ _ h => Or.inl h⟩
    rw [inFlight_setDelivery] at h
    split at h
    case isTrue hcall => simpa [InFlight, hcall, hother] using h
    case isFalse => exact h
  | record other d result hother =>
    exact ⟨fun _ _ h => Or.inl (inFlight_recordStep hother h),
      fun _ _ h => Or.inl (selected_recordStep.mp h)⟩
  | leave other =>
    refine ⟨fun call alertId h => ?_,fun _ _ h => Or.inl h⟩
    rw [inFlight_setDelivery] at h
    split at h
    · contradiction
    · exact Or.inl h
  | expirySelect other now =>
    refine ⟨fun _ _ h => Or.inl h,fun job ids h => ?_⟩
    rw [selected_setExpiry] at h
    split at h
    · exact Or.inr ⟨rfl,now,(Option.some.inj h).symm⟩
    · exact Or.inl h
  | expiryWrite other | expiryAbort other =>
    refine ⟨fun _ _ h => Or.inl h,fun job ids h => ?_⟩
    rw [selected_setExpiry] at h
    split at h
    · contradiction
    · exact Or.inl h

end Step

/-- The alert is stored with a status other than the given one. -/
def StoredNot (status : AlertStatus) (alertId : ℕ) (store : AlertStore) : Prop :=
  ∃ stored, store.statusOf alertId = some stored ∧ stored ≠ status

theorem inFlight_of_handed {s : SystemState} {a : SystemAction} {alertId : ℕ}
    (h : s.handed a = some alertId) :
    ∃ call result, a = .send call result ∧ InFlight call alertId s := by
  cases a with
  | send call result => exact ⟨call,result,rfl,h⟩
  | _ => contradiction

theorem inFlight_of_recorded {s : SystemState} {a : SystemAction} {d : Delivery}
    {result : DeliveryResult} (h : s.recorded a = some (d,result)) :
    ∃ call, a = .record call ∧ InFlight call d.alertId s := by
  cases a with
  | record call =>
    obtain ⟨d',hd',hanswer⟩ := Option.bind_eq_some_iff.mp h
    obtain ⟨result',-,heq⟩ := Option.map_eq_some_iff.mp hanswer
    obtain ⟨rfl,-⟩ := Prod.mk.inj heq
    exact ⟨call,rfl,by simp [InFlight, hd']⟩
  | _ => contradiction

theorem selected_of_expiring {s : SystemState} {a : SystemAction} {alertId : ℕ}
    (h : alertId ∈ s.expiring a) :
    ∃ job ids, a = .expiryWrite job ∧ Selected job ids s ∧ alertId ∈ ids := by
  cases a with
  | expiryWrite job =>
    cases hids : s.expiries job with
    | none => simp [SystemState.expiring, hids] at h
    | some ids => exact ⟨job,ids,rfl,hids,by simpa [SystemState.expiring, hids] using h⟩
  | _ => contradiction

theorem storedNot_of_openDelivery {router : NotificationRouter} {store : AlertStore} {alertId : ℕ}
    {provider : NotificationProvider}
    (h : NotificationManager.openDelivery router store alertId = some provider) :
    StoredNot .sent alertId store := by
  unfold NotificationManager.openDelivery AlertRepository.getById at h
  split at h
  · contradiction
  · rename_i r hget
    split at h
    · contradiction
    · rename_i hsent
      exact ⟨r.val.status,by simp [AlertStore.statusOf, hget],hsent⟩

theorem storedNot_of_mem_staleAlerts {store : AlertStore} {now : DateTime} {alertId : ℕ}
    (h : alertId ∈ (AlertRepository.staleAlerts store now).map Row.id) :
    StoredNot .sent alertId store := by
  obtain ⟨r,hr,rfl⟩ := List.mem_map.mp h
  obtain ⟨hmem,hstale⟩ := List.mem_filter.mp hr
  have hget : store.alerts.get? r.id = some r := Table.get?_eq_some_iff.mpr ⟨hmem,rfl⟩
  refine ⟨r.val.status,by simp [AlertStore.statusOf, hget],?_⟩
  rintro hsent
  simp [hsent] at hstale

section Opening
variable [Builtins] {settings : Settings} {router : NotificationRouter} {s t : SystemState}
  {a : SystemAction}

/-- A delivery starts from an alert stored with another status than SENT, and changes nothing yet. -/
theorem opened_delivery {call alertId : ℕ} (hstep : (lifecycle settings router).step s a = some t)
    (hs : ¬ InFlight call alertId s) (ht : InFlight call alertId t) :
    t.world = s.world ∧ StoredNot .sent alertId t.world.store := by
  obtain hbefore | ⟨hworld,provider,hprovider⟩ := (flights_step hstep).1 call alertId ht
  · contradiction
  · rw [hworld]
    exact ⟨rfl,storedNot_of_openDelivery hprovider⟩

/-- An expiry job starts from rows stored with another status than SENT. -/
theorem opened_expiry {job : ℕ} {ids : List ℕ}
    (hstep : (lifecycle settings router).step s a = some t) (hs : ¬ Selected job ids s)
    (ht : Selected job ids t) : ∀ alertId ∈ ids, StoredNot .sent alertId t.world.store := by
  obtain hbefore | ⟨hworld,now,rfl⟩ := (flights_step hstep).2 job ids ht
  · contradiction
  · rw [hworld]
    exact fun alertId => storedNot_of_mem_staleAlerts

/-- The answer that a delivery in flight writes. -/
theorem recorded_of_inFlight {call alertId : ℕ}
    (hstep : (lifecycle settings router).step s (.record call) = some t)
    (hs : InFlight call alertId s) :
    ∃ d result, s.recorded (.record call) = some (d,result) ∧ d.alertId = alertId := by
  have hmove : SystemMove settings router s (.record call) t := systemStep_move settings router hstep
  cases hmove with
  | record _ d result hcall hanswer =>
    exact ⟨d,result,by simp [SystemState.recorded, hcall, hanswer],by simpa [InFlight, hcall] using hs⟩

end Opening
end MarketScanner.Alerts
