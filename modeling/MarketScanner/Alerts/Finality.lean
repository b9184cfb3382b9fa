import MarketScanner.Alerts.InFlight

/-! EXPIRED and SENT as final statuses. The head of `deliver_now` and the select of the expiry job are
the only places that look at the stored status, so finality depends on what happens between these and the
writes that follow them. -/
namespace MarketScanner.Alerts
open MarketScanner.Library MarketScanner.Python MarketScanner.Config MarketScanner.Notifications

section Run
variable [Builtins] (settings : Settings) (router : NotificationRouter)

/-- Along `as`, an alert once stored EXPIRED keeps that status and is not handed to a provider, and
one stored SENT never becomes RETRYING, FAILED or EXPIRED. -/
structure FinalAlong (s : SystemState) (as : List SystemAction) : Prop where
  expired_stays : ∀ alertId, (lifecycle settings router).Since
    (fun t => t.statusOf alertId = some .expired) (fun t => t.statusOf alertId = some .expired) s as
  expired_unsent : ∀ alertId (pre mid : List SystemAction) (a : SystemAction)
    (post : List SystemAction) (t u v : SystemState), as = pre ++ (mid ++ a::post) →
    (lifecycle settings router).Run s pre t → t.statusOf alertId = some .expired →
    (lifecycle settings router).Run t mid u → (lifecycle settings router).step u a = some v →
    u.handed a ≠ some alertId
  sent_stays : ∀ alertId, (lifecycle settings router).Since
    (fun t => t.statusOf alertId = some .sent)
    (fun t => t.statusOf alertId ≠ some .retrying ∧ t.statusOf alertId ≠ some .failed ∧
      t.statusOf alertId ≠ some .expired) s as

/-- What a step finds stored when it sends, records an answer or expires rows: never EXPIRED before
a send, never EXPIRED before an answer is recorded and SENT only if the answer is a success, never
SENT before an expiry write. -/
structure RespectsFinal (s : SystemState) (a : SystemAction) (_ : SystemState) : Prop where
  send : ∀ alertId, s.handed a = some alertId → s.statusOf alertId ≠ some .expired
  record : ∀ d result, s.recorded a = some (d,result) → s.statusOf d.alertId ≠ some .expired ∧
    (s.statusOf d.alertId = some .sent → result.success = true)
  expire : ∀ alertId ∈ s.expiring a, s.statusOf alertId ≠ some .sent

/-- The status that a step leaves on an alert. -/
def nextStatus (s : SystemState) (a : SystemAction) (alertId : ℕ) (status : AlertStatus) :
    AlertStatus :=
  match s.recorded a with
  | some (d,result) =>
    if d.alertId = alertId then NotificationManager.verdict settings (d.attempt+1) result else status
  | none => if alertId ∈ s.expiring a then .expired else status

theorem statusOf_step {s t : SystemState} {a : SystemAction} {alertId : ℕ} {status : AlertStatus}
    (hstep : (lifecycle settings router).step s a = some t)
    (hs : s.statusOf alertId = some status) :
    t.statusOf alertId = some (nextStatus settings s a alertId status) := by
  have hcases := systemStep_alerts settings router hstep
  obtain ⟨r,hget,hr⟩ := Option.map_eq_some_iff.mp hs
  have hid : r.id = alertId := Table.id_of_get? hget
  simp only [SystemState.statusOf, AlertStore.statusOf] at hs ⊢
  generalize t.world.store.alerts = alerts at hcases
  cases hcases with
  | unchanged a hquiet hidle =>
    rw [hs]
    rcases hquiet with hnone | ⟨p,hp,hmissing⟩
    · simp [nextStatus, hnone, hidle]
    · have hne : p.1.alertId ≠ alertId := by
        rintro rfl
        rw [hmissing] at hget
        contradiction
      simp [nextStatus, hp, hne]
  | created =>
    rw [Table.get?_insert_of_some hget]
    simp [nextStatus, SystemState.recorded, SystemState.expiring, hr]
  | @recorded a d result hrec hidle =>
    rw [Table.modify, AlertRepository.status_writeStatus, hget]
    by_cases heq : d.alertId = alertId
    · simp [nextStatus, hrec, heq]
    · simp [nextStatus, hrec, heq, Ne.symm heq, hr]
  | expired hquiet =>
    rw [AlertRepository.status_writeStatus, hget]
    by_cases hin : alertId ∈ s.expiring a
    · simp [nextStatus, hquiet, hin]
    · simp [nextStatus, hquiet, hin, hr]

theorem expired_step {s t : SystemState} {a : SystemAction} (alertId : ℕ)
    (h : s.statusOf alertId = some .expired) (hres : RespectsFinal s a t)
    (hstep : (lifecycle settings router).step s a = some t) :
    t.statusOf alertId = some .expired := by
  rw [statusOf_step settings router hstep h]
  cases hrec : s.recorded a with
  | none => simp [nextStatus, hrec]
  | some p =>
    obtain ⟨d,result⟩ := p
    have hne : d.alertId ≠ alertId := by
      rintro rfl
      exact (hres.record d result hrec).1 h
    simp [nextStatus, hrec, hne]

theorem sent_step {s t : SystemState} {a : SystemAction} (alertId : ℕ)
    (h : s.statusOf alertId = some .sent) (hres : RespectsFinal s a t)
    (hstep : (lifecycle settings router).step s a = some t) :
    t.statusOf alertId = some .sent := by
  rw [statusOf_step settings router hstep h]
  cases hrec : s.recorded a with
  | none =>
    have hout : alertId ∉ s.expiring a := fun hin => hres.expire alertId hin h
    simp [nextStatus, hrec, hout]
  | some p =>
    obtain ⟨d,result⟩ := p
    by_cases heq : d.alertId = alertId
    · subst heq
      have hsuccess := (hres.record d result hrec).2 h
      simp [nextStatus, hrec, NotificationManager.verdict_eq_sent_iff.mpr hsuccess]
    · simp [nextStatus, hrec, heq]

/-- Each single step of a run along which the statuses are final respects them. -/
theorem FinalAlong.respects {s : SystemState} {as : List SystemAction}
    (h : FinalAlong settings router s as) :
    (lifecycle settings router).Steps RespectsFinal s as := by
  intro pre a post t u has hrun hstep
  refine ⟨?_,?_,?_⟩
  · intro alertId hhanded hexp
    exact h.expired_unsent alertId pre [] a post t t u has hrun hexp (Machine.Run.nil t) hstep
      hhanded
  · intro d result hrec
    refine ⟨fun hexp => ?_,fun hsent => ?_⟩
    · have hnext := (h.expired_stays d.alertId).step has hrun hstep hexp
      rw [statusOf_step settings router hstep hexp] at hnext
      simp only [nextStatus, hrec, if_true, Option.some.injEq] at hnext
      exact NotificationManager.verdict_ne_expired _ _ _ hnext
    · have hnext := (h.sent_stays d.alertId).step has hrun hstep hsent
      rw [statusOf_step settings router hstep hsent] at hnext
      simp only [nextStatus, hrec, if_true, ne_eq, Option.some.injEq] at hnext
      exact NotificationManager.success_of_verdict hnext.1 hnext.2.1
  · intro alertId hin hsent
    have hnext := (h.sent_stays alertId).step has hrun hstep hsent
    rw [statusOf_step settings router hstep hsent] at hnext
    simp [nextStatus, recorded_of_expiring hin, hin] at hnext

theorem finalAlong_iff_respects (s : SystemState) (as : List SystemAction) :
    FinalAlong settings router s as ↔ (lifecycle settings router).Steps RespectsFinal s as := by
  constructor
  · exact FinalAlong.respects settings router
  · intro h
    refine ⟨?_,?_,?_⟩
    · intro alertId
      exact h.since fun t a u hexp hres hstep => expired_step settings router alertId hexp hres hstep
    · rintro alertId pre mid a post t u v rfl hpre hexp hmid hstep hhanded
      have hlater := h.right hpre
      have hstays : u.statusOf alertId = some .expired :=
        hmid.invariant (fun t a u hexp hres hstep =>
          expired_step settings router alertId hexp hres hstep) hlater.left hexp
      exact (hlater rfl hmid hstep).send alertId hhanded hstays
    · intro alertId pre mid post t u has hpre hsent hmid
      have hstays : u.statusOf alertId = some .sent := h.since (fun t a u hs hres hstep =>
        sent_step settings router alertId hs hres hstep) has hpre hsent hmid
      rw [hstays]
      decide

/-- The step does not write EXPIRED to the alert. -/
def NotExpiring (alertId : ℕ) (s : SystemState) (a : SystemAction) (_ : SystemState) : Prop :=
  alertId ∉ s.expiring a

/-- The step does not write SENT to the alert. -/
def NotDelivering (alertId : ℕ) (s : SystemState) (a : SystemAction) (_ : SystemState) : Prop :=
  ∀ d result, s.recorded a = some (d,result) → d.alertId = alertId → result.success = false

/-- What other calls and jobs leave alone along `as`. A delivery that sends or writes read the alert as
not EXPIRED, and no job expires it meanwhile; where it writes a failure, no other delivery succeeds
meanwhile; and no delivery of a row succeeds between an expiry job's select of it and its write. -/
structure Undisturbed (s : SystemState) (as : List SystemAction) : Prop where
  unexpired : ∀ call alertId, (lifecycle settings router).Windows (InFlight call alertId)
    (fun t t' mid _ b => b = .record call ∨ (∃ result, b = .send call result) →
      t.statusOf alertId ≠ some .expired ∧
        (lifecycle settings router).Steps (NotExpiring alertId) t' mid) s as
  failures : ∀ call alertId, (lifecycle settings router).Windows (InFlight call alertId)
    (fun _ t' mid u b => b = .record call →
      (∃ d result, u.recorded b = some (d,result) ∧ result.success = false) →
      (lifecycle settings router).Steps (NotDelivering alertId) t' mid) s as
  expiries : ∀ job ids, (lifecycle settings router).Windows (Selected job ids)
    (fun _ t' mid _ b => b = .expiryWrite job → ∀ alertId ∈ ids,
      (lifecycle settings router).Steps (NotDelivering alertId) t' mid) s as

theorem storedNot_expired_step {s t : SystemState} {a : SystemAction} (alertId : ℕ)
    (h : StoredNot .expired alertId s.world.store) (hnot : NotExpiring alertId s a t)
    (hstep : (lifecycle settings router).step s a = some t) :
    StoredNot .expired alertId t.world.store := by
  obtain ⟨status,hs,hne⟩ := h
  refine ⟨_,statusOf_step settings router hstep hs,?_⟩
  unfold nextStatus
  split
  · split
    · exact NotificationManager.verdict_ne_expired _ _ _
    · exact hne
  · rw [if_neg hnot]
    exact hne

theorem storedNot_sent_step {s t : SystemState} {a : SystemAction} (alertId : ℕ)
    (h : StoredNot .sent alertId s.world.store) (hnot : NotDelivering alertId s a t)
    (hstep : (lifecycle settings router).step s a = some t) :
    StoredNot .sent alertId t.world.store := by
  obtain ⟨status,hs,hne⟩ := h
  refine ⟨_,statusOf_step settings router hstep hs,?_⟩
  unfold nextStatus
  split
  · rename_i d result hrec
    split
    · rename_i heq
      rw [ne_eq, NotificationManager.verdict_eq_sent_iff, hnot d result hrec heq]
      decide
    · exact hne
  · split
    · decide
    · exact hne

omit [Builtins] in
theorem not_statusOf_of_storedNot {s : SystemState} {status : AlertStatus} {alertId : ℕ}
    (h : StoredNot status alertId s.world.store) : s.statusOf alertId ≠ some status := by
  obtain ⟨stored,hstored,hne⟩ := h
  rw [SystemState.statusOf, hstored]
  simpa using hne

theorem notExpiring_of_statusOf {s t : SystemState} {a : SystemAction} {alertId : ℕ}
    {status : AlertStatus} (hs : s.statusOf alertId = some status)
    (hstep : (lifecycle settings router).step s a = some t)
    (ht : t.statusOf alertId ≠ some .expired) : NotExpiring alertId s a t := by
  intro hin
  apply ht
  rw [statusOf_step settings router hstep hs]
  simp [nextStatus, recorded_of_expiring hin, hin]

theorem notDelivering_of_statusOf {s t : SystemState} {a : SystemAction} {alertId : ℕ}
    {status : AlertStatus} (hs : s.statusOf alertId = some status)
    (hstep : (lifecycle settings router).step s a = some t)
    (ht : t.statusOf alertId ≠ some .sent) : NotDelivering alertId s a t := by
  intro d result hrec heq
  rw [statusOf_step settings router hstep hs] at ht
  rw [← Bool.not_eq_true]
  intro hsuccess
  apply ht
  simp [nextStatus, hrec, heq, NotificationManager.verdict_eq_sent_iff.mpr hsuccess]

section Respects
variable {settings router} {world : AlertWorld} {pre post : List SystemAction} {b : SystemAction}
  {u v : SystemState}

theorem Undisturbed.unexpired_at
    (h : Undisturbed settings router (.idle world) (pre ++ b::post))
    (hrun : (lifecycle settings router).Run (.idle world) pre u)
    (hstep : (lifecycle settings router).step u b = some v) {call alertId : ℕ}
    (hflight : InFlight call alertId u) (hb : b = .record call ∨ ∃ result, b = .send call result) :
    u.statusOf alertId ≠ some .expired := by
  have hunread : ¬ InFlight call alertId (.idle world) := fun hidle => by contradiction
  obtain ⟨a,mid,t,t',before,-,-,ht,hopen,hmid,ht',hwindow⟩ :=
    (h.unexpired call alertId).at_step hunread hrun hflight hstep
  obtain ⟨hread,hmeanwhile⟩ := hwindow hb
  obtain ⟨hworld,status,hstatus,-⟩ := opened_delivery hopen ht ht'
  have hstart : StoredNot .expired alertId t'.world.store := by
    refine ⟨status,hstatus,?_⟩
    rintro rfl
    rw [hworld] at hstatus
    exact hread hstatus
  exact not_statusOf_of_storedNot (hmid.invariant (fun s a t hs hnot hst =>
    storedNot_expired_step settings router alertId hs hnot hst) hmeanwhile hstart)

theorem Undisturbed.unsent_at {call : ℕ}
    (h : Undisturbed settings router (.idle world) (pre ++ .record call::post))
    (hrun : (lifecycle settings router).Run (.idle world) pre u)
    (hstep : (lifecycle settings router).step u (.record call) = some v) {d : Delivery}
    {result : DeliveryResult} (hflight : InFlight call d.alertId u)
    (hrec : u.recorded (.record call) = some (d,result)) (hfailure : result.success = false) :
    u.statusOf d.alertId ≠ some .sent := by
  have hunread : ¬ InFlight call d.alertId (.idle world) := fun hidle => by contradiction
  obtain ⟨a,mid,t,t',before,-,-,ht,hopen,hmid,ht',hwindow⟩ :=
    (h.failures call d.alertId).at_step hunread hrun hflight hstep
  have hstart := (opened_delivery hopen ht ht').2
  exact not_statusOf_of_storedNot (hmid.invariant (fun s a t hs hnot hst =>
    storedNot_sent_step settings router d.alertId hs hnot hst)
    (hwindow rfl ⟨d,result,hrec,hfailure⟩) hstart)

theorem Undisturbed.unsent_at_expiry {job : ℕ}
    (h : Undisturbed settings router (.idle world) (pre ++ .expiryWrite job::post))
    (hrun : (lifecycle settings router).Run (.idle world) pre u)
    (hstep : (lifecycle settings router).step u (.expiryWrite job) = some v) {ids : List ℕ}
    (hselected : Selected job ids u) {alertId : ℕ} (hin : alertId ∈ ids) :
    u.statusOf alertId ≠ some .sent := by
  have hunread : ¬ Selected job ids (.idle world) := fun hidle => by contradiction
  obtain ⟨a,mid,t,t',before,-,-,ht,hopen,hmid,ht',hwindow⟩ :=
    (h.expiries job ids).at_step hunread hrun hselected hstep
  have hstart := opened_expiry hopen ht ht' alertId hin
  exact not_statusOf_of_storedNot (hmid.invariant (fun s a t hs hnot hst =>
    storedNot_sent_step settings router alertId hs hnot hst) (hwindow rfl alertId hin) hstart)

theorem Undisturbed.respects {as : List SystemAction}
    (h : Undisturbed settings router (.idle world) as) :
    (lifecycle settings router).Steps RespectsFinal (.idle world) as := by
  rintro pre b post u v rfl hrun hstep
  refine ⟨?_,?_,?_⟩
  · intro alertId hhanded
    obtain ⟨call,result,rfl,hflight⟩ := inFlight_of_handed hhanded
    exact h.unexpired_at hrun hstep hflight (Or.inr ⟨result,rfl⟩)
  · intro d result hrec
    obtain ⟨call,rfl,hflight⟩ := inFlight_of_recorded hrec
    refine ⟨h.unexpired_at hrun hstep hflight (Or.inl rfl),fun hsent => ?_⟩
    by_contra hfailure
    exact h.unsent_at hrun hstep hflight hrec (by simpa using hfailure) hsent
  · intro alertId hin
    obtain ⟨job,ids,rfl,hselected,hmem⟩ := selected_of_expiring hin
    exact h.unsent_at_expiry hrun hstep hselected hmem

/-- A status that respecting steps keep and that an alert does not have in the end was not written to it
on the way. -/
theorem unwritten_of_respects {status final : AlertStatus} {alertId : ℕ}
    {P : SystemState → SystemAction → SystemState → Prop} {s : SystemState} {as : List SystemAction}
    (hkeeps : ∀ s a t, s.statusOf alertId = some final → RespectsFinal s a t →
      (lifecycle settings router).step s a = some t → t.statusOf alertId = some final)
    (hwrites : ∀ s a t stored, s.statusOf alertId = some stored →
      (lifecycle settings router).step s a = some t → t.statusOf alertId ≠ some final → P s a t)
    (h : (lifecycle settings router).Steps RespectsFinal s as)
    (hrun : (lifecycle settings router).Run s as u) (hs : s.statusOf alertId = some status)
    (hu : u.statusOf alertId ≠ some final) : (lifecycle settings router).Steps P s as := by
  have hnever := h.avoids hkeeps hrun hu
  refine hnever.imp (I := fun s => ∃ stored, s.statusOf alertId = some stored) ?_ ?_ ⟨status,hs⟩
  · rintro s a t ⟨stored,hstored⟩ - hstep
    exact ⟨_,statusOf_step settings router hstep hstored⟩
  · rintro s a t ⟨stored,hstored⟩ hnot hstep
    exact hwrites s a t stored hstored hstep hnot

/-- Where every step respects the final statuses, nothing disturbs a delivery or an expiry job. -/
theorem undisturbed_of_respects {s : SystemState} {as : List SystemAction}
    (h : (lifecycle settings router).Steps RespectsFinal s as) : Undisturbed settings router s as := by
  refine ⟨?_,?_,?_⟩
  · rintro call alertId pre a mid b post t t' u v rfl hpre ht hopen hmid hopened hstep hb
    have hafter := h.right hpre
    have hrespects := (hafter.tail hopen).left
    have hflight : InFlight call alertId u := hopened.last hmid
    have hu : u.statusOf alertId ≠ some .expired := by
      have hlast := (hafter.tail hopen).right hmid
      obtain rfl | ⟨result,rfl⟩ := hb
      · obtain ⟨d,result,hrec,rfl⟩ := recorded_of_inFlight hstep hflight
        exact ((hlast.head hstep).record d result hrec).1
      · exact (hlast.head hstep).send alertId hflight
    obtain ⟨hworld,status,hstatus,-⟩ := opened_delivery hopen ht (hopened rfl (Machine.Run.nil t'))
    refine ⟨fun hexpired => ?_,?_⟩
    · have hstart := expired_step settings router alertId hexpired (hafter.head hopen) hopen
      exact hu (hmid.invariant (fun s a t hexp hres hst =>
        expired_step settings router alertId hexp hres hst) hrespects hstart)
    · exact unwritten_of_respects (fun s a t => expired_step settings router alertId)
        (fun s a t stored => notExpiring_of_statusOf settings router) hrespects hmid hstatus hu
  · rintro call alertId pre a mid b post t t' u v rfl hpre ht hopen hmid hopened hstep rfl
      ⟨d,result,hrec,hfailure⟩
    have hafter := h.right hpre
    have hlast := ((hafter.tail hopen).right hmid).head hstep
    obtain ⟨d',result',hrec',hid⟩ := recorded_of_inFlight hstep (hopened.last hmid)
    obtain ⟨rfl,rfl⟩ := Prod.mk.inj (Option.some.inj (hrec.symm.trans hrec'))
    subst hid
    have hu : u.statusOf d.alertId ≠ some .sent := by
      intro hsent
      rw [(hlast.record d result hrec).2 hsent] at hfailure
      contradiction
    obtain ⟨-,status,hstatus,-⟩ := opened_delivery hopen ht (hopened rfl (Machine.Run.nil t'))
    exact unwritten_of_respects (fun s a t => sent_step settings router d.alertId)
      (fun s a t stored => notDelivering_of_statusOf settings router) (hafter.tail hopen).left hmid
      hstatus hu
  · rintro job ids pre a mid b post t t' u v rfl hpre ht hopen hmid hopened hstep rfl alertId hin
    have hafter := h.right hpre
    have hselected : Selected job ids u := hopened.last hmid
    have hu : u.statusOf alertId ≠ some .sent :=
      (((hafter.tail hopen).right hmid).head hstep).expire alertId (by
        simpa [SystemState.expiring, show u.expiries job = some ids from hselected] using hin)
    obtain ⟨status,hstatus,-⟩ :=
      opened_expiry hopen ht (hopened rfl (Machine.Run.nil t')) alertId hin
    exact unwritten_of_respects (fun s a t => sent_step settings router alertId)
      (fun s a t stored => notDelivering_of_statusOf settings router) (hafter.tail hopen).left hmid
      hstatus hu

end Respects

/-- EXPIRED and SENT are final along a run exactly when nothing disturbs its deliveries and expiry jobs
between what they read and what they write. -/
theorem finalAlong_iff (world : AlertWorld) (as : List SystemAction) :
    FinalAlong settings router (.idle world) as ↔ Undisturbed settings router (.idle world) as := by
  rw [finalAlong_iff_respects]
  exact ⟨undisturbed_of_respects,Undisturbed.respects⟩

end Run

/-- An alert is created and expires while its id waits in the queue. -/
def expiryRun : List SystemAction :=
  [processAt 270,.expirySelect 0 (DateTime.ofUtc sampleDay 510),.expiryWrite 0]

/-- The worker then takes the id from the queue and delivers it. -/
def lateDelivery : List SystemAction := [.queueGet,.deliverNow 0 1,.send 0 delivered,.record 0]

theorem lateDelivery_not_final :
    ¬ @FinalAlong sampleBuiltins {} sampleRouter SystemState.empty (expiryRun ++ lateDelivery) := by
  let _ := sampleBuiltins
  intro h
  obtain ⟨t,hexpiry,hexpired⟩ := Machine.exists_run_of_exec (lifecycle {} sampleRouter)
    SystemState.empty expiryRun (fun t => t.statusOf 1 == some .expired) (by decide +kernel)
  obtain ⟨u,hall,hsent⟩ := Machine.exists_run_of_exec (lifecycle {} sampleRouter)
    SystemState.empty (expiryRun ++ lateDelivery) (fun t => t.statusOf 1 == some .sent)
    (by decide +kernel)
  obtain ⟨t',hexpiry',hlate⟩ := hall.split
  obtain rfl := hexpiry.functional hexpiry'
  have hwhole : expiryRun ++ lateDelivery = expiryRun ++ (lateDelivery ++ []) := by
    rw [List.append_nil]
  have hstays : u.statusOf 1 = some .expired :=
    h.expired_stays 1 hwhole hexpiry (beq_iff_eq.mp hexpired) hlate
  rw [beq_iff_eq.mp hsent] at hstays
  contradiction

end MarketScanner.Alerts
