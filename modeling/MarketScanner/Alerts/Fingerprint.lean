import MarketScanner.Alerts.Lifecycle

/-! The invariant behind the fingerprint check: at most one row of a fingerprint is live. It is kept
by every step except a delivery that writes to an EXPIRED row which a newer one has replaced. -/
namespace MarketScanner.Alerts
open MarketScanner.Library MarketScanner.Python MarketScanner.Config MarketScanner.Notifications

def AtMostOneLive (alerts : Table Alert) : Prop :=
  ∀ r ∈ alerts.rows, ∀ r' ∈ alerts.rows, r.val.fingerprint = r'.val.fingerprint →
    r.val.status ≠ .expired → r'.val.status ≠ .expired → r.id = r'.id

instance (alerts : Table Alert) : Decidable (AtMostOneLive alerts) := by
  unfold AtMostOneLive
  infer_instance

/-- What creation relies on: it looks at the newest row of a fingerprint only, so every older one
has to be EXPIRED. -/
def OnlyNewestLive (alerts : Table Alert) : Prop :=
  ∀ r ∈ alerts.rows, ∀ r' ∈ alerts.rows, r.val.fingerprint = r'.val.fingerprint →
    r.id < r'.id → r.val.status = .expired

theorem OnlyNewestLive.atMostOneLive {alerts : Table Alert} (h : OnlyNewestLive alerts) :
    AtMostOneLive alerts := by
  intro r hr r' hr' hfp hlive hlive'
  rcases Nat.lt_trichotomy r.id r'.id with hlt | heq | hgt
  · exact absurd (h r hr r' hr' hfp hlt) hlive
  · exact heq
  · exact absurd (h r' hr' r hr hfp.symm hgt) hlive'

/-- An EXPIRED row whose fingerprint has a newer row. -/
def Superseded (alerts : Table Alert) (alertId : ℕ) : Prop :=
  ∃ r ∈ alerts.rows, r.id = alertId ∧ r.val.status = .expired ∧
    ∃ r' ∈ alerts.rows, r'.val.fingerprint = r.val.fingerprint ∧ alertId < r'.id

/-- The step writes no delivery outcome to a superseded row. -/
def NoRevival (s : SystemState) (a : SystemAction) (_ : SystemState) : Prop :=
  ∀ p, s.recorded a = some p → ¬ Superseded s.world.store.alerts p.1.alertId

instance (alerts : Table Alert) (alertId : ℕ) : Decidable (Superseded alerts alertId) := by
  unfold Superseded
  infer_instance

instance (s : SystemState) (a : SystemAction) (t : SystemState) : Decidable (NoRevival s a t) :=
  inferInstanceAs (Decidable (∀ p ∈ s.recorded a, ¬ Superseded s.world.store.alerts p.1.alertId))

/-- A status write keeps the invariant when it leaves superseded rows EXPIRED. -/
theorem OnlyNewestLive.writeStatus {alerts : Table Alert} (h : OnlyNewestLive alerts)
    (q : ℕ → Bool) (status : AlertStatus)
    (hwrite : ∀ i, q i = true → Superseded alerts i → status = .expired) :
    OnlyNewestLive (alerts.modifyWhere q fun a => a.withStatus status) := by
  intro r hr r' hr' hfp hlt
  obtain ⟨r₀,hr₀,hid,hval,hcase⟩ := AlertRepository.mem_writeStatus hr
  obtain ⟨r₁,hr₁,hid',hval',-⟩ := AlertRepository.mem_writeStatus hr'
  have hsame : r.val.fingerprint = r₀.val.fingerprint := by
    rw [hval, Alert.withStatus_fingerprint]
  have hsame' : r'.val.fingerprint = r₁.val.fingerprint := by
    rw [hval', Alert.withStatus_fingerprint]
  have hfp₀ : r₀.val.fingerprint = r₁.val.fingerprint := by rw [← hsame, ← hsame', hfp]
  have hlt₀ : r₀.id < r₁.id := by omega
  have hold : r₀.val.status = .expired := h r₀ hr₀ r₁ hr₁ hfp₀ hlt₀
  rcases hcase with ⟨hq,hstatus⟩ | ⟨-,rfl⟩
  · rw [hstatus]
    refine hwrite r.id hq ⟨r₀,hr₀,hid,hold,r₁,hr₁,hfp₀.symm,?_⟩
    omega
  · exact hold

/-- A new row keeps the invariant when every row of its fingerprint is EXPIRED. -/
theorem OnlyNewestLive.insert {alerts : Table Alert} (h : OnlyNewestLive alerts) (alert : Alert)
    (hexp : ∀ r ∈ alerts.rows, r.val.fingerprint = alert.fingerprint → r.val.status = .expired) :
    OnlyNewestLive (alerts.insert alert) := by
  intro r hr r' hr' hfp hlt
  rcases Table.mem_insert.mp hr with hr | rfl
  · rcases Table.mem_insert.mp hr' with hr' | rfl
    · exact h r hr r' hr' hfp hlt
    · exact hexp r hr hfp
  · rcases Table.mem_insert.mp hr' with hr' | rfl
    · have hbelow := alerts.below r' hr'
      simp only at hlt
      omega
    · exact absurd hlt (Nat.lt_irrefl _)

/-- Under the invariant the check of the newest row speaks for all rows of the fingerprint. -/
theorem OnlyNewestLive.all_expired {store : AlertStore} (h : OnlyNewestLive store.alerts)
    {fingerprint : String}
    (hdedup : AlertRepository.getByFingerprint store fingerprint = none ∨
      ∃ r, AlertRepository.getByFingerprint store fingerprint = some r ∧ r.val.status = .expired) :
    ∀ r ∈ store.alerts.rows, r.val.fingerprint = fingerprint → r.val.status = .expired := by
  intro r hr hfp
  rcases hdedup with hnone | ⟨newest,hnewest,hexp⟩
  · have hmiss := Table.latest_eq_none_iff.mp hnone r hr
    simp [hfp] at hmiss
  · obtain ⟨hmem,hp,hmax⟩ := Table.latest_eq_some hnewest
    have hfp' : newest.val.fingerprint = fingerprint := by simpa using hp
    have hle : r.id ≤ newest.id := hmax r hr (by simpa using hfp)
    rcases Nat.lt_or_eq_of_le hle with hlt | heq
    · exact h r hr newest hmem (by rw [hfp, hfp']) hlt
    · rwa [Table.eq_of_id hr hmem heq]

section Run
variable [Builtins] (settings : Settings) (router : NotificationRouter)

theorem onlyNewestLive_step (s : SystemState) (a : SystemAction) (t : SystemState)
    (h : OnlyNewestLive s.world.store.alerts) (hrev : NoRevival s a t)
    (hstep : (lifecycle settings router).step s a = some t) :
    OnlyNewestLive t.world.store.alerts := by
  have hcases := systemStep_alerts settings router hstep
  generalize t.world.store.alerts = alerts at hcases
  cases hcases with
  | unchanged => exact h
  | created quality levels halert hadm => exact h.insert _ (h.all_expired hadm.dedup)
  | recorded hrec hidle =>
    refine h.writeStatus _ _ fun i hq hsup => ?_
    obtain rfl := beq_iff_eq.mp hq
    exact absurd hsup (hrev _ hrec)
  | expired hquiet => exact h.writeStatus _ _ fun _ _ _ => rfl

/-- Along every run in which no delivery writes to a superseded row, no two rows of one fingerprint
are live, whatever is interleaved and whatever the providers answer. -/
theorem atMostOneLive_throughout {as : List SystemAction}
    (h : (lifecycle settings router).Steps NoRevival SystemState.empty as) :
    (lifecycle settings router).Throughout (fun s => AtMostOneLive s.world.store.alerts)
      SystemState.empty as := by
  intro pre post t has hrun
  have hinv := h.throughout (I := fun s => OnlyNewestLive s.world.store.alerts)
    (onlyNewestLive_step settings router) (by intro r hr; cases hr)
  exact (hinv has hrun).atMostOneLive

end Run

/-- An alert expires undelivered, a second one of the same fingerprint is created and delivered. -/
def renewalRun : List SystemAction :=
  [processAt 270,.queueGet,.expirySelect 0 (DateTime.ofUtc sampleDay 510),.expiryWrite 0,
    processAt 511,.queueGet,.deliverNow 0 2,.send 0 delivered,.record 0]

theorem atMostOneLive_renewalRun :
    (∃ t, (@lifecycle sampleBuiltins {} sampleRouter).Run SystemState.empty renewalRun t) ∧
      (@lifecycle sampleBuiltins {} sampleRouter).Throughout
        (fun s => AtMostOneLive s.world.store.alerts) SystemState.empty renewalRun := by
  let _ := sampleBuiltins
  constructor
  · obtain ⟨t,hrun,-⟩ := Machine.exists_run_of_exec (lifecycle {} sampleRouter) SystemState.empty
      renewalRun (fun _ => true) (by decide +kernel)
    exact ⟨t,hrun⟩
  · apply atMostOneLive_throughout
    apply Machine.steps_of_check
    decide +kernel

/-- The first alert waits in the queue past its expiry, a second one of the same fingerprint is
created, and only then is the first delivered. -/
def revivalRun : List SystemAction :=
  [processAt 270,.expirySelect 0 (DateTime.ofUtc sampleDay 510),.expiryWrite 0,processAt 511,
    .queueGet,.deliverNow 0 1,.send 0 delivered,.record 0]

theorem revivalRun_two_live :
    ∃ t, (@lifecycle sampleBuiltins {} sampleRouter).Run SystemState.empty revivalRun t ∧
      ¬ AtMostOneLive t.world.store.alerts := by
  let _ := sampleBuiltins
  obtain ⟨t,hrun,hlive⟩ := Machine.exists_run_of_exec (lifecycle {} sampleRouter)
    SystemState.empty revivalRun (fun t => !decide (AtMostOneLive t.world.store.alerts))
    (by decide +kernel)
  exact ⟨t,hrun,by simpa using hlive⟩

end MarketScanner.Alerts
