import Mathlib.Tactic.Common
import Mathlib.Data.List.Basic

/-! A sweep over a keyed store that others write meanwhile. Scan calls return keys until the cursor is
back at its start, and the entry of each returned key is deleted if it is doomed. A full scan returns
every key that is in the store all along; of the others it may return any. -/
namespace MarketScanner.Library

/-- The keys in the store as the scan began, those returned so far, and those of the last reply that
are still to be examined; `exhausted` once the cursor is back at its start. -/
structure Sweep (κ : Type*) where
  known : List κ
  returned : List κ
  queue : List κ
  exhausted : Bool
  deriving DecidableEq, Repr

namespace Sweep
variable {κ ε : Type*} (key : ε → κ) (doomed : ε → Bool)

def start (store : List ε) : Sweep κ := ⟨store.map key,[],[],false⟩

/-- What a scan call may return. -/
def Allowed (store : List ε) (w : Sweep κ) (keys : List κ) (exhausted : Bool) : Prop :=
  (∀ k ∈ keys, k ∈ store.map key) ∧
    (exhausted = true → ∀ k ∈ w.known, k ∈ store.map key → k ∈ w.returned ++ keys)

instance [DecidableEq κ] (store : List ε) (w : Sweep κ) (keys : List κ) (exhausted : Bool) :
    Decidable (Allowed key store w keys exhausted) := by
  unfold Allowed
  infer_instance

def reply (w : Sweep κ) (keys : List κ) (exhausted : Bool) : Sweep κ :=
  { w with
    returned := w.returned ++ keys
    queue := keys
    exhausted := exhausted }

/-- Look a key up and delete its entry if it is doomed. -/
def examine [DecidableEq κ] (k : κ) (store : List ε) : List ε :=
  store.filter fun e => !(decide (key e = k) && doomed e)

/-- A doomed entry whose key has been returned is still to be examined, and once the scan is
exhausted nothing that was there as it began is missing from what it returned. -/
structure Covers (store : List ε) (w : Sweep κ) : Prop where
  queued : ∀ k ∈ w.queue, k ∈ w.returned
  pending : ∀ e ∈ store, doomed e = true → key e ∈ w.returned → key e ∈ w.queue
  complete : w.exhausted = true → ∀ e ∈ store, key e ∈ w.known → key e ∈ w.returned

variable {key doomed} {store : List ε} {w : Sweep κ}

theorem mem_examine [DecidableEq κ] {k : κ} {e : ε} :
    e ∈ examine key doomed k store ↔ e ∈ store ∧ (key e = k → doomed e = false) := by
  simp [examine, imp_iff_not_or]

theorem covers_start (store : List ε) : Covers key doomed store (start key store) := by
  constructor
  · intro k hk
    cases hk
  · intro e he hdoomed hreturned
    cases hreturned
  · intro hexhausted
    cases hexhausted

theorem Covers.reply (h : Covers key doomed store w) {keys : List κ} {exhausted : Bool}
    (hqueue : w.queue = []) (hallowed : Allowed key store w keys exhausted) :
    Covers key doomed store (w.reply keys exhausted) := by
  constructor
  · intro k hk
    exact List.mem_append_right _ hk
  · intro e he hdoomed hreturned
    rcases List.mem_append.mp hreturned with hold | hnew
    · have hpending := h.pending e he hdoomed hold
      rw [hqueue] at hpending
      cases hpending
    · exact hnew
  · intro hexhausted e he hknown
    exact hallowed.2 hexhausted (key e) hknown (List.mem_map_of_mem he)

theorem Covers.examine [DecidableEq κ] (h : Covers key doomed store w) {k : κ} {rest : List κ}
    (hqueue : w.queue = k::rest) :
    Covers key doomed (examine key doomed k store) { w with queue := rest } := by
  constructor
  · intro k' hk'
    exact h.queued k' (by rw [hqueue]; exact List.mem_cons_of_mem k hk')
  · intro e he hdoomed hreturned
    obtain ⟨hstore,hkept⟩ := mem_examine.mp he
    have hpending := h.pending e hstore hdoomed hreturned
    rw [hqueue] at hpending
    rcases List.mem_cons.mp hpending with hk | hrest
    · rw [hkept hk] at hdoomed
      cases hdoomed
    · exact hrest
  · intro hexhausted e he hknown
    exact h.complete hexhausted e (mem_examine.mp he).1 hknown

/-- An entry put in meanwhile under a new key. -/
theorem Covers.insert (h : Covers key doomed store w) {e : ε} (hknown : key e ∉ w.known)
    (hreturned : key e ∉ w.returned) : Covers key doomed (store ++ [e]) w := by
  constructor
  · exact h.queued
  · intro e' he' hdoomed hreturned'
    rcases List.mem_append.mp he' with hold | hnew
    · exact h.pending e' hold hdoomed hreturned'
    · obtain rfl := List.mem_singleton.mp hnew
      exact absurd hreturned' hreturned
  · intro hexhausted e' he' hknown'
    rcases List.mem_append.mp he' with hold | hnew
    · exact h.complete hexhausted e' hold hknown'
    · obtain rfl := List.mem_singleton.mp hnew
      exact absurd hknown' hknown

/-- Entries may leave the store while the sweep runs. -/
theorem Covers.subset {store' : List ε} (h : Covers key doomed store w)
    (hsub : ∀ e ∈ store', e ∈ store) : Covers key doomed store' w := by
  constructor
  · exact h.queued
  · intro e he
    exact h.pending e (hsub e he)
  · intro hexhausted e he
    exact h.complete hexhausted e (hsub e he)

/-- After the sweep a doomed entry is one that was put in while it ran and that no call returned. -/
theorem Covers.of_done (h : Covers key doomed store w) (hqueue : w.queue = [])
    (hexhausted : w.exhausted = true) {e : ε} (he : e ∈ store) (hdoomed : doomed e = true) :
    key e ∉ w.known ∧ key e ∉ w.returned := by
  have hreturned : key e ∉ w.returned := by
    intro hmem
    have hpending := h.pending e he hdoomed hmem
    rw [hqueue] at hpending
    cases hpending
  exact ⟨fun hknown => hreturned (h.complete hexhausted e he hknown),hreturned⟩

end Sweep
end MarketScanner.Library
