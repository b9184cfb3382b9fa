import Mathlib.Algebra.Order.Group.Defs
import Mathlib.Algebra.Order.Sub.Basic
import Mathlib.Logic.Function.Basic
import MarketScanner.Library.History

/-! A cache that is read through. Who asks for a key that is cached and fresh is answered at once; else a
fetch of its own starts, takes its replies one by one, and may leave a value in the cache. Any number of
fetches are under way, for one key as well as for others. -/
namespace MarketScanner.Library

/-- How a value is fetched: the stage a fetch starts in, the stage that a reply leads to, and the value
that is kept as a stage is reached. -/
structure ReadThrough (κ ρ ν β τ : Type*) where
  first : κ → β
  next : κ → β → ρ → Option β
  kept : β → Option ν
  ttl : τ

namespace ReadThrough

inductive Fetch (κ ν β : Type*)
  | hit (key : κ) (value : ν)
  | miss (key : κ) (stage : β)

def Fetch.key {κ ν β : Type*} : Fetch κ ν β → κ
  | .hit key _ => key
  | .miss key _ => key

structure State (κ ν β τ : Type*) where
  clock : τ
  cache : κ → Option (ν × τ)
  fetches : List (Fetch κ ν β)

inductive Action (κ ρ τ : Type*)
  | wait (later : τ)
  | ask (key : κ)
  | reply (i : ℕ) (r : ρ)

variable {κ ρ ν β τ : Type*}

def start (clock : τ) : State κ ν β τ := ⟨clock,fun _ => none,[]⟩

/-- The replies to one fetch. -/
def repliesTo (i : ℕ) (actions : List (Action κ ρ τ)) : List ρ :=
  actions.filterMap fun
    | .reply j r => if j = i then some r else none
    | _ => none

section Steps
variable [DecidableEq κ] [AddCommGroup τ] [LinearOrder τ] (c : ReadThrough κ ρ ν β τ) (s : State κ ν β τ)

/-- The value of a key that is not too old. -/
def fresh (key : κ) : Option ν :=
  (s.cache key).bind fun entry => if s.clock-entry.2 < c.ttl then some entry.1 else none

def served (key : κ) : Fetch κ ν β :=
  match c.fresh s key with
  | some value => .hit key value
  | none => .miss key (c.first key)

def keep (key : κ) (stage : β) : State κ ν β τ :=
  match c.kept stage with
  | some value => { s with cache := Function.update s.cache key (some (value,s.clock)) }
  | none => s

def machine : Machine (State κ ν β τ) (Action κ ρ τ) where
  step s
    | .wait later => if s.clock ≤ later then some { s with clock := later } else none
    | .ask key => some { s with fetches := s.fetches ++ [c.served s key] }
    | .reply i r =>
      match s.fetches[i]? with
      | some (.miss key stage) => (c.next key stage r).map fun stage' =>
        { c.keep s key stage' with fetches := s.fetches.set i (.miss key stage') }
      | _ => none

/-- What a fetch comes to that has these replies. -/
def outcome (key : κ) (replies : List ρ) : Option β := replies.foldlM (c.next key) (c.first key)

/-- A fetch for `key` reached a stage that keeps `value`, at the instant `time`. -/
def Kept (key : κ) (value : ν) (time : τ) : List (Action κ ρ τ) → State κ ν β τ → Action κ ρ τ →
    State κ ν β τ → Prop := fun pre t a _ =>
  ∃ i r old stage, a = .reply i r ∧ t.clock = time ∧ t.fetches[i]? = some (.miss key old) ∧
    c.outcome key (repliesTo i (pre ++ [a])) = some stage ∧ c.kept stage = some value

/-- The fetch that got the number `i` asked for `key`; a value kept less than `ttl` before answered it. -/
def Answered (clock : τ) (i : ℕ) (key : κ) (value : ν) : List (Action κ ρ τ) → State κ ν β τ →
    Action κ ρ τ → State κ ν β τ → Prop := fun pre t a _ =>
  a = .ask key ∧ t.fetches.length = i ∧
    ∃ time, c.machine.Happened (c.Kept key value time) (start clock) pre ∧ t.clock-time < c.ttl

end Steps

theorem repliesTo_concat (i : ℕ) (actions : List (Action κ ρ τ)) (a : Action κ ρ τ) :
    repliesTo i (actions ++ [a]) = repliesTo i actions ++ repliesTo i [a] := by
  rw [repliesTo, List.filterMap_append]
  rfl

section Runs
variable [DecidableEq κ] [AddCommGroup τ] [LinearOrder τ] {c : ReadThrough κ ρ ν β τ}
variable {s t u : State κ ν β τ} {a : Action κ ρ τ} {as : List (Action κ ρ τ)} {clock : τ}
variable {key : κ} {value : ν} {stage : β} {i : ℕ} {r : ρ}

omit [DecidableEq κ] [AddCommGroup τ] [LinearOrder τ] in
theorem outcome_concat (key : κ) (replies : List ρ) (r : ρ) :
    c.outcome key (replies ++ [r]) = (c.outcome key replies).bind fun stage => c.next key stage r := by
  rw [outcome, List.foldlM_append, outcome]
  cases replies.foldlM (c.next key) (c.first key) with
  | none => rfl
  | some stage => simp

omit [DecidableEq κ] [AddCommGroup τ] [LinearOrder τ] in
/-- What the first stage has and every reply preserves, every outcome has; the replies before are given. -/
theorem outcome_induction {I : List ρ → β → Prop} (hfirst : I [] (c.first key))
    (hnext : ∀ replies stage r stage', I replies stage → c.next key stage r = some stage' →
      I (replies ++ [r]) stage') (replies : List ρ) (h : c.outcome key replies = some stage) :
    I replies stage := by
  induction replies using List.reverseRecOn generalizing stage with
  | nil =>
    obtain rfl := Option.some.inj h
    exact hfirst
  | append_singleton replies r ih =>
    rw [outcome_concat] at h
    obtain ⟨old,hold,hlast⟩ := Option.bind_eq_some_iff.mp h
    exact hnext replies old r stage (ih hold) hlast

/-- The steps of the machine, one by one. -/
inductive Moved (c : ReadThrough κ ρ ν β τ) (s : State κ ν β τ) : Action κ ρ τ → State κ ν β τ → Prop
  | wait {later : τ} (h : s.clock ≤ later) : Moved c s (.wait later) { s with clock := later }
  | ask (key : κ) : Moved c s (.ask key) { s with fetches := s.fetches ++ [c.served s key] }
  | reply {i : ℕ} {r : ρ} {key : κ} {stage stage' : β} (hi : s.fetches[i]? = some (.miss key stage))
      (hnext : c.next key stage r = some stage') :
      Moved c s (.reply i r) { c.keep s key stage' with fetches := s.fetches.set i (.miss key stage') }

theorem moved_of_step (h : c.machine.step s a = some t) : Moved c s a t := by
  cases a with
  | wait later =>
    simp only [machine] at h
    split at h
    · rename_i hle
      obtain rfl := Option.some.inj h
      exact .wait hle
    · cases h
  | ask key =>
    obtain rfl := Option.some.inj h
    exact .ask key
  | reply i r =>
    simp only [machine] at h
    split at h
    · rename_i key stage hi
      obtain ⟨stage',hnext,rfl⟩ := Option.map_eq_some_iff.mp h
      exact .reply hi hnext
    · cases h

omit [AddCommGroup τ] [LinearOrder τ] in
@[simp] theorem keep_fetches (key : κ) (stage : β) : (c.keep s key stage).fetches = s.fetches := by
  rw [keep]
  split <;> rfl

omit [AddCommGroup τ] [LinearOrder τ] in
@[simp] theorem keep_clock (key : κ) (stage : β) : (c.keep s key stage).clock = s.clock := by
  rw [keep]
  split <;> rfl

omit [AddCommGroup τ] [LinearOrder τ] in
/-- What stands in the cache after a fetch reached a stage. -/
theorem keep_cache (key key' : κ) (stage : β) : (c.keep s key stage).cache key' =
    if key' = key then ((c.kept stage).map (·,s.clock)).or (s.cache key') else s.cache key' := by
  rw [keep]
  split
  · rename_i value hkept
    by_cases hkey : key' = key
    · subst hkey
      rw [if_pos rfl, hkept]
      exact Function.update_self _ _ _
    · rw [if_neg hkey]
      exact Function.update_of_ne hkey _ _
  · rename_i hkept
    rw [hkept, Option.map_none, Option.none_or, ite_self]

/-- A list one longer holds its last entry besides those it held. -/
theorem getElem?_concat_cases {α : Type*} {l : List α} {x y : α} {i : ℕ} (h : (l ++ [x])[i]? = some y) :
    l[i]? = some y ∨ i = l.length ∧ x = y := by
  rcases lt_trichotomy i l.length with hlt | rfl | hgt
  · rw [List.getElem?_append_left hlt] at h
    exact .inl h
  · rw [List.getElem?_concat_length] at h
    exact .inr ⟨rfl,Option.some.inj h⟩
  · rw [List.getElem?_append_right hgt.le, List.getElem?_eq_none (by simp; omega)] at h
    cases h

/-- How everything in a state goes back to the actions before it. -/
structure Traced (c : ReadThrough κ ρ ν β τ) (clock : τ) (as : List (Action κ ρ τ)) (s : State κ ν β τ) :
    Prop where
  miss : ∀ i key stage, s.fetches[i]? = some (.miss key stage) →
    c.outcome key (repliesTo i as) = some stage
  unborn : ∀ i, s.fetches.length ≤ i → repliesTo i as = []
  entry : ∀ key value time, s.cache key = some (value,time) → time ≤ s.clock ∧
    c.machine.Happened (c.Kept key value time) (start clock) as
  hit : ∀ i key value, s.fetches[i]? = some (.hit key value) →
    c.machine.Happened (c.Answered clock i key value) (start clock) as

theorem traced_start (c : ReadThrough κ ρ ν β τ) (clock : τ) : Traced c clock [] (start clock) where
  miss i key stage h := by simp [start] at h
  unborn i _ := rfl
  entry key value time h := by simp [start] at h
  hit i key value h := by simp [start] at h

omit [DecidableEq κ] in
theorem fresh_eq_some (h : c.fresh s key = some value) :
    ∃ time, s.cache key = some (value,time) ∧ s.clock-time < c.ttl := by
  obtain ⟨entry,hentry,hvalue⟩ := Option.bind_eq_some_iff.mp h
  split at hvalue
  · rename_i hlt
    obtain rfl := Option.some.inj hvalue
    exact ⟨entry.2,hentry,hlt⟩
  · cases hvalue

theorem Traced.wait {later : τ} (h : Traced c clock as s) (hle : s.clock ≤ later) :
    Traced c clock (as ++ [.wait later]) { s with clock := later } := by
  have hreplies (i : ℕ) : repliesTo i (as ++ [(.wait later : Action κ ρ τ)]) = repliesTo i as := by
    rw [repliesTo_concat]
    exact List.append_nil _
  refine ⟨fun i key stage hi => ?_,fun i hi => ?_,fun key value time he => ?_,fun i key value hi => ?_⟩
  · rw [hreplies]
    exact h.miss i key stage hi
  · rw [hreplies]
    exact h.unborn i hi
  · obtain ⟨htime,hkept⟩ := h.entry key value time he
    exact ⟨htime.trans hle,hkept.append _⟩
  · exact (h.hit i key value hi).append _

theorem Traced.ask (hrun : c.machine.Run (start clock) as s) (h : Traced c clock as s) (key : κ) :
    Traced c clock (as ++ [.ask key]) { s with fetches := s.fetches ++ [c.served s key] } := by
  have hreplies (i : ℕ) : repliesTo i (as ++ [(.ask key : Action κ ρ τ)]) = repliesTo i as := by
    rw [repliesTo_concat]
    exact List.append_nil _
  refine ⟨fun i key' stage hi => ?_,fun i hi => ?_,fun key' value time he => ?_,fun i key' value hi => ?_⟩
  · rw [hreplies]
    rcases getElem?_concat_cases hi with hold | ⟨rfl,hnew⟩
    · exact h.miss i key' stage hold
    · rw [served] at hnew
      split at hnew
      · cases hnew
      · cases hnew
        rw [h.unborn _ le_rfl]
        rfl
  · rw [hreplies]
    rw [List.length_append, List.length_singleton] at hi
    exact h.unborn i (by omega)
  · obtain ⟨htime,hkept⟩ := h.entry key' value time he
    exact ⟨htime,hkept.append _⟩
  · rcases getElem?_concat_cases hi with hold | ⟨rfl,hnew⟩
    · exact (h.hit i key' value hold).append _
    · rw [served] at hnew
      split at hnew
      · rename_i value' hfresh
        cases hnew
        obtain ⟨time,hentry,hlt⟩ := fresh_eq_some hfresh
        exact Machine.happened_last hrun rfl ⟨rfl,rfl,time,(h.entry key value time hentry).2,hlt⟩
      · cases hnew

theorem Traced.reply (hrun : c.machine.Run (start clock) as s) (h : Traced c clock as s) {stage' : β}
    (hi : s.fetches[i]? = some (.miss key stage)) (hnext : c.next key stage r = some stage')
    (hstep : c.machine.step s (.reply i r) =
      some { c.keep s key stage' with fetches := s.fetches.set i (.miss key stage') }) :
    Traced c clock (as ++ [.reply i r])
      { c.keep s key stage' with fetches := s.fetches.set i (.miss key stage') } := by
  have hlt : i < s.fetches.length := (List.getElem?_eq_some_iff.mp hi).1
  have hown : repliesTo i (as ++ [(.reply i r : Action κ ρ τ)]) = repliesTo i as ++ [r] := by
    rw [repliesTo_concat]
    simp [repliesTo]
  have hother {j : ℕ} (hj : i ≠ j) :
      repliesTo j (as ++ [(.reply i r : Action κ ρ τ)]) = repliesTo j as := by
    rw [repliesTo_concat]
    simp [repliesTo, hj]
  have hreached : c.outcome key (repliesTo i (as ++ [(.reply i r : Action κ ρ τ)])) = some stage' := by
    rw [hown, outcome_concat, h.miss i key stage hi]
    exact hnext
  refine ⟨fun j key' stage'' hj => ?_,fun j hj => ?_,fun key' value time he => ?_,fun j key' value hj => ?_⟩
  · by_cases hij : i = j
    · subst hij
      rw [List.getElem?_set_self hlt] at hj
      cases hj
      exact hreached
    · rw [List.getElem?_set_ne hij] at hj
      rw [hother hij]
      exact h.miss j key' stage'' hj
  · rw [List.length_set] at hj
    rw [hother (by omega)]
    exact h.unborn j hj
  · have hclock : (c.keep s key stage').clock = s.clock := keep_clock key stage'
    have hcache : (c.keep s key stage').cache key' = some (value,time) := he
    rw [keep_cache] at hcache
    by_cases hkey : key' = key
    · subst hkey
      rw [if_pos rfl] at hcache
      cases hkept : c.kept stage' with
      | none =>
        rw [hkept, Option.map_none, Option.none_or] at hcache
        obtain ⟨htime,hhappened⟩ := h.entry key' value time hcache
        exact ⟨htime.trans_eq hclock.symm,hhappened.append _⟩
      | some value' =>
        rw [hkept, Option.map_some, Option.some_or] at hcache
        cases hcache
        exact ⟨hclock.ge,Machine.happened_last hrun hstep ⟨i,r,stage,stage',rfl,rfl,hi,hreached,hkept⟩⟩
    · rw [if_neg hkey] at hcache
      obtain ⟨htime,hhappened⟩ := h.entry key' value time hcache
      exact ⟨htime.trans_eq hclock.symm,hhappened.append _⟩
  · by_cases hij : i = j
    · subst hij
      rw [List.getElem?_set_self hlt] at hj
      cases hj
    · rw [List.getElem?_set_ne hij] at hj
      exact (h.hit j key' value hj).append _

theorem traced_of_run (hrun : c.machine.Run (start clock) as s) : Traced c clock as s := by
  refine hrun.history (traced_start c clock) fun bs b u v hbs h hstep => ?_
  cases moved_of_step hstep with
  | wait hle => exact h.wait hle
  | ask key => exact h.ask hbs key
  | reply hi hnext => exact h.reply hbs hi hnext hstep

/-- A key that is cached stays so; its value only gets younger. -/
def Holds (key : κ) (time : τ) (s : State κ ν β τ) : Prop :=
  ∃ value time', s.cache key = some (value,time') ∧ time ≤ time' ∧ time ≤ s.clock

theorem Holds.step {time : τ} (h : Holds key time s) (hstep : c.machine.step s a = some t) :
    Holds key time t := by
  obtain ⟨value,time',hentry,htime,hclock⟩ := h
  cases moved_of_step hstep with
  | wait hle => exact ⟨value,time',hentry,htime,hclock.trans hle⟩
  | ask key' => exact ⟨value,time',hentry,htime,hclock⟩
  | @reply i r key' stage stage' hi hnext =>
    have hcache := keep_cache (c := c) (s := s) key' key stage'
    have hsame : (c.keep s key' stage').clock = s.clock := keep_clock key' stage'
    by_cases hkey : key = key'
    · rw [if_pos hkey, hentry] at hcache
      cases hkept : c.kept stage' with
      | none =>
        rw [hkept, Option.map_none, Option.none_or] at hcache
        exact ⟨value,time',hcache,htime,hclock.trans_eq hsame.symm⟩
      | some value' =>
        rw [hkept, Option.map_some, Option.some_or] at hcache
        exact ⟨value',s.clock,hcache,hclock,hclock.trans_eq hsame.symm⟩
    · rw [if_neg hkey] at hcache
      exact ⟨value,time',hcache.trans hentry,htime,hclock.trans_eq hsame.symm⟩

theorem holds_of_kept {time : τ} (hrun : c.machine.Run (start clock) as s)
    (h : c.machine.Happened (c.Kept key value time) (start clock) as) : Holds key time s := by
  obtain ⟨pre,a,post,t,u,rfl,hpre,hstep,i,r,old,stage,rfl,rfl,hi,hreached,hkept⟩ := h
  obtain ⟨t',ht',hlast⟩ := hrun.split
  obtain rfl := hpre.functional ht'
  cases hlast with
  | cons hfirst htail =>
    obtain rfl := Option.some.inj (hstep.symm.trans hfirst)
    refine Machine.Run.stable (fun s a t hs hst => Holds.step hs hst) htail ?_
    cases moved_of_step hstep with
    | @reply _ _ key' old' stage' hi' hnext =>
      obtain ⟨rfl,rfl⟩ := Fetch.miss.inj (Option.some.inj (hi'.symm.trans hi))
      have hstage : stage' = stage := by
        have hown : repliesTo i (pre ++ [(.reply i r : Action κ ρ τ)]) = repliesTo i pre ++ [r] := by
          rw [repliesTo_concat]
          simp [repliesTo]
        rw [hown, outcome_concat, (traced_of_run hpre).miss i _ _ hi] at hreached
        exact Option.some.inj (hnext.symm.trans hreached)
      have hcache := keep_cache (c := c) (s := t) key' key' stage'
      rw [if_pos rfl, hstage, hkept, Option.map_some, Option.some_or] at hcache
      have hsame : (c.keep t key' stage').clock = t.clock := keep_clock key' stage'
      rw [← hstage] at hcache
      exact ⟨value,t.clock,hcache,le_rfl,hsame.ge⟩

/-- A key is answered from the cache just while a value that was kept for it is not too old. -/
theorem fresh_iff [IsOrderedAddMonoid τ] (hrun : c.machine.Run (start clock) as s) (key : κ) :
    (∃ value, c.fresh s key = some value) ↔
      ∃ value time, c.machine.Happened (c.Kept key value time) (start clock) as ∧ s.clock-time < c.ttl := by
  constructor
  · rintro ⟨value,hfresh⟩
    obtain ⟨time,hentry,hlt⟩ := fresh_eq_some hfresh
    exact ⟨value,time,((traced_of_run hrun).entry key value time hentry).2,hlt⟩
  · rintro ⟨value,time,hkept,hlt⟩
    obtain ⟨value',time',hentry,htime,-⟩ := holds_of_kept hrun hkept
    have hage : s.clock-time' < c.ttl := (sub_le_sub_left htime s.clock).trans_lt hlt
    refine ⟨value',?_⟩
    rw [fresh, hentry, Option.bind_some, if_pos hage]

end Runs

end ReadThrough
end MarketScanner.Library
