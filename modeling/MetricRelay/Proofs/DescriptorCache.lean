/-
A cache of descriptors as a function of its history.

A history lists what has been done with a cache and when, the latest first, and `run` replays it.
`latest?` reads off a history alone what was last stored for a prefix since the cache was last
cleared.

* `get?_run` — the entry of a prefix is the one that was stored last, and prefixes that the cache
  does not keep have none;
* `lookup_run` — so a lookup finds what was stored last exactly if the cache keeps the prefix and
  the time to live has not run out, the count is that of the prefixes that are found, and lookups
  leave no mark.

Expired entries stay in the cache.  They are seen neither by a lookup nor by the count, because the
clock and all expiries are numbers, for which "not at or after" means "before".
-/
import MetricRelay.DescriptorCache
import MetricRelay.Proofs.Assoc
import MetricRelay.Proofs.Decimal.Sign

namespace MetricRelay

open Monitoring

theorem Text.occursIn_iff {part s : List Char} : Text.occursIn part s = true ↔ part <:+: s := by
  induction s with
  | nil => rw [Text.occursIn, List.isEmpty_iff, List.infix_nil]
  | cons c s ih =>
    rw [Text.occursIn, Bool.or_eq_true, ih, List.isPrefixOf_iff_prefix, List.infix_cons_iff]

namespace DescriptorCache

/-- What can be done with a cache. -/
inductive Action where
  | store (stem : String) (ds : List Descriptor)
  | lookup (stem : String)
  | clear
  | size

/-- An action and what the clock shows at it. -/
structure Step where
  now : Float
  action : Action

/-- Steps, the latest first. -/
abbrev History := List Step

/-- The cache after a step. -/
def step (c : DescriptorCache) (e : Step) : DescriptorCache :=
  match e.action with
  | .store stem ds => c.store e.now stem ds
  | .clear => c.clear
  | .lookup _ | .size => c

/-- The cache after all steps of a history. -/
def run (c : DescriptorCache) : History → DescriptorCache
  | [] => c
  | e :: past => (c.run past).step e

/-! ### What a history says by itself -/

def Step.clears (e : Step) : Bool :=
  match e.action with
  | .clear => true
  | _ => false

def Step.asks (e : Step) : Bool :=
  match e.action with
  | .lookup _ | .size => true
  | _ => false

/-- What a step stores for a prefix, and when. -/
def Step.stored? (stem : String) (e : Step) : Option (List Descriptor × Float) :=
  match e.action with
  | .store stem' ds => if stem' = stem then some (ds, e.now) else none
  | _ => none

/-- What was last stored for a prefix since the cache was last cleared, and when. -/
def latest? (stem : String) (h : History) : Option (List Descriptor × Float) :=
  (h.takeWhile fun e => !e.clears).findSome? fun e => e.stored? stem

/-- The first path segment of a prefix contains the name of the official domain. -/
def InOfficialDomain (stem : String) : Prop :=
  "googleapis.com".toList <:+: stem.toList.takeWhile (· != '/')

theorem latest?_cons (stem : String) (e : Step) (past : History) :
    latest? stem (e :: past) =
      if e.clears then none else (e.stored? stem).or (latest? stem past) := by
  rw [latest?, List.takeWhile_cons]
  cases e.clears with
  | true => rfl
  | false =>
    rw [Bool.not_false, if_pos rfl, List.findSome?_cons]
    cases e.stored? stem <;> rfl

/-- What was stored last was stored by some step. -/
theorem exists_of_latest? {stem : String} {h : History} {ds : List Descriptor} {time : Float}
    (hlatest : latest? stem h = some (ds, time)) :
    ∃ e ∈ h, e.now = time ∧ e.action = .store stem ds := by
  obtain ⟨e, he, hstored⟩ := List.exists_of_findSome?_eq_some hlatest
  refine ⟨e, (List.takeWhile_sublist _).subset he, ?_⟩
  obtain ⟨now, action⟩ := e
  cases action with
  | store stem' ds' =>
    simp only [Step.stored?] at hstored
    split at hstored
    · next heq =>
      cases hstored
      exact ⟨rfl, by rw [heq]⟩
    · cases hstored
  | _ => cases hstored

/-! ### Entries -/

theorem store_eq (c : DescriptorCache) (now : Float) (stem : String) (ds : List Descriptor) :
    c.store now stem ds =
      { c with entries :=
          if c.keeps stem then Assoc.put c.entries stem ⟨ds, now + c.ttl⟩ else c.entries } := by
  rw [store]
  split <;> rfl

theorem get?_store_of_ne (c : DescriptorCache) (now : Float) {stem other : String}
    (hne : other ≠ stem) (ds : List Descriptor) :
    Assoc.get? (c.store now stem ds).entries other = Assoc.get? c.entries other := by
  rw [store_eq]
  dsimp only
  split
  · rw [Assoc.get?_put_of_ne _ (by simpa using hne.symm)]
  · rfl

theorem step_settings (c : DescriptorCache) (e : Step) :
    (c.step e).policy = c.policy ∧ (c.step e).ttl = c.ttl := by
  rw [step]
  split
  · rw [store_eq]
    exact ⟨rfl, rfl⟩
  · exact ⟨rfl, rfl⟩
  · exact ⟨rfl, rfl⟩
  · exact ⟨rfl, rfl⟩

theorem run_settings (c : DescriptorCache) (h : History) :
    (c.run h).policy = c.policy ∧ (c.run h).ttl = c.ttl := by
  induction h with
  | nil => exact ⟨rfl, rfl⟩
  | cons e past ih =>
    have hstep := step_settings (c.run past) e
    exact ⟨hstep.1.trans ih.1, hstep.2.trans ih.2⟩

theorem run_keeps (c : DescriptorCache) (h : History) (stem : String) :
    (c.run h).keeps stem = c.keeps stem := by
  rw [keeps, keeps, (run_settings c h).1]

theorem nodup_keys_run {c : DescriptorCache} (hc : (Assoc.keys c.entries).Nodup) (h : History) :
    (Assoc.keys (c.run h).entries).Nodup := by
  induction h with
  | nil => exact hc
  | cons e past ih =>
    rw [run, step]
    split
    · rw [store_eq]
      dsimp only
      split
      · exact Assoc.nodup_keys_put ih _ _
      · exact ih
    · exact List.nodup_nil
    · exact ih
    · exact ih

/-- The entry of a prefix after one step. -/
theorem get?_step (c : DescriptorCache) (e : Step) (stem : String) :
    Assoc.get? (c.step e).entries stem =
      if e.clears then none
      else if c.keeps stem then
        ((e.stored? stem).map fun x => ⟨x.1, x.2 + c.ttl⟩).or (Assoc.get? c.entries stem)
      else Assoc.get? c.entries stem := by
  obtain ⟨now, action⟩ := e
  cases action with
  | store stem' ds =>
    simp only [step, store_eq, Step.clears, Step.stored?, Bool.false_eq_true, if_false]
    by_cases heq : stem' = stem
    · rw [heq, if_pos rfl]
      split
      · rw [Assoc.get?_put_self]
        rfl
      · rfl
    · rw [if_neg heq, Option.map_none, Option.none_or, ite_self]
      split
      · rw [Assoc.get?_put_of_ne _ (by simpa using heq)]
      · rfl
  | clear => rfl
  | lookup stem' => exact (ite_self _).symm
  | size => exact (ite_self _).symm

/-- After every history the entry of a prefix is what was stored last, if the cache keeps the prefix
at all. -/
theorem get?_run {c : DescriptorCache} (hc : c.entries = []) (h : History) (stem : String) :
    Assoc.get? (c.run h).entries stem =
      if c.keeps stem then (latest? stem h).map fun x => ⟨x.1, x.2 + c.ttl⟩ else none := by
  induction h with
  | nil =>
    rw [run, hc]
    exact (ite_self _).symm
  | cons e past ih =>
    rw [run, get?_step, run_keeps, (run_settings c past).2, ih, latest?_cons]
    cases e.clears with
    | true => exact (ite_self _).symm
    | false =>
      cases c.keeps stem with
      | true => cases e.stored? stem <;> rfl
      | false => rfl

/-! ### Lookups and the count -/

theorem keeps_empty_iff (ttl : Time.Span) (onlyOfficial : Bool) (stem : String) :
    (empty ttl.seconds onlyOfficial).keeps stem = true ↔
      0 < ttl.micros ∧ (onlyOfficial = true → InOfficialDomain stem) := by
  have hnonpos := ttl.seconds_nonpos_iff
  rw [keeps, empty]
  by_cases hpos : 0 < ttl.micros
  · have hnot : ¬ttl.seconds ≤ 0 := fun hle => absurd (hnonpos.mp hle) (not_le.mpr hpos)
    cases onlyOfficial with
    | true => simp [hnot, hpos, InOfficialDomain, isOfficial, Text.occursIn_iff]
    | false => simp [hnot, hpos]
  · have hle : ttl.seconds ≤ 0 := hnonpos.mpr (not_lt.mp hpos)
    simp [hle, hpos]

/-- If the clock and the expiries are numbers, a lookup finds the entries that have not expired. -/
theorem lookup_eq_some_iff {c : DescriptorCache} {now : Float} (hnow : now.isNaN = false)
    {stem : String} (hexpiry : ∀ e, Assoc.get? c.entries stem = some e → e.expiry.isNaN = false)
    {ds : List Descriptor} :
    c.lookup now stem = some ds ↔
      c.keeps stem = true ∧ ∃ e, Assoc.get? c.entries stem = some e ∧ e.descriptors = ds ∧
        now < e.expiry := by
  rw [lookup]
  cases c.keeps stem with
  | false => simp
  | true =>
    rw [if_pos rfl]
    cases hget : Assoc.get? c.entries stem with
    | none => simp
    | some e =>
      have hlive : ¬now ≥ e.expiry ↔ now < e.expiry := Decimal.not_le_iff_lt hnow (hexpiry e hget)
      by_cases hexpired : now ≥ e.expiry
      · have hnot : ¬now < e.expiry := fun hlt => hlive.mpr hlt hexpired
        simp [hexpired, hnot]
      · simp [hexpired, hlive.mp hexpired]

/-- The count is that of the prefixes with an entry that has not expired. -/
theorem encard_eq_size {c : DescriptorCache} (hc : (Assoc.keys c.entries).Nodup) (now : Float) :
    {stem | ∃ e, Assoc.get? c.entries stem = some e ∧ now < e.expiry}.encard = c.size now := by
  let live := c.entries.filter fun e => now < e.2.expiry
  have hlive : (live.map Prod.fst).Nodup := Assoc.nodup_keys_filter hc _
  have hset : {stem | ∃ e, Assoc.get? c.entries stem = some e ∧ now < e.expiry}
      = ((live.map Prod.fst).toFinset : Set String) := by
    ext stem
    rw [Set.mem_ofPred_eq, List.coe_toFinset, Set.mem_ofPred_eq, List.mem_map]
    constructor
    · rintro ⟨e, hget, hlt⟩
      exact ⟨(stem, e), List.mem_filter.mpr ⟨Assoc.mem_of_get? hget, by simpa using hlt⟩, rfl⟩
    · rintro ⟨⟨stem, e⟩, hmem, rfl⟩
      obtain ⟨hentry, hlt⟩ := List.mem_filter.mp hmem
      exact ⟨e, (Assoc.get?_eq_some_iff hc).mpr hentry, by simpa using hlt⟩
  rw [hset, Set.encard_coe_eq_coe_finsetCard, List.toFinset_card_of_nodup hlive, List.length_map]
  rfl

/-- Lookups and counts leave no mark on a cache. -/
theorem run_filter_asks (c : DescriptorCache) (h : History) :
    c.run (h.filter fun e => !e.asks) = c.run h := by
  induction h with
  | nil => rfl
  | cons e past ih =>
    obtain ⟨now, action⟩ := e
    cases action with
    | store stem ds => exact congrArg (fun c => step c ⟨now, .store stem ds⟩) ih
    | clear => exact congrArg (fun c => step c ⟨now, .clear⟩) ih
    | lookup stem => exact ih
    | size => exact ih

/-- **A cache is a function of its history.**  Whatever has been done with a new cache, a lookup
finds what was last stored for the prefix since the cache was last cleared, exactly if the time to
live is positive, the prefix is an official one where only those are kept, and the clock is still
below the time of that storing plus the time to live.  The count is that of the prefixes that would
be found, and the cache is the same as without the lookups and counts. -/
theorem lookup_run (ttl : Time.Span) (onlyOfficial : Bool) {h : History}
    (hclock : ∀ e ∈ h, e.now.isFinite = true) {now : Float} (hnow : now.isFinite = true) :
    (∀ stem ds, ((empty ttl.seconds onlyOfficial).run h).lookup now stem = some ds ↔
      0 < ttl.micros ∧ (onlyOfficial = true → InOfficialDomain stem) ∧
        ∃ time, latest? stem h = some (ds, time) ∧ now < time + ttl.seconds) ∧
    {stem | (((empty ttl.seconds onlyOfficial).run h).lookup now stem).isSome = true}.encard
      = ((empty ttl.seconds onlyOfficial).run h).size now ∧
    (empty ttl.seconds onlyOfficial).run h
      = (empty ttl.seconds onlyOfficial).run (h.filter fun e => !e.asks) := by
  let fresh := empty ttl.seconds onlyOfficial
  have hget : ∀ stem, Assoc.get? (fresh.run h).entries stem =
      if fresh.keeps stem then (latest? stem h).map fun x => ⟨x.1, x.2 + ttl.seconds⟩ else none :=
    get?_run rfl h
  -- the time of a storing is a number and so is the time to live
  have hexpiry : ∀ stem e, Assoc.get? (fresh.run h).entries stem = some e →
      e.expiry.isNaN = false := by
    intro stem e he
    rw [hget] at he
    split at he
    · obtain ⟨⟨ds, time⟩, hlatest, rfl⟩ := Option.map_eq_some_iff.mp he
      obtain ⟨d, hd, rfl, -⟩ := exists_of_latest? hlatest
      exact Decimal.isNaN_add (hclock d hd) ttl.isNaN_seconds
    · cases he
  have hlookup := fun stem ds =>
    @lookup_eq_some_iff _ _ (Decimal.isNaN_of_isFinite hnow) stem (hexpiry stem) ds
  refine ⟨fun stem ds => ?_, ?_, (run_filter_asks _ h).symm⟩
  · rw [hlookup, run_keeps, hget, ← and_assoc, ← keeps_empty_iff]
    refine and_congr_right fun hkeeps => ?_
    rw [if_pos hkeeps]
    constructor
    · rintro ⟨e, he, rfl, hlt⟩
      obtain ⟨⟨ds, time⟩, hlatest, rfl⟩ := Option.map_eq_some_iff.mp he
      exact ⟨time, hlatest, hlt⟩
    · rintro ⟨time, hlatest, hlt⟩
      exact ⟨⟨ds, time + ttl.seconds⟩, by rw [hlatest]; rfl, rfl, hlt⟩
  · have hnodup : (Assoc.keys (fresh.run h).entries).Nodup :=
      nodup_keys_run (c := fresh) List.nodup_nil h
    rw [← encard_eq_size hnodup]
    refine congrArg Set.encard (Set.ext fun stem => ?_)
    rw [Set.mem_ofPred_eq, Set.mem_ofPred_eq, Option.isSome_iff_exists]
    constructor
    · rintro ⟨ds, hds⟩
      obtain ⟨-, e, he, -, hlt⟩ := (hlookup stem ds).mp hds
      exact ⟨e, he, hlt⟩
    · rintro ⟨e, he, hlt⟩
      refine ⟨e.descriptors, (hlookup stem _).mpr ⟨?_, e, he, rfl, hlt⟩⟩
      -- only prefixes that are kept have entries
      rw [hget] at he
      rw [run_keeps]
      split at he
      · assumption
      · cases he

/-- An official prefix that has been stored twice is found with the later descriptors, until they
expire ten seconds after that. -/
theorem lookup_run_storedTwice :
    let h : History :=
      [⟨5, .store "run.googleapis.com/" [{ type := .text "run.googleapis.com/jobs" }]⟩,
        ⟨0, .store "run.googleapis.com/" []⟩]
    let c := (empty (⟨10000000⟩ : Time.Span).seconds true).run h
    (∀ e ∈ h, e.now.isFinite = true) ∧ Float.isFinite 14 = true ∧ Float.isFinite 15 = true ∧
      c.lookup 14 "run.googleapis.com/" = some [{ type := .text "run.googleapis.com/jobs" }] ∧
      c.lookup 15 "run.googleapis.com/" = none := by
  intro h c
  have hclock : ∀ e ∈ h, e.now.isFinite = true := by
    simp only [h, List.forall_mem_cons]
    exact ⟨by decide, by decide, List.forall_mem_nil _⟩
  have hofficial : InOfficialDomain "run.googleapis.com/" := Text.occursIn_iff.mp (by decide)
  have hbefore : Float.isFinite 14 = true := by decide
  have hafter : Float.isFinite 15 = true := by decide
  refine ⟨hclock, hbefore, hafter, ?_, ?_⟩
  · exact ((lookup_run ⟨10000000⟩ true hclock hbefore).1 _ _).mpr
      ⟨by decide, fun _ => hofficial, 5, rfl, by decide⟩
  · refine Option.eq_none_iff_forall_ne_some.mpr fun ds hds => ?_
    obtain ⟨-, -, time, hlatest, hlt⟩ :=
      ((lookup_run ⟨10000000⟩ true hclock hafter).1 _ _).mp hds
    cases hlatest
    exact absurd hlt (by decide)

end DescriptorCache

end MetricRelay
