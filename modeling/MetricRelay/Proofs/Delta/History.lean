/-
A store as a function of what has been done with it.

A history lists the actions on a store with the readings of the clock, the latest first, as
`Store.run` replays it.  For a pair of a type and a key it says by itself which steps forget the
pair (`forgets`), which readings have come since (`sinceForgotten`, `received`) and which of them
count (`advances`):

* `Holds`, `holds_run` — after any history the entry of a pair is there exactly if a reading has
  come since the pair was last forgotten, and its total is the left fold of those that count;
* `lookup?_step` — what a single step does to the entry of a pair.

The clock may show anything at any step; only the steps that forget depend on it.
-/
import MetricRelay.Proofs.Delta.Store

namespace MetricRelay.Delta

/-- What can be done with a store. -/
inductive Action (α : Type) where
  | increment (type : Json.Key) (r : α)
  | list (type : Json.Key)
  | evict
  | reset

/-- An action and what the clock shows at it. -/
structure Step (α : Type) where
  now : Float
  action : Action α

/-- Steps, the latest first. -/
abbrev History (α : Type) := List (Step α)

variable {α : Type} [Accumulates α]

/-- The store after a step. -/
def Store.step (s : Store α) (e : Step α) : Store α :=
  match e.action with
  | .increment type r => s.increment e.now type r
  | .list type => (s.list e.now type).2
  | .evict => (s.evict e.now).2
  | .reset => s.reset

/-- All readings that a history brings have a property. -/
def AllReadings (p : α → Prop) (h : History α) : Prop :=
  ∀ e ∈ h, ∀ type r, e.action = .increment type r → p r

/-- The store after all steps of a history. -/
def Store.run (s : Store α) : History α → Store α
  | [] => s
  | e :: past => (s.run past).step e

/-! ### What a history says about a pair -/

/-- The reading of a type and a key that a step brings. -/
def Step.reading? (type : Json.Key) (key : String) (e : Step α) : Option α :=
  match e.action with
  | .increment type' r => if type' = type ∧ Accumulates.key r = key then some r else none
  | _ => none

/-- What the clock showed when the latest reading of a pair came, whether it counted or not. -/
def lastSeen? (type : Json.Key) (key : String) (past : History α) : Option Float :=
  (past.find? fun e => (e.reading? type key).isSome).map fun e => e.now

/-- Whether a step forgets a pair that was seen at some time or never: a reset does, and so does an
eviction or a listing of the type if the pair has gone unseen for longer than the time to live. -/
def Step.forgets (ttl : Float) (type : Json.Key) (seen? : Option Float) (e : Step α) : Bool :=
  let overdue := decide (0 < ttl) && seen?.any fun seen => decide (ttl < e.now - seen)
  match e.action with
  | .increment _ _ => false
  | .list type' => decide (type' = type) && overdue
  | .evict => overdue
  | .reset => true

/-- The steps after the last one that forgets a pair. -/
def sinceForgotten (ttl : Float) (type : Json.Key) (key : String) : History α → History α
  | [] => []
  | e :: past =>
    if e.forgets ttl type (lastSeen? type key past) then []
    else e :: sinceForgotten ttl type key past

/-- The readings of a pair since it was last forgotten, the latest first. -/
def received (ttl : Float) (type : Json.Key) (key : String) (h : History α) : List α :=
  (sinceForgotten ttl type key h).filterMap fun e => e.reading? type key

/-- Those of some readings, the latest first, that are newer than all that came before. -/
def advances : List α → List α
  | [] => []
  | r :: earlier =>
    if ∀ q ∈ earlier, (Accumulates.time q).micros < (Accumulates.time r).micros
    then r :: advances earlier else advances earlier

/-- The left fold of readings, the earliest first. -/
def total? : List α → Option α
  | [] => none
  | r :: rs => some (rs.foldl Accumulates.merge r)

/-- Readings with a heading, which a total takes from the newest reading. -/
class Headed (α : Type) [Accumulates α] where
  heading : α → Heading
  key_eq : ∀ r : α, Accumulates.key r = (heading r).labelKey
  time_eq : ∀ r : α, Accumulates.time r = (heading r).time
  heading_merge : ∀ older newer : α, heading (Accumulates.merge older newer) = heading newer

instance : Headed Scalar := ⟨fun r => r.toHeading, fun _ => rfl, fun _ => rfl, fun _ _ => rfl⟩

instance : Headed HistogramReading :=
  ⟨fun r => r.toHeading, fun _ => rfl, fun _ => rfl, fun _ _ => rfl⟩

/-! ### Folds of readings -/

theorem total?_append (rs : List α) (r : α) :
    total? (rs ++ [r]) = some (((total? rs).map fun t => Accumulates.merge t r).getD r) := by
  cases rs with
  | nil => rfl
  | cons q rs => simp [total?]

theorem advances_sublist (rs : List α) : (advances rs).Sublist rs := by
  induction rs with
  | nil => exact List.Sublist.refl _
  | cons r rs ih =>
    rw [advances]
    split
    · exact ih.cons_cons r
    · exact ih.cons r

theorem advances_pairwise (rs : List α) :
    (advances rs).Pairwise fun r q =>
      (Accumulates.time q).micros < (Accumulates.time r).micros := by
  induction rs with
  | nil => exact List.Pairwise.nil
  | cons r rs ih =>
    rw [advances]
    split
    · next h => exact List.pairwise_cons.mpr ⟨fun q hq => h q ((advances_sublist rs).subset hq), ih⟩
    · exact ih

/-- The last reading that counts is the newest of all. -/
theorem exists_head?_advances {rs : List α} (h : rs ≠ []) :
    ∃ q ∈ rs, (advances rs).head? = some q ∧
      ∀ r ∈ rs, (Accumulates.time r).micros ≤ (Accumulates.time q).micros := by
  induction rs with
  | nil => exact absurd rfl h
  | cons r rs ih =>
    rw [advances]
    split
    · next hr =>
      refine ⟨r, List.mem_cons_self, rfl, fun q hq => ?_⟩
      rcases List.mem_cons.mp hq with rfl | hq
      · exact le_refl _
      · exact (hr q hq).le
    · next hr =>
      -- some earlier reading is as new as this one, and the newest of those is newer still
      push Not at hr
      obtain ⟨p, hp, hrp⟩ := hr
      obtain ⟨q, hq, hhead, hmax⟩ := ih (List.ne_nil_of_mem hp)
      refine ⟨q, List.mem_cons_of_mem _ hq, hhead, fun x hx => ?_⟩
      rcases List.mem_cons.mp hx with rfl | hx
      · exact hrp.trans (hmax p hp)
      · exact hmax x hx

/-- A fold bears the heading of the last reading. -/
theorem head?_of_total?_reverse [Headed α] {rs : List α} {t : α} (h : total? rs.reverse = some t) :
    rs.head?.map Headed.heading = some (Headed.heading t) := by
  cases rs with
  | nil => cases h
  | cons r rs =>
    rw [List.reverse_cons, total?_append] at h
    obtain rfl := Option.some.inj h
    cases total? rs.reverse with
    | none => rfl
    | some older => exact congrArg some (Headed.heading_merge older r).symm

/-- The total of those that count is as new as the newest reading. -/
theorem time_of_total?_advances [Headed α] {rs : List α} {t : α}
    (h : total? (advances rs).reverse = some t) :
    ∃ q ∈ rs, Accumulates.time q = Accumulates.time t ∧
      ∀ r ∈ rs, (Accumulates.time r).micros ≤ (Accumulates.time t).micros := by
  have hne : rs ≠ [] := by
    rintro rfl
    cases h
  obtain ⟨q, hq, hhead, hmax⟩ := exists_head?_advances hne
  have hheading := head?_of_total?_reverse h
  rw [hhead, Option.map_some, Option.some_inj] at hheading
  have htime : Accumulates.time q = Accumulates.time t := by
    rw [Headed.time_eq, Headed.time_eq, hheading]
  exact ⟨q, hq, htime, fun r hr => htime ▸ hmax r hr⟩

/-! ### One step -/

namespace Store

theorem step_ttl (s : Store α) (e : Step α) : (s.step e).ttl = s.ttl := by
  rw [step]
  split
  · rw [increment_eq]
  · rw [list]
    split <;> rfl
  · rfl
  · rfl

theorem run_ttl (s : Store α) (h : History α) : (s.run h).ttl = s.ttl := by
  induction h with
  | nil => rfl
  | cons e past ih => rw [run, step_ttl, ih]

theorem Tidy.step {s : Store α} (hs : s.Tidy) (e : Step α) : (s.step e).Tidy := by
  rw [Store.step]
  split
  · exact hs.increment _ _ _
  · exact hs.list _ _
  · exact hs.evict _
  · exact tidy_empty s.ttl

theorem Tidy.run {s : Store α} (hs : s.Tidy) (h : History α) : (s.run h).Tidy := by
  induction h with
  | nil => exact hs
  | cons e past ih => exact ih.step e

/-- What readings have and adding up keeps, totals have after every step. -/
theorem All.step {p : α → Prop} (hmerge : ∀ a b, p a → p b → p (Accumulates.merge a b))
    {s : Store α} (hs : s.All p) {e : Step α}
    (he : ∀ type r, e.action = .increment type r → p r) : (s.step e).All p := by
  obtain ⟨now, action⟩ := e
  cases action with
  | increment type r => exact hs.increment hmerge now type (he type r rfl)
  | list type => exact hs.list now type
  | evict => exact hs.evict now
  | reset => exact all_empty s.ttl

omit [Accumulates α] in
theorem drops_eq (s : Store α) (now : Float) (e : Entry α) :
    s.drops now e = (decide (0 < s.ttl) && decide (s.ttl < now - e.lastSeen)) := by
  rw [Bool.eq_iff_iff, drops_iff]
  simp

/-- A reading of a pair founds or extends its entry; any other step leaves the entry alone or
forgets it. -/
theorem lookup?_step {s : Store α} (hs : s.Tidy) (e : Step α) (type : Json.Key) (key : String) :
    (s.step e).lookup? type key =
      match e.reading? type key with
      | some r => some (extended (s.lookup? type key) e.now r)
      | none => (s.lookup? type key).filter fun x => !e.forgets s.ttl type (some x.lastSeen) := by
  obtain ⟨now, action⟩ := e
  cases action with
  | increment type' r =>
    simp only [step, Step.reading?, Step.forgets, lookup?_increment]
    by_cases h : type' = type ∧ Accumulates.key r = key
    · simp [h]
    · simp only [h, if_false]
      cases s.lookup? type key <;> rfl
  | list type' =>
    simp only [step, Step.reading?, Step.forgets, lookup?_list hs, drops_eq]
    by_cases h : type' = type
    · simp [h]
    · simp only [h, if_false, decide_false, Bool.false_and]
      cases s.lookup? type key <;> rfl
  | evict => simp [step, Step.reading?, Step.forgets, lookup?_evict hs, drops_eq]
  | reset => simp [step, Step.reading?, Step.forgets]

end Store

/-! ### Whole histories -/

theorem lastSeen?_cons (type : Json.Key) (key : String) (e : Step α) (past : History α) :
    lastSeen? type key (e :: past) =
      if (e.reading? type key).isSome then some e.now else lastSeen? type key past := by
  rw [lastSeen?, List.find?_cons]
  cases (e.reading? type key).isSome <;> rfl

theorem received_cons (ttl : Float) (type : Json.Key) (key : String) (e : Step α)
    (past : History α) :
    received ttl type key (e :: past) =
      if e.forgets ttl type (lastSeen? type key past) then []
      else (e.reading? type key).toList ++ received ttl type key past := by
  rw [received, sinceForgotten]
  split
  · rfl
  · rw [List.filterMap_cons]
    cases e.reading? type key <;> rfl

theorem Step.action_of_reading? {type : Json.Key} {key : String} {e : Step α} {r : α}
    (h : e.reading? type key = some r) :
    e.action = .increment type r ∧ Accumulates.key r = key := by
  obtain ⟨now, action⟩ := e
  cases action with
  | increment type' r' =>
    simp only [Step.reading?] at h
    split at h
    · next hpair =>
      cases h
      exact ⟨by rw [hpair.1], hpair.2⟩
    · cases h
  | _ => cases h

/-- A step with a reading forgets nothing. -/
theorem Step.forgets_of_reading? {type : Json.Key} {key : String} {e : Step α} {r : α}
    (h : e.reading? type key = some r) (ttl : Float) (seen? : Option Float) :
    e.forgets ttl type seen? = false := by
  rw [Step.forgets, (Step.action_of_reading? h).1]

theorem Store.All.run {p : α → Prop} (hmerge : ∀ a b, p a → p b → p (Accumulates.merge a b))
    {s : Store α} (hs : s.All p) {h : History α} (hh : AllReadings p h) : (s.run h).All p := by
  induction h with
  | nil => exact hs
  | cons e past ih =>
    exact (ih fun d hd => hh d (List.mem_cons_of_mem e hd)).step hmerge (hh e List.mem_cons_self)

/-- An entry records the readings since its pair was last forgotten. -/
structure Records (ttl : Float) (type : Json.Key) (key : String) (h : History α) (x : Entry α) :
    Prop where
  lastSeen : lastSeen? type key h = some x.lastSeen
  total : total? (advances (received ttl type key h)).reverse = some x.total

/-- The entry after a further reading records that reading too. -/
theorem Records.cons [Headed α] {ttl : Float} {type : Json.Key} {key : String} {past : History α}
    {x : Entry α} (hx : Records ttl type key past x) {e : Step α} {r : α}
    (hr : e.reading? type key = some r) :
    Records ttl type key (e :: past) (x.fold e.now r) := by
  constructor
  · rw [lastSeen?_cons, hr, Entry.fold_lastSeen]
    rfl
  · rw [received_cons, Step.forgets_of_reading? hr, hr]
    show total? (advances (r :: received ttl type key past)).reverse = _
    obtain ⟨q, hq, htime, hmax⟩ := time_of_total?_advances hx.total
    rw [advances, Entry.fold_total, ← htime]
    split
    · next h =>
      rw [List.reverse_cons, total?_append, hx.total, if_pos (h q hq)]
      rfl
    · next h =>
      -- the total is as new as some earlier reading that this one is not newer than
      rw [if_neg fun hlt => h fun p hp => (hmax p hp).trans_lt (htime ▸ hlt), hx.total]

/-- A founding entry records its only reading. -/
theorem records_of_received_eq_nil {ttl : Float} {type : Json.Key} {key : String}
    {past : History α} (hpast : received ttl type key past = []) {e : Step α} {r : α}
    (hr : e.reading? type key = some r) :
    Records ttl type key (e :: past) ⟨r, e.now⟩ := by
  constructor
  · rw [lastSeen?_cons, hr]
    rfl
  · rw [received_cons, Step.forgets_of_reading? hr, hr, hpast]
    rfl

/-- After every history the entry of a pair records the readings since it was last forgotten, and
without an entry there are none. -/
theorem run_records [Headed α] (ttl : Float) (type : Json.Key) (key : String) (h : History α) :
    match ((Store.empty ttl).run h).lookup? type key with
    | none => received ttl type key h = []
    | some x => Records ttl type key h x := by
  -- on the history; a step brings a reading of the pair or it may forget the pair
  induction h with
  | nil => rfl
  | cons e past ih =>
    rw [Store.run, Store.lookup?_step ((Store.tidy_empty ttl).run past), Store.run_ttl]
    cases hr : e.reading? type key with
    | some r =>
      cases hx : ((Store.empty ttl).run past).lookup? type key with
      | none =>
        rw [hx] at ih
        exact records_of_received_eq_nil ih hr
      | some x =>
        rw [hx] at ih
        exact ih.cons hr
    | none =>
      have hseen : lastSeen? type key (e :: past) = lastSeen? type key past := by
        rw [lastSeen?_cons, hr]
        rfl
      cases hx : ((Store.empty ttl).run past).lookup? type key with
      | none =>
        rw [hx] at ih
        show received ttl type key (e :: past) = []
        rw [received_cons, hr, ih]
        exact ite_self _
      | some x =>
        rw [hx] at ih
        have hfor : e.forgets (Store.empty (α := α) ttl).ttl type (some x.lastSeen)
            = e.forgets ttl type (lastSeen? type key past) := by
          rw [ih.lastSeen]
          rfl
        simp only [Option.filter_some, hfor]
        -- whether the pair is forgotten depends on when it was last seen, which the entry knows
        cases hf : e.forgets ttl type (lastSeen? type key past) with
        | true =>
          show received ttl type key (e :: past) = []
          rw [received_cons, hf]
          rfl
        | false =>
          refine ⟨hseen.trans ih.lastSeen, ?_⟩
          rw [received_cons, hf, hr]
          exact ih.total

/-- What a store holds of a pair after a history, where `heading` gives the heading of a reading and
`IsSum` says what adds up a first reading and further ones.

The pair has an entry exactly if a reading of it came after the last step that forgot it.  The total
is the left fold of those readings since then that were newer than all before them, beginning with
the first; it adds them up and bears the heading of the last of these.  Each of them counts once,
and no reading since then is newer than the total. -/
structure Holds (heading : α → Heading) (IsSum : α → List α → α → Prop) (ttl : Float)
    (type : Json.Key) (key : String) (h : History α) : Prop where
  key_eq : ∀ r : α, Accumulates.key r = (heading r).labelKey
  time_eq : ∀ r : α, Accumulates.time r = (heading r).time
  isSome_iff : (((Store.empty ttl).run h).lookup? type key).isSome = true ↔
    received ttl type key h ≠ []
  total_eq : (((Store.empty ttl).run h).lookup? type key).map Entry.total
    = total? (advances (received ttl type key h)).reverse
  isSum : ∀ x, ((Store.empty ttl).run h).lookup? type key = some x →
    ∃ first rest, (advances (received ttl type key h)).reverse = first :: rest ∧
      IsSum first rest x.total
  heading_eq : ∀ x, ((Store.empty ttl).run h).lookup? type key = some x →
    (advances (received ttl type key h)).head?.map heading = some (heading x.total)
  lastSeen_eq : ∀ x, ((Store.empty ttl).run h).lookup? type key = some x →
    lastSeen? type key h = some x.lastSeen
  newest : ∀ x, ((Store.empty ttl).run h).lookup? type key = some x →
    ∀ r ∈ received ttl type key h, (heading r).time.micros ≤ (heading x.total).time.micros
  once : (advances (received ttl type key h)).Sublist (received ttl type key h)
  rising : (advances (received ttl type key h)).Pairwise
    fun r q => (heading q).time.micros < (heading r).time.micros

/-- A store holds what its readings' sums are, if a left fold is such a sum. -/
theorem holds_run [Headed α] {IsSum : α → List α → α → Prop}
    (hsum : ∀ first rest, IsSum first rest (rest.foldl Accumulates.merge first)) (ttl : Float)
    (type : Json.Key) (key : String) (h : History α) :
    Holds Headed.heading IsSum ttl type key h := by
  have hrec := run_records ttl type key h
  -- without an entry there is nothing to say about it, and with one it records the readings
  have hentry : ∀ x, ((Store.empty ttl).run h).lookup? type key = some x →
      Records ttl type key h x := by
    intro x hx
    rwa [hx] at hrec
  refine ⟨Headed.key_eq, Headed.time_eq, ?_, ?_, ?_, ?_, ?_, ?_, advances_sublist _, ?_⟩
  · cases hx : ((Store.empty ttl).run h).lookup? type key with
    | none =>
      rw [hx] at hrec
      simpa using hrec
    | some x =>
      refine iff_of_true rfl fun hnil => ?_
      have htotal := (hentry x hx).total
      rw [hnil] at htotal
      cases htotal
  · cases hx : ((Store.empty ttl).run h).lookup? type key with
    | none =>
      rw [hx] at hrec
      rw [show received ttl type key h = [] from hrec]
      rfl
    | some x => exact (hentry x hx).total.symm
  · intro x hx
    have htotal := (hentry x hx).total
    cases hfolded : (advances (received ttl type key h)).reverse with
    | nil =>
      rw [hfolded] at htotal
      cases htotal
    | cons first rest =>
      rw [hfolded] at htotal
      exact ⟨first, rest, rfl, Option.some.inj htotal ▸ hsum first rest⟩
  · exact fun x hx => head?_of_total?_reverse (hentry x hx).total
  · exact fun x hx => (hentry x hx).lastSeen
  · intro x hx r hr
    obtain ⟨-, -, -, hmax⟩ := time_of_total?_advances (hentry x hx).total
    rw [← Headed.time_eq, ← Headed.time_eq]
    exact hmax r hr
  · exact (advances_pairwise _).imp fun {r q} hlt => by rwa [← Headed.time_eq, ← Headed.time_eq]

end MetricRelay.Delta
