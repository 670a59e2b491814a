/-
How deep a text is nested.

From left to right, each place of a text lies in so many lists and objects, and perhaps inside a
text, where brackets open nothing.  This can be said of any characters, whether they are JSON or not
(`Place.step`).  A reader that stops as too many lists and objects are open has come to a place
where they are:

* `Tracks` — what a reader has taken off moves the place as it should, and one that finds a text too
  deep has come to a place that is;
* `tracks_readValue` — the readers of values, items and members do so;
* `read_ne_tooDeep` — a text that is nowhere deeper than the greatest depth is not too deep.
-/
import Mathlib.Data.List.Infix
import Mathlib.Data.List.TakeWhile
import MetricRelay.Json.Reader
import MetricRelay.Proofs.Except

namespace MetricRelay.Json

/-- A place of a text, with the count of the lists and objects that are open there. -/
inductive Place where
  | outside (opened : Nat)
  /-- Inside a text. -/
  | inside (opened : Nat)
  /-- Inside a text and behind a backslash. -/
  | escaped (opened : Nat)

namespace Place

/-- The lists and objects that are open. -/
def opened : Place → Nat
  | outside n | inside n | escaped n => n

/-- The place behind a further character. -/
def step : Place → Char → Place
  | outside n, c =>
    if c = '\x22' then inside n
    else if c = '[' ∨ c = '\x7b' then outside (n + 1)
    else if c = ']' ∨ c = '\x7d' then outside (n - 1)
    else outside n
  | inside n, c =>
    if c = '\x22' then outside n
    else if c = '\x5c' then escaped n
    else inside n
  | escaped n, _ => inside n

end Place

/-- The place behind some characters. -/
def placeAfter (p : Place) (cs : List Char) : Place :=
  cs.foldl Place.step p

theorem placeAfter_append (p : Place) (cs ds : List Char) :
    placeAfter p (cs ++ ds) = placeAfter (placeAfter p cs) ds :=
  List.foldl_append

/-- No place of a text lies in more than so many lists and objects. -/
def NestsWithin (depth : Nat) (cs : List Char) : Prop :=
  ∀ pre ∈ cs.inits, (placeAfter (.outside 0) pre).opened ≤ depth

instance (depth : Nat) (cs : List Char) : Decidable (NestsWithin depth cs) :=
  inferInstanceAs (Decidable (∀ pre ∈ cs.inits, _))

/-- A character that neither opens nor closes anything outside of texts. -/
def IsQuiet (c : Char) : Prop :=
  c ∉ ['\x22', '[', ']', '\x7b', '\x7d']

instance (c : Char) : Decidable (IsQuiet c) :=
  inferInstanceAs (Decidable (¬_))

/-- What a reader makes of a text that begins at a place, if `depth` more lists and objects may be
opened: what it takes off leads to another place, and if the text is too deep it comes to a place
that is. -/
structure Tracks {α : Type} (p q : Place) (depth : Nat) (cs : List Char)
    (r : Except ReadFault (α × List Char)) : Prop where
  ok : ∀ a rest, r = .ok (a, rest) → ∃ pre, cs = pre ++ rest ∧ placeAfter p pre = q
  tooDeep : r = .error .tooDeep → ∃ pre, pre <+: cs ∧ p.opened + depth < (placeAfter p pre).opened

namespace Tracks

variable {α β : Type} {p q m : Place} {depth depth' : Nat} {cs pre : List Char}

theorem error {fault : ReadFault} (h : fault ≠ .tooDeep) :
    Tracks p q depth cs (.error fault : Reading α) :=
  ⟨nofun, fun hr => absurd (Except.error.inj hr) h⟩

theorem nil (a : α) : Tracks p p depth cs (.ok (a, cs)) := by
  refine ⟨fun b rest h => ?_, nofun⟩
  obtain ⟨-, rfl⟩ := Prod.mk.inj (Except.ok.inj h)
  exact ⟨[], rfl, rfl⟩

/-- What is true behind some characters is true in front of them. -/
theorem after {r : Reading α} (hpre : placeAfter p pre = m)
    (hle : p.opened + depth ≤ m.opened + depth') (h : Tracks m q depth' cs r) :
    Tracks p q depth (pre ++ cs) r := by
  constructor
  · intro a rest hr
    obtain ⟨mid, rfl, hmid⟩ := h.ok a rest hr
    refine ⟨pre ++ mid, (List.append_assoc ..).symm, ?_⟩
    rw [placeAfter_append, hpre]
    exact hmid
  · intro hr
    obtain ⟨mid, hmid, hlt⟩ := h.tooDeep hr
    refine ⟨pre ++ mid, List.prefix_append_right_inj pre |>.mpr hmid, ?_⟩
    rw [placeAfter_append, hpre]
    exact Nat.lt_of_le_of_lt hle hlt

theorem map {r : Reading α} {f : α → β} (h : Tracks p q depth cs r) :
    Tracks p q depth cs (r.map fun x => (f x.1, x.2)) := by
  cases r with
  | error fault => exact ⟨nofun, fun hr => h.tooDeep (congrArg _ (Except.error.inj hr))⟩
  | ok x =>
    refine ⟨fun b rest hr => ?_, nofun⟩
    obtain ⟨-, rfl⟩ := Prod.mk.inj (Except.ok.inj hr)
    exact h.ok x.1 x.2 rfl

theorem bind {r : Except ReadFault (α × List Char)}
    {f : α × List Char → Except ReadFault (β × List Char)}
    (h : Tracks p m depth cs r)
    (hle : p.opened + depth ≤ m.opened + depth')
    (hf : ∀ a rest, Tracks m q depth' rest (f (a, rest))) : Tracks p q depth cs (r >>= f) := by
  cases r with
  | error fault => exact ⟨nofun, fun hr => h.tooDeep (congrArg _ (Except.error.inj hr))⟩
  | ok x =>
    obtain ⟨pre, rfl, hpre⟩ := h.ok x.1 x.2 rfl
    exact after hpre hle (hf x.1 x.2)

theorem bind_ok {r : Except ReadFault (α × List Char)} {f : α → β} (h : Tracks p q depth cs r) :
    Tracks p q depth cs (r >>= fun x => .ok (f x.1, x.2)) := by
  cases r with
  | error fault => exact h.map (f := f)
  | ok x => exact h.map (f := f)

end Tracks

/-! ### Quiet characters -/

section

variable {α : Type} {k depth : Nat}

theorem placeAfter_quiet {cs : List Char} (h : ∀ c ∈ cs, IsQuiet c) :
    placeAfter (.outside k) cs = .outside k := by
  induction cs with
  | nil => rfl
  | cons c cs ih =>
    obtain ⟨hc, hcs⟩ := List.forall_mem_cons.mp h
    simp only [IsQuiet, List.mem_cons, List.not_mem_nil, or_false, not_or] at hc
    have hstep : Place.step (.outside k) c = .outside k := by
      simp only [Place.step, hc, or_self, if_false]
    rw [placeAfter, List.foldl_cons, hstep]
    exact ih hcs

theorem isQuiet_of_isDigit {c : Char} (h : c.isDigit = true) : IsQuiet c := by
  simp only [IsQuiet, List.mem_cons, List.not_mem_nil, or_false, not_or]
  refine ⟨?_, ?_, ?_, ?_, ?_⟩ <;> rintro rfl <;> exact absurd h (by decide)

/-- The rest of a text behind quiet characters. -/
def IsRest (cs rest : List Char) : Prop :=
  ∃ pre, cs = pre ++ rest ∧ ∀ c ∈ pre, IsQuiet c

theorem IsRest.refl (cs : List Char) : IsRest cs cs :=
  ⟨[], rfl, List.forall_mem_nil _⟩

theorem IsRest.trans {cs ds es : List Char} (h : IsRest cs ds) (h' : IsRest ds es) :
    IsRest cs es := by
  obtain ⟨pre, rfl, hpre⟩ := h
  obtain ⟨mid, rfl, hmid⟩ := h'
  exact ⟨pre ++ mid, (List.append_assoc ..).symm, List.forall_mem_append.mpr ⟨hpre, hmid⟩⟩

theorem IsRest.cons {c : Char} {cs rest : List Char} (hc : IsQuiet c) (h : IsRest cs rest) :
    IsRest (c :: cs) rest := by
  obtain ⟨pre, rfl, hpre⟩ := h
  exact ⟨c :: pre, rfl, List.forall_mem_cons.mpr ⟨hc, hpre⟩⟩

theorem isRest_skipBlank (cs : List Char) : IsRest cs (skipBlank cs) := by
  refine ⟨_, List.takeWhile_append_dropWhile.symm, fun c hc => ?_⟩
  have hblank := List.mem_takeWhile_imp hc
  simp only [decide_eq_true_eq] at hblank
  rcases hblank with rfl | rfl | rfl | rfl <;> decide

theorem Tracks.of_isRest {q : Place} {cs rest : List Char} {r : Except ReadFault (α × List Char)}
    (hrest : IsRest cs rest) (h : Tracks (.outside k) q depth rest r) :
    Tracks (.outside k) q depth cs r := by
  obtain ⟨pre, rfl, hpre⟩ := hrest
  exact h.after (placeAfter_quiet hpre) (Nat.le_refl _)

end

/-! ### Texts -/

/-- What is inside a text and no part of an escape. -/
theorem step_inside {c : Char} (hquote : c ≠ '\x22') (hslash : c ≠ '\x5c') (k : Nat) :
    Place.step (.inside k) c = .inside k := by
  simp only [Place.step, if_neg hquote, if_neg hslash]

theorem step_inside_of_hexValue? {c : Char} {v : Nat} (h : Text.hexValue? c = some v) (k : Nat) :
    Place.step (.inside k) c = .inside k := by
  have hquote : Text.hexValue? '\x22' = none := by decide
  have hslash : Text.hexValue? '\x5c' = none := by decide
  refine step_inside ?_ ?_ k
  · rintro rfl
    rw [hquote] at h
    cases h
  · rintro rfl
    rw [hslash] at h
    cases h

/-- The escape of a unit stays inside its text. -/
theorem placeAfter_escapeUnit {a b c d : Char} {u : Nat} (h : hexUnit? a b c d = some u) (k : Nat) :
    placeAfter (.inside k) ['\x5c', 'u', a, b, c, d] = .inside k := by
  obtain ⟨_, ha, h⟩ := Option.bind_eq_some_iff.mp h
  obtain ⟨_, hb, h⟩ := Option.bind_eq_some_iff.mp h
  obtain ⟨_, hc, h⟩ := Option.bind_eq_some_iff.mp h
  obtain ⟨_, hd, h⟩ := Option.bind_eq_some_iff.mp h
  show Place.step (Place.step (Place.step (Place.step (.inside k) a) b) c) d = _
  rw [step_inside_of_hexValue? ha, step_inside_of_hexValue? hb, step_inside_of_hexValue? hc,
    step_inside_of_hexValue? hd]

theorem peekEscape?_eq_some {cs : List Char} {v : Nat} (h : peekEscape? cs = some v) :
    ∃ a b c d ds, cs = ['\x5c', 'u', a, b, c, d] ++ ds ∧ hexUnit? a b c d = some v := by
  rw [peekEscape?.eq_def] at h
  split at h
  · exact ⟨_, _, _, _, _, rfl, h⟩
  · cases h

theorem joinEscapes_eq_true {u n : Nat} {v : Option Nat} (h : joinEscapes u v = (n, true)) :
    ∃ w, v = some w := by
  cases v with
  | none => cases h
  | some w => exact ⟨w, rfl⟩

theorem tracks_readChars (k depth : Nat) (cs : List Char) :
    Tracks (.inside k) (.outside k) depth cs (readChars cs) := by
  fun_induction readChars cs with
  | case1 => exact .error (by decide)
  | case2 cs =>
    have hquote : placeAfter (.inside k) ['\x22'] = .outside k := rfl
    exact (Tracks.nil []).after hquote (Nat.le_refl _)
  | case3 => exact .error (by decide)
  | case4 a b c d cs u hunit n isPair hjoin ih =>
    refine Tracks.map (f := fun s => Text.ofCode n ++ s) ?_
    refine Tracks.after (placeAfter_escapeUnit hunit k) (Nat.le_refl _) ?_
    cases isPair with
    | false => exact ih
    | true =>
      -- the escape behind it is taken off as well
      obtain ⟨v, hv⟩ := joinEscapes_eq_true hjoin
      obtain ⟨a', b', c', d', ds, rfl, hunit'⟩ := peekEscape?_eq_some hv
      exact Tracks.after (placeAfter_escapeUnit hunit' k) (Nat.le_refl _) ih
  | case5 => exact .error (by decide)
  | case6 e cs _ c _ ih =>
    have hescape : placeAfter (.inside k) ['\x5c', e] = .inside k := rfl
    exact (Tracks.map (f := fun s => c :: s) ih).after hescape (Nat.le_refl _)
  | case7 => exact .error (by decide)
  | case8 c cs hquote _ _ hplain ih =>
    have hstep : placeAfter (.inside k) [c] = .inside k :=
      step_inside hquote (fun hc => hplain (Or.inr hc)) k
    exact (Tracks.map (f := fun s => c :: s) ih).after hstep (Nat.le_refl _)

theorem tracks_readText (k depth : Nat) (cs : List Char) :
    Tracks (.inside k) (.outside k) depth cs (readText cs) :=
  Tracks.map (f := fun s => String.ofList s) (tracks_readChars k depth cs)

/-! ### Numbers and words -/

theorem isRest_spanAscii (cs : List Char) : IsRest cs (spanAscii cs).2 :=
  ⟨_, List.takeWhile_append_dropWhile.symm,
    fun _ hc => isQuiet_of_isDigit (List.mem_takeWhile_imp hc)⟩

theorem isRest_takeSign (cs : List Char) : IsRest cs (Decimal.takeSign cs).2 := by
  rw [Decimal.takeSign.eq_def]
  split
  · exact (IsRest.refl _).cons (by decide)
  · exact (IsRest.refl _).cons (by decide)
  · exact IsRest.refl _

theorem isRest_readFraction? {cs rest : List Char} {ds : List Nat}
    (h : readFraction? cs = some (ds, rest)) : IsRest cs rest := by
  rw [readFraction?.eq_def] at h
  split at h
  · next cs =>
    have hrest := isRest_spanAscii cs
    split at h
    · cases h
    · next hspan =>
      rw [hspan] at hrest
      obtain ⟨-, rfl⟩ := Prod.mk.inj (Option.some.inj h)
      exact hrest.cons (by decide)
  · cases h

theorem isRest_readExponent? {cs rest : List Char} {n : Int}
    (h : readExponent? cs = some (n, rest)) :
    IsRest cs rest := by
  rw [readExponent?.eq_def] at h
  split at h
  · next c cs =>
    split at h
    · next hc =>
      have hquiet : IsQuiet c := by
        rcases hc with rfl | rfl <;> decide
      have hrest := (isRest_takeSign cs).trans (isRest_spanAscii _)
      dsimp only at h
      split at h
      · cases h
      · next hspan =>
        rw [hspan] at hrest
        obtain ⟨-, rfl⟩ := Prod.mk.inj (Option.some.inj h)
        exact hrest.cons hquiet
    · cases h
  · cases h

/-- What is read off quiet characters leaves the place where it is. -/
theorem Tracks.of_quiet {α : Type} {k depth : Nat} {cs rest : List Char} (h : IsRest cs rest)
    (a : α) :
    Tracks (.outside k) (.outside k) depth cs (.ok (a, rest)) :=
  Tracks.of_isRest h (.nil a)

theorem isRest_exponent {cs rest : List Char} (h : IsRest cs rest) :
    IsRest cs ((readExponent? rest).getD (0, rest)).2 := by
  cases he : readExponent? rest with
  | none => exact h
  | some e => exact h.trans (isRest_readExponent? he)

theorem tracks_readUnsigned (negative : Bool) (k depth : Nat) (cs : List Char) :
    Tracks (.outside k) (.outside k) depth cs (readUnsigned negative cs) := by
  rw [readUnsigned.eq_def]
  split
  next whole rest hspan =>
  have hwhole : IsRest cs rest := by
    split at hspan
    · obtain ⟨-, rfl⟩ := Prod.mk.inj hspan
      exact (IsRest.refl _).cons (by decide)
    · have hrest := isRest_spanAscii cs
      rw [hspan] at hrest
      exact hrest
  split
  · exact .error (by decide)
  · next fraction rest' _ hfraction =>
    exact .of_quiet (isRest_exponent (hwhole.trans (isRest_readFraction? hfraction))) _
  · split
    · next e he => exact .of_quiet (hwhole.trans (isRest_readExponent? he)) _
    · split
      · exact .error (by decide)
      · exact .of_quiet hwhole _

theorem isRest_readWord? {cs rest : List Char} {v : Json} (h : readWord? cs = some (v, rest)) :
    IsRest cs rest := by
  have hall : (readWord?.words.all fun w => w.1.toList.all fun c => decide (IsQuiet c))
      = true := by decide
  have hwords : ∀ w ∈ readWord?.words, ∀ c ∈ w.1.toList, IsQuiet c := by
    simpa only [List.all_eq_true, decide_eq_true_eq] using hall
  obtain ⟨w, hw, hfound⟩ := List.exists_of_findSome?_eq_some h
  split at hfound
  · next hprefix =>
    obtain ⟨-, rfl⟩ := Prod.mk.inj (Option.some.inj hfound)
    obtain ⟨rest, rfl⟩ := List.isPrefixOf_iff_prefix.mp hprefix
    refine ⟨w.1.toList, ?_, hwords w hw⟩
    rw [← String.length_toList, List.drop_left]
  · cases hfound

/-! ### Values -/

section

variable {α : Type} {k depth : Nat} {c : Char} {cs : List Char}

theorem placeAfter_open (hc : c = '[' ∨ c = '\x7b') :
    placeAfter (.outside k) [c] = .outside (k + 1) := by
  rcases hc with rfl | rfl <;> rfl

/-- Behind an opening bracket one more list or object is open. -/
theorem tracks_open (hc : c = '[' ∨ c = '\x7b') {r : Except ReadFault (α × List Char)}
    (h : Tracks (.outside (k + 1)) (.outside k) depth (skipBlank cs) r) :
    Tracks (.outside k) (.outside k) (depth + 1) (c :: cs) r :=
  (Tracks.of_isRest (isRest_skipBlank cs) h).after (placeAfter_open hc)
    (by simp only [Place.opened]; omega)

/-- Where nothing may be opened, an opening bracket is one too many. -/
theorem tracks_tooDeep (hc : c = '[' ∨ c = '\x7b') :
    Tracks (.outside k) (.outside k) 0 (c :: cs) (.error .tooDeep : Reading α) := by
  refine ⟨nofun, fun _ => ⟨[c], List.prefix_append [c] cs, ?_⟩⟩
  rw [placeAfter_open hc]
  exact Nat.lt_succ_self k

theorem tracks_close (hc : c = ']' ∨ c = '\x7d') (a : α) :
    Tracks (.outside (k + 1)) (.outside k) depth (c :: cs) (.ok (a, cs)) := by
  have hclose : placeAfter (.outside (k + 1)) [c] = .outside k := by
    rcases hc with rfl | rfl <;> rfl
  have hnil : Tracks (.outside k) (.outside k) (depth + 1) cs (.ok (a, cs)) := .nil a
  exact hnil.after hclose (by simp only [Place.opened]; omega)

/-- Between two items or members. -/
theorem Tracks.of_comma {q : Place} {r : Except ReadFault (α × List Char)}
    (h : Tracks (.outside k) q depth (skipBlank cs) r) :
    Tracks (.outside k) q depth (',' :: cs) r :=
  Tracks.of_isRest ((isRest_skipBlank cs).cons (by decide)) h

end

section

variable {fuel : Nat}
  (hvalue : ∀ k depth cs, Tracks (.outside k) (.outside k) depth cs (readValue fuel depth cs))

include hvalue

theorem tracks_readItems_succ
    (hitems : ∀ k depth cs,
      Tracks (.outside (k + 1)) (.outside k) depth cs (readItems fuel depth cs))
    (k depth : Nat) (cs : List Char) :
    Tracks (.outside (k + 1)) (.outside k) depth cs (readItems (fuel + 1) depth cs) := by
  rw [readItems]
  refine Tracks.bind (hvalue (k + 1) depth cs) (Nat.le_refl _) fun item rest => ?_
  refine Tracks.of_isRest (isRest_skipBlank rest) ?_
  dsimp only
  generalize skipBlank rest = rest
  split
  · exact .of_comma (Tracks.bind_ok (f := fun items => item :: items) (hitems k depth _))
  · exact tracks_close (Or.inl rfl) _
  · exact .error (by decide)

theorem tracks_readMembers_succ
    (hmembers : ∀ k depth cs,
      Tracks (.outside (k + 1)) (.outside k) depth cs (readMembers fuel depth cs))
    (k depth : Nat) (cs : List Char) :
    Tracks (.outside (k + 1)) (.outside k) depth cs (readMembers (fuel + 1) depth cs) := by
  have hquote : placeAfter (.outside (k + 1)) ['\x22'] = .inside (k + 1) := rfl
  rw [readMembers.eq_def]
  dsimp only
  split
  · next cs =>
    refine Tracks.after hquote (Nat.le_refl _)
      (Tracks.bind (tracks_readText (k + 1) depth cs) (Nat.le_refl _) fun key rest => ?_)
    refine Tracks.of_isRest (isRest_skipBlank rest) ?_
    dsimp only
    generalize skipBlank rest = rest
    split
    · next rest =>
      refine Tracks.of_isRest ((isRest_skipBlank rest).cons (by decide))
        (Tracks.bind (hvalue (k + 1) depth _) (Nat.le_refl _) fun value rest => ?_)
      refine Tracks.of_isRest (isRest_skipBlank rest) ?_
      dsimp only
      generalize skipBlank rest = rest
      split
      · exact .of_comma
          (Tracks.bind_ok (f := fun members => (key, value) :: members) (hmembers k depth _))
      · exact tracks_close (Or.inr rfl) _
      · exact .error (by decide)
    · exact .error (by decide)
  · exact .error (by decide)

end

/-- The readers of values, items and members take off what leaves the place where it is or closes
what is open. -/
theorem tracks_readValue (fuel : Nat) :
    (∀ k depth cs, Tracks (.outside k) (.outside k) depth cs (readValue fuel depth cs)) ∧
    (∀ k depth cs, Tracks (.outside (k + 1)) (.outside k) depth cs (readItems fuel depth cs)) ∧
    (∀ k depth cs,
      Tracks (.outside (k + 1)) (.outside k) depth cs (readMembers fuel depth cs)) := by
  induction fuel with
  | zero =>
    refine ⟨fun k depth cs => ?_, fun k depth cs => ?_, fun k depth cs => ?_⟩
    · rw [readValue]
      exact .error (by decide)
    · rw [readItems]
      exact .error (by decide)
    · rw [readMembers]
      exact .error (by decide)
  | succ fuel ih =>
    obtain ⟨hvalue, hitems, hmembers⟩ := ih
    refine ⟨fun k depth cs => ?_, tracks_readItems_succ hvalue hitems,
      tracks_readMembers_succ hvalue hmembers⟩
    rw [readValue.eq_def]
    dsimp only
    split
    · next cs =>
      have hquote : placeAfter (.outside k) ['\x22'] = .inside k := rfl
      exact (Tracks.map (f := fun s => text s) (tracks_readText k depth cs)).after hquote
        (Nat.le_refl _)
    · next cs =>
      split
      · exact tracks_tooDeep (Or.inl rfl)
      · next depth rest hdepth hskip =>
        obtain ⟨depth, rfl⟩ := Nat.exists_eq_succ_of_ne_zero hdepth
        refine tracks_open (Or.inl rfl) ?_
        rw [hskip]
        exact tracks_close (Or.inl rfl) _
      · exact tracks_open (Or.inl rfl) (Tracks.map (f := fun vs => list vs) (hitems k _ _))
    · next cs =>
      split
      · exact tracks_tooDeep (Or.inr rfl)
      · next depth rest hdepth hskip =>
        obtain ⟨depth, rfl⟩ := Nat.exists_eq_succ_of_ne_zero hdepth
        refine tracks_open (Or.inr rfl) ?_
        rw [hskip]
        exact tracks_close (Or.inr rfl) _
      · exact tracks_open (Or.inr rfl)
          (Tracks.map (f := fun ms => object (Assoc.ofEntries ms)) (hmembers k _ _))
    · split
      · next r hr => exact .of_quiet (isRest_readWord? hr) _
      · split
        · exact Tracks.of_isRest ((IsRest.refl _).cons (by decide)) (tracks_readUnsigned ..)
        · exact tracks_readUnsigned ..

/-- A text that is nowhere deeper than the greatest depth is not too deep for the reader. -/
theorem read_ne_tooDeep {cs : List Char} (h : NestsWithin maxDepth cs) :
    read cs ≠ .error .tooDeep := by
  intro hread
  have htracks : Tracks (.outside 0) (.outside 0) maxDepth cs
      (readValue (2 * cs.length + 2) maxDepth (skipBlank cs)) :=
    Tracks.of_isRest (isRest_skipBlank cs) ((tracks_readValue _).1 0 maxDepth _)
  rcases Except.bind_eq_error_iff.mp hread with hvalue | ⟨⟨v, rest⟩, -, hend⟩
  · obtain ⟨pre, hpre, hdeep⟩ := htracks.tooDeep hvalue
    have hle := h pre (List.mem_inits _ _ |>.mpr hpre)
    rw [show (Place.outside 0).opened = 0 from rfl] at hdeep
    omega
  · dsimp only at hend
    split at hend
    · cases hend
    · cases hend

end MetricRelay.Json
