/-
Objects of texts come back as they were written.

Every code point has one escape, and reading takes off one escape after the other: short ones, units
by their number, and two units for what no single one can write.

* `readChars_escapeCode` — one code point, whatever comes behind it;
* `readText_renderText` — a text;
* `readMembers_renderMembers` — members, if there is fuel for them;
* `read_render_object` — an object whose members have texts for values.
-/
import MetricRelay.Json.Printer
import MetricRelay.Json.Reader
import MetricRelay.Proofs.Assoc

namespace MetricRelay

namespace Text

/-- A text of Unicode scalar values. -/
def IsScalar (s : String) : Prop :=
  ∀ n ∈ codes s.toList, n.isValidChar

instance (s : String) : Decidable (IsScalar s) :=
  inferInstanceAs (Decidable (∀ n ∈ codes s.toList, n.isValidChar))

theorem hexValue?_hexDigit {d : Nat} (h : d < 16) : hexValue? (hexDigit d) = some d := by
  have hall : ∀ d : Fin 16, hexValue? (hexDigit d) = some d.val := by decide +kernel
  exact hall ⟨d, h⟩

theorem isSurrogate_of_isValidChar {n : Nat} (h : n.isValidChar) : isSurrogate n = false := by
  simp only [Nat.isValidChar] at h
  simp only [isSurrogate, Bool.and_eq_false_iff, decide_eq_false_iff_not]
  omega

/-! ### Pairs -/

/-- A pair stands for the code point that it was made of. -/
theorem ofPair_toPair {n : Nat} (h : 0x10000 ≤ n) : ofPair (toPair n).1 (toPair n).2 = n := by
  show 0x10000 + (0xd800 + (n - 0x10000) / 0x400 - 0xd800) * 0x400
    + (0xdc00 + (n - 0x10000) % 0x400 - 0xdc00) = n
  omega

theorem isLeading_toPair {n : Nat} (h : n < 0x110000) : isLeading (toPair n).1 = true := by
  have hlow : 0xd800 ≤ (toPair n).1 := Nat.le_add_right _ _
  have hhigh : (toPair n).1 ≤ 0xdbff := by
    show 0xd800 + (n - 0x10000) / 0x400 ≤ 0xdbff
    omega
  simp only [isLeading, hlow, hhigh, decide_true, Bool.and_self]

theorem isTrailing_toPair (n : Nat) : isTrailing (toPair n).2 = true := by
  have hlow : 0xdc00 ≤ (toPair n).2 := Nat.le_add_right _ _
  have hhigh : (toPair n).2 ≤ 0xdfff := by
    show 0xdc00 + (n - 0x10000) % 0x400 ≤ 0xdfff
    omega
  simp only [isTrailing, hlow, hhigh, decide_true, Bool.and_self]
end Text

namespace Json

/-! ### Texts -/

theorem hexUnit?_hex {u : Nat} (h : u < 0x10000) :
    ∃ a b c d, Text.hex 4 u = [a, b, c, d] ∧ hexUnit? a b c d = some u := by
  refine ⟨_, _, _, _, rfl, ?_⟩
  simp only [hexUnit?, Text.hexValue?_hexDigit (Nat.mod_lt _ (by decide : 0 < 16)),
    Option.bind_eq_bind, Option.bind_some]
  congr 1
  omega

/-- An escaped unit joins with the escape behind it only if it opens a pair. -/
theorem readChars_escapeUnit {u : Nat} (h : u < 0x10000) (cs : List Char) :
    readChars (escapeUnit u ++ cs) =
      (readChars (if (joinEscapes u (peekEscape? cs)).2 then cs.drop 6 else cs)).map
        fun r => (Text.ofCode (joinEscapes u (peekEscape? cs)).1 ++ r.1, r.2) := by
  obtain ⟨a, b, c, d, hhex, hunit⟩ := hexUnit?_hex h
  rw [escapeUnit, hhex]
  simp only [List.cons_append, List.nil_append]
  rw [readChars, hunit]

theorem peekEscape?_escapeUnit {v : Nat} (h : v < 0x10000) (cs : List Char) :
    peekEscape? (escapeUnit v ++ cs) = some v ∧ (escapeUnit v ++ cs).drop 6 = cs := by
  obtain ⟨a, b, c, d, hhex, hunit⟩ := hexUnit?_hex h
  rw [escapeUnit, hhex]
  exact ⟨hunit, rfl⟩

theorem readChars_shortEscape {e c : Char} (he : e ≠ 'u') (h : shortEscape? e = some c)
    (cs : List Char) :
    readChars ('\x5c' :: e :: cs) = (readChars cs).map fun r => (c :: r.1, r.2) := by
  rw [readChars, h]
  rintro a b c d ds hu
  exact absurd hu he

theorem readChars_plain {c : Char} (hquote : c ≠ '\x22') (hslash : c ≠ '\x5c')
    (hlow : 0x20 ≤ c.toNat) (cs : List Char) :
    readChars (c :: cs) = (readChars cs).map fun r => (c :: r.1, r.2) := by
  rw [readChars, if_neg]
  · simp [hslash, hlow]
  · exact hquote
  · rintro a b c d ds hc
    exact absurd hc hslash
  · rintro e ds hc
    exact absurd hc hslash

theorem joinEscapes_of_isLeading {u : Nat} (h : Text.isLeading u = false) (v : Option Nat) :
    joinEscapes u v = (u, false) := by
  cases v with
  | none => rfl
  | some v => simp only [joinEscapes, h, Bool.false_and, Bool.false_eq_true, if_false]

/-- A character that ASCII can print stands for itself. -/
theorem readChars_printable {n : Nat} (hquote : n ≠ 0x22) (hslash : n ≠ 0x5c) (hlow : 0x20 ≤ n)
    (hhigh : n < 0x7f) (cs : List Char) :
    readChars (Char.ofNat n :: cs) = (readChars cs).map fun r => (Text.ofCode n ++ r.1, r.2) := by
  have hvalid : n.isValidChar := Or.inl (by omega)
  have hn := Text.toNat_ofNat hvalid
  have hcode : Text.ofCode n = [Char.ofNat n] := by
    rw [Text.ofCode, if_neg (by rw [Text.isSurrogate_of_isValidChar hvalid]; decide),
      if_neg (by simp only [Text.markCode]; omega), if_neg (by simp only [Text.looseMark]; omega)]
  rw [hcode]
  refine readChars_plain ?_ ?_ (by omega) cs
  · exact fun hc => hquote (by rw [← hn, hc]; rfl)
  · exact fun hc => hslash (by rw [← hn, hc]; rfl)

/-- A code point that one unit writes. -/
theorem readChars_unit {n : Nat} (hunit : n < 0x10000) (hsurrogate : Text.isSurrogate n = false)
    (cs : List Char) :
    readChars (escapeUnit n ++ cs) = (readChars cs).map fun r => (Text.ofCode n ++ r.1, r.2) := by
  have hleading : Text.isLeading n = false := by
    simp only [Text.isSurrogate, Text.isLeading, Bool.and_eq_false_iff, decide_eq_false_iff_not]
      at hsurrogate ⊢
    omega
  rw [readChars_escapeUnit hunit, joinEscapes_of_isLeading hleading]
  rfl

/-- Two units, the first of which takes the second with it. -/
theorem readChars_pair {n : Nat} (hlow : 0x10000 ≤ n) (hhigh : n < 0x110000) (cs : List Char) :
    readChars (escapeUnit (Text.toPair n).1 ++ (escapeUnit (Text.toPair n).2 ++ cs))
      = (readChars cs).map fun r => (Text.ofCode n ++ r.1, r.2) := by
  have hleading := Text.isLeading_toPair hhigh
  have htrailing := Text.isTrailing_toPair n
  have hu : (Text.toPair n).1 < 0x10000 := by
    simp only [Text.isLeading, Bool.and_eq_true, decide_eq_true_eq] at hleading
    omega
  have hv : (Text.toPair n).2 < 0x10000 := by
    simp only [Text.isTrailing, Bool.and_eq_true, decide_eq_true_eq] at htrailing
    omega
  obtain ⟨hpeek, hdrop⟩ := peekEscape?_escapeUnit hv cs
  have hjoin : joinEscapes (Text.toPair n).1 (some (Text.toPair n).2) = (n, true) := by
    simp only [joinEscapes, hleading, htrailing, Bool.and_self, if_true, Text.ofPair_toPair hlow]
  rw [readChars_escapeUnit hu, hpeek, hjoin, if_pos rfl, hdrop]

/-- Reading takes off the escape of a code point, whatever comes behind it. -/
theorem readChars_escapeCode {n : Nat} (h : n.isValidChar) (cs : List Char) :
    readChars (escapeCode n ++ cs) = (readChars cs).map fun r => (Text.ofCode n ++ r.1, r.2) := by
  rw [escapeCode]
  -- one case for each short escape, then what stands for itself, one unit, and two
  split
  · next hn =>
    rcases hn with rfl | rfl
    · exact readChars_shortEscape (by decide) rfl cs
    · exact readChars_shortEscape (by decide) rfl cs
  split
  · next hn => subst hn; exact readChars_shortEscape (by decide) rfl cs
  split
  · next hn => subst hn; exact readChars_shortEscape (by decide) rfl cs
  split
  · next hn => subst hn; exact readChars_shortEscape (by decide) rfl cs
  split
  · next hn => subst hn; exact readChars_shortEscape (by decide) rfl cs
  split
  · next hn => subst hn; exact readChars_shortEscape (by decide) rfl cs
  split
  · next hspecial _ _ _ _ _ hprintable =>
    rw [not_or] at hspecial
    exact readChars_printable hspecial.1 hspecial.2 hprintable.1 hprintable.2 cs
  split
  · next hunit => exact readChars_unit hunit (Text.isSurrogate_of_isValidChar h) cs
  · next hunit =>
    have hhigh : n < 0x110000 := by
      simp only [Nat.isValidChar] at h
      omega
    show readChars (escapeUnit (Text.toPair n).1 ++ escapeUnit (Text.toPair n).2 ++ cs) = _
    rw [List.append_assoc]
    exact readChars_pair (Nat.le_of_not_lt hunit) hhigh cs

theorem readChars_flatMap {ns : List Nat} (h : ∀ n ∈ ns, n.isValidChar) (cs : List Char) :
    readChars (ns.flatMap escapeCode ++ '\x22' :: cs) = .ok (Text.ofCodes ns, cs) := by
  induction ns with
  | nil =>
    rw [List.flatMap_nil, List.nil_append, readChars]
    rfl
  | cons n ns ih =>
    obtain ⟨hn, hns⟩ := List.forall_mem_cons.mp h
    rw [List.flatMap_cons, List.append_assoc, readChars_escapeCode hn, ih hns]
    rfl

/-- What has been written between quotes is read behind the opening one. -/
theorem readText_renderText {s : String} (h : Text.IsScalar s) (cs : List Char) :
    ∃ ds, renderText s ++ cs = '\x22' :: ds ∧ readText ds = .ok (s, cs) := by
  refine ⟨(Text.codes s.toList).flatMap escapeCode ++ '\x22' :: cs, ?_, ?_⟩
  · rw [renderText, List.cons_append, List.cons_append, List.append_assoc]
    rfl
  · rw [readText, readChars_flatMap h, Text.ofCodes_codes]
    show Except.ok (String.ofList s.toList, cs) = _
    rw [String.ofList_toList]

/-! ### Objects of texts -/

/-- Members with texts for values. -/
def texts (pairs : List (String × String)) : List (String × Json) :=
  pairs.map fun p => (p.1, .text p.2)

theorem skipBlank_quote (cs : List Char) : skipBlank ('\x22' :: cs) = '\x22' :: cs := rfl

/-- The members of an object after one of them has been read. -/
def membersBehind (fuel depth : Nat) (m : String × Json) (cs : List Char) :
    Except ReadFault (List (String × Json) × List Char) := do
  match skipBlank cs with
  | ',' :: rest =>
    let (members, rest) ← readMembers fuel depth (skipBlank rest)
    .ok (m :: members, rest)
  | '\x7d' :: rest => .ok ([m], rest)
  | _ => .error .malformed

theorem membersBehind_comma {fuel depth : Nat} {ms : List (String × Json)} {cs ds : List Char}
    (h : readMembers fuel depth ('\x22' :: ds) = .ok (ms, cs)) (m : String × Json) :
    membersBehind fuel depth m (',' :: ' ' :: '\x22' :: ds) = .ok (m :: ms, cs) := by
  show (readMembers fuel depth ('\x22' :: ds) >>= fun r => .ok (m :: r.1, r.2)) = _
  rw [h]
  rfl

/-- One member is read up to what follows it. -/
theorem readMembers_member {k t : String} (hk : Text.IsScalar k) (ht : Text.IsScalar t)
    (fuel depth : Nat) (cs : List Char) :
    readMembers (fuel + 2) depth (renderText k ++ ':' :: ' ' :: (renderText t ++ cs))
      = membersBehind (fuel + 1) depth (k, text t) cs := by
  obtain ⟨ds, hds, htext⟩ := readText_renderText ht cs
  obtain ⟨es, hes, hkey⟩ := readText_renderText hk (':' :: ' ' :: (renderText t ++ cs))
  have hvalue : readValue (fuel + 1) depth ('\x22' :: ds) = .ok (text t, cs) := by
    rw [readValue, htext]
    rfl
  have hcolon : skipBlank (':' :: ' ' :: (renderText t ++ cs))
      = ':' :: ' ' :: (renderText t ++ cs) := rfl
  have hspace : skipBlank (' ' :: (renderText t ++ cs)) = '\x22' :: ds := by
    rw [hds]
    rfl
  rw [hes, readMembers]
  simp only [hkey, hcolon, hspace, hvalue, bind, Except.bind]
  rfl

theorem exists_cons_renderMembers (p : String × String) (ps : List (String × String))
    (cs : List Char) :
    ∃ ds, renderMembers (texts (p :: ps)) ++ cs = '\x22' :: ds := by
  cases ps with
  | nil => exact ⟨_, rfl⟩
  | cons q qs => exact ⟨_, rfl⟩

/-- Members with texts for values come back, if there is fuel for each. -/
theorem readMembers_renderMembers {pairs : List (String × String)} (hne : pairs ≠ [])
    (h : ∀ p ∈ pairs, Text.IsScalar p.1 ∧ Text.IsScalar p.2) {fuel : Nat}
    (hfuel : pairs.length < fuel) (depth : Nat) (cs : List Char) :
    readMembers fuel depth (renderMembers (texts pairs) ++ '\x7d' :: cs)
      = .ok (texts pairs, cs) := by
  induction pairs generalizing fuel with
  | nil => exact absurd rfl hne
  | cons p ps ih =>
    obtain ⟨⟨hk, ht⟩, hps⟩ := List.forall_mem_cons.mp h
    obtain ⟨fuel, rfl⟩ : ∃ n, fuel = n + 2 := Nat.exists_eq_add_of_le' (by
      rw [List.length_cons] at hfuel
      omega)
    cases ps with
    | nil =>
      have hrender : renderMembers (texts [p]) ++ '\x7d' :: cs
          = renderText p.1 ++ ':' :: ' ' :: (renderText p.2 ++ '\x7d' :: cs) := by
        simp [texts, renderMembers, renderChars]
      rw [hrender, readMembers_member hk ht]
      rfl
    | cons q qs =>
      have hrender : renderMembers (texts (p :: q :: qs)) ++ '\x7d' :: cs
          = renderText p.1 ++ ':' :: ' ' :: (renderText p.2
            ++ ',' :: ' ' :: (renderMembers (texts (q :: qs)) ++ '\x7d' :: cs)) := by
        simp [texts, renderMembers, renderChars]
      have hrest : readMembers (fuel + 1) depth (renderMembers (texts (q :: qs)) ++ '\x7d' :: cs)
          = .ok (texts (q :: qs), cs) :=
        ih (List.cons_ne_nil q qs) hps (by
          rw [List.length_cons] at hfuel
          omega)
      obtain ⟨ds, hds⟩ := exists_cons_renderMembers q qs ('\x7d' :: cs)
      rw [hds] at hrest
      rw [hrender, readMembers_member hk ht, hds, membersBehind_comma hrest]
      rfl

theorem readValue_open (fuel depth : Nat) (cs : List Char) :
    readValue (fuel + 1) (depth + 1) ('\x7b' :: '\x22' :: cs) =
      (readMembers fuel depth ('\x22' :: cs)).map fun r => (object (Assoc.ofEntries r.1), r.2) := by
  simp only [readValue, skipBlank_quote]
  rfl

/-- Each member takes a character at least. -/
theorem length_le_renderMembers (pairs : List (String × String)) :
    pairs.length ≤ (renderMembers (texts pairs)).length := by
  induction pairs with
  | nil => exact Nat.le_refl _
  | cons p ps ih =>
    cases ps with
    | nil => simp [texts, renderMembers, renderText]
    | cons q qs =>
      have hrender : renderMembers (texts (p :: q :: qs)) = renderText p.1 ++ ':' :: ' ' ::
          (renderText p.2 ++ ',' :: ' ' :: renderMembers (texts (q :: qs))) := by
        simp [texts, renderMembers, renderChars]
      rw [hrender]
      simp only [List.length_append, List.length_cons] at ih ⊢
      omega

/-- An object of texts is read as it was. -/
theorem read_render_object {pairs : List (String × String)} (hkeys : (pairs.map Prod.fst).Nodup)
    (h : ∀ p ∈ pairs, Text.IsScalar p.1 ∧ Text.IsScalar p.2) :
    read (render (object (texts pairs))).toList = .ok (object (texts pairs)) := by
  have hentries : Assoc.ofEntries (texts pairs) = texts pairs := by
    refine Assoc.ofEntries_eq_self ?_
    rw [texts, Assoc.keys, List.map_map]
    exact hkeys.imp fun hne => beq_eq_false_iff_ne.mpr hne
  rw [render, String.toList_ofList, renderChars]
  cases pairs with
  | nil => rfl
  | cons p ps =>
    obtain ⟨ds, hds⟩ := exists_cons_renderMembers p ps ['\x7d']
    have hfuel := length_le_renderMembers (p :: ps)
    have hmembers := readMembers_renderMembers (List.cons_ne_nil p ps) h
      (show (p :: ps).length
        < 2 * ('\x7b' :: renderMembers (texts (p :: ps)) ++ ['\x7d']).length + 1 by
        simp only [List.length_append, List.length_cons] at hfuel ⊢
        omega) (maxDepth - 1) []
    have hopen : skipBlank ('\x7b' :: '\x22' :: ds) = '\x7b' :: '\x22' :: ds := rfl
    rw [List.cons_append, hds] at hmembers ⊢
    rw [read, hopen, show maxDepth = maxDepth - 1 + 1 from rfl, readValue_open, hmembers]
    show Except.ok (object (Assoc.ofEntries (texts (p :: ps)))) = _
    rw [hentries]

end Json

end MetricRelay
