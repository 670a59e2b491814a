/-
Texts of code points.

A text may hold any code point, also a surrogate, the half of a pair that is no character by itself.
In a string every character stands for itself, with one exception: the mark U+10FFFF.  A surrogate
is the mark with its stand-in behind, and the mark itself is written twice.  `codes` reads the code
points of a text and `ofCodes` writes them.

* `ofCodes_codes` — texts with the same code points are equal.
* `codes_ofCode_append`, `codes_ofCodes` — what is written is what is read.
-/
namespace MetricRelay.Text

/-- A surrogate that opens a pair. -/
def isLeading (u : Nat) : Bool := 0xd800 ≤ u && u ≤ 0xdbff

/-- A surrogate that closes a pair. -/
def isTrailing (u : Nat) : Bool := 0xdc00 ≤ u && u ≤ 0xdfff

/-- A surrogate. -/
def isSurrogate (u : Nat) : Bool := 0xd800 ≤ u && u ≤ 0xdfff

/-- The code point that a pair of surrogates stands for. -/
def ofPair (u v : Nat) : Nat :=
  0x10000 + (u - 0xd800) * 0x400 + (v - 0xdc00)

/-- The pair of surrogates that stands for a code point beyond U+FFFF. -/
def toPair (n : Nat) : Nat × Nat :=
  (0xd800 + (n - 0x10000) / 0x400, 0xdc00 + (n - 0x10000) % 0x400)

/-- The code point of the mark. -/
def markCode : Nat := 0x10ffff

/-- The mark in front of a stand-in. -/
def mark : Char := Char.ofNat markCode

/-- What a mark counts as that nothing fitting follows; no code point is as great. -/
def looseMark : Nat := 0x110000

/-- The distance from a surrogate to its stand-in. -/
def standInOffset : Nat := 0x100000

/-- The character behind the mark for a surrogate. -/
def standIn (u : Nat) : Char :=
  Char.ofNat (standInOffset + u)

/-- The code point that two characters stand for, if the first is the mark and the second fits
it. -/
def marked? (c d : Char) : Option Nat :=
  if c = mark then
    if d = mark then some markCode
    else
      let u := d.toNat - standInOffset
      if isSurrogate u then some u else none
  else none

/-- The code point that a character stands for by itself. -/
def soleCode (c : Char) : Nat :=
  if c = mark then looseMark else c.toNat

/-- The code points of a text. -/
def codes : List Char → List Nat
  | [] => []
  | [c] => [soleCode c]
  | c :: d :: cs =>
    match marked? c d with
    | some n => n :: codes cs
    | none => soleCode c :: codes (d :: cs)

/-- The text of a code point. -/
def ofCode (n : Nat) : List Char :=
  if isSurrogate n then [mark, standIn n]
  else if n = markCode then [mark, mark]
  else if n = looseMark then [mark]
  else [Char.ofNat n]

/-- The text of code points. -/
def ofCodes (ns : List Nat) : List Char :=
  ns.flatMap ofCode

/-- The text of characters. -/
def ofChars (cs : List Char) : List Char :=
  cs.flatMap fun c => if c = mark then [mark, mark] else [c]

/-- The characters of a text; what is none is left out. -/
def characters (cs : List Char) : List Char :=
  ((codes cs).filter fun n => n.isValidChar).map Char.ofNat

/-- The number of code points of a text. -/
def size (cs : List Char) : Nat :=
  (codes cs).length

/-- Whether all code points are characters, so that they can be written as bytes. -/
def isEncodable (cs : List Char) : Bool :=
  (codes cs).all fun n => !isSurrogate n

/-- Whether code points come before others or are the same: the first ones that differ decide. -/
def codesPrecede : List Nat → List Nat → Bool
  | [], _ => true
  | _ :: _, [] => false
  | n :: ns, m :: ms => n < m || (n == m && codesPrecede ns ms)

/-- Whether a text comes before another or is the same, by their code points. -/
def precedes (s t : String) : Bool :=
  codesPrecede (codes s.toList) (codes t.toList)

theorem toNat_ofNat {n : Nat} (h : n.isValidChar) : (Char.ofNat n).toNat = n := by
  have hs : Char.ofNat n = Char.ofNatAux n h := dif_pos h
  rw [hs]
  rfl

theorem toNat_mark : mark.toNat = markCode :=
  toNat_ofNat (by right; simp [markCode])

theorem toNat_standIn {u : Nat} (h : isSurrogate u = true) :
    (standIn u).toNat = standInOffset + u := by
  apply toNat_ofNat
  simp only [isSurrogate, Bool.and_eq_true, decide_eq_true_eq] at h
  right
  simp only [standInOffset]
  omega

theorem ne_mark {c : Char} (h : c.toNat ≠ markCode) : c ≠ mark := by
  intro hc
  rw [hc, toNat_mark] at h
  exact h rfl

theorem marked?_standIn {u : Nat} (h : isSurrogate u = true) :
    marked? mark (standIn u) = some u := by
  have hn := toNat_standIn h
  have hm : standIn u ≠ mark := by
    apply ne_mark
    simp only [isSurrogate, Bool.and_eq_true, decide_eq_true_eq] at h
    rw [hn]
    simp only [standInOffset, markCode]
    omega
  simp [marked?, hm, hn, h]

theorem ofCode_of_marked? {c d : Char} {n : Nat} (h : marked? c d = some n) :
    ofCode n = [c, d] := by
  simp only [marked?] at h
  split at h
  · next hc =>
    split at h
    · next hd =>
      cases h
      rw [hc, hd]
      rfl
    · split at h
      · next hu =>
        rw [Option.some.injEq] at h
        rw [← h]
        have hn : standInOffset + (d.toNat - standInOffset) = d.toNat := by
          simp only [isSurrogate, Bool.and_eq_true, decide_eq_true_eq] at hu
          omega
        simp [ofCode, hu, standIn, hn, hc]
      · cases h
  · cases h

theorem ofCode_soleCode (c : Char) : ofCode (soleCode c) = [c] := by
  by_cases hc : c = mark
  · rw [hc]
    rfl
  · have hs : isSurrogate c.toNat = false := by
      have hv : c.toNat.isValidChar := c.valid
      simp only [isSurrogate, Bool.and_eq_false_iff, decide_eq_false_iff_not]
      simp only [Nat.isValidChar] at hv
      omega
    have hm : c.toNat ≠ markCode := by
      intro h
      apply hc
      rw [← Char.ofNat_toNat c, h]
      rfl
    have hl : c.toNat ≠ looseMark := by
      have hv : c.toNat.isValidChar := c.valid
      simp only [Nat.isValidChar] at hv
      simp only [looseMark]
      omega
    simp [soleCode, hc, ofCode, hs, hm, hl]

theorem ofCodes_codes (cs : List Char) : ofCodes (codes cs) = cs := by
  fun_induction codes cs with
  | case1 => rfl
  | case2 c => simp [ofCodes, ofCode_soleCode]
  | case3 c d cs n h ih =>
    simp only [ofCodes, List.flatMap_cons] at ih ⊢
    rw [ih, ofCode_of_marked? h]
    rfl
  | case4 c d cs h ih =>
    simp only [ofCodes, List.flatMap_cons] at ih ⊢
    rw [ih, ofCode_soleCode]
    rfl

theorem codes_cons_of_ne_mark {c : Char} (h : c ≠ mark) (cs : List Char) :
    codes (c :: cs) = c.toNat :: codes cs := by
  cases cs with
  | nil => simp [codes, soleCode, h]
  | cons d cs => simp [codes, marked?, soleCode, h]

theorem codes_ofCode_append {n : Nat} (h : n < looseMark) (cs : List Char) :
    codes (ofCode n ++ cs) = n :: codes cs := by
  unfold ofCode
  split
  · next hs => simp [codes, marked?_standIn hs]
  · next hs =>
    split
    · next hm => simp [codes, marked?, hm]
    · next hm =>
      have hv : n.isValidChar := by
        simp only [isSurrogate, Bool.and_eq_true, decide_eq_true_eq, not_and] at hs
        simp only [looseMark] at h
        simp only [Nat.isValidChar]
        omega
      have hn := toNat_ofNat hv
      have hl : n ≠ looseMark := Nat.ne_of_lt h
      simp only [hl, ↓reduceIte, List.singleton_append]
      rw [codes_cons_of_ne_mark (ne_mark (by rw [hn]; exact hm)), hn]

theorem codes_ofCodes {ns : List Nat} (h : ∀ n ∈ ns, n < looseMark) : codes (ofCodes ns) = ns := by
  induction ns with
  | nil => rfl
  | cons n ns ih =>
    simp only [ofCodes, List.flatMap_cons] at ih ⊢
    rw [codes_ofCode_append (h n (List.mem_cons_self ..)),
      ih fun m hm => h m (List.mem_cons_of_mem _ hm)]

end MetricRelay.Text
