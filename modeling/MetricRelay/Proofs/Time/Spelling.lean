/-
Timestamps as they are written, and the instants that they name.

A spelling is a timestamp in its parts, digit by digit.  Every spelling can be read back from its
text, but it names a time only if the calendar has its date, the day its time and its zone is less
than a day away (`Spelling.Names`), and the instant only exists in the years 1 to 9999 of universal
time (`InYears`):

* `read?_eq_some_iff_of_ascii` — the texts of ASCII that can be read are those of spellings;
* `instant_form_eq_ok_iff`, `instant_form_eq_outOfRange_iff` — what becomes of a spelling;
* `parse_of_ascii` — what a text is parsed to.
-/
import MetricRelay.Proofs.Time.Calendar
import MetricRelay.Proofs.Time.Form

namespace MetricRelay.Time

/-! ### Dates of instants -/

/-- The date of a count of microseconds since the start of 1970, in universal time. -/
def IsDateOf (d : Date) (n : Int) : Prop :=
  ∃ day : Nat, n / 86400000000 + Instant.epochDays = day ∧ Date.after day = d

theorem IsDateOf.unique {d e : Date} {n : Int} (hd : IsDateOf d n) (he : IsDateOf e n) : d = e := by
  obtain ⟨day, hday, rfl⟩ := hd
  obtain ⟨day', hday', rfl⟩ := he
  rw [show day = day' by omega]

/-- A count of microseconds since the start of 1970 falls in the years 1 to 9999 of universal
time. -/
def InYears (n : Int) : Prop :=
  ∃ d, IsDateOf d n ∧ d.year ≤ 9999

theorem inYears_iff (n : Int) : InYears n ↔ Instant.minMicros ≤ n ∧ n ≤ Instant.maxMicros := by
  -- the last microsecond is the last one before year 10000
  have hend : daysBeforeYear 10000 = 3652059 := by decide
  simp only [Instant.minMicros, Instant.maxMicros]
  constructor
  · rintro ⟨d, ⟨day, hday, rfl⟩, hyear⟩
    have hlt := (Date.year_after_lt_iff (by decide : 1 ≤ 10000) day).mp (by omega)
    rw [hend] at hlt
    simp only [Instant.epochDays] at hday
    omega
  · rintro ⟨hmin, hmax⟩
    obtain ⟨day, hday⟩ : ∃ day : Nat, n / 86400000000 + Instant.epochDays = day := by
      refine ⟨(n / 86400000000 + Instant.epochDays).toNat, ?_⟩
      simp only [Instant.epochDays]
      omega
    refine ⟨_, ⟨day, hday, rfl⟩, ?_⟩
    have hlt := (Date.year_after_lt_iff (by decide : 1 ≤ 10000) day).mpr (by
      rw [hend]
      simp only [Instant.epochDays] at hday
      omega)
    omega

theorem ofMicros?_eq_some_iff {n : Int} {t : Instant} :
    Instant.ofMicros? n = some t ↔ InYears n ∧ t.micros = n := by
  rw [inYears_iff, Instant.ofMicros?]
  split
  · next h =>
    rw [Option.some_inj]
    constructor
    · rintro rfl
      exact ⟨h, rfl⟩
    · rintro ⟨-, rfl⟩
      rfl
  · next h => exact iff_of_false (by simp) fun hn => h hn.1

namespace Timestamp

/-! ### Digits of one width -/

theorem areDigits_padded {width n : Nat} (hw : 0 < width) (h : n < Nat.pow 10 width) :
    AreDigits width (Text.padded width n) := by
  rw [Text.padded_eq]
  refine ⟨by rw [List.length_map, Text.length_paddedDigits hw h],
    List.forall_mem_map.mpr fun d hd => ?_⟩
  exact Text.isDecimal_of_isDigit (Text.isDigit_digitChar (Text.lt_ten_of_mem_paddedDigits hd))

theorem all_isDigit_padded (width n : Nat) : (Text.padded width n).all Char.isDigit = true := by
  rw [Text.padded_eq, List.all_map, List.all_eq_true]
  exact fun d hd => Text.isDigit_digitChar (Text.lt_ten_of_mem_paddedDigits hd)

theorem number_map_digitChar {ds : List Nat} (h : ∀ d ∈ ds, d < 10) :
    Form.number (ds.map Text.digitChar) = Text.ofDigits ds := by
  rw [Form.number, List.map_map]
  congr 1
  refine (List.map_congr_left fun d hd => ?_).trans (List.map_id ds)
  rw [Function.comp_apply, Text.toNat_digitChar (h d hd), Nat.add_sub_cancel_left, id]

@[simp] theorem number_padded (width n : Nat) : Form.number (Text.padded width n) = n := by
  rw [Text.padded_eq, number_map_digitChar fun d hd => Text.lt_ten_of_mem_paddedDigits hd,
    Text.ofDigits_paddedDigits]

/-- The text of digits. -/
def digitsText (ds : List (Fin 10)) : List Char :=
  (ds.map Fin.val).map Text.digitChar

theorem lt_ten_of_mem_map_val {ds : List (Fin 10)} : ∀ d ∈ ds.map Fin.val, d < 10 :=
  List.forall_mem_map.mpr fun d _ => d.isLt

theorem isDigit_of_mem_digitsText {ds : List (Fin 10)} : ∀ c ∈ digitsText ds, c.isDigit = true :=
  List.forall_mem_map.mpr fun d hd => Text.isDigit_digitChar (lt_ten_of_mem_map_val d hd)

theorem exists_map_val {ds : List Nat} (h : ∀ d ∈ ds, d < 10) :
    ∃ fs : List (Fin 10), fs.map Fin.val = ds :=
  ⟨ds.pmap Fin.mk h, by simp [List.map_pmap]⟩

/-- Digits of ASCII are those of a list of numbers below ten. -/
theorem exists_digitsText {cs : List Char} (hascii : ∀ c ∈ cs, c.toNat < 128)
    (h : ∀ c ∈ cs, Text.isDecimal c = true) : ∃ ds, digitsText ds = cs := by
  have hdigit : ∀ c ∈ cs, c.isDigit = true := fun c hc =>
    (Text.isDecimal_iff_isDigit (hascii c hc)).mp (h c hc)
  have hlt : ∀ d ∈ cs.map fun c => c.toNat - 0x30, d < 10 := List.forall_mem_map.mpr fun c hc => by
    have hbounds := (Text.isDigit_iff_toNat c).mp (hdigit c hc)
    omega
  obtain ⟨ds, hds⟩ := exists_map_val hlt
  refine ⟨ds, ?_⟩
  rw [digitsText, hds, List.map_map]
  exact (List.map_congr_left fun c hc => Text.digitChar_toNat (hdigit c hc)).trans (List.map_id cs)

/-- Digits of ASCII are a padded number. -/
theorem exists_padded {width : Nat} (hw : 0 < width) {cs : List Char}
    (hascii : ∀ c ∈ cs, c.toNat < 128) (h : AreDigits width cs) :
    ∃ n : Fin (Nat.pow 10 width), Text.padded width n = cs := by
  obtain ⟨ds, rfl⟩ := exists_digitsText hascii h.digits
  have hlength : (ds.map Fin.val).length = width := by simpa [digitsText] using h.length
  have hne : ds.map Fin.val ≠ [] := List.ne_nil_of_length_pos (hlength ▸ hw)
  have hpadded := Text.paddedDigits_ofDigits hne lt_ten_of_mem_map_val
  refine ⟨⟨Text.ofDigits (ds.map Fin.val), hlength ▸ Text.ofDigits_lt lt_ten_of_mem_map_val⟩, ?_⟩
  rw [hlength] at hpadded
  rw [Text.padded_eq, hpadded, digitsText]

theorem mem_fractionText {c : Char} {ds : List Char} (h : c ∈ ds) : c ∈ fractionText ds := by
  cases ds with
  | nil => exact absurd h List.not_mem_nil
  | cons d ds => exact List.mem_cons_of_mem _ h

/-! ### Spellings -/

/-- A zone as it is written. -/
inductive SpelledZone where
  | universal (capital : Bool)
  | offset (negative : Bool) (hours minutes : Fin 100)

/-- A timestamp as it is written. -/
structure Spelling where
  year : Fin 10000
  month : Fin 100
  day : Fin 100
  /-- Whether the T is a capital. -/
  capital : Bool
  hour : Fin 100
  minute : Fin 100
  second : Fin 100
  /-- The digits of the fraction, none if there is no fraction. -/
  fraction : List (Fin 10)
  zone : SpelledZone

namespace SpelledZone

/-- The text of a zone. -/
def chars : SpelledZone → List Char
  | universal capital => [if capital then 'Z' else 'z']
  | offset negative hours minutes =>
    (if negative then '-' else '+') :: Text.padded 2 hours ++ ':' :: Text.padded 2 minutes

/-- The seconds by which the zone is ahead of universal time. -/
def seconds : SpelledZone → Int
  | universal _ => 0
  | offset negative hours minutes =>
    let size : Int := ((hours : Nat) : Int) * 3600 + ((minutes : Nat) : Int) * 60
    if negative then -size else size

/-- The form of the text. -/
def form : SpelledZone → Zone
  | universal _ => .universal
  | offset negative hours minutes => .offset negative (Text.padded 2 hours) (Text.padded 2 minutes)

theorem areDigits_form (zone : SpelledZone) : zone.form.AreDigits := by
  cases zone with
  | universal capital => trivial
  | offset negative hours minutes =>
    exact ⟨areDigits_padded (by decide) hours.isLt, areDigits_padded (by decide) minutes.isLt⟩

theorem chars_mem_texts (zone : SpelledZone) : zone.chars ∈ zone.form.texts := by
  cases zone with
  | universal capital => cases capital <;> simp [chars, form, Zone.texts]
  | offset negative hours minutes => exact List.mem_singleton_self _

/-- A text of ASCII for a zone spells it. -/
theorem exists_of_texts {zone : Zone} (hzone : zone.AreDigits) {text : List Char}
    (h : text ∈ zone.texts) (hascii : ∀ c ∈ text, c.toNat < 128) :
    ∃ spelled : SpelledZone, spelled.form = zone ∧ spelled.chars = text := by
  cases zone with
  | universal =>
    rcases List.mem_pair.mp h with rfl | rfl
    · exact ⟨universal true, rfl, rfl⟩
    · exact ⟨universal false, rfl, rfl⟩
  | offset negative hours minutes =>
    obtain rfl := List.mem_singleton.mp h
    obtain ⟨n, rfl⟩ := exists_padded (by decide) (fun c hc => hascii c (by simp [hc])) hzone.1
    obtain ⟨m, rfl⟩ := exists_padded (by decide) (fun c hc => hascii c (by simp [hc])) hzone.2
    exact ⟨offset negative n m, rfl, rfl⟩

end SpelledZone

namespace Spelling

/-- The text of a timestamp. -/
def chars (w : Spelling) : List Char :=
  Text.padded 4 w.year ++ '-' :: Text.padded 2 w.month ++ '-' :: Text.padded 2 w.day
    ++ (if w.capital then 'T' else 't') :: Text.padded 2 w.hour ++ ':' :: Text.padded 2 w.minute
    ++ ':' :: Text.padded 2 w.second
    ++ fractionText (digitsText w.fraction) ++ w.zone.chars

/-- A text is that of a timestamp, with a line feed behind it or none. -/
def Spells (w : Spelling) (cs : List Char) : Prop :=
  cs = w.chars ∨ cs = w.chars ++ ['\n']

/-- The microseconds of the fraction: it has zeros behind its digits, and six of them count. -/
def micros (w : Spelling) : Nat :=
  Text.ofDigits ((w.fraction.map Fin.val ++ List.replicate 6 0).take 6)

/-- The timestamp names a date and a time of day in a zone, which are a count of microseconds away
from the start of 1970 in universal time. -/
structure Names (w : Spelling) (n : Int) : Prop where
  hour : (w.hour : Nat) ≤ 23
  minute : (w.minute : Nat) ≤ 59
  second : (w.second : Nat) ≤ 59
  zone : w.zone.seconds.natAbs < 86400
  date : ∃ day : Nat, Date.after day = ⟨w.year, w.month, w.day⟩ ∧
    n = (((day : Int) - Instant.epochDays) * 86400 + (w.hour : Nat) * 3600 + (w.minute : Nat) * 60
      + (w.second : Nat) - w.zone.seconds) * 1000000 + w.micros

/-- The form of the text. -/
def form (w : Spelling) : Form where
  year := Text.padded 4 w.year
  month := Text.padded 2 w.month
  day := Text.padded 2 w.day
  hour := Text.padded 2 w.hour
  minute := Text.padded 2 w.minute
  second := Text.padded 2 w.second
  fraction := digitsText w.fraction
  zone := w.zone.form

theorem areDigits_form (w : Spelling) : w.form.AreDigits where
  year := areDigits_padded (by decide) w.year.isLt
  month := areDigits_padded (by decide) w.month.isLt
  day := areDigits_padded (by decide) w.day.isLt
  hour := areDigits_padded (by decide) w.hour.isLt
  minute := areDigits_padded (by decide) w.minute.isLt
  second := areDigits_padded (by decide) w.second.isLt
  fraction c hc := Text.isDecimal_of_isDigit (isDigit_of_mem_digitsText c hc)
  zone := w.zone.areDigits_form

theorem read?_of_spells {w : Spelling} {cs : List Char} (h : w.Spells cs) :
    Form.read? cs = some w.form := by
  refine Form.read?_eq_some_iff.mpr ⟨w.areDigits_form, if w.capital then 'T' else 't', ?_,
    w.zone.chars, w.zone.chars_mem_texts, ?_⟩
  · cases w.capital <;> simp
  · rcases h with rfl | rfl
    · exact ⟨[], by simp, (List.append_nil _).symm⟩
    · exact ⟨['\n'], by simp, rfl⟩

/-- The texts of ASCII that can be read are those of spellings. -/
theorem read?_eq_some_iff_of_ascii {cs : List Char} (hascii : ∀ c ∈ cs, c.toNat < 128) {f : Form} :
    Form.read? cs = some f ↔ ∃ w : Spelling, w.Spells cs ∧ w.form = f := by
  constructor
  · intro h
    obtain ⟨hf, mark, hmark, text, htext, ending, hending, rfl⟩ := Form.read?_eq_some_iff.mp h
    have hall : ∀ c ∈ f.text mark text, c.toNat < 128 :=
      fun c hc => hascii c (List.mem_append_left _ hc)
    simp only [Form.text, List.append_assoc, List.cons_append, List.forall_mem_append,
      List.forall_mem_cons] at hall
    obtain ⟨hyear, -, hmonth, -, hday, -, hhour, -, hminute, -, hsecond, hfraction, hzone⟩ := hall
    obtain ⟨year, hyear⟩ := exists_padded (by decide) hyear hf.year
    obtain ⟨month, hmonth⟩ := exists_padded (by decide) hmonth hf.month
    obtain ⟨day, hday⟩ := exists_padded (by decide) hday hf.day
    obtain ⟨hour, hhour⟩ := exists_padded (by decide) hhour hf.hour
    obtain ⟨minute, hminute⟩ := exists_padded (by decide) hminute hf.minute
    obtain ⟨second, hsecond⟩ := exists_padded (by decide) hsecond hf.second
    obtain ⟨fraction, hfraction⟩ := exists_digitsText
      (fun c hc => hfraction c (mem_fractionText hc)) hf.fraction
    obtain ⟨zone, hform, rfl⟩ := SpelledZone.exists_of_texts hf.zone htext hzone
    have hw : ∃ w : Spelling, w.form = f ∧ w.zone = zone ∧
        (if w.capital then 'T' else 't') = mark := by
      refine ⟨⟨year, month, day, mark = 'T', hour, minute, second, fraction, zone⟩, ?_, rfl, ?_⟩
      · rw [form, hyear, hmonth, hday, hhour, hminute, hsecond, hfraction, hform]
      · rcases List.mem_pair.mp hmark with rfl | rfl <;> rfl
    obtain ⟨w, rfl, rfl, rfl⟩ := hw
    refine ⟨w, ?_, rfl⟩
    rcases List.mem_pair.mp hending with rfl | rfl
    · exact Or.inl (List.append_nil _)
    · exact Or.inr rfl
  · rintro ⟨w, hw, rfl⟩
    exact read?_of_spells hw

/-! ### What spellings name -/

theorem microDigits_form (w : Spelling) :
    w.form.microDigits
      = ((w.fraction.map Fin.val ++ List.replicate 6 0).take 6).map Text.digitChar := by
  have hzero : Text.digitChar 0 = '0' := rfl
  -- zeros behind the digits before six are taken, or behind those that were taken, are the same
  -- zeros
  have hmin : min (6 - w.fraction.length) 6 = 6 - min 6 w.fraction.length := by omega
  rw [List.take_append, List.take_replicate, List.map_append, List.map_replicate, hzero,
    List.length_map, hmin, List.map_take]
  show (digitsText w.fraction).take 6
      ++ List.replicate (6 - ((digitsText w.fraction).take 6).length) '0' = _
  rw [List.length_take, digitsText, List.length_map, List.length_map]

theorem lt_ten_of_mem_take (w : Spelling) :
    ∀ d ∈ (w.fraction.map Fin.val ++ List.replicate 6 0).take 6, d < 10 := by
  intro d hd
  rcases List.mem_append.mp (List.mem_of_mem_take hd) with hd | hd
  · exact lt_ten_of_mem_map_val d hd
  · rw [(List.mem_replicate.mp hd).2]
    decide

theorem number_time_form (w : Spelling) : Form.number w.form.hour = w.hour ∧
    Form.number w.form.minute = w.minute ∧ Form.number w.form.second = w.second :=
  ⟨number_padded .., number_padded .., number_padded ..⟩

theorem number_microDigits_form (w : Spelling) : Form.number w.form.microDigits = w.micros := by
  rw [microDigits_form, number_map_digitChar w.lt_ten_of_mem_take, micros]

theorem isAscii_form (w : Spelling) : w.form.isAscii = true := by
  have hmicro : w.form.microDigits.all Char.isDigit = true := by
    rw [microDigits_form, List.all_map, List.all_eq_true]
    exact fun d hd => Text.isDigit_digitChar (w.lt_ten_of_mem_take d hd)
  have hzone : w.form.zoneDigits.all Char.isDigit = true := by
    obtain ⟨year, month, day, capital, hour, minute, second, fraction, zone⟩ := w
    cases zone with
    | universal capital => rfl
    | offset negative hours minutes =>
      exact (List.all_append ..).trans (by rw [all_isDigit_padded, all_isDigit_padded]; rfl)
  rw [Form.isAscii]
  simp only [List.all_append, hmicro, hzone]
  simp only [form, all_isDigit_padded, Bool.and_self]

theorem offsetSeconds_form (w : Spelling) : w.form.offsetSeconds = w.zone.seconds := by
  obtain ⟨year, month, day, capital, hour, minute, second, fraction, zone⟩ := w
  cases zone with
  | universal capital => rfl
  | offset negative hours minutes =>
    simp only [Form.offsetSeconds, form, SpelledZone.form, number_padded, SpelledZone.seconds]

theorem date_form (w : Spelling) : w.form.date = ⟨w.year, w.month, w.day⟩ := by
  simp only [Form.date, form, number_padded]

/-- A spelling names a time exactly if the calendar has its date, the day its time and its zone is
less than a day away. -/
theorem exists_names_iff (w : Spelling) : (∃ n, w.Names n) ↔
    w.zone.seconds.natAbs < 86400 ∧ w.form.date.Valid ∧ (w.hour : Nat) ≤ 23 ∧ (w.minute : Nat) ≤ 59
      ∧ (w.second : Nat) ≤ 59 := by
  rw [date_form]
  constructor
  · rintro ⟨n, h⟩
    obtain ⟨day, hday, -⟩ := h.date
    exact ⟨h.zone, (Date.after_eq_iff.mp hday).1, h.hour, h.minute, h.second⟩
  · rintro ⟨hzone, hdate, hhour, hminute, hsecond⟩
    exact ⟨_, hhour, hminute, hsecond, hzone, _, Date.after_eq_iff.mpr ⟨hdate, rfl⟩, rfl⟩

theorem Names.eq {w : Spelling} {n : Int} (h : w.Names n) :
    Instant.minMicros + w.form.civilMicros - w.form.offsetSeconds * 1000000 = n := by
  obtain ⟨day, hday, rfl⟩ := h.date
  rw [Form.civilMicros, date_form, (Date.after_eq_iff.mp hday).2, offsetSeconds_form,
    number_microDigits_form]
  simp only [form, number_padded, Instant.minMicros, Instant.epochDays]
  omega

/-- A spelling that names a time is refused only for an instant that does not exist. -/
theorem instant_form_of_names {w : Spelling} {n : Int} (h : w.Names n) :
    w.form.instant = (Instant.ofMicros? n).elim (.error .outOfRange) .ok := by
  obtain ⟨hzone, hdate, hhour, hminute, hsecond⟩ := w.exists_names_iff.mp ⟨n, h⟩
  obtain ⟨hyear, hmonth, hmonth', hday, hday'⟩ := hdate
  obtain ⟨hhour', hminute', hsecond'⟩ := w.number_time_form
  rw [Form.instant, isAscii_form, h.eq, offsetSeconds_form, hhour', hminute', hsecond',
    if_neg (by decide), if_neg (by omega), if_neg (by omega), if_neg (by omega), if_neg (by omega),
    if_neg (by omega), if_neg (by omega), if_neg (by omega)]
  cases Instant.ofMicros? n <;> rfl

/-- A spelling that names no time is refused for what it says. -/
theorem instant_form_of_not_names {w : Spelling} (h : ¬∃ n, w.Names n) :
    ∃ fault, w.form.instant = .error fault ∧ fault ≠ .outOfRange := by
  rw [exists_names_iff] at h
  obtain ⟨hhour', hminute', hsecond'⟩ := w.number_time_form
  rw [Form.instant, isAscii_form, offsetSeconds_form, hhour', hminute', hsecond',
    if_neg (by decide)]
  -- each check that fails names its fault, and if none fails there is a time
  iterate 7
    split
    · exact ⟨_, rfl, nofun⟩
  refine absurd ?_ h
  simp only [Date.Valid]
  omega

end Spelling

theorem parse_of_spells {w : Spelling} {s : String} (h : w.Spells s.toList) :
    parse s = w.form.instant := by
  rw [parse, Spelling.read?_of_spells h]

/-- A text that spells a time in the years 1 to 9999 is parsed to its instant. -/
theorem parse_of_names {w : Spelling} {s : String} {n : Int} (h : w.Spells s.toList)
    (hn : w.Names n) (hyears : InYears n) : parse s = .ok ⟨n⟩ := by
  rw [parse_of_spells h, Spelling.instant_form_of_names hn, ofMicros?_eq_some_iff.mpr ⟨hyears, rfl⟩]
  rfl

/-- A text that spells a time of another year is refused, since there is no such instant. -/
theorem parse_of_not_inYears {w : Spelling} {s : String} {n : Int} (h : w.Spells s.toList)
    (hn : w.Names n) (hyears : ¬InYears n) : parse s = .error .outOfRange := by
  have hnone : Instant.ofMicros? n = none :=
    Option.eq_none_iff_forall_ne_some.mpr fun t ht => hyears (ofMicros?_eq_some_iff.mp ht).1
  rw [parse_of_spells h, Spelling.instant_form_of_names hn, hnone]
  rfl

/-- A text of ASCII that spells no time is refused for what it says. -/
theorem parse_of_not_names {s : String} (hs : ∀ c ∈ s.toList, c.toNat < 128)
    (h : ¬∃ w : Spelling, w.Spells s.toList ∧ ∃ n, w.Names n) :
    ∃ fault, parse s = .error fault ∧ fault ≠ .outOfRange := by
  cases hread : Form.read? s.toList with
  | none => exact ⟨.form, by rw [parse, hread], nofun⟩
  | some f =>
    obtain ⟨w, hw, rfl⟩ := (Spelling.read?_eq_some_iff_of_ascii hs).mp hread
    rw [parse_of_spells hw]
    exact Spelling.instant_form_of_not_names fun hn => h ⟨w, hw, hn⟩

/-- A text of ASCII spells a time in the years 1 to 9999, or a time of another year, or no time. -/
theorem parse_cases {s : String} (hs : ∀ c ∈ s.toList, c.toNat < 128) :
    (∃ w : Spelling, w.Spells s.toList ∧ ∃ n, w.Names n ∧ InYears n ∧ parse s = .ok ⟨n⟩) ∨
    (∃ w : Spelling, w.Spells s.toList ∧ ∃ n, w.Names n ∧ ¬InYears n ∧
      parse s = .error .outOfRange) ∨
    ((¬∃ w : Spelling, w.Spells s.toList ∧ ∃ n, w.Names n) ∧
      ∃ fault, parse s = .error fault ∧ fault ≠ .outOfRange) := by
  by_cases hnames : ∃ w : Spelling, w.Spells s.toList ∧ ∃ n, w.Names n
  · obtain ⟨w, hw, n, hn⟩ := hnames
    by_cases hyears : InYears n
    · exact Or.inl ⟨w, hw, n, hn, hyears, parse_of_names hw hn hyears⟩
    · exact Or.inr (Or.inl ⟨w, hw, n, hn, hyears, parse_of_not_inYears hw hn hyears⟩)
  · exact Or.inr (Or.inr ⟨hnames, parse_of_not_names hs hnames⟩)

/-- What a text of ASCII is parsed to.  It gives an instant exactly if it spells a time in the years
1 to 9999 of universal time, and then that instant.  It has no instant exactly if it spells a time
of another year, and it is refused for another reason exactly if it spells no time. -/
theorem parse_of_ascii {s : String} (hs : ∀ c ∈ s.toList, c.toNat < 128) :
    (∀ t, parse s = .ok t ↔
      ∃ w : Spelling, w.Spells s.toList ∧ w.Names t.micros ∧ InYears t.micros) ∧
    (parse s = .error .outOfRange ↔
      ∃ w : Spelling, w.Spells s.toList ∧ ∃ n, w.Names n ∧ ¬InYears n) ∧
    ((∃ fault, parse s = .error fault ∧ fault ≠ .outOfRange) ↔
      ¬∃ w : Spelling, w.Spells s.toList ∧ ∃ n, w.Names n) := by
  refine ⟨fun t => ⟨fun h => ?_, fun ⟨w, hw, hn, hyears⟩ => parse_of_names hw hn hyears⟩,
    ⟨fun h => ?_, fun ⟨w, hw, n, hn, hyears⟩ => parse_of_not_inYears hw hn hyears⟩,
    ⟨fun ⟨fault, h, hfault⟩ => ?_, parse_of_not_names hs⟩⟩
  -- The outcomes exclude each other, so each leaves the one case that has it.
  · rcases parse_cases hs with ⟨w, hw, n, hn, hyears, hok⟩ | ⟨_, _, _, _, _, herror⟩
      | ⟨_, _, herror, _⟩
    · obtain rfl := Except.ok.inj (hok.symm.trans h)
      exact ⟨w, hw, hn, hyears⟩
    · cases herror.symm.trans h
    · cases herror.symm.trans h
  · rcases parse_cases hs with ⟨_, _, _, _, _, hok⟩ | ⟨w, hw, n, hn, hyears, _⟩
      | ⟨_, fault, herror, hne⟩
    · cases hok.symm.trans h
    · exact ⟨w, hw, n, hn, hyears⟩
    · exact absurd (Except.error.inj (herror.symm.trans h)) hne
  · rcases parse_cases hs with ⟨_, _, _, _, _, hok⟩ | ⟨_, _, _, _, _, herror⟩ | ⟨hnames, _⟩
    · cases hok.symm.trans h
    · exact absurd (Except.error.inj (h.symm.trans herror)) hfault
    · exact hnames

/-- The last second of a leap day, with digits beyond the microsecond, in a zone that is 90 minutes
behind. -/
theorem parse_of_ascii_leapDay :
    (∀ c ∈ "2024-02-29t23:59:59.1234567-00:90\n".toList, c.toNat < 128) ∧
      parse "2024-02-29t23:59:59.1234567-00:90\n" = .ok ⟨1709256599123456⟩ := by
  have hs : ∀ c ∈ "2024-02-29t23:59:59.1234567-00:90\n".toList, c.toNat < 128 := by
    have hall : "2024-02-29t23:59:59.1234567-00:90\n".toList.all (·.toNat < 128) = true := by decide
    simpa only [List.all_eq_true, decide_eq_true_eq] using hall
  refine ⟨hs, ((parse_of_ascii hs).1 _).mpr
    ⟨⟨2024, 2, 29, false, 23, 59, 59, [1, 2, 3, 4, 5, 6, 7], .offset true 0 90⟩, Or.inr ?_, ?_, ?_⟩⟩
  · decide +kernel
  · exact ⟨by decide, by decide, by decide, by decide, 738944,
      Date.after_eq_iff.mpr ⟨by decide, by decide⟩, by decide⟩
  · exact (inYears_iff _).mpr (by decide)

end Timestamp

end MetricRelay.Time
