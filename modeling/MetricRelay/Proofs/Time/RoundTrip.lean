/-
Timestamps that are written and read again.

`Timestamp.format` puts no zeros in front of a year, while the form wants four digits.  So from year
1000 on it spells the instant (`exists_spells_format`), and before it writes what has no form
(`parse_format_of_lt`).  What the clocks of zones show does not enter, since timestamps are written
in universal time.
-/
import MetricRelay.Proofs.Time.Spelling
import MetricRelay.Time.Zoned

namespace MetricRelay.Time

/-! ### Days and microseconds of the day -/

theorem Instant.microOfDay_lt (t : Instant) : t.microOfDay < 86400000000 :=
  Nat.mod_lt _ (by decide)

theorem IsDateOf.date_eq {t : Instant} {d : Date} (h : IsDateOf d t.micros) : t.date = d := by
  obtain ⟨day, hday, rfl⟩ := h
  rw [Instant.date, Date.ofDays_eq_after]
  congr 1
  simp only [Instant.sinceYearOne, Instant.minMicros, Instant.epochDays] at *
  omega

/-- An instant is a day and a microsecond of it. -/
theorem IsDateOf.exists_day {t : Instant} {d : Date} (h : IsDateOf d t.micros) :
    ∃ day : Nat, Date.after day = d ∧
      t.micros = ((day : Int) - Instant.epochDays) * 86400000000 + t.microOfDay := by
  obtain ⟨day, hday, hd⟩ := h
  refine ⟨day, hd, ?_⟩
  simp only [Instant.microOfDay, Instant.sinceYearOne, Instant.minMicros, Instant.epochDays] at *
  omega

theorem Zoned.inYears_of_instant? {z : Zoned} {t : Instant} (h : z.instant? = some t) :
    InYears t.micros := by
  obtain ⟨hyears, heq⟩ := ofMicros?_eq_some_iff.mp h
  exact heq ▸ hyears

namespace Timestamp

/-! ### The text of an instant -/

/-- A year of four digits is written without zeros in front. -/
theorem decimal_eq_padded {year : Nat} (h : 1000 ≤ year) (h' : year ≤ 9999) :
    Text.decimal year = Text.padded 4 year := by
  have hthree : Nat.pow 10 3 = 1000 := rfl
  have hfour : Nat.pow 10 4 = 10000 := rfl
  have hlow := Text.length_digitsOf_le_iff (by decide : 0 < 3) year
  have hhigh := Text.length_digitsOf_le_iff (by decide : 0 < 4) year
  exact (Text.padded_eq_decimal (by omega)).symm

/-- The six places of a number of microseconds. -/
theorem exists_places {n : Nat} (h : n < 1000000) :
    ∃ ds : List (Fin 10), digitsText ds = Text.padded 6 n ∧ ds.length = 6 ∧
      Text.ofDigits (ds.map Fin.val) = n := by
  have hlt : ∀ d ∈ Text.paddedDigits 6 n, d < 10 := fun d hd => Text.lt_ten_of_mem_paddedDigits hd
  obtain ⟨ds, hds⟩ := exists_map_val hlt
  refine ⟨ds, by rw [digitsText, hds, Text.padded_eq], ?_, by rw [hds, Text.ofDigits_paddedDigits]⟩
  rw [← List.length_map Fin.val, hds, Text.length_paddedDigits (by decide) h]

/-- Six places need no zeros behind. -/
theorem Spelling.micros_of_length {w : Spelling} (h : w.fraction.length = 6) :
    w.micros = Text.ofDigits (w.fraction.map Fin.val) := by
  rw [micros, List.take_left' (by rw [List.length_map, h])]

theorem fractionText_digitsText {ds : List (Fin 10)} (h : 0 < ds.length) :
    fractionText (digitsText ds) = '.' :: digitsText ds := by
  cases ds with
  | nil => exact absurd h (by decide)
  | cons d ds => rfl

/-- From year 1000 on the timestamp of an instant spells it. -/
theorem exists_spells_format {t : Instant} {d : Date} (hd : IsDateOf d t.micros)
    (hyear : 1000 ≤ d.year) (hyear' : d.year ≤ 9999) :
    ∃ w : Spelling, w.Spells (format t).toList ∧ w.Names t.micros := by
  obtain ⟨day, hday, hmicros⟩ := hd.exists_day
  have hlt := t.microOfDay_lt
  obtain ⟨-, hmonth, hmonth', hday₁, hday₂⟩ := (Date.after_eq_iff.mp hday).1
  have hlength := (monthLength_bounds hmonth hmonth' d.year).2
  obtain ⟨fraction, hplaces, hsix, hvalue⟩ := exists_places (n := t.microOfDay % 1000000) (by omega)
  have hpos : 0 < fraction.length := by omega
  -- the fields in the order of the text; hours, minutes and seconds are quotients of the
  -- microsecond of the day
  refine ⟨⟨⟨d.year, by omega⟩, ⟨d.month, by omega⟩, ⟨d.day, by omega⟩, true,
    ⟨t.microOfDay / 1000000 / 3600, by omega⟩, ⟨t.microOfDay / 1000000 / 60 % 60, by omega⟩,
    ⟨t.microOfDay / 1000000 % 60, by omega⟩, fraction, .universal true⟩, Or.inl ?_, ?_⟩
  · rw [format, String.toList_ofList, formatChars, hd.date_eq, decimal_eq_padded hyear hyear',
      Spelling.chars, fractionText_digitsText hpos, hplaces]
    rfl
  · have hzone : (SpelledZone.universal true).seconds.natAbs < 86400 := by decide
    refine ⟨by dsimp only; omega, by dsimp only; omega, by dsimp only; omega, hzone, day, hday, ?_⟩
    rw [Spelling.micros_of_length hsix, hvalue, hmicros]
    simp only [SpelledZone.seconds]
    omega

/-- From year 1000 on the timestamp of an instant is parsed to it. -/
theorem parse_format_of_le {t : Instant} {d : Date} (hd : IsDateOf d t.micros)
    (hyears : InYears t.micros) (hyear : 1000 ≤ d.year) : parse (format t) = .ok t := by
  obtain ⟨e, he, hle⟩ := hyears
  obtain rfl := hd.unique he
  obtain ⟨w, hw, hn⟩ := exists_spells_format hd hyear hle
  exact parse_of_names hw hn ⟨d, hd, hle⟩

/-- Before year 1000 the timestamp of an instant has no form. -/
theorem parse_format_of_lt {t : Instant} {d : Date} (hd : IsDateOf d t.micros)
    (hyear : d.year < 1000) :
    parse (format t) = .error .form := by
  have hlength : (Text.decimal d.year).length < 4 := by
    have hle := (Text.length_digitsOf_le_iff (by decide : 0 < 3) d.year).mpr hyear
    rw [Text.decimal, List.length_map]
    omega
  have htake : takeDigits? 4 (formatChars t) = none := by
    refine Option.eq_none_iff_forall_ne_some.mpr fun ⟨ds, rest⟩ htake => ?_
    obtain ⟨hds, heq⟩ := takeDigits?_eq_some_iff.mp htake
    -- the dash behind the year is among the first four characters
    have hdash : '-' ∈ (formatChars t).take 4 := by
      obtain ⟨k, hk⟩ : ∃ k, 4 - (Text.decimal d.year).length = k + 1 :=
        ⟨3 - (Text.decimal d.year).length, by omega⟩
      simp only [formatChars, hd.date_eq, List.append_assoc, List.cons_append, List.take_append, hk,
        List.take_succ_cons]
      exact List.mem_append_right _ List.mem_cons_self
    rw [heq, List.take_left' hds.length] at hdash
    exact absurd (hds.digits '-' hdash) (by decide)
  rw [parse, format, String.toList_ofList, Form.read?, htake]
  rfl

/-- What becomes of a time on the clock of a zone when it is written and read again.  It is the
instant again exactly from year 1000 of universal time on, before it is refused; and from then on
two times have one timestamp exactly if they are one instant, in whatever zones. -/
theorem parse_format_zoned {z : Zoned} {t : Instant} {d : Date} (h : z.instant? = some t)
    (hd : IsDateOf d t.micros) :
    ∃ s, z.format? = some s ∧ (parse s = .ok t ↔ 1000 ≤ d.year) ∧
      (d.year < 1000 → ∃ fault, parse s = .error fault ∧ fault ≠ .outOfRange) ∧
      ∀ (z' : Zoned) (t' : Instant) (d' : Date), z'.instant? = some t' → IsDateOf d' t'.micros →
        1000 ≤ d.year → 1000 ≤ d'.year → (z'.format? = some s ↔ t' = t) := by
  refine ⟨format t, by rw [Zoned.format?, h, Option.map_some], ⟨fun hok => ?_, fun hyear => ?_⟩,
    fun hyear => ⟨.form, parse_format_of_lt hd hyear, nofun⟩, ?_⟩
  · by_contra hyear
    cases (parse_format_of_lt hd (by omega)).symm.trans hok
  · exact parse_format_of_le hd (Zoned.inYears_of_instant? h) hyear
  · intro z' t' d' h' hd' hyear hyear'
    rw [Zoned.format?, h', Option.map_some, Option.some_inj]
    constructor
    · intro heq
      have hok := parse_format_of_le hd (Zoned.inYears_of_instant? h) hyear
      have hok' := parse_format_of_le hd' (Zoned.inYears_of_instant? h') hyear'
      exact Except.ok.inj (hok'.symm.trans (heq ▸ hok))
    · rintro rfl
      rfl

/-- Half past midnight on 1 January 1001, one hour ahead of universal time, where it is still the
year 1000. -/
theorem parse_format_zoned_newYear :
    ∃ s, (Zoned.mk (-30578686200000000) 3600000000 (by decide) (by decide)).format? = some s ∧
      parse s = .ok ⟨-30578689800000000⟩ := by
  have hdate : IsDateOf ⟨1000, 12, 31⟩ (-30578689800000000) :=
    ⟨365241, by decide, Date.after_eq_iff.mpr ⟨by decide, by decide⟩⟩
  obtain ⟨s, hs, hparse, -⟩ := parse_format_zoned
    (z := ⟨-30578686200000000, 3600000000, by decide, by decide⟩)
    (t := ⟨-30578689800000000⟩) rfl hdate
  exact ⟨s, hs, hparse.mpr (by decide)⟩

end Timestamp

end MetricRelay.Time
