import Ipam.Proofs.Text
import Ipam.Timestamp

/-!
# Reading back points in time

An instant is written as a date, a time and a fraction in UTC, and read by finding the day of the
date.  The calendar goes through eras of 400 years, which all have the same number of days.

* `Timestamp.yearOfEra_spec`, `Timestamp.monthFromMarch_spec` — a day lies within the year and the
  month that are computed for it.
* **`Timestamp.date_spec`** — the date of a day is a date, and that day is found from it.
* `Timestamp.takeYear?_renderYear`, `Timestamp.takeFraction?_renderFraction` — the fields of a text
  that have no fixed length.
* `Timestamp.Valid` — instants that a clock can show.
* **`Timestamp.parse?_render`** — they are read back from their texts, leap seconds included.
-/

namespace Ipam.Timestamp

open Text

/-! ## The calendar -/

/-- A day of an era lies in a century, in a cycle of four years, and in one of its years. -/
lemma exists_cycles {day : Nat} (h : day < 146097) :
    ∃ century cycle rest, day = 36524 * century + 1461 * cycle + rest ∧ century ≤ 3 ∧ cycle ≤ 24 ∧
      rest ≤ 1460 ∧ (century < 3 → 1461 * cycle + rest < 36524) := by
  refine ⟨min (day / 36524) 3, (day - 36524 * min (day / 36524) 3) / 1461,
    (day - 36524 * min (day / 36524) 3) % 1461, ?_, ?_, ?_, ?_, ?_⟩ <;> omega

/-- The year within its era of 400 years. -/
lemma yearOfEra_spec {day : Nat} (h : day < 146097) :
    let year := (day - day / 1460 + day / 36524 - day / 146096) / 365
    year < 400 ∧ 365 * year + year / 4 - year / 100 ≤ day ∧
      day - (365 * year + year / 4 - year / 100) < 366 := by
  intro year
  obtain ⟨century, cycle, rest, hday, hcentury, hcycle, hrest, hbefore⟩ := exists_cycles h
  have hleaps : day / 1460 = 25 * century + cycle + (24 * century + cycle + rest) / 1460 := by omega
  have hcenturies : day / 36524 = century + day / 146096 := by omega
  have hlate : (rest - (24 * century + cycle + rest) / 1460) / 365 = min (rest / 365) 3 := by omega
  have hyear : year = 100 * century + 4 * cycle + min (rest / 365) 3 := by
    have hdays : day - day / 1460 + day / 36524 - day / 146096
        = 365 * (100 * century + 4 * cycle) + (rest - (24 * century + cycle + rest) / 1460) := by
      omega
    calc year = (365 * (100 * century + 4 * cycle)
          + (rest - (24 * century + cycle + rest) / 1460)) / 365 := by rw [← hdays]
      _ = 100 * century + 4 * cycle + min (rest / 365) 3 := by
          rw [Nat.mul_add_div (by omega), hlate]
  clear_value year
  have hfour : year / 4 = 25 * century + cycle := by omega
  have hhundred : year / 100 = century := by omega
  refine ⟨by omega, by omega, by omega⟩

/-- The months from March on are told apart by the day of the year. -/
lemma monthFromMarch_spec {day : Nat} (h : day < 366) :
    let month := (5 * day + 2) / 153
    month < 12 ∧ (153 * month + 2) / 5 ≤ day ∧ day - (153 * month + 2) / 5 < 31 := by
  intro month
  have hmonth : month = (5 * day + 2) / 153 := rfl
  clear_value month
  refine ⟨by omega, by omega, by omega⟩

/-- The days up to a date whose year and month are counted from March. -/
lemma daysOfDate_fromMarch (era : Int) {year month : Nat} (hyear : year < 400) (hmonth : month < 12)
    (day : Nat) :
    daysOfDate (if month < 10 then year + era * 400 else year + era * 400 + 1)
        (if month < 10 then month + 3 else month - 9) day
      = era * 146097
        + (365 * year + year / 4 - year / 100 + ((153 * month + 2) / 5 + day - 1) : Nat)
        - 719468 := by
  have hera : ((year : Int) + era * 400).fdiv 400 = era := by
    rw [Int.fdiv_eq_ediv_of_nonneg _ (by omega)]
    omega
  have hwithin : ((year : Int) + era * 400 - era * 400).toNat = year := by omega
  by_cases hautumn : month < 10
  · have hshifted : (month + 3 + 9) % 12 = month := by omega
    simp only [daysOfDate, if_pos hautumn, if_neg (show ¬ month + 3 ≤ 2 by omega), hera, hwithin,
      hshifted]
    omega
  · have hshifted : (month - 9 + 9) % 12 = month := by omega
    simp only [daysOfDate, if_neg hautumn, if_pos (show month - 9 ≤ 2 by omega),
      Int.add_sub_cancel, hera, hshifted]
    omega

/-- **The date of a number of days is a date,** and that number of days is found from it. -/
theorem date_spec {days year : Int} {month day : Nat} (h : dateOfDays days = (year, month, day)) :
    daysOfDate year month day = days ∧ 1 ≤ month ∧ month ≤ 12 ∧ 1 ≤ day ∧ day ≤ 31 := by
  simp only [dateOfDays] at h
  generalize hera : (days + 719468).fdiv 146097 = era at h
  generalize hdayOfEra : (days + 719468 - era * 146097).toNat = dayOfEra at h
  rw [Int.fdiv_eq_ediv_of_nonneg _ (by omega)] at hera
  have hdays : days + 719468 = era * 146097 + dayOfEra := by omega
  have hbound : dayOfEra < 146097 := by omega
  obtain ⟨hyear, hleaps, hlength⟩ := yearOfEra_spec hbound
  generalize (dayOfEra - dayOfEra / 1460 + dayOfEra / 36524 - dayOfEra / 146096) / 365 = yearOfEra
    at h hyear hleaps hlength
  generalize hdayOfYear : dayOfEra - (365 * yearOfEra + yearOfEra / 4 - yearOfEra / 100) = dayOfYear
    at h hlength
  obtain ⟨hmonth, hstart, hlast⟩ := monthFromMarch_spec hlength
  generalize (5 * dayOfYear + 2) / 153 = monthFromMarch at h hmonth hstart hlast
  obtain ⟨rfl, rfl, rfl⟩ := h
  have hcount := daysOfDate_fromMarch era hyear hmonth
    (dayOfYear - (153 * monthFromMarch + 2) / 5 + 1)
  -- The years change in March here and in January there.
  have hstyle : ∀ n : Int,
      (if (if monthFromMarch < 10 then monthFromMarch + 3 else monthFromMarch - 9) ≤ 2 then n + 1
        else n) = if monthFromMarch < 10 then n else n + 1 := by
    intro n
    split_ifs <;> omega
  rw [hstyle, hcount]
  refine ⟨by omega, ?_⟩
  split_ifs <;> omega

/-- The date of a number of days exists. -/
lemma isDate_of_dateOfDays {days year : Int} {month day : Nat}
    (h : dateOfDays days = (year, month, day)) : isDate year month day = true := by
  obtain ⟨hdays, hfirst, hlast, hday, -⟩ := date_spec h
  simp [isDate, hdays, h, hfirst, hlast, hday]

/-! ## Fields of a text -/

/-- Digits are taken up to a character that is none. -/
lemma takeWhile_isDigit {ds rest : List Char} (hdigits : ∀ c ∈ ds, c.isDigit = true)
    (hend : ∀ c ∈ rest.head?, c.isDigit = false) : (ds ++ rest).takeWhile isDigit = ds := by
  have hstop : rest.takeWhile isDigit = [] := by
    cases rest with
    | nil => rfl
    | cons c rest => simp [isDigit_eq, hend c rfl]
  rw [List.takeWhile_append_of_pos fun c hc => by rw [isDigit_eq, hdigits c hc], hstop,
    List.append_nil]

/-- A run of digits is taken as one number when it is as long as allowed or ends in front of another
character. -/
lemma takeNumber?_append {most n : Nat} {ds rest : List Char} (hread : natOfDigits? ds = some n)
    (hmost : ds.length ≤ most) (hend : ds.length = most ∨ ∀ c ∈ rest.head?, c.isDigit = false) :
    takeNumber? most (ds ++ rest) = some (n, rest) := by
  have hstop : ∀ c ∈ (rest.take (most - ds.length)).head?, c.isDigit = false := by
    intro c hc
    rw [List.head?_take] at hc
    split_ifs at hc with hfull
    · cases hc
    · exact hend.resolve_left (by omega) c hc
  have htake : ((ds ++ rest).take most).takeWhile isDigit = ds := by
    rw [List.take_append, List.take_of_length_le hmost,
      takeWhile_isDigit (isDigit_of_natOfDigits? hread) hstop]
  simp only [takeNumber?, htake, hread]
  simp

/-- A field of two digits is read back. -/
lemma takeField?_padded {n : Nat} (h : n < 100) (rest : List Char) :
    takeField? (padded 2 n ++ rest) = some (n, rest) := by
  have hlength : (padded 2 n).length = 2 := length_padded (by omega) h
  rw [takeField?, trimStart_padded]
  exact takeNumber?_append (natOfDigits?_padded 2 n) hlength.le (.inl hlength)

lemma takeMark?_self {mark : Char} (h : isBlank mark = false) (rest : List Char) :
    takeMark? mark (mark :: rest) = some rest := by
  simp [takeMark?, trimStart_of_head h]

/-- A year is read back in front of a character that is no digit. -/
lemma takeYear?_renderYear (year : Int) (rest : List Char) :
    takeYear? (renderYear year ++ '-' :: rest) = some (year, '-' :: rest) := by
  by_cases hplain : 0 ≤ year ∧ year ≤ 9999
  · have hlength : (padded 4 year.toNat).length = 4 := length_padded (by omega) (by omega)
    obtain ⟨c, cs, hhead, hc⟩ := exists_head_padded 4 year.toNat
    have hread : takeNumber? 4 (padded 4 year.toNat ++ '-' :: rest)
        = some (year.toNat, '-' :: rest) :=
      takeNumber?_append (natOfDigits?_padded ..) hlength.le (.inl hlength)
    rw [renderYear, if_pos hplain, takeYear?, trimStart_padded]
    rw [hhead, List.cons_append] at hread ⊢
    split
    case h_1 heq =>
      cases heq
      cases hc
    case h_2 heq =>
      cases heq
      cases hc
    case h_3 =>
      rw [hread]
      simp [Int.toNat_of_nonneg hplain.1]
  · have hread : takeNumber? (padded 4 year.natAbs ++ '-' :: rest).length
        (padded 4 year.natAbs ++ '-' :: rest) = some (year.natAbs, '-' :: rest) :=
      takeNumber?_append (natOfDigits?_padded ..) (by simp) (.inr (by simp))
    rw [renderYear, if_neg hplain, List.cons_append, takeYear?]
    by_cases hneg : year < 0
    · rw [if_pos hneg, trimStart_of_head (by decide)]
      simp only [hread, Option.map_some, Option.some.injEq, Prod.mk.injEq, and_true]
      omega
    · rw [if_neg hneg, trimStart_of_head (by decide)]
      simp only [hread, Option.map_some, Option.some.injEq, Prod.mk.injEq, and_true]
      omega

/-- A fraction is read back in front of a character that is no digit. -/
lemma takeFraction?_digits {width n : Nat} (hwidth : 0 < width) (hmost : width ≤ 9)
    (h : n < 10 ^ width) {rest : List Char} (hrest : ∀ c ∈ rest.head?, c.isDigit = false) :
    takeFraction? ('.' :: padded width n ++ rest) = some (n * 10 ^ (9 - width), rest) := by
  have htake : (padded width n ++ rest).takeWhile isDigit = padded width n :=
    takeWhile_isDigit (fun c => isDigit_of_mem_padded) hrest
  have hlength : (padded width n).length = width := length_padded hwidth h
  have hnine : (padded width n ++ List.replicate 9 '0').take 9
      = padded width n ++ List.replicate (9 - width) '0' := by
    rw [List.take_append, hlength, List.take_of_length_le (by omega), List.take_replicate]
    congr 2
    omega
  have hne : (padded width n).isEmpty = false := by
    obtain ⟨c, cs, hhead, -⟩ := exists_head_padded width n
    rw [hhead]
    rfl
  rw [List.cons_append, takeFraction?]
  simp only [htake, hne, hnine, natOfDigits?_append_zeros (natOfDigits?_padded width n),
    Bool.false_eq_true, if_false, Option.bind_eq_bind, Option.bind_some]
  simp

/-- The fraction of a second is read back in front of the mark of UTC. -/
lemma takeFraction?_renderFraction {nanos : Nat} (h : nanos < 1000000000) :
    takeFraction? (renderFraction nanos ++ ['Z']) = some (nanos, ['Z']) := by
  have hend : ∀ c ∈ (['Z'] : List Char).head?, c.isDigit = false := by simp
  rw [renderFraction]
  split_ifs with hwhole hmilli hmicro
  · rw [hwhole]
    rfl
  · rw [takeFraction?_digits (by omega) (by omega) (by omega) hend]
    congr 2
    omega
  · rw [takeFraction?_digits (by omega) (by omega) (by omega) hend]
    congr 2
    omega
  · rw [takeFraction?_digits (by omega) (by omega) (by omega) hend]
    simp

/-! ## Instants -/

/-- The text of a date and a time in UTC is read as an instant when both exist and a timestamp may
have the year. -/
lemma parse?_of_fields {year : Int} {month day hour minute second nanos : Nat}
    (hyear : isYear year = true) (hdate : isDate year month day = true) (hmonth : month < 100)
    (hday : day < 100) (hhour : hour < 24) (hminute : minute < 60) (hsecond : second < 61)
    (hnanos : nanos < 1000000000) {seconds : Int}
    (hseconds : seconds = daysOfDate year month day * 86400
      + (hour * 3600 + minute * 60 + min second 59 : Nat))
    (hwithin : isYear (dateOfDays (seconds.fdiv 86400)).1 = true) {text : String}
    (htext : text.toList = renderYear year ++ '-' :: (padded 2 month ++ '-' :: (padded 2 day
      ++ 'T' :: (padded 2 hour ++ ':' :: (padded 2 minute ++ ':' :: (padded 2 second
        ++ (renderFraction nanos ++ ['Z']))))))) :
    parse? text = some ⟨seconds, if second = 60 then 1000000000 + nanos else nanos⟩ := by
  have hdash : ∀ rest, takeMark? '-' ('-' :: rest) = some rest := takeMark?_self (by decide)
  have hcolon : ∀ rest, takeMark? ':' (':' :: rest) = some rest := takeMark?_self (by decide)
  have hjoint : ∀ rest, takeJoint? ('T' :: rest) = some rest := fun rest => rfl
  have hoffset : takeOffset? (trimStart ['Z']) = some (0, []) := rfl
  have hchecked : ¬ ((!([] : List Char).all isBlank) = true ∨ (!isYear year) = true ∨
      (!isDate year month day) = true) := by
    simp [hyear, hdate]
  have hclock : ¬ (24 ≤ hour ∨ 60 ≤ minute ∨ 61 ≤ second) := by omega
  have hthere : ¬ (!isYear (dateOfDays (seconds.fdiv 86400)).1) = true := by
    rw [hwithin]
    decide
  rw [parse?, htext, takeYear?_renderYear]
  -- The fields are taken one after the other; `simp` would unfold the checks after them each time.
  dsimp only [Option.bind_eq_bind]
  rw [Option.bind_some, hdash, Option.bind_some, takeField?_padded hmonth, Option.bind_some,
    hdash, Option.bind_some, takeField?_padded hday, Option.bind_some,
    hjoint, Option.bind_some, takeField?_padded (by omega), Option.bind_some,
    hcolon, Option.bind_some, takeField?_padded (by omega), Option.bind_some,
    hcolon, Option.bind_some, takeField?_padded (by omega), Option.bind_some,
    takeFraction?_renderFraction hnanos, Option.bind_some, hoffset, Option.bind_some,
    if_neg hchecked, if_neg hclock, Int.sub_zero, ← hseconds, if_neg hthere]
  rfl

/-- An instant that a clock can show: a timestamp may have its year, and a leap second comes after
the last second of a minute. -/
structure Valid (t : Timestamp) : Prop where
  year : isYear (dateOfDays (t.seconds.fdiv 86400)).1 = true
  nanos : t.nanos < 1000000000 ∨ t.nanos < 2000000000 ∧ t.seconds % 60 = 59

/-- **An instant is read back from its text,** to the nanosecond, and a leap second as one. -/
theorem parse?_render {t : Timestamp} (h : t.Valid) : parse? t.render = some t := by
  obtain ⟨seconds, nanos⟩ := t
  obtain ⟨hyear, hnanos⟩ := h
  simp only at hyear hnanos
  obtain ⟨days, hdays⟩ : ∃ days, days = seconds.fdiv 86400 := ⟨_, rfl⟩
  obtain ⟨⟨year, month, day⟩, hdate⟩ : ∃ date, dateOfDays days = date := ⟨_, rfl⟩
  obtain ⟨time, htime⟩ : ∃ time, time = (seconds - days * 86400).toNat := ⟨_, rfl⟩
  obtain ⟨hcount, -, hmonth, -, hday⟩ := date_spec hdate
  have htext : (render ⟨seconds, nanos⟩).toList
      = renderYear year ++ '-' :: (padded 2 month ++ '-' :: (padded 2 day ++ 'T' ::
        (padded 2 (time / 3600) ++ ':' :: (padded 2 (time / 60 % 60) ++ ':' ::
          (padded 2 (time % 60 + nanos / 1000000000)
            ++ (renderFraction (nanos % 1000000000) ++ ['Z'])))))) := by
    simp only [render, renderWith, ← hdays, hdate, ← htime, String.toList_ofList]
    simp
  have hin : isYear year = true := by
    simpa only [← hdays, hdate] using hyear
  rw [Int.fdiv_eq_ediv_of_nonneg _ (by omega)] at hdays
  have hleap : (if time % 60 + nanos / 1000000000 = 60 then 1000000000 + nanos % 1000000000
      else nanos % 1000000000) = nanos := by
    split_ifs <;> omega
  have hread := parse?_of_fields hin (isDate_of_dateOfDays hdate) (by omega) (by omega)
    (show time / 3600 < 24 by omega) (show time / 60 % 60 < 60 by omega)
    (show time % 60 + nanos / 1000000000 < 61 by omega)
    (show nanos % 1000000000 < 1000000000 by omega) (show seconds = _ by omega) hyear htext
  rw [hread, hleap]

end Ipam.Timestamp
