/-
# ArtifactStaging.Proofs.Time.Rendering -- an instant's text is read as the instant

The calendar comes first: a day's date is a day of its month (`Shows.date_le`), and has the
day's number (`dayNumber_dateOf`).  A day is found in its era of four hundred years by its
century, its group of four years, its year and its place in that year (`Cycles`); only the
last day of a leap year has no place in a year of 365 days.

Then every field of the text is followed by the reader up to the mark after it, and
`parse_render` puts them together for every instant that a clock shows.
-/
import ArtifactStaging.Proofs.Text.Digits
import ArtifactStaging.Time.Instant

set_option autoImplicit false

namespace ArtifactStaging.Instant

/-! ## The calendar -/

/-- A day of an era of four hundred years, by its century, its four years, its year and its place
in the year.  Only a leap year, which is the last of its four years, has a place 365; a century's
last four years have none, unless the century is the era's last. -/
structure Cycles (century group year place : Int) : Prop where
  century_le : 0 ≤ century ∧ century ≤ 3
  group_le : 0 ≤ group ∧ group ≤ 24
  year_le : 0 ≤ year ∧ year ≤ 3
  place_le : 0 ≤ place ∧ place ≤ 365
  leap : place = 365 → year = 3 ∧ (group = 24 → century = 3)

/-- The date of a day in its era.  Years begin in March. -/
structure Shows (era century group year place : Int) (shown : Int) (month date : Nat) : Prop where
  cycles : Cycles century group year place
  month_eq : (month : Int) =
    (5 * place + 2) / 153 + if (5 * place + 2) / 153 < 10 then 3 else -9
  date_eq : (date : Int) = place - (153 * ((5 * place + 2) / 153) + 2) / 5 + 1
  shown_eq : shown = 400 * era + 100 * century + 4 * group + year + if month ≤ 2 then 1 else 0

variable {number era century group year place dayOfEra shown : Int} {month date : Nat}

theorem exists_cycles (least : 0 ≤ dayOfEra) (most : dayOfEra < 146097) :
    ∃ century group year place, Cycles century group year place ∧
      dayOfEra = 36524 * century + 1461 * group + 365 * year + place := by
  obtain ⟨century, hcentury⟩ : ∃ century : Int, century = min 3 (dayOfEra / 36524) := ⟨_, rfl⟩
  obtain ⟨group, hgroup⟩ : ∃ group : Int, group = (dayOfEra - 36524 * century) / 1461 := ⟨_, rfl⟩
  obtain ⟨year, hyear⟩ : ∃ year : Int,
      year = min 3 ((dayOfEra - 36524 * century - 1461 * group) / 365) := ⟨_, rfl⟩
  refine ⟨century, group, year, dayOfEra - 36524 * century - 1461 * group - 365 * year,
    ⟨?_, ?_, ?_, ?_, ?_⟩, ?_⟩ <;> omega

/-- The divisions by the lengths of the cycles, taken together, count the years before a day. -/
theorem Cycles.yearOfEra (cycles : Cycles century group year place)
    (h : dayOfEra = 36524 * century + 1461 * group + 365 * year + place) :
    (dayOfEra - dayOfEra / 1460 + dayOfEra / 36524 - dayOfEra / 146096) / 365 =
      100 * century + 4 * group + year := by
  obtain ⟨hcentury, hgroup, hyear, hplace, hleap⟩ := cycles
  have heras : dayOfEra / 146096 = if dayOfEra = 146096 then 1 else 0 := by omega
  have hcenturies : dayOfEra / 36524 = if dayOfEra = 146096 then 4 else century := by omega
  have hgroups : dayOfEra / 1460 = 25 * century + group +
      if 24 * century + group + 365 * year + place < 1460 then 0 else 1 := by omega
  rw [heras, hcenturies, hgroups]
  omega

/-- The date that is computed for a day. -/
theorem dateOf_eq (cycles : Cycles century group year place)
    (hnumber : number + 719468 =
      era * 146097 + (36524 * century + 1461 * group + 365 * year + place)) :
    dateOf number =
      (let march := (5 * place + 2) / 153
      let month := if march < 10 then march + 3 else march - 9
      let year := 100 * century + 4 * group + year + era * 400
      (if month ≤ 2 then year + 1 else year, month.toNat,
        (place - (153 * march + 2) / 5 + 1).toNat)) := by
  obtain ⟨hcentury, hgroup, hyear, hplace, -⟩ := id cycles
  have hera : (number + 719468).fdiv 146097 = era := by
    rw [Int.fdiv_eq_ediv_of_nonneg _ (by decide)]
    omega
  have hdayOfEra : number + 719468 - era * 146097 =
      36524 * century + 1461 * group + 365 * year + place := by omega
  have hdayOfYear : 36524 * century + 1461 * group + 365 * year + place -
      (365 * (100 * century + 4 * group + year) + (100 * century + 4 * group + year) / 4 -
        (100 * century + 4 * group + year) / 100) = place := by omega
  simp only [dateOf, hera, hdayOfEra, cycles.yearOfEra rfl, hdayOfYear]

theorem shows_of_dateOf (cycles : Cycles century group year place)
    (hnumber : number + 719468 =
      era * 146097 + (36524 * century + 1461 * group + 365 * year + place))
    (h : dateOf number = (shown, month, date)) :
    Shows era century group year place shown month date := by
  rw [dateOf_eq cycles hnumber] at h
  obtain ⟨hshown, h⟩ := Prod.mk.inj h
  obtain ⟨hmonth, hdate⟩ := Prod.mk.inj h
  have hplace := cycles.place_le
  clear hnumber
  refine ⟨cycles, ?_, ?_, ?_⟩
  · rw [← hmonth]
    split <;> omega
  · omega
  · rw [← hshown, ← hmonth]
    generalize (5 * place + 2) / 153 = march
    split <;> split <;> split <;> omega

namespace Shows

variable (shows : Shows era century group year place shown month date)

include shows

theorem month_le : 1 ≤ month ∧ month ≤ 12 := by
  have hplace := shows.cycles.place_le
  have hmonth := shows.month_eq
  split at hmonth <;> omega

theorem one_le_date : 1 ≤ date := by
  have hdate := shows.date_eq
  have hplace := shows.cycles.place_le
  omega

/-- The last day of February is the last of its year. -/
theorem isLeapYear (h : place = 365) : isLeapYear shown = true := by
  obtain ⟨hyear, hgroup⟩ := shows.cycles.leap h
  have hmonth := shows.month_eq
  have hshown := shows.shown_eq
  have hfour : shown % 4 = 0 := by
    split at hmonth <;> split at hshown <;> omega
  have hundred : shown % 100 = 0 → shown % 400 = 0 := by
    have hcycles := shows.cycles.group_le
    split at hmonth <;> split at hshown <;> omega
  simp only [Instant.isLeapYear, hfour, BEq.rfl, Bool.true_and, Bool.or_eq_true, bne_iff_ne,
    ne_eq, beq_iff_eq]
  omega

theorem date_le : date ≤ daysInMonth shown month := by
  have hplace := shows.cycles.place_le
  have hmonth := shows.month_eq
  have hdate := shows.date_eq
  by_cases hfebruary : month = 2
  · rw [daysInMonth, if_pos hfebruary]
    split
    · split at hmonth <;> omega
    · next hcommon =>
      have hlast : place ≠ 365 := fun h => hcommon (shows.isLeapYear h)
      split at hmonth <;> omega
  · rw [daysInMonth, if_neg hfebruary]
    split at hmonth <;> split <;> omega

/-- A date has the number of its day. -/
theorem dayNumber_eq :
    dayNumber shown month date =
      era * 146097 + (36524 * century + 1461 * group + 365 * year + place) - 719468 := by
  obtain ⟨⟨hcentury, hgroup, hyear, hplace, -⟩, hmonth, hdate, hshown⟩ := shows
  have hyears : (if month ≤ 2 then shown - 1 else shown) =
      400 * era + 100 * century + 4 * group + year := by
    split at hshown <;> split <;> omega
  have hera : (400 * era + 100 * century + 4 * group + year).fdiv 400 = era := by
    rw [Int.fdiv_eq_ediv_of_nonneg _ (by decide)]
    omega
  have hmarch : ((month : Int) + 9) % 12 = (5 * place + 2) / 153 := by
    split at hmonth <;> omega
  simp only [dayNumber, hyears, hera, hmarch, hdate]
  omega

end Shows

/-- A date that the reader of a date accepts. -/
structure IsDate (year : Int) (month day : Nat) : Prop where
  first_le : firstYear ≤ year
  le_last : year ≤ lastYear
  month_le : 1 ≤ month ∧ month ≤ 12
  one_le_day : 1 ≤ day
  day_le : day ≤ daysInMonth year month

/-- **The date of a day has the day's number**, and lies in the calendar if the day does. -/
theorem dayNumber_dateOf (first : dayNumber firstYear 1 1 ≤ number)
    (last : number ≤ dayNumber lastYear 12 31) (h : dateOf number = (shown, month, date)) :
    IsDate shown month date ∧ dayNumber shown month date = number := by
  obtain ⟨century, group, year, place, cycles, hday⟩ :=
    exists_cycles (Int.emod_nonneg (number + 719468) (by decide))
      (Int.emod_lt_of_pos (number + 719468) (by decide))
  have hnumber : number + 719468 = (number + 719468) / 146097 * 146097 +
      (36524 * century + 1461 * group + 365 * year + place) := by omega
  have shows := shows_of_dateOf cycles hnumber h
  have hshown := shows.shown_eq
  have hmonth := shows.month_eq
  obtain ⟨hcentury, hgroup, hyear, hplace, -⟩ := cycles
  rw [show dayNumber firstYear 1 1 = -96465292 by decide] at first
  rw [show dayNumber lastYear 12 31 = 95026236 by decide] at last
  refine ⟨⟨?_, ?_, shows.month_le, shows.one_le_date, shows.date_le⟩, ?_⟩
  · rw [firstYear]
    split at hshown <;> split at hmonth <;> omega
  · rw [lastYear]
    split at hshown <;> split at hmonth <;> omega
  · rw [shows.dayNumber_eq]
    omega

/-! ## Fields -/

variable {digits rest : List Char} {n width most least greatest : Nat}

theorem isBlank_digit {c : Char} (h : c.isDigit = true) : Text.isBlank c = false := by
  simp only [Char.isDigit, Bool.and_eq_true, decide_eq_true_eq, UInt32.le_iff_toNat_le] at h
  simp only [Text.isBlank, Bool.or_eq_false_iff, Bool.and_eq_false_iff, decide_eq_false_iff_not,
    beq_eq_false_iff_ne, ne_eq]
  have hc : c.toNat = c.val.toNat := rfl
  have hleast : 48 ≤ c.val.toNat := h.1
  have hmost : c.val.toNat ≤ 57 := h.2
  omega

theorem skipBlanks_cons {c : Char} (h : Text.isBlank c = false) (rest : List Char) :
    skipBlanks (c :: rest) = c :: rest :=
  List.dropWhile_cons_of_neg (by simp [h])

theorem skipBlanks_digits (all : ∀ c ∈ digits, c.isDigit = true) (inhabited : digits ≠ [])
    (rest : List Char) : skipBlanks (digits ++ rest) = digits ++ rest := by
  cases digits with
  | nil => exact absurd rfl inhabited
  | cons c digits => exact skipBlanks_cons (isBlank_digit (all c List.mem_cons_self)) _

/-- Nothing that follows is a digit. -/
def EndsDigits (rest : List Char) : Prop := ∀ c ∈ rest.head?, c.isDigit = false

theorem endsDigits_cons {c : Char} (h : c.isDigit = false) (rest : List Char) :
    EndsDigits (c :: rest) := by
  rintro d ⟨⟩
  exact h

/-- A row of digits is read up to where it ends, if it is not too long. -/
theorem digits?_append (all : ∀ c ∈ digits, c.isDigit = true) (inhabited : digits ≠ [])
    (short : digits.length ≤ most) (ends : EndsDigits rest) :
    digits? most (digits ++ rest) = some (Nat.ofDigitChars 10 digits 0, rest) := by
  have htaken : ((digits ++ rest).take most).takeWhile Char.isDigit = digits := by
    rw [List.take_append, List.take_of_length_le short]
    refine Text.takeWhile_append all fun c hc => ends c ?_
    rw [List.head?_take] at hc
    split at hc
    · cases hc
    · exact hc
  simp only [digits?, htaken, List.isEmpty_iff, inhabited, if_false, Text.foldl_digits,
    List.drop_left]

theorem length_padded (inhabited : 0 < width) (h : n < power 10 width) :
    (padded width n).length = width := by
  have hdigits := (Nat.length_toDigits_le_iff (by decide) inhabited).2 h
  simp only [padded, List.length_append, List.length_replicate]
  omega

theorem isDigit_of_mem_padded {c : Char} (h : c ∈ padded width n) : c.isDigit = true := by
  rcases List.mem_append.1 h with h | h
  · rw [List.eq_of_mem_replicate h]
    rfl
  · exact Text.isDigit_of_mem_toDigits h

theorem padded_ne_nil (width n : Nat) : padded width n ≠ [] := by
  simp [padded]

theorem ofDigitChars_padded (width n : Nat) : Nat.ofDigitChars 10 (padded width n) 0 = n := by
  rw [padded, Nat.ofDigitChars_append, Nat.ofDigitChars_replicate_zero, Nat.mul_zero,
    Nat.ofDigitChars_ten_toDigits]

theorem digits?_padded (short : (padded width n).length ≤ most) (ends : EndsDigits rest) :
    digits? most (padded width n ++ rest) = some (n, rest) := by
  rw [digits?_append (fun c => isDigit_of_mem_padded) (padded_ne_nil width n) short ends,
    ofDigitChars_padded]

theorem field?_padded (inhabited : 0 < width) (h : n < power 10 width) (hleast : least ≤ n)
    (hgreatest : n ≤ greatest) (ends : EndsDigits rest) :
    field? width least greatest (padded width n ++ rest) = some (n, rest) := by
  rw [field?, skipBlanks_digits (fun c => isDigit_of_mem_padded) (padded_ne_nil width n),
    digits?_padded (Nat.le_of_eq (length_padded inhabited h)) ends]
  exact if_pos ⟨hleast, hgreatest⟩

theorem mark?_cons {c : Char} (h : Text.isBlank c = false) (rest : List Char) :
    mark? c (c :: rest) = some rest := by
  rw [mark?, skipBlanks_cons h]
  exact if_pos rfl

theorem year?_plain (h : n < 10000) (ends : EndsDigits rest) :
    year? (padded 4 n ++ rest) = some ((n : Int), rest) := by
  have hdigits : digits? 4 (padded 4 n ++ rest) = some (n, rest) :=
    digits?_padded (Nat.le_of_eq (length_padded (by decide) h)) ends
  obtain ⟨c, digits, hpadded⟩ := List.exists_cons_of_ne_nil (padded_ne_nil 4 n)
  have hc : c.isDigit = true := isDigit_of_mem_padded (hpadded ▸ List.mem_cons_self)
  rw [year?, skipBlanks_digits (fun c => isDigit_of_mem_padded) (padded_ne_nil 4 n)]
  split
  · next heq =>
    rw [hpadded] at heq
    cases heq
    cases hc
  · next heq =>
    rw [hpadded] at heq
    cases heq
    cases hc
  · rw [hdigits]
    rfl

theorem year?_signed (n : Nat) (ends : EndsDigits rest) :
    year? ('-' :: (padded 4 n ++ rest)) = some (-(n : Int), rest) ∧
      year? ('+' :: (padded 4 n ++ rest)) = some ((n : Int), rest) := by
  have hdigits : digits? (padded 4 n ++ rest).length (padded 4 n ++ rest) = some (n, rest) :=
    digits?_padded (by simp) ends
  constructor
  · rw [year?, skipBlanks_cons (by decide)]
    show (digits? _ _).map _ = _
    rw [hdigits]
    rfl
  · rw [year?, skipBlanks_cons (by decide)]
    show (digits? _ _).map _ = _
    rw [hdigits]
    rfl

theorem year?_yearText (year : Int) (ends : EndsDigits rest) :
    year? (yearText year ++ rest) = some (year, rest) := by
  unfold yearText
  split
  · next hplain =>
    rw [year?_plain (by omega) ends, Int.toNat_of_nonneg hplain.1]
  · next hsigned =>
    obtain ⟨minus, plus⟩ := year?_signed year.natAbs ends
    split
    · have hyear : -(year.natAbs : Int) = year := by omega
      rw [List.cons_append, minus, hyear]
    · have hyear : (year.natAbs : Int) = year := by omega
      rw [List.cons_append, plus, hyear]

theorem fraction?_padded {nanoseconds : Nat} (inhabited : 0 < width) (h : n < power 10 width)
    (short : width ≤ 9) (heq : n * power 10 (9 - width) = nanoseconds) :
    fraction? ('.' :: (padded width n ++ ['Z'])) = some (nanoseconds, ['Z']) := by
  have hlength := length_padded inhabited h
  have hdigits : digits? 9 (padded width n ++ ['Z']) = some (n, ['Z']) :=
    digits?_padded (by omega) (endsDigits_cons (by decide) [])
  simp [fraction?, hdigits, hlength, heq]

theorem fraction?_fractionText {nanoseconds : Nat} (h : nanoseconds < 1000000000) :
    fraction? (fractionText nanoseconds ++ ['Z']) = some (nanoseconds, ['Z']) := by
  unfold fractionText
  split
  · next hzero =>
    rw [hzero]
    rfl
  split
  · next hmillis =>
    exact fraction?_padded (by decide) (show nanoseconds / 1000000 < 1000 by omega) (by decide)
      (show nanoseconds / 1000000 * 1000000 = nanoseconds by omega)
  split
  · next hmicros =>
    exact fraction?_padded (by decide) (show nanoseconds / 1000 < 1000000 by omega) (by decide)
      (show nanoseconds / 1000 * 1000 = nanoseconds by omega)
  · exact fraction?_padded (by decide) h (by decide) (Nat.mul_one nanoseconds)

theorem endsDigits_fractionText (nanoseconds : Nat) :
    EndsDigits (fractionText nanoseconds ++ ['Z']) := by
  unfold fractionText
  split
  · exact endsDigits_cons (by decide) _
  split
  · exact endsDigits_cons (by decide) _
  split
  · exact endsDigits_cons (by decide) _
  · exact endsDigits_cons (by decide) _

/-! ## The text -/

theorem date?_text {day : Nat} {year : Int} (isDate : IsDate year month day)
    (ends : EndsDigits rest) :
    date? (yearText year ++ '-' :: (padded 2 month ++ '-' :: (padded 2 day ++ rest))) =
      some (dayNumber year month day, rest) := by
  have hday : day ≤ 31 := by
    refine Nat.le_trans isDate.day_le ?_
    unfold daysInMonth
    repeat' split
    all_goals omega
  obtain ⟨hfirst, hlast, hmonth, hone, hdays⟩ := isDate
  have hyear (more : List Char) : year? (yearText year ++ '-' :: more) = some (year, '-' :: more) :=
    year?_yearText year (endsDigits_cons (by decide) _)
  have hmonthField (more : List Char) :
      field? 2 1 12 (padded 2 month ++ '-' :: more) = some (month, '-' :: more) :=
    field?_padded (by decide) (show month < 100 by omega) hmonth.1 hmonth.2
      (endsDigits_cons (by decide) _)
  have hdayField : field? 2 1 31 (padded 2 day ++ rest) = some (day, rest) :=
    field?_padded (by decide) (show day < 100 by omega) hone hday ends
  have hmark (more : List Char) : mark? '-' ('-' :: more) = some more :=
    mark?_cons (by decide) more
  simp only [date?, bind, Option.bind, hyear, hmonthField, hdayField, hmark]
  exact if_pos ⟨hfirst, hlast, hdays⟩

theorem timeOfDay?_text {second nanoseconds : Nat} (h : second < 86400)
    (hnano : nanoseconds < 1000000000) :
    timeOfDay? (padded 2 (second / 3600) ++ ':' :: (padded 2 (second / 60 % 60) ++
      ':' :: (padded 2 (second % 60) ++ (fractionText nanoseconds ++ ['Z'])))) =
        some (second, nanoseconds, ['Z']) := by
  have hfraction := fraction?_fractionText hnano
  have hfield {n greatest : Nat} (hn : n ≤ greatest) (hgreatest : greatest ≤ 60)
      (more : List Char) :
      field? 2 0 greatest (padded 2 n ++ ':' :: more) = some (n, ':' :: more) :=
    field?_padded (by decide) (show n < 100 by omega) (Nat.zero_le n) hn
      (endsDigits_cons (by decide) _)
  have hseconds : field? 2 0 60 (padded 2 (second % 60) ++ (fractionText nanoseconds ++ ['Z'])) =
      some (second % 60, fractionText nanoseconds ++ ['Z']) :=
    field?_padded (by decide) (show second % 60 < 100 by omega) (Nat.zero_le _) (by omega)
      (endsDigits_fractionText nanoseconds)
  have hmark (more : List Char) : mark? ':' (':' :: more) = some more :=
    mark?_cons (by decide) more
  have hleap : second % 60 ≠ 60 := by omega
  have hparts : second / 3600 * 3600 + second / 60 % 60 * 60 + second % 60 = second := by omega
  simp only [timeOfDay?, bind, Option.bind, hmark, hfraction, hseconds,
    hfield (show second / 3600 ≤ 23 by omega) (by decide),
    hfield (show second / 60 % 60 ≤ 59 by omega) (by decide), if_neg hleap, hparts, Nat.add_zero]

/-- An instant that a clock shows: a day of the calendar, and no leap second. -/
structure Shown (instant : Instant) : Prop where
  first_le : dayNumber firstYear 1 1 * 86400 ≤ instant.seconds
  le_last : instant.seconds ≤ dayNumber lastYear 12 31 * 86400 + 86399
  nanoseconds_lt : instant.nanoseconds < 1000000000

/-- **An instant's text is read as the instant.** -/
theorem parse_render {instant : Instant} (shown : instant.Shown) :
    parse instant.render = some instant := by
  obtain ⟨hfirst, hlast, hnano⟩ := shown
  obtain ⟨seconds, nanoseconds⟩ := instant
  have hday : seconds.fdiv 86400 = seconds / 86400 := Int.fdiv_eq_ediv_of_nonneg _ (by decide)
  obtain ⟨second, hsecond⟩ : ∃ second : Nat, second = (seconds - seconds / 86400 * 86400).toNat :=
    ⟨_, rfl⟩
  obtain ⟨year, month, day, hdate⟩ :
      ∃ year month day, dateOf (seconds / 86400) = (year, month, day) :=
    ⟨_, _, _, rfl⟩
  dsimp only at hfirst hlast hnano
  obtain ⟨isDate, hnumber⟩ := dayNumber_dateOf (by omega) (by omega) hdate
  have hparts := timeOfDay?_text (show second < 86400 by omega) hnano
  have hdateText (more : List Char) :=
    date?_text isDate (endsDigits_cons (show 'T'.isDigit = false by decide) more)
  have hrender : (Instant.render ⟨seconds, nanoseconds⟩).toList =
      yearText year ++ '-' :: (padded 2 month ++ '-' :: (padded 2 day ++ 'T' ::
        (padded 2 (second / 3600) ++ ':' :: (padded 2 (second / 60 % 60) ++ ':' ::
          (padded 2 (second % 60) ++ (fractionText nanoseconds ++ ['Z'])))))) := by
    simp only [render, hday, hdate, ← hsecond, if_neg (Nat.not_le.2 hnano), Nat.add_zero,
      String.toList_ofList, List.append_assoc, List.cons_append]
  have hoffset : offset? ['Z'] = some (0, []) := by decide
  have hseconds : seconds / 86400 * 86400 + (second : Int) - 0 * 60 = seconds := by omega
  simp only [parse, bind, Option.bind, hrender, hdateText, separator?, hparts, hoffset, hnumber,
    hseconds]
  exact if_pos ⟨by decide, hfirst, hlast⟩

end ArtifactStaging.Instant
