import SaslClient.Clock.Calendar

/-!
# Days and dates

Counting the days before a date and finding the date after so many days are inverse to each other,
over all years. Years that start with March make this plain: a leap day ends such a year, so that
every month starts on the same day of it. An era is four centuries, a century is made of cycles of
four years, and each of these ends with a leap day or without one (`EraDay`).

Main results:

* `isValid_ofDays`, `toDays_ofDays`: the date after so many days exists, and so many days are before
  it.
* `ofDays_eq_iff`: no other date has so many days before it.
* `ofDays_succ`, `ofDays_natCast`: from day to day, the dates follow each other as in a calendar.
* `number_ofDays_lt`: later days have later dates.
-/

namespace SaslClient.Date

/-! ## Days before years and months -/

/-- The number of days in a year. -/
def daysInYear (year : Int) : Nat :=
  if isLeapYear year then 366 else 365

theorem daysInYear_le (year : Int) : daysInYear year ≤ 366 := by
  unfold daysInYear
  split <;> omega

theorem le_daysInYear (year : Int) : 365 ≤ daysInYear year := by
  unfold daysInYear
  split <;> omega

theorem daysBeforeYear_succ (year : Int) :
    daysBeforeYear (year + 1) = daysBeforeYear year + daysInYear year := by
  simp only [daysBeforeYear, daysInYear, isLeapYear, Bool.and_eq_true, Bool.or_eq_true, beq_iff_eq,
    bne_iff_ne]
  split <;> omega

theorem daysBeforeYear_mono {year year' : Int} (h : year ≤ year') :
    daysBeforeYear year ≤ daysBeforeYear year' := by
  simp only [daysBeforeYear]
  omega

theorem daysBeforeMonth_succ (year : Int) {month : Nat} (h : 1 ≤ month) :
    daysBeforeMonth year (month + 1) = daysBeforeMonth year month + daysInMonth year month := by
  obtain ⟨m, rfl⟩ := Nat.exists_eq_add_of_le' h
  simp [daysBeforeMonth, List.range_succ]

theorem daysBeforeMonth_mono (year : Int) {month month' : Nat} (h : month ≤ month') :
    daysBeforeMonth year month ≤ daysBeforeMonth year month' := by
  induction h with
  | refl => exact Nat.le_refl _
  | @step m hle ih =>
    rcases Nat.eq_zero_or_pos m with rfl | hm
    · exact ih
    · rw [daysBeforeMonth_succ year hm]
      omega

/-- From March on, the months of all years start on the same days before the end of the year. -/
theorem daysBeforeMonth_fromMarch (year : Int) {m : Nat} (h : m ≤ 10) :
    daysBeforeMonth year (m + 3) + 306 = daysInYear year + (153 * m + 2) / 5 := by
  induction m with
  | zero =>
    have hfebruary : 31 + daysInMonth year 2 + 306 = daysInYear year := by
      rw [daysInMonth, if_pos rfl, daysInYear]
      split <;> rfl
    rw [daysBeforeMonth_succ year (by decide)]
    exact hfebruary
  | succ m ih =>
    have hpattern : ∀ m < 10,
        (if m + 3 = 4 ∨ m + 3 = 6 ∨ m + 3 = 9 ∨ m + 3 = 11 then 30 else 31) =
          (153 * (m + 1) + 2) / 5 - (153 * m + 2) / 5 := by decide
    have hdays : daysInMonth year (m + 3) = (153 * (m + 1) + 2) / 5 - (153 * m + 2) / 5 := by
      rw [daysInMonth, if_neg (by omega), hpattern m (by omega)]
    have hbefore := ih (by omega)
    rw [Nat.add_right_comm, daysBeforeMonth_succ year (by omega), hdays]
    omega

theorem daysBeforeMonth_thirteen (year : Int) : daysBeforeMonth year 13 = daysInYear year :=
  Nat.add_right_cancel (daysBeforeMonth_fromMarch year (Nat.le_refl 10))

/-- A date exists if its month does and its day is before the next month. -/
theorem isValid_iff {d : Date} :
    d.isValid = true ↔ 1 ≤ d.month ∧ d.month ≤ 12 ∧ 1 ≤ d.day ∧
      daysBeforeMonth d.year d.month + d.day ≤ daysBeforeMonth d.year (d.month + 1) := by
  simp only [isValid, Bool.and_eq_true, decide_eq_true_eq, and_assoc]
  refine and_congr_right fun h => and_congr_right fun _ => and_congr_right fun _ => ?_
  rw [daysBeforeMonth_succ _ h]
  omega

/-! ## Years that start with March -/

/-- The date so many days after the first of March of a year. -/
def fromMarch (year : Int) (dayOfYear : Nat) : Date :=
  let monthFromMarch := (5 * dayOfYear + 2) / 153
  let day := dayOfYear - (153 * monthFromMarch + 2) / 5 + 1
  let month := if monthFromMarch < 10 then monthFromMarch + 3 else monthFromMarch - 9
  ⟨year + (if month ≤ 2 then 1 else 0), month, day⟩

/-- The first of March is 306 days before the next year. -/
theorem fromMarch_spec (year : Int) {dayOfYear : Nat} (h : dayOfYear < daysInYear (year + 1)) :
    (fromMarch year dayOfYear).isValid = true ∧
      (fromMarch year dayOfYear).toDays =
        daysBeforeYear (year + 1) - 306 + dayOfYear - 719162 := by
  have hmax := daysInYear_le (year + 1)
  rw [isValid_iff]
  simp only [fromMarch, toDays]
  generalize hm : (5 * dayOfYear + 2) / 153 = m
  have hmonth : m ≤ 11 := by omega
  by_cases hearly : m < 10
  · -- from March to December
    have hafter : ¬ m + 3 ≤ 2 := by omega
    have hstart := daysBeforeMonth_fromMarch year (show m ≤ 10 by omega)
    have hend := daysBeforeMonth_fromMarch year (show m + 1 ≤ 10 by omega)
    simp only [if_pos hearly, if_neg hafter, Int.add_zero]
    rw [Nat.add_right_comm m 3 1, daysBeforeYear_succ]
    omega
  · -- January and February of the next year
    have hbefore : m - 9 ≤ 2 := by omega
    have hjanuary : daysBeforeMonth (year + 1) 1 = 0 := rfl
    have hfebruary : daysBeforeMonth (year + 1) 2 = 31 := rfl
    have hmarch : daysBeforeMonth (year + 1) 3 + 306 = daysInYear (year + 1) :=
      daysBeforeMonth_fromMarch (year + 1) (Nat.zero_le 10)
    simp only [if_neg hearly, if_pos hbefore]
    obtain rfl | rfl : m = 10 ∨ m = 11 := by omega
    · simp only [Nat.reduceSub, Nat.reduceAdd, hjanuary, hfebruary]
      omega
    · simp only [Nat.reduceSub, Nat.reduceAdd, hfebruary]
      omega

/-! ## Eras -/

/-- A day of an era, by the century it lies in, the cycle of four years of this century, the year of
this cycle and the day of this year. What a cycle, a century and the era have beyond their equal
parts is a leap day, which makes their last year longer. -/
structure EraDay where
  century : Nat
  cycle : Nat
  year : Nat
  day : Nat
  century_le : century ≤ 3
  cycle_le : cycle ≤ 24
  year_le : year ≤ 3
  day_le : day ≤ 365
  leap : day = 365 → year = 3 ∧ (cycle = 24 → century = 3)

namespace EraDay

/-- The days of the era before the day. -/
def count (p : EraDay) : Nat :=
  36524 * p.century + 1461 * p.cycle + 365 * p.year + p.day

/-- The years of the era before the day. -/
def years (p : EraDay) : Nat :=
  100 * p.century + 4 * p.cycle + p.year

theorem exists_count_eq {n : Nat} (h : n < 146097) : ∃ p : EraDay, p.count = n := by
  obtain ⟨c, d, hc, hd, hlast, rfl⟩ : ∃ c d, c ≤ 3 ∧ d ≤ 36524 ∧ (d = 36524 → c = 3) ∧
      n = 36524 * c + d :=
    ⟨min (n / 36524) 3, n - 36524 * min (n / 36524) 3, by omega⟩
  obtain ⟨a, t, ha, ht, hleap, hd'⟩ : ∃ a t, a ≤ 3 ∧ t ≤ 365 ∧ (t = 365 → a = 3) ∧
      d % 1461 = 365 * a + t :=
    ⟨min (d % 1461 / 365) 3, d % 1461 - 365 * min (d % 1461 / 365) 3, by omega⟩
  refine ⟨⟨c, d / 1461, a, t, hc, by omega, ha, ht, fun h => ⟨hleap h, by omega⟩⟩, ?_⟩
  show 36524 * c + 1461 * (d / 1461) + 365 * a + t = 36524 * c + d
  omega

end EraDay

/-- The years of an era before a day of it. -/
def yearOfEra (dayOfEra : Nat) : Nat :=
  (dayOfEra - dayOfEra / 1460 + dayOfEra / 36524 - dayOfEra / 146096) / 365

/-- Without its leap days an era has 365 days for each year. -/
theorem yearOfEra_count (p : EraDay) : yearOfEra p.count = p.years := by
  obtain ⟨c, b, a, t, hc, hb, ha, ht, hleap⟩ := p
  show yearOfEra (36524 * c + 1461 * b + 365 * a + t) = 100 * c + 4 * b + a
  unfold yearOfEra
  by_cases hlast : t = 365 ∧ b = 24
  · -- the last day of the era
    obtain ⟨rfl, rfl⟩ := hlast
    obtain ⟨rfl, hc⟩ := hleap rfl
    rw [hc rfl]
  · generalize hn : 36524 * c + 1461 * b + 365 * a + t = n
    have hcentury : 1461 * b + 365 * a + t < 36524 := by omega
    have h100 : n / 36524 = c := by omega
    have h400 : n / 146096 = 0 := by omega
    obtain ⟨k, hk⟩ : ∃ k, k = (24 * c + b + 365 * a + t) / 1460 := ⟨_, rfl⟩
    have h4 : n / 1460 = 25 * c + b + k := by omega
    have hkt : k ≤ t ∧ t < 365 + k := by omega
    have hsum : n - (25 * c + b + k) + c = 365 * (100 * c + 4 * b + a) + (t - k) := by omega
    rw [h100, h400, h4, Nat.sub_zero, hsum]
    omega

theorem dayOfYear_count (p : EraDay) :
    p.count - (365 * p.years + p.years / 4 - p.years / 100) = p.day := by
  obtain ⟨c, b, a, t, hc, hb, ha, ht, hleap⟩ := p
  have h4 : (100 * c + 4 * b + a) / 4 = 25 * c + b := by omega
  have h100 : (100 * c + 4 * b + a) / 100 = c := by omega
  simp only [EraDay.count, EraDay.years, h4, h100]
  omega

theorem daysBeforeYear_years (era : Int) (p : EraDay) :
    daysBeforeYear (400 * era + p.years + 1) = 146097 * era + p.count - p.day := by
  obtain ⟨c, b, a, t, hc, hb, ha, ht, hleap⟩ := p
  generalize hy : 400 * era + ((100 * c + 4 * b + a : Nat) : Int) = y
  have h4 : y / 4 = 100 * era + 25 * c + b := by omega
  have h100 : y / 100 = 4 * era + c := by omega
  have h400 : y / 400 = era := by omega
  simp only [EraDay.count, EraDay.years, hy, daysBeforeYear, Int.add_sub_cancel, h4, h100, h400]
  omega

/-- A year that starts with March is as long as the year that it ends in. -/
theorem day_lt_daysInYear (era : Int) (p : EraDay) :
    p.day < daysInYear (400 * era + p.years + 1) := by
  rcases Nat.lt_or_eq_of_le p.day_le with hlt | hday
  · exact Nat.lt_of_lt_of_le hlt (le_daysInYear _)
  · obtain ⟨c, b, a, t, hc, hb, ha, ht, hleap⟩ := p
    have hlast := hleap hday
    have hleap : isLeapYear (400 * era + (100 * c + 4 * b + a : Nat) + 1) = true := by
      simp only [isLeapYear, Bool.and_eq_true, Bool.or_eq_true, beq_iff_eq, bne_iff_ne]
      omega
    rw [EraDay.years, daysInYear, if_pos hleap]
    omega

theorem ofDays_eq_fromMarch (days : Int) :
    let dayOfEra := ((days + 719468) % 146097).toNat
    let y := yearOfEra dayOfEra
    ofDays days =
      fromMarch (400 * ((days + 719468) / 146097) + y) (dayOfEra - (365 * y + y / 4 - y / 100)) :=
  rfl

theorem ofDays_spec (days : Int) : (ofDays days).isValid = true ∧ (ofDays days).toDays = days := by
  obtain ⟨p, hp⟩ := EraDay.exists_count_eq (show ((days + 719468) % 146097).toNat < 146097 by omega)
  rw [ofDays_eq_fromMarch, ← hp, yearOfEra_count, dayOfYear_count]
  generalize hera : (days + 719468) / 146097 = era
  obtain ⟨hvalid, htoDays⟩ := fromMarch_spec _ (day_lt_daysInYear era p)
  refine ⟨hvalid, htoDays.trans ?_⟩
  rw [daysBeforeYear_years era p]
  omega

/-- The date after so many days exists. -/
theorem isValid_ofDays (days : Int) : (ofDays days).isValid = true :=
  (ofDays_spec days).1

/-- So many days are before the date after so many days. -/
@[simp] theorem toDays_ofDays (days : Int) : (ofDays days).toDays = days :=
  (ofDays_spec days).2

/-! ## Order -/

/-- A date as a number, in the form `yyyymmdd`. -/
def number (d : Date) : Int :=
  10000 * d.year + 100 * d.month + d.day

variable {d d' : Date}

theorem daysInMonth_bounds (year : Int) (month : Nat) :
    1 ≤ daysInMonth year month ∧ daysInMonth year month ≤ 31 := by
  unfold daysInMonth
  split
  · split <;> omega
  · split <;> omega

theorem bounds_of_isValid (h : d.isValid = true) :
    1 ≤ d.month ∧ d.month ≤ 12 ∧ 1 ≤ d.day ∧ d.day ≤ 31 := by
  obtain ⟨hmonth, hmonth', hday, hdays⟩ := isValid_iff.mp h
  have hmax := (daysInMonth_bounds d.year d.month).2
  rw [daysBeforeMonth_succ _ hmonth] at hdays
  exact ⟨hmonth, hmonth', hday, by omega⟩

/-- A date is in its year. -/
theorem toDays_bounds (h : d.isValid = true) :
    daysBeforeYear d.year ≤ d.toDays + 719162 ∧
      d.toDays + 719162 < daysBeforeYear (d.year + 1) := by
  obtain ⟨-, hmonth, hday, hdays⟩ := isValid_iff.mp h
  have hend := daysBeforeMonth_mono d.year (Nat.succ_le_succ hmonth)
  rw [daysBeforeMonth_thirteen, Nat.succ_eq_add_one] at hend
  rw [daysBeforeYear_succ]
  unfold toDays
  omega

/-- A day of a month is before the next month. -/
theorem toDays_lt_of_month_lt (h : d.isValid = true) (h' : d'.isValid = true)
    (hyear : d.year = d'.year) (hlt : d.month < d'.month) : d.toDays < d'.toDays := by
  obtain ⟨-, -, -, hday⟩ := isValid_iff.mp h
  obtain ⟨-, -, hday', -⟩ := isValid_iff.mp h'
  have hmonth : daysBeforeMonth d.year (d.month + 1) ≤ daysBeforeMonth d.year d'.month :=
    daysBeforeMonth_mono d.year hlt
  unfold toDays
  rw [← hyear]
  omega

theorem toDays_lt_of_number_lt (h : d.isValid = true) (h' : d'.isValid = true)
    (hlt : d.number < d'.number) : d.toDays < d'.toDays := by
  have hbounds := bounds_of_isValid h
  have hbounds' := bounds_of_isValid h'
  unfold number at hlt
  by_cases hyear : d.year < d'.year
  · have hend := (toDays_bounds h).2
    have hstart := (toDays_bounds h').1
    have hmono := daysBeforeYear_mono (Int.add_one_le_of_lt hyear)
    omega
  · have hyear : d.year = d'.year := by omega
    by_cases hm : d.month < d'.month
    · exact toDays_lt_of_month_lt h h' hyear hm
    · have hm : d.month = d'.month := by omega
      unfold toDays
      rw [← hyear, ← hm]
      omega

theorem eq_of_number_eq (h : d.isValid = true) (h' : d'.isValid = true)
    (heq : d.number = d'.number) : d = d' := by
  have hbounds := bounds_of_isValid h
  have hbounds' := bounds_of_isValid h'
  obtain ⟨year, month, day⟩ := d
  obtain ⟨year', month', day'⟩ := d'
  simp only [number] at *
  obtain ⟨rfl, rfl, rfl⟩ : year = year' ∧ month = month' ∧ day = day' := by omega
  rfl

theorem eq_of_toDays_eq (h : d.isValid = true) (h' : d'.isValid = true)
    (heq : d.toDays = d'.toDays) : d = d' := by
  rcases Int.lt_trichotomy d.number d'.number with hlt | hnumber | hlt
  · have := toDays_lt_of_number_lt h h' hlt
    omega
  · exact eq_of_number_eq h h' hnumber
  · have := toDays_lt_of_number_lt h' h hlt
    omega

/-- The date after so many days is the one with so many days before it. -/
theorem ofDays_eq_iff {days : Int} (h : d.isValid = true) : ofDays days = d ↔ d.toDays = days := by
  constructor
  · rintro rfl
    exact toDays_ofDays days
  · intro hdays
    exact eq_of_toDays_eq (isValid_ofDays days) h ((toDays_ofDays days).trans hdays.symm)

/-- Later days have later dates. -/
theorem number_ofDays_lt {days days' : Int} (hlt : days < days') :
    (ofDays days).number < (ofDays days').number := by
  refine Int.not_le.mp fun hle => ?_
  have hback : (ofDays days').toDays ≤ (ofDays days).toDays := by
    rcases Int.lt_or_eq_of_le hle with hlt' | heq
    · exact Int.le_of_lt
        (toDays_lt_of_number_lt (isValid_ofDays days') (isValid_ofDays days) hlt')
    · exact Int.le_of_eq (congrArg toDays
        (eq_of_number_eq (isValid_ofDays days') (isValid_ofDays days) heq))
  rw [toDays_ofDays, toDays_ofDays] at hback
  omega

/-! ## From day to day -/

/-- The date that follows in the calendar. -/
def next (d : Date) : Date :=
  if d.day < daysInMonth d.year d.month then { d with day := d.day + 1 }
  else if d.month < 12 then ⟨d.year, d.month + 1, 1⟩
  else ⟨d.year + 1, 1, 1⟩

theorem next_spec (h : d.isValid = true) :
    d.next.isValid = true ∧ d.next.toDays = d.toDays + 1 := by
  obtain ⟨hmonth, hmonth', hday, hdays⟩ := isValid_iff.mp h
  rw [daysBeforeMonth_succ _ hmonth] at hdays
  unfold next
  split
  next hlt =>
    -- another day of the month
    refine ⟨isValid_iff.mpr ⟨hmonth, hmonth', Nat.succ_pos _, ?_⟩, ?_⟩
    · rw [daysBeforeMonth_succ _ hmonth]
      exact Nat.add_le_add_left hlt _
    · simp only [toDays]
      omega
  next hlast =>
    have hday : d.day = daysInMonth d.year d.month := by omega
    split
    next hlt =>
      -- another month of the year
      refine ⟨isValid_iff.mpr ⟨Nat.succ_pos _, hlt, Nat.le_refl 1, ?_⟩, ?_⟩
      · rw [daysBeforeMonth_succ _ (Nat.succ_pos _)]
        exact Nat.add_le_add_left (daysInMonth_bounds _ _).1 _
      · simp only [toDays, daysBeforeMonth_succ _ hmonth, hday]
        omega
    next hend =>
      -- the year ends
      have hmonth : d.month = 12 := by omega
      refine ⟨isValid_iff.mpr ⟨Nat.le_refl 1, (show 1 ≤ 12 by decide), Nat.le_refl 1, ?_⟩, ?_⟩
      · exact Nat.le_add_left 1 30
      · have hyear := daysBeforeMonth_thirteen d.year
        rw [daysBeforeMonth_succ _ (by decide), ← hmonth, ← hday] at hyear
        have hstart : daysBeforeMonth (d.year + 1) 1 = 0 := rfl
        simp only [toDays, daysBeforeYear_succ, hstart]
        omega

/-- The days of the calendar follow each other. -/
theorem ofDays_succ (days : Int) : ofDays (days + 1) = (ofDays days).next := by
  obtain ⟨hvalid, hdays⟩ := next_spec (isValid_ofDays days)
  rw [ofDays_eq_iff hvalid, hdays, toDays_ofDays]

/-- The date after so many days is found by going on from day to day. -/
theorem ofDays_natCast (n : Nat) : ofDays n = Nat.repeat next n ⟨1970, 1, 1⟩ := by
  induction n with
  | zero => rfl
  | succ n ih =>
    rw [Int.natCast_succ, ofDays_succ, ih]
    rfl

end SaslClient.Date
