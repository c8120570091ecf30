import Mathlib.Algebra.Group.Nat.Defs
import SaslClient.Clock.Timestamp
import SaslClient.Proofs.Clock.Calendar
import SaslClient.Proofs.Signing.Request

/-!
# What a timestamp tells

From year 0 to year 9999 a timestamp is a number of eight digits, its date, and one of six digits,
its time of day. Digits of the same number compare like the numbers that they stand for, so the
order of such timestamps is the order of their seconds. Outside these years a timestamp starts with
a sign.

Main results:

* `Instant.isOn_iff`: the date of an instant is the one day that it falls on.
* `Instant.toList_timestamp`: a timestamp as two numbers of fixed length.
* `Instant.timestamp_lt`: the timestamp of an earlier second comes first.
* `Instant.timestamp_signable`: which timestamps the signer takes, what it reads off them, and how
  they are ordered.
-/

namespace SaslClient

/-! ## Digits -/

namespace Timestamp

theorem digits_of_mem_fixedDigits {width n : Nat} {c : Char} (h : c ∈ fixedDigits width n) :
    '0' ≤ c ∧ c ≤ '9' := by
  have hall : ∀ k < 10, '0' ≤ Nat.digitChar k ∧ Nat.digitChar k ≤ '9' := by decide
  induction width generalizing n with
  | zero => cases h
  | succ width ih =>
    rcases List.mem_append.mp h with h | h
    · exact ih h
    · rw [List.mem_singleton.mp h]
      exact hall _ (by omega)

theorem digitsValue_concat (cs : List Char) (c : Char) :
    Text.digitsValue (cs ++ [c]) = 10 * Text.digitsValue cs + (c.toNat - 48) := by
  simp [Text.digitsValue]

theorem digitsValue_fixedDigits {width n : Nat} (h : n < 10 ^ width) :
    Text.digitsValue (fixedDigits width n) = n := by
  induction width generalizing n with
  | zero =>
    obtain rfl : n = 0 := by omega
    rfl
  | succ width ih =>
    rw [Nat.pow_succ] at h
    rw [fixedDigits, digitsValue_concat, ih (by omega),
      Nat.toNat_digitChar_of_lt_ten (Nat.mod_lt n (by decide))]
    omega

/-- The digits of two numbers, one behind the other, are those of one number. -/
theorem fixedDigits_append {v w m n : Nat} (h : n < 10 ^ w) :
    fixedDigits v m ++ fixedDigits w n = fixedDigits (v + w) (m * 10 ^ w + n) := by
  induction w generalizing n with
  | zero =>
    obtain rfl : n = 0 := by omega
    simp [fixedDigits]
  | succ w ih =>
    rw [Nat.pow_succ] at h
    have hdiv : (m * 10 ^ (w + 1) + n) / 10 = m * 10 ^ w + n / 10 := by
      rw [Nat.pow_succ, ← Nat.mul_assoc]
      omega
    have hmod : (m * 10 ^ (w + 1) + n) % 10 = n % 10 := by
      rw [Nat.pow_succ, ← Nat.mul_assoc]
      omega
    rw [fixedDigits, ← List.append_assoc, ih (by omega), ← Nat.add_assoc, fixedDigits, hdiv, hmod]

theorem append_lt_append {α : Type} [LT α] {l l' r r' : List α} (h : l < l')
    (hlength : l.length = l'.length) : l ++ r < l' ++ r' := by
  induction h with
  | nil => cases hlength
  | cons _ ih => exact .cons (ih (Nat.succ.inj hlength))
  | rel h => exact .rel h

/-- Digits of the same number compare like the numbers that they stand for. -/
theorem fixedDigits_lt {width m n : Nat} (hlt : m < n) (hn : n < 10 ^ width) :
    fixedDigits width m < fixedDigits width n := by
  have hdigit : ∀ j < 10, ∀ k < 10, j < k → Nat.digitChar j < Nat.digitChar k := by decide
  induction width generalizing m n with
  | zero => omega
  | succ width ih =>
    rw [Nat.pow_succ] at hn
    rw [fixedDigits, fixedDigits]
    by_cases htens : m / 10 < n / 10
    · exact append_lt_append (ih htens (by omega)) (by simp)
    · have htens : m / 10 = n / 10 := by omega
      rw [htens]
      exact List.append_left_lt (.rel (hdigit _ (by omega) _ (by omega) (by omega)))

end Timestamp

namespace Instant

/-! ## The day of an instant -/

/-- The instant falls on this day: not before its midnight, and before the next one. -/
def IsOn (t : Instant) (d : Date) : Prop :=
  d.isValid = true ∧ d.toDays * 86400000000000 ≤ t.nanoseconds ∧
    t.nanoseconds < (d.toDays + 1) * 86400000000000

/-- The date of an instant is the one day that it falls on. -/
theorem isOn_iff {t : Instant} {d : Date} : t.IsOn d ↔ t.date = d := by
  unfold IsOn date seconds
  constructor
  · rintro ⟨hvalid, hlow, hhigh⟩
    rw [Date.ofDays_eq_iff hvalid]
    omega
  · rintro rfl
    refine ⟨Date.isValid_ofDays _, ?_⟩
    rw [Date.toDays_ofDays]
    omega

/-! ## Timestamps as numbers -/

/-- The year of an instant has four digits and no sign. -/
def InFourDigits (t : Instant) : Prop :=
  0 ≤ t.date.year ∧ t.date.year ≤ 9999

/-- A time of day as a number, in the form `hhmmss`. -/
def timeNumber (t : Instant) : Nat :=
  10000 * (t.secondOfDay / 3600) + 100 * (t.secondOfDay / 60 % 60) + t.secondOfDay % 60

theorem isValid_date (t : Instant) : t.date.isValid = true :=
  Date.isValid_ofDays _

theorem number_date_bounds {t : Instant} (h : t.InFourDigits) :
    0 ≤ t.date.number ∧ t.date.number < 100000000 := by
  have hbounds := Date.bounds_of_isValid t.isValid_date
  obtain ⟨hlow, hhigh⟩ := h
  unfold Date.number
  omega

theorem secondOfDay_lt (t : Instant) : t.secondOfDay < 86400 := by
  unfold secondOfDay
  omega

theorem timeNumber_lt (t : Instant) : t.timeNumber < 1000000 := by
  have := t.secondOfDay_lt
  unfold timeNumber
  omega

theorem yearDigits_of_le {year : Int} (hlow : 0 ≤ year) (hhigh : year ≤ 9999) :
    Timestamp.yearDigits year = Timestamp.fixedDigits 4 year.toNat := by
  have habs : year.natAbs = year.toNat := by omega
  have hsmall : year.toNat ≤ 9999 := by omega
  unfold Timestamp.yearDigits
  rw [habs]
  simp only [if_pos hsmall, if_neg (Int.not_lt.mpr hlow), if_neg (Int.not_lt.mpr hhigh)]

/-- A timestamp is made of two numbers of fixed length. -/
theorem toList_timestamp {t : Instant} (h : t.InFourDigits) :
    t.timestamp.toList =
      Timestamp.fixedDigits 8 t.date.number.toNat ++
        'T' :: (Timestamp.fixedDigits 6 t.timeNumber ++ ['Z']) := by
  obtain ⟨hmonth, hmonth', hday, hday'⟩ := Date.bounds_of_isValid t.isValid_date
  have hdate : Timestamp.yearDigits t.date.year ++ Timestamp.fixedDigits 2 t.date.month ++
      Timestamp.fixedDigits 2 t.date.day = Timestamp.fixedDigits 8 t.date.number.toNat := by
    rw [yearDigits_of_le h.1 h.2, Timestamp.fixedDigits_append (by omega),
      Timestamp.fixedDigits_append (by omega)]
    congr 1
    obtain ⟨hlow, hhigh⟩ := h
    unfold Date.number
    omega
  have htime : Timestamp.fixedDigits 2 (t.secondOfDay / 3600) ++
      Timestamp.fixedDigits 2 (t.secondOfDay / 60 % 60) ++
      Timestamp.fixedDigits 2 (t.secondOfDay % 60) = Timestamp.fixedDigits 6 t.timeNumber := by
    rw [Timestamp.fixedDigits_append (by omega), Timestamp.fixedDigits_append (by omega)]
    congr 1
    unfold timeNumber
    omega
  unfold timestamp
  rw [String.toList_ofList, hdate, htime]

/-! ## What the signer reads -/

/-- The date in front of the timestamp, eight digits. -/
def dateText (t : Instant) : String :=
  String.ofList (Timestamp.fixedDigits 8 t.date.number.toNat)

theorem isDated_timestamp {t : Instant} (h : t.InFourDigits) :
    Signing.IsDated t.timestamp t.dateText := by
  refine ⟨String.ofList (Timestamp.fixedDigits 6 t.timeNumber), String.toList_inj.mp ?_, ?_, ?_, ?_⟩
  · rw [toList_timestamp h]
    simp [dateText]
  · rw [dateText, String.length_ofList, Timestamp.length_fixedDigits]
  · rw [String.length_ofList, Timestamp.length_fixedDigits]
  · intro c hc
    rw [dateText, String.toList_ofList, String.toList_ofList, List.mem_append] at hc
    exact hc.elim Timestamp.digits_of_mem_fixedDigits Timestamp.digits_of_mem_fixedDigits

theorem digitsValue_dateText {t : Instant} (h : t.InFourDigits) :
    (Text.digitsValue t.dateText.toList : Int) = t.date.number := by
  have hbounds := number_date_bounds h
  rw [dateText, String.toList_ofList, Timestamp.digitsValue_fixedDigits (by omega)]
  omega

/-- Outside the years of four digits a timestamp starts with a sign. -/
theorem toList_timestamp_of_sign {t : Instant} (h : ¬ t.InFourDigits) :
    ∃ c rest, t.timestamp.toList = c :: rest ∧ (c = '-' ∨ c = '+') := by
  unfold timestamp Timestamp.yearDigits
  rw [String.toList_ofList]
  by_cases hlow : t.date.year < 0
  · simp only [if_pos hlow]
    exact ⟨'-', _, rfl, .inl rfl⟩
  · have hhigh : 9999 < t.date.year := Int.not_le.mp fun hhigh => h ⟨Int.not_lt.mp hlow, hhigh⟩
    simp only [if_neg hlow, if_pos hhigh]
    exact ⟨'+', _, rfl, .inr rfl⟩

theorem not_isDated_timestamp {t : Instant} (h : ¬ t.InFourDigits) (date : String) :
    ¬ Signing.IsDated t.timestamp date := by
  rintro ⟨time, htimestamp, hlength, -, hdigits⟩
  obtain ⟨c, rest, hsign, hc⟩ := toList_timestamp_of_sign h
  rw [htimestamp, String.append_assoc, String.append_assoc, String.toList_append] at hsign
  rw [← String.length_toList] at hlength
  -- the first sign of the timestamp is a digit of the date
  cases hdate : date.toList with
  | nil =>
    rw [hdate] at hlength
    cases hlength
  | cons first others =>
    rw [hdate] at hsign hdigits
    obtain ⟨rfl, -⟩ := List.cons.inj hsign
    have hfirst := hdigits first List.mem_cons_self
    rcases hc with rfl | rfl
    · exact absurd hfirst (by decide)
    · exact absurd hfirst (by decide)

/-! ## Order -/

theorem timeNumber_lt_timeNumber {t t' : Instant} (h : t.secondOfDay < t'.secondOfDay) :
    t.timeNumber < t'.timeNumber := by
  have hhours (n : Nat) : n / 3600 = n / 60 / 60 := (Nat.div_div_eq_div_mul n 60 60).symm
  unfold timeNumber
  rw [hhours, hhours]
  omega

/-- The timestamp of an earlier second comes first. -/
theorem timestamp_lt {t t' : Instant} (h : t.InFourDigits) (h' : t'.InFourDigits)
    (hlt : t.seconds < t'.seconds) : t.timestamp < t'.timestamp := by
  have hbounds := number_date_bounds h
  have hbounds' := number_date_bounds h'
  rw [String.lt_iff, toList_timestamp h, toList_timestamp h']
  by_cases hday : t.seconds / 86400 < t'.seconds / 86400
  · have hnumber : t.date.number < t'.date.number := Date.number_ofDays_lt hday
    exact Timestamp.append_lt_append
      (Timestamp.fixedDigits_lt (by omega) (by omega)) (by simp)
  · have hday : t.seconds / 86400 = t'.seconds / 86400 := by omega
    have htime : t.timeNumber < t'.timeNumber :=
      timeNumber_lt_timeNumber (by unfold secondOfDay; omega)
    have hdate : t.date = t'.date := congrArg Date.ofDays hday
    rw [hdate]
    exact List.append_left_lt (.cons (Timestamp.append_lt_append
      (Timestamp.fixedDigits_lt htime t'.timeNumber_lt) (by simp)))

theorem timestamp_eq_of_seconds_eq {t t' : Instant} (h : t.seconds = t'.seconds) :
    t.timestamp = t'.timestamp := by
  unfold timestamp date secondOfDay
  rw [h]

theorem timestamp_eq_iff {t t' : Instant} (h : t.InFourDigits) (h' : t'.InFourDigits) :
    t.timestamp = t'.timestamp ↔ t.seconds = t'.seconds := by
  refine ⟨fun heq => ?_, timestamp_eq_of_seconds_eq⟩
  rcases Int.lt_trichotomy t.seconds t'.seconds with hlt | hseconds | hlt
  · exact absurd heq (String.ne_of_lt (timestamp_lt h h' hlt))
  · exact hseconds
  · exact absurd heq.symm (String.ne_of_lt (timestamp_lt h' h hlt))

theorem timestamp_le {t t' : Instant} (h : t.InFourDigits) (h' : t'.InFourDigits)
    (hle : t.nanoseconds ≤ t'.nanoseconds) : t.timestamp ≤ t'.timestamp := by
  have hseconds : t.seconds ≤ t'.seconds := by
    unfold seconds
    omega
  rcases Int.lt_or_eq_of_le hseconds with hlt | heq
  · exact String.not_lt.mp (String.lt_asymm (timestamp_lt h h' hlt))
  · exact timestamp_eq_of_seconds_eq heq ▸ String.le_refl _

/-- **Timestamps can be signed, and they are in order.** Every instant falls on one day of the
calendar, which is its date. If the year of the date has four digits, the timestamp has sixteen
characters and the signer takes it, for any keys and any host with a region; the scope starts with
the first eight characters, and these are the digits of the date. Of two such instants the earlier
one has the timestamp that comes first, or the same if both are in the same second. Outside of these
years nothing is signed: but for an empty access key id, the error is that of the timestamp. -/
theorem timestamp_signable :
    (∀ (t : Instant) (d : Date), t.IsOn d ↔ t.date = d) ∧
    (∀ t : Instant, 0 ≤ t.date.year → t.date.year ≤ 9999 →
      ∃ date : String, date.toList = t.timestamp.toList.take 8 ∧ t.timestamp.length = 16 ∧
        Signing.IsDated t.timestamp date ∧
        (Text.digitsValue date.toList : Int) =
          10000 * t.date.year + 100 * t.date.month + t.date.day ∧
        ∀ (i : SigningInput) (region : String), i.timestamp = t.timestamp → i.accessKeyId ≠ "" →
          Region.ofHost i.host = .ok region →
          ∃ a, Authorization.sign i = .ok a ∧
            a.scope = date ++ "/" ++ region ++ "/sts/aws4_request") ∧
    (∀ t t' : Instant, 0 ≤ t.date.year → t.date.year ≤ 9999 → 0 ≤ t'.date.year →
      t'.date.year ≤ 9999 → t.nanoseconds ≤ t'.nanoseconds →
      t.timestamp ≤ t'.timestamp ∧
        (t.timestamp = t'.timestamp ↔
          t.nanoseconds / 1000000000 = t'.nanoseconds / 1000000000)) ∧
    (∀ t : Instant, t.date.year < 0 ∨ 9999 < t.date.year → ∀ i : SigningInput,
      i.timestamp = t.timestamp →
        Authorization.sign i =
          .error (if i.accessKeyId = "" then .emptyAccessKeyId
            else .invalidTimestamp t.timestamp)) := by
  refine ⟨fun _ _ => isOn_iff, fun t hlow hhigh => ?_, fun t t' hlow hhigh hlow' hhigh' hle => ?_,
    fun t hyear i hi => ?_⟩
  · have h : t.InFourDigits := ⟨hlow, hhigh⟩
    have hdated := isDated_timestamp h
    refine ⟨t.dateText, ?_, ?_, hdated, digitsValue_dateText h, ?_⟩
    · rw [toList_timestamp h, List.take_left' (Timestamp.length_fixedDigits 8 _), dateText,
        String.toList_ofList]
    · rw [← String.length_toList, toList_timestamp h]
      simp
    · intro i region hi hid hregion
      have hdate := Signing.dateOf?_eq_some_iff_isDated.mpr hdated
      rw [← hi] at hdate
      refine ⟨_, Authorization.sign_eq_ok_iff.mpr
        ⟨by simpa using hid, t.dateText, region, hdate, hregion, rfl⟩, ?_⟩
      exact Signing.scope_eq _ _
  · have h : t.InFourDigits := ⟨hlow, hhigh⟩
    have h' : t'.InFourDigits := ⟨hlow', hhigh'⟩
    exact ⟨timestamp_le h h' hle, timestamp_eq_iff h h'⟩
  · have h : ¬ t.InFourDigits := by
      unfold InFourDigits
      omega
    have hdate : Signing.dateOf? i.timestamp = none := by
      rw [Signing.dateOf?_eq_none_iff, hi]
      exact not_exists.mpr (not_isDated_timestamp h)
    rw [Authorization.sign_eq_error_iff, ← hi]
    by_cases hid : i.accessKeyId = ""
    · exact .inl ⟨String.isEmpty_iff.mpr hid, if_pos hid⟩
    · exact .inr (.inl ⟨by simpa using hid, hdate, if_neg hid⟩)

example : (Instant.ofMilliseconds (-1)).timestamp = "19691231T235959Z" := by decide +kernel

end Instant

end SaslClient
