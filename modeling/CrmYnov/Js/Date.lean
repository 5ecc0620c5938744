import Mathlib.Algebra.Order.Ring.Int
import Mathlib.Data.List.Basic
import Mathlib.Tactic.SplitIfs

/-!
# The text of a date

`date.toISOString()`, from the number of milliseconds of the date: the proleptic
Gregorian calendar, with a year of four digits from year 0 to year 9999 and of
six digits and a sign outside. Between these years the texts are ordered as the
dates are (`Js.isoString_lt`), which is why the source may sort dates by their
texts.

The year of a day is read off the days before each year, the month off the days
before each month. Both readings grow with the day, and within a year – within a
month – what is left of the day grows with it: this is all the order of the texts
needs.
-/

namespace Js

open List

/-! ### Digits -/

/-- A decimal digit. -/
def digit (n : ℕ) : Char := Char.ofNat (48 + n)

/-- The last digits of a number, padded with zeros on the left. -/
def digits : ℕ → ℕ → List Char
  | 0, _ => []
  | w + 1, n => digits w (n / 10) ++ [digit (n % 10)]

@[simp] theorem length_digits (w n : ℕ) : (digits w n).length = w := by
  induction w generalizing n with
  | zero => rfl
  | succ w ih => simp [digits, ih]

theorem digit_lt {n m : ℕ} (h : n < m) (hm : m < 10) : digit n < digit m := by
  have hall : ∀ m : Fin 10, ∀ n : Fin 10, n < m → digit n < digit m := by decide
  exact hall ⟨m, hm⟩ ⟨n, by omega⟩ h

theorem append_lt_append {a b x y : List Char} (hlen : a.length = b.length) (h : a < b) :
    a ++ x < b ++ y := by
  induction a generalizing b with
  | nil =>
    obtain rfl : b = [] := length_eq_zero_iff.mp hlen.symm
    exact absurd h (List.lt_irrefl [])
  | cons c a ih =>
    cases b with
    | nil => simp at hlen
    | cons d b =>
      rw [cons_lt_cons_iff] at h
      rw [cons_append, cons_append, cons_lt_cons_iff]
      rcases h with hcd | ⟨rfl, hab⟩
      · exact .inl hcd
      · exact .inr ⟨rfl, ih (Nat.succ.inj hlen) hab⟩

theorem digits_lt {w n m : ℕ} (h : n < m) (hm : m < 10 ^ w) : digits w n < digits w m := by
  induction w generalizing n m with
  | zero => rw [pow_zero] at hm; omega
  | succ w ih =>
    rw [pow_succ] at hm
    rcases Nat.lt_or_eq_of_le (Nat.div_le_div_right (c := 10) h.le) with hdiv | hdiv
    · exact append_lt_append (by simp) (ih hdiv (by omega))
    · rw [digits, digits, hdiv]
      refine append_left_lt ?_
      exact cons_lt_cons_iff.mpr (.inl (digit_lt (by omega) (by omega)))

variable {x y : List Char}

/-- **Numbers of one width, then what follows them**: the texts are in order when
the numbers are, and when the numbers agree and what follows is in order. -/
theorem digits_append_lt {w n m : ℕ} (hm : m < 10 ^ w)
    (h : n < m ∨ n = m ∧ x < y) : digits w n ++ x < digits w m ++ y := by
  rcases h with hlt | ⟨rfl, hxy⟩
  · exact append_lt_append (by simp) (digits_lt hlt hm)
  · exact append_left_lt hxy

/-! ### The calendar -/

/-- The days before a year. -/
def yearStart (y : ℤ) : ℤ := 365 * y + (y + 3) / 4 - (y + 99) / 100 + (y + 399) / 400

variable (n : ℤ)

/-- The year of a day. -/
def yearOf : ℤ :=
  let guess := 400 * n / 146097
  if yearStart (guess + 1) ≤ n then guess + 1 else if n < yearStart guess then guess - 1 else guess

theorem yearStart_mono {y z : ℤ} (h : y ≤ z) : yearStart y ≤ yearStart z := by
  simp only [yearStart]
  omega

theorem yearOf_spec : yearStart (yearOf n) ≤ n ∧ n < yearStart (yearOf n + 1) := by
  -- a year has 146097 / 400 days on average: the guess is off by one at most
  have hguess : 146097 * (400 * n / 146097) ≤ 400 * n ∧
      400 * n < 146097 * (400 * n / 146097 + 1) := by omega
  simp only [yearOf]
  generalize 400 * n / 146097 = guess at hguess
  have hbelow : yearStart (guess - 1) ≤ n := by
    simp only [yearStart]
    omega
  have habove : n < yearStart (guess + 1 + 1) := by
    simp only [yearStart]
    omega
  split_ifs with hnext hprevious
  · exact ⟨hnext, habove⟩
  · exact ⟨hbelow, by rwa [Int.sub_add_cancel]⟩
  · exact ⟨not_lt.mp hprevious, not_le.mp hnext⟩

theorem yearOf_mono {n m : ℤ} (h : n ≤ m) : yearOf n ≤ yearOf m := by
  by_contra hlt
  have hstart : yearStart (yearOf m + 1) ≤ yearStart (yearOf n) := yearStart_mono (by omega)
  have hm := (yearOf_spec m).2
  have hn := (yearOf_spec n).1
  omega

variable (leap : Bool)

/-- The days before each month of a year. -/
def monthStarts : List ℕ :=
  let l := if leap then 1 else 0
  [0, 31, 59 + l, 90 + l, 120 + l, 151 + l, 181 + l, 212 + l, 243 + l, 273 + l, 304 + l, 334 + l]

/-- The month of a day of a year, from 1 on. -/
def monthOf (d : ℕ) : ℕ := (monthStarts leap).countP fun s => s ≤ d

/-- The days of the year before a month. -/
def monthStart (m : ℕ) : ℕ := (monthStarts leap).getD (m - 1) 0

theorem monthOf_mono {d e : ℕ} (h : d ≤ e) : monthOf leap d ≤ monthOf leap e := by
  refine countP_mono_left fun s _ hs => ?_
  simp only [decide_eq_true_eq] at hs ⊢
  omega

theorem monthOf_spec {d : ℕ} (h : d < 366) :
    monthOf leap d ≤ 12 ∧ monthStart leap (monthOf leap d) ≤ d ∧
      d < monthStart leap (monthOf leap d) + 32 := by
  have hall : ∀ leap : Bool, ∀ d : Fin 366, monthOf leap d ≤ 12 ∧
      monthStart leap (monthOf leap d) ≤ d ∧ d < monthStart leap (monthOf leap d) + 32 := by
    decide +kernel
  exact hall leap ⟨d, h⟩

/-- The year has a 29 February. -/
def isLeap (y : ℤ) : Bool := yearStart (y + 1) - yearStart y == 366

/-- The day of its year, from 0 on. -/
def dayOfYear : ℕ := (n - yearStart (yearOf n)).toNat

theorem dayOfYear_lt : dayOfYear n < 366 := by
  have h := yearOf_spec n
  simp only [dayOfYear, yearStart] at h ⊢
  omega

/-- The month of a day. -/
def month : ℕ := monthOf (isLeap (yearOf n)) (dayOfYear n)

/-- The day of its month, from 1 on. -/
def dayOfMonth : ℕ := dayOfYear n - monthStart (isLeap (yearOf n)) (month n) + 1

theorem month_lt : month n < 100 := by
  have := (monthOf_spec (isLeap (yearOf n)) (dayOfYear_lt n)).1
  rw [month]
  omega

theorem dayOfMonth_lt : dayOfMonth n < 100 := by
  have := (monthOf_spec (isLeap (yearOf n)) (dayOfYear_lt n)).2.2
  rw [dayOfMonth, month]
  omega

/-- **A later day has a later year, or a later month of the same year, or a later
day of the same month.** -/
theorem day_lt {n m : ℤ} (h : n < m) : yearOf n < yearOf m ∨ yearOf n = yearOf m ∧
    (month n < month m ∨ month n = month m ∧ dayOfMonth n < dayOfMonth m) := by
  rcases Int.lt_or_eq_of_le (yearOf_mono h.le) with hyear | hyear
  · exact .inl hyear
  · refine .inr ⟨hyear, ?_⟩
    have hday : dayOfYear n < dayOfYear m := by
      have hn := (yearOf_spec n).1
      simp only [dayOfYear, ← hyear]
      omega
    have hmonth : month n ≤ month m := by
      rw [month, month, ← hyear]
      exact monthOf_mono _ hday.le
    rcases Nat.lt_or_eq_of_le hmonth with hlt | heq
    · exact .inl hlt
    · refine .inr ⟨heq, ?_⟩
      -- one month: the days before it are the same
      have hstart := (monthOf_spec (isLeap (yearOf n)) (dayOfYear_lt n)).2.1
      rw [dayOfMonth, dayOfMonth, ← heq, ← hyear]
      rw [← month] at hstart
      omega

/-! ### Dates -/

/-- The day of a date, counted from the first day of year 0. -/
def dayNumber (t : ℤ) : ℤ := t / 86400000 + 719528

/-- The milliseconds of a date since its day began. -/
def timeOfDay (t : ℤ) : ℕ := (t % 86400000).toNat

/-- The text of a year. -/
def yearText (y : ℤ) : List Char :=
  if 0 ≤ y ∧ y ≤ 9999 then digits 4 y.toNat
  else (if y < 0 then '-' else '+') :: digits 6 y.natAbs

/-- The text of a time of day. -/
def timeText (ms : ℕ) : List Char :=
  digits 2 (ms / 3600000) ++ ':' :: (digits 2 (ms / 60000 % 60) ++ ':' ::
    (digits 2 (ms / 1000 % 60) ++ '.' :: (digits 3 (ms % 1000) ++ ['Z'])))

/-- The text of a day of a year. -/
def dayText (rest : List Char) : List Char :=
  '-' :: (digits 2 (month n) ++ '-' :: (digits 2 (dayOfMonth n) ++ 'T' :: rest))

/-- `new Date(t).toISOString()` -/
def isoString (t : ℤ) : String :=
  String.ofList (yearText (yearOf (dayNumber t)) ++ dayText (dayNumber t) (timeText (timeOfDay t)))

/-- The date is in one of the years 0 to 9999. -/
def FourDigitYear (t : ℤ) : Prop := 0 ≤ yearOf (dayNumber t) ∧ yearOf (dayNumber t) ≤ 9999

theorem cons_lt_cons {c : Char} (h : x < y) : c :: x < c :: y :=
  cons_lt_cons_iff.mpr (.inr ⟨rfl, h⟩)

theorem timeText_lt {a b : ℕ} (h : a < b) (hb : b < 86400000) : timeText a < timeText b := by
  refine digits_append_lt (by omega) ?_
  by_cases hh : a / 3600000 < b / 3600000
  · exact .inl hh
  refine .inr ⟨by omega, cons_lt_cons (digits_append_lt (by omega) ?_)⟩
  by_cases hm : a / 60000 % 60 < b / 60000 % 60
  · exact .inl hm
  refine .inr ⟨by omega, cons_lt_cons (digits_append_lt (by omega) ?_)⟩
  by_cases hs : a / 1000 % 60 < b / 1000 % 60
  · exact .inl hs
  exact .inr ⟨by omega, cons_lt_cons (digits_append_lt (by omega) (.inl (by omega)))⟩

/-- The texts of a day are in order when the days are, and on one day when what
follows is. -/
theorem dayText_lt {n m : ℤ} (h : month n < month m ∨ month n = month m ∧
      (dayOfMonth n < dayOfMonth m ∨ dayOfMonth n = dayOfMonth m ∧ x < y)) :
    dayText n x < dayText m y := by
  refine cons_lt_cons (digits_append_lt (month_lt m) (h.imp id (And.imp id fun h => ?_)))
  exact cons_lt_cons (digits_append_lt (dayOfMonth_lt m) (h.imp id (And.imp id cons_lt_cons)))

/-- **The texts of dates are ordered as the dates are**, from year 0 to year
9999. -/
theorem isoString_lt {t u : ℤ} (ht : FourDigitYear t) (hu : FourDigitYear u) (h : t < u) :
    isoString t < isoString u := by
  have hyear : ∀ v, FourDigitYear v → yearText (yearOf (dayNumber v)) =
      digits 4 (yearOf (dayNumber v)).toNat := fun v hv => if_pos hv
  rw [isoString, isoString, String.lt_iff, String.toList_ofList, String.toList_ofList, hyear t ht,
    hyear u hu]
  have hwidth : (yearOf (dayNumber u)).toNat < 10 ^ 4 := by
    have := hu.2
    omega
  have hwidth_time : timeOfDay u < 86400000 := by
    rw [timeOfDay]
    omega
  refine digits_append_lt hwidth ?_
  have hday : dayNumber t ≤ dayNumber u := by
    simp only [dayNumber]
    omega
  rcases Int.lt_or_eq_of_le hday with hlt | heq
  · rcases day_lt hlt with hyear | ⟨hyear, hrest⟩
    · have := ht.1
      exact .inl (by omega)
    · exact .inr ⟨by rw [hyear], dayText_lt (hrest.imp id (And.imp id .inl))⟩
  · have htime : timeOfDay t < timeOfDay u := by
      simp only [dayNumber, timeOfDay] at heq ⊢
      omega
    rw [heq]
    exact .inr ⟨rfl, dayText_lt (.inr ⟨rfl, .inr ⟨rfl, timeText_lt htime hwidth_time⟩⟩)⟩

theorem isoString_lt_iff {t u : ℤ} (ht : FourDigitYear t) (hu : FourDigitYear u) :
    isoString t < isoString u ↔ t < u := by
  refine ⟨fun h => ?_, isoString_lt ht hu⟩
  by_contra hle
  rcases Int.lt_or_eq_of_le (Int.not_lt.mp hle) with hlt | rfl
  · exact absurd (String.lt_trans h (isoString_lt hu ht hlt)) (String.lt_irrefl _)
  · exact absurd h (String.lt_irrefl _)

theorem isoString_inj {t u : ℤ} (ht : FourDigitYear t) (hu : FourDigitYear u)
    (h : isoString t = isoString u) : t = u := by
  rcases lt_trichotomy t u with hlt | rfl | hlt
  · exact absurd (h ▸ isoString_lt ht hu hlt) (String.lt_irrefl _)
  · rfl
  · exact absurd (h ▸ isoString_lt hu ht hlt) (String.lt_irrefl _)

theorem FourDigitYear.between {t u v : ℤ} (ht : FourDigitYear t) (hu : FourDigitYear u)
    (htv : t ≤ v) (hvu : v ≤ u) : FourDigitYear v := by
  have hlo : dayNumber t ≤ dayNumber v := by simp only [dayNumber]; omega
  have hhi : dayNumber v ≤ dayNumber u := by simp only [dayNumber]; omega
  exact ⟨ht.1.trans (yearOf_mono hlo), (yearOf_mono hhi).trans hu.2⟩

example : isoString 951782400000 = "2000-02-29T00:00:00.000Z" := by decide +kernel

end Js
