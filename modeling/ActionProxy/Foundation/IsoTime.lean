import Mathlib.Data.Nat.Find
import Mathlib.Data.String.Basic
import Mathlib.Tactic.IntervalCases
import Mathlib.Tactic.Ring

/-!
Time values in milliseconds since the epoch and their canonical ISO texts, as
`Date.prototype.toISOString` prints them. Reading a canonical text gives the
time value back, and texts of four-digit years are ordered as their time
values are.

Calendar years are counted from a base year that is a multiple of 400, so that
every date of the supported range has a natural number for its year.
-/

namespace IsoTime

/-! ### The calendar -/

def millisPerDay : Nat := 86400000

/-- The calendar year 0 as a year of the shifted count. -/
def yearZero : Nat := 400000

/-- Days before a year of the shifted count. -/
def daysBeforeYear (year : Nat) : Nat :=
  365 * year + (year + 3) / 4 + (year + 399) / 400 - (year + 99) / 100

/-- Days before 1970-01-01 in the shifted count. -/
def epochDay : Nat := 146816528

def isLeap (year : Nat) : Bool :=
  year % 4 == 0 && (year % 100 != 0 || year % 400 == 0)

/-- Days before a month of a year, months counted from zero. -/
def daysBeforeMonth (leap : Bool) (month : Nat) : Nat :=
  [0, 31, 59, 90, 120, 151, 181, 212, 243, 273, 304, 334].getD month 0 +
    (if leap && decide (2 ≤ month) then 1 else 0)

/-- The last year that starts no later than the day. -/
def yearOf (day : Nat) : Nat :=
  Nat.findGreatest (fun year => daysBeforeYear year ≤ day) (day * 400 / 146097 + 1)

/-- The last month that starts no later than the day of its year. -/
def monthOf (leap : Bool) (day : Nat) : Nat :=
  Nat.findGreatest (fun month => daysBeforeMonth leap month ≤ day) 11

example : daysBeforeYear (yearZero + 1970) = epochDay := by decide

theorem daysBeforeYear_yearOf_le (day : Nat) : daysBeforeYear (yearOf day) ≤ day := by
  have zero : daysBeforeYear 0 ≤ day := by simp [daysBeforeYear]
  exact Nat.findGreatest_spec (P := fun year => daysBeforeYear year ≤ day) (Nat.zero_le _) zero

theorem le_yearOf {year day : Nat} (starts : daysBeforeYear year ≤ day) : year ≤ yearOf day := by
  have bound : year ≤ day * 400 / 146097 + 1 := by
    unfold daysBeforeYear at starts
    omega
  exact Nat.le_findGreatest (P := fun year => daysBeforeYear year ≤ day) bound starts

theorem yearOf_mono {left right : Nat} (order : left ≤ right) : yearOf left ≤ yearOf right :=
  le_yearOf (Nat.le_trans (daysBeforeYear_yearOf_le left) order)

theorem daysBeforeYear_mono {left right : Nat} (order : left ≤ right) :
    daysBeforeYear left ≤ daysBeforeYear right := by
  rcases Nat.eq_or_lt_of_le order with same | below
  · rw [same]
  · unfold daysBeforeYear
    omega

theorem yearOf_lt {year day : Nat} (ends : day < daysBeforeYear year) : yearOf day < year := by
  by_contra later
  have starts := daysBeforeYear_mono (Nat.le_of_not_lt later)
  have reached := daysBeforeYear_yearOf_le day
  omega

theorem daysBeforeMonth_monthOf_le (leap : Bool) (day : Nat) :
    daysBeforeMonth leap (monthOf leap day) ≤ day := by
  have zero : daysBeforeMonth leap 0 ≤ day := by simp [daysBeforeMonth]
  exact Nat.findGreatest_spec (P := fun month => daysBeforeMonth leap month ≤ day)
    (Nat.zero_le _) zero

theorem monthOf_le (leap : Bool) (day : Nat) : monthOf leap day ≤ 11 :=
  Nat.findGreatest_le _

theorem monthOf_mono {leap : Bool} {left right : Nat} (order : left ≤ right) :
    monthOf leap left ≤ monthOf leap right :=
  Nat.le_findGreatest (monthOf_le leap left)
    (Nat.le_trans (daysBeforeMonth_monthOf_le leap left) order)

theorem day_lt_year (day : Nat) : day - daysBeforeYear (yearOf day) < 366 := by
  have ends : day < daysBeforeYear (yearOf day + 1) := by
    by_contra later
    have next := le_yearOf (Nat.le_of_not_lt later)
    omega
  unfold daysBeforeYear at ends ⊢
  omega

theorem day_lt_month (leap : Bool) {day : Nat} (inYear : day < 366) :
    day - daysBeforeMonth leap (monthOf leap day) < 32 := by
  have next : ∀ month, month ≤ 11 → daysBeforeMonth leap month ≤ day →
      month ≤ monthOf leap day := fun month bound starts =>
    Nat.le_findGreatest (P := fun month => daysBeforeMonth leap month ≤ day) bound starts
  have bound := monthOf_le leap day
  generalize monthOf leap day = month at next bound ⊢
  by_contra late
  by_cases last : month = 11
  · subst last
    cases leap <;> simp [daysBeforeMonth] at late <;> omega
  · have step : daysBeforeMonth leap (month + 1) ≤ daysBeforeMonth leap month + 31 := by
      cases leap <;> interval_cases month <;> decide
    have following := next (month + 1) (by omega) (by omega)
    omega

/-! ### Fixed-width decimals -/

/-- The last `width` decimal digits of a number. -/
def pad : Nat → Nat → List Char
  | 0, _ => []
  | width + 1, value => Nat.digitChar (value / 10 ^ width % 10) :: pad width value

@[simp] theorem pad_length (width value : Nat) : (pad width value).length = width := by
  induction width with
  | zero => rfl
  | succ width ih => rw [pad, List.length_cons, ih]

theorem digitChar_lt {left right : Nat} (order : left < right) (digit : right < 10) :
    Nat.digitChar left < Nat.digitChar right := by
  have below : left < 10 := by omega
  interval_cases right <;> interval_cases left <;> decide

theorem pad_lt_pad {width left right : Nat} (leftRest rightRest : List Char)
    (order : left % 10 ^ width < right % 10 ^ width) :
    pad width left ++ leftRest < pad width right ++ rightRest := by
  induction width with
  | zero => simp only [Nat.pow_zero, Nat.mod_one, Nat.lt_irrefl] at order
  | succ width ih =>
      rw [Nat.mod_pow_succ, Nat.mod_pow_succ] at order
      simp only [pad, List.cons_append, List.cons_lt_cons_iff]
      have leftBound := Nat.mod_lt left (Nat.pow_pos (n := width) (show 0 < 10 by omega))
      have rightBound := Nat.mod_lt right (Nat.pow_pos (n := width) (show 0 < 10 by omega))
      rcases Nat.lt_trichotomy (left / 10 ^ width % 10) (right / 10 ^ width % 10) with
        below | same | above
      · exact Or.inl (digitChar_lt below (Nat.mod_lt _ (by omega)))
      · refine Or.inr ⟨by rw [same], ih ?_⟩
        rw [same] at order
        omega
      · exfalso
        have scaled : 10 ^ width * (right / 10 ^ width % 10 + 1) ≤
            10 ^ width * (left / 10 ^ width % 10) :=
          Nat.mul_le_mul_left _ above
        rw [Nat.mul_add, Nat.mul_one] at scaled
        omega

theorem ofDigitChars_pad (width value accumulator : Nat) :
    Nat.ofDigitChars 10 (pad width value) accumulator =
      accumulator * 10 ^ width + value % 10 ^ width := by
  induction width generalizing accumulator with
  | zero => simp [pad, Nat.ofDigitChars, Nat.mod_one]
  | succ width ih =>
      rw [pad, Nat.ofDigitChars_cons_digitChar_of_lt_ten (Nat.mod_lt _ (by omega)), ih,
        Nat.mod_pow_succ]
      ring

theorem ofDigitChars_pad_of_lt {width value : Nat} (fits : value < 10 ^ width) :
    Nat.ofDigitChars 10 (pad width value) 0 = value := by
  rw [ofDigitChars_pad, Nat.zero_mul, Nat.zero_add, Nat.mod_eq_of_lt fits]

/-! ### Texts of time values -/

/-- A time value as days of the shifted count and milliseconds of the day. -/
def dayOf (millis : Int) : Nat := (millis / millisPerDay + epochDay).toNat

def restOf (millis : Int) : Nat := (millis % millisPerDay).toNat

def yearText (year : Nat) : List Char :=
  if yearZero ≤ year ∧ year < yearZero + 10000 then pad 4 (year - yearZero)
  else if year < yearZero then '-' :: pad 6 (yearZero - year)
  else '+' :: pad 6 (year - yearZero)

/-- Month, day and time of day after the year. -/
def dateTail (month day hour minute second milli : Nat) : List Char :=
  '-' :: (pad 2 month ++ '-' :: (pad 2 day ++ 'T' :: (pad 2 hour ++ ':' :: (pad 2 minute ++
    ':' :: (pad 2 second ++ '.' :: (pad 3 milli ++ ['Z']))))))

def isoChars (millis : Int) : List Char :=
  let year := yearOf (dayOf millis)
  let day := dayOf millis - daysBeforeYear year
  let month := monthOf (isLeap year) day
  let rest := restOf millis
  yearText year ++ dateTail (month + 1) (day - daysBeforeMonth (isLeap year) month + 1)
    (rest / 3600000) (rest / 60000 % 60) (rest / 1000 % 60) (rest % 1000)

/-- The largest time value of a date, on either side of the epoch. -/
def maxTime : Int := 8640000000000000

/-- `Date.prototype.toISOString`, which throws outside the range of dates. -/
def toISOString (millis : Int) : Option String :=
  if -maxTime ≤ millis ∧ millis ≤ maxTime then some (String.ofList (isoChars millis)) else none

example : toISOString 1783677600005 = some "2026-07-10T10:00:00.005Z" := by decide

theorem toISOString_ne_empty {millis : Int} {source : String}
    (printed : toISOString millis = some source) : source ≠ "" := by
  unfold toISOString at printed
  split at printed
  · intro empty
    have chars := congrArg String.toList (Option.some.inj printed)
    rw [empty, String.toList_ofList] at chars
    simp [isoChars, dateTail] at chars
  · cases printed

theorem toISOString_isSome {millis : Int} :
    (toISOString millis).isSome = true ↔ -maxTime ≤ millis ∧ millis ≤ maxTime := by
  unfold toISOString
  split <;> simp_all

/-! ### Reading a text back -/

/-- The number in the next places of a text, and the text after one separator. -/
def readField (width : Nat) (source : List Char) : Nat × List Char :=
  (Nat.ofDigitChars 10 (source.take width) 0, source.drop (width + 1))

theorem readField_pad {width value : Nat} (fits : value < 10 ^ width) (separator : Char)
    (rest : List Char) :
    readField width (pad width value ++ separator :: rest) = (value, rest) := by
  have whole : (pad width value ++ separator :: rest).take width = pad width value :=
    List.take_left' (pad_length width value)
  have after : (pad width value ++ separator :: rest).drop (width + 1) = rest := by
    have split : pad width value ++ separator :: rest =
        (pad width value ++ [separator]) ++ rest := by simp
    rw [split]
    exact List.drop_left' (by simp)
  rw [readField, whole, after, ofDigitChars_pad_of_lt fits]

def readYear : List Char → Nat × List Char
  | '-' :: source => let field := readField 6 source; (yearZero - field.1, field.2)
  | '+' :: source => let field := readField 6 source; (yearZero + field.1, field.2)
  | source => let field := readField 4 source; (yearZero + field.1, field.2)

/-- The time value whose canonical text this is, if it is one. -/
def readIso (source : List Char) : Int :=
  let year := readYear source
  let month := readField 2 year.2
  let day := readField 2 month.2
  let hour := readField 2 day.2
  let minute := readField 2 hour.2
  let second := readField 2 minute.2
  let milli := readField 3 second.2
  let days := daysBeforeYear year.1 + daysBeforeMonth (isLeap year.1) (month.1 - 1) + (day.1 - 1)
  ((days : Int) - epochDay) * millisPerDay +
    ((hour.1 * 3600000 + minute.1 * 60000 + second.1 * 1000 + milli.1 : Nat) : Int)

private theorem digitChar_ne_sign {value : Nat} (digit : value < 10) :
    Nat.digitChar value ≠ '-' ∧ Nat.digitChar value ≠ '+' := by
  interval_cases value <;> decide

theorem readYear_yearText {year : Nat} (bound : year < 1000000) (rest : List Char) :
    readYear (yearText year ++ '-' :: rest) = (year, rest) := by
  unfold yearText
  split
  · rename_i plain
    have fits : year - yearZero < 10 ^ 4 := by omega
    have field := readField_pad fits '-' rest
    obtain ⟨notMinus, notPlus⟩ :=
      digitChar_ne_sign (Nat.mod_lt ((year - yearZero) / 10 ^ 3) (show 0 < 10 by omega))
    unfold readYear
    split
    · rename_i minus
      exact absurd (List.cons.inj minus).1 notMinus
    · rename_i plus
      exact absurd (List.cons.inj plus).1 notPlus
    · rw [field]
      simp only [Prod.mk.injEq, and_true]
      omega
  · split
    · rename_i before
      have fits : yearZero - year < 10 ^ 6 := by
        simp only [yearZero]
        omega
      rw [List.cons_append, readYear, readField_pad fits]
      simp only [Prod.mk.injEq, and_true]
      omega
    · have fits : year - yearZero < 10 ^ 6 := by omega
      rw [List.cons_append, readYear, readField_pad fits]
      simp only [Prod.mk.injEq, and_true]
      omega

theorem readIso_dateTail {year month day hour minute second milli : Nat}
    (yearBound : year < 1000000) (monthBound : month < 10 ^ 2) (dayBound : day < 10 ^ 2)
    (hourBound : hour < 10 ^ 2) (minuteBound : minute < 10 ^ 2) (secondBound : second < 10 ^ 2)
    (milliBound : milli < 10 ^ 3) :
    readIso (yearText year ++ dateTail month day hour minute second milli) =
      ((daysBeforeYear year + daysBeforeMonth (isLeap year) (month - 1) + (day - 1) : Nat) -
        epochDay) * millisPerDay +
      ((hour * 3600000 + minute * 60000 + second * 1000 + milli : Nat) : Int) := by
  simp only [readIso, dateTail, readYear_yearText yearBound,
    readField_pad monthBound, readField_pad dayBound, readField_pad hourBound,
    readField_pad minuteBound, readField_pad secondBound, readField_pad milliBound]

theorem dayOf_bounds {millis : Int} (low : -maxTime ≤ millis) (high : millis ≤ maxTime) :
    (dayOf millis : Int) = millis / millisPerDay + epochDay ∧ dayOf millis < 246816530 := by
  simp only [dayOf, maxTime, millisPerDay, epochDay] at *
  omega

theorem restOf_lt (millis : Int) : restOf millis < 86400000 ∧
    (restOf millis : Int) = millis % millisPerDay := by
  simp only [restOf, millisPerDay]
  omega

theorem readIso_isoChars {millis : Int} (low : -maxTime ≤ millis) (high : millis ≤ maxTime) :
    readIso (isoChars millis) = millis := by
  obtain ⟨dayEq, dayBound⟩ := dayOf_bounds low high
  obtain ⟨restBound, restEq⟩ := restOf_lt millis
  have yearStart := daysBeforeYear_yearOf_le (dayOf millis)
  have yearBound : yearOf (dayOf millis) < 1000000 := yearOf_lt (by
    have far : daysBeforeYear 1000000 = 365242500 := by decide
    omega)
  have inYear := day_lt_year (dayOf millis)
  have monthStart := daysBeforeMonth_monthOf_le (isLeap (yearOf (dayOf millis)))
    (dayOf millis - daysBeforeYear (yearOf (dayOf millis)))
  have monthBound := monthOf_le (isLeap (yearOf (dayOf millis)))
    (dayOf millis - daysBeforeYear (yearOf (dayOf millis)))
  have inMonth := day_lt_month (isLeap (yearOf (dayOf millis))) inYear
  rw [isoChars, readIso_dateTail yearBound (by omega) (by omega) (by omega) (by omega) (by omega)
    (by omega), Nat.add_sub_cancel, Nat.add_sub_cancel]
  have days : daysBeforeYear (yearOf (dayOf millis)) +
      daysBeforeMonth (isLeap (yearOf (dayOf millis)))
        (monthOf (isLeap (yearOf (dayOf millis)))
          (dayOf millis - daysBeforeYear (yearOf (dayOf millis)))) +
      (dayOf millis - daysBeforeYear (yearOf (dayOf millis)) -
        daysBeforeMonth (isLeap (yearOf (dayOf millis)))
          (monthOf (isLeap (yearOf (dayOf millis)))
            (dayOf millis - daysBeforeYear (yearOf (dayOf millis))))) = dayOf millis := by
    omega
  have clock : restOf millis / 3600000 * 3600000 + restOf millis / 60000 % 60 * 60000 +
      restOf millis / 1000 % 60 * 1000 + restOf millis % 1000 = restOf millis := by
    omega
  rw [days, clock, restEq, dayEq]
  simp only [millisPerDay]
  omega

/-- `Date.parse`: the canonical text of a date is its time value; any other
text is read by the given reader. -/
def parseDate (other : String → Option Int) (source : String) : Option Int :=
  let millis := readIso source.toList
  if toISOString millis = some source then some millis else other source

theorem parseDate_toISOString {other : String → Option Int} {millis : Int} {source : String}
    (printed : toISOString millis = some source) : parseDate other source = some millis := by
  have range := printed
  unfold toISOString at range
  split at range
  · rename_i bounds
    have text : String.ofList (isoChars millis) = source := Option.some.inj range
    have read : readIso source.toList = millis := by
      rw [← text, String.toList_ofList]
      exact readIso_isoChars bounds.1 bounds.2
    rw [parseDate, read]
    simp only [printed, if_true]
  · cases range

/-! ### The order of texts -/

/-- The first and the last time value whose canonical text has a four-digit year. -/
def minPlain : Int := -62167219200000

def maxPlain : Int := 253402300799999

theorem plain_year {millis : Int} (low : minPlain ≤ millis) (high : millis ≤ maxPlain) :
    yearZero ≤ yearOf (dayOf millis) ∧ yearOf (dayOf millis) < yearZero + 10000 := by
  have first : daysBeforeYear yearZero = 146097000 := by decide
  have last : daysBeforeYear (yearZero + 10000) = 149749425 := by decide
  simp only [minPlain, maxPlain] at low high
  constructor
  · apply le_yearOf
    rw [first]
    simp only [dayOf, millisPerDay, epochDay]
    omega
  · apply yearOf_lt
    rw [last]
    simp only [dayOf, millisPerDay, epochDay]
    omega

theorem late_year {millis : Int} (late : maxPlain < millis) :
    yearZero + 10000 ≤ yearOf (dayOf millis) := by
  have last : daysBeforeYear (yearZero + 10000) = 149749425 := by decide
  simp only [maxPlain] at late
  apply le_yearOf
  rw [last]
  simp only [dayOf, millisPerDay, epochDay]
  omega

private theorem field_lt {width left right : Nat} (separator : Char) (leftFits : left < 10 ^ width)
    (rightFits : right < 10 ^ width) {leftRest rightRest : List Char}
    (order : left < right ∨ (left = right ∧ leftRest < rightRest)) :
    pad width left ++ separator :: leftRest < pad width right ++ separator :: rightRest := by
  rcases order with below | ⟨same, rest⟩
  · apply pad_lt_pad
    rwa [Nat.mod_eq_of_lt leftFits, Nat.mod_eq_of_lt rightFits]
  · rw [same]
    apply List.append_left_lt
    exact List.cons_lt_cons_iff.mpr (Or.inr ⟨rfl, rest⟩)

private theorem clock_lt {left right : Nat} (order : left < right) (bound : right < 86400000) :
    pad 2 (left / 3600000) ++ ':' :: (pad 2 (left / 60000 % 60) ++ ':' ::
        (pad 2 (left / 1000 % 60) ++ '.' :: (pad 3 (left % 1000) ++ ['Z']))) <
      pad 2 (right / 3600000) ++ ':' :: (pad 2 (right / 60000 % 60) ++ ':' ::
        (pad 2 (right / 1000 % 60) ++ '.' :: (pad 3 (right % 1000) ++ ['Z']))) := by
  apply field_lt ':' (by omega) (by omega)
  by_cases hours : left / 3600000 < right / 3600000
  · exact Or.inl hours
  · refine Or.inr ⟨by omega, field_lt ':' (by omega) (by omega) ?_⟩
    by_cases minutes : left / 60000 % 60 < right / 60000 % 60
    · exact Or.inl minutes
    · refine Or.inr ⟨by omega, field_lt '.' (by omega) (by omega) ?_⟩
      by_cases seconds : left / 1000 % 60 < right / 1000 % 60
      · exact Or.inl seconds
      · refine Or.inr ⟨by omega, field_lt 'Z' (by omega) (by omega) (Or.inl (by omega))⟩

private theorem dateTail_lt (leap : Bool) {leftDay rightDay left right : Nat}
    (leftBound : leftDay < 366) (rightBound : rightDay < 366) (bound : right < 86400000)
    (order : leftDay < rightDay ∨ (leftDay = rightDay ∧ left < right)) :
    dateTail (monthOf leap leftDay + 1) (leftDay - daysBeforeMonth leap (monthOf leap leftDay) + 1)
        (left / 3600000) (left / 60000 % 60) (left / 1000 % 60) (left % 1000) <
      dateTail (monthOf leap rightDay + 1)
        (rightDay - daysBeforeMonth leap (monthOf leap rightDay) + 1)
        (right / 3600000) (right / 60000 % 60) (right / 1000 % 60) (right % 1000) := by
  have leftMonth := monthOf_le leap leftDay
  have rightMonth := monthOf_le leap rightDay
  have leftInMonth := day_lt_month leap leftBound
  have rightInMonth := day_lt_month leap rightBound
  have leftStart := daysBeforeMonth_monthOf_le leap leftDay
  have rightStart := daysBeforeMonth_monthOf_le leap rightDay
  have months : monthOf leap leftDay ≤ monthOf leap rightDay := monthOf_mono (by omega)
  simp only [dateTail]
  refine List.cons_lt_cons_iff.mpr (Or.inr ⟨rfl, field_lt '-' (by omega) (by omega) ?_⟩)
  rcases Nat.eq_or_lt_of_le months with sameMonth | earlierMonth
  · rw [sameMonth] at leftStart leftInMonth ⊢
    refine Or.inr ⟨rfl, field_lt 'T' (by omega) (by omega) ?_⟩
    rcases order with earlier | ⟨sameDay, earlier⟩
    · exact Or.inl (by omega)
    · exact Or.inr ⟨by rw [sameDay], clock_lt earlier bound⟩
  · exact Or.inl (by omega)

/-- Canonical texts of four-digit years are ordered as their time values are:
the first field that differs, from the year down, decides both. -/
theorem isoChars_lt {left right : Int} (low : minPlain ≤ left) (order : left < right)
    (high : right ≤ maxPlain) : isoChars left < isoChars right := by
  have leftYear := plain_year low (by omega)
  have rightYear := plain_year (by omega) high
  have leftText : yearText (yearOf (dayOf left)) = pad 4 (yearOf (dayOf left) - yearZero) :=
    if_pos leftYear
  have rightText : yearText (yearOf (dayOf right)) = pad 4 (yearOf (dayOf right) - yearZero) :=
    if_pos rightYear
  have leftRest := restOf_lt left
  have rightRest := restOf_lt right
  have days : dayOf left < dayOf right ∨
      (dayOf left = dayOf right ∧ restOf left < restOf right) := by
    simp only [dayOf, restOf, millisPerDay, epochDay, minPlain] at *
    omega
  have years : yearOf (dayOf left) ≤ yearOf (dayOf right) := by
    rcases days with earlier | ⟨same, _⟩
    · exact yearOf_mono (Nat.le_of_lt earlier)
    · rw [same]
  have leftStart := daysBeforeYear_yearOf_le (dayOf left)
  have rightStart := daysBeforeYear_yearOf_le (dayOf right)
  have leftInYear := day_lt_year (dayOf left)
  have rightInYear := day_lt_year (dayOf right)
  simp only [isoChars, leftText, rightText, dateTail]
  apply field_lt '-' (by omega) (by omega)
  rcases Nat.eq_or_lt_of_le years with sameYear | earlierYear
  · rw [sameYear] at leftStart leftInYear ⊢
    refine Or.inr ⟨rfl, ?_⟩
    have dayOrder : dayOf left - daysBeforeYear (yearOf (dayOf right)) <
          dayOf right - daysBeforeYear (yearOf (dayOf right)) ∨
        (dayOf left - daysBeforeYear (yearOf (dayOf right)) =
          dayOf right - daysBeforeYear (yearOf (dayOf right)) ∧ restOf left < restOf right) := by
      omega
    have tail := dateTail_lt (isLeap (yearOf (dayOf right))) leftInYear rightInYear
      rightRest.1 dayOrder
    simp only [dateTail] at tail
    exact ((List.cons_lt_cons_iff.mp tail).resolve_left (Char.lt_irrefl '-')).2
  · exact Or.inl (by omega)

/-- A text of a later year starts with a plus sign and is below every text of
a four-digit year. -/
theorem isoChars_late_lt {early late : Int} (low : minPlain ≤ early) (high : early ≤ maxPlain)
    (after : maxPlain < late) : isoChars late < isoChars early := by
  have lateYear := late_year after
  have lateText : yearText (yearOf (dayOf late)) =
      '+' :: pad 6 (yearOf (dayOf late) - yearZero) := by
    rw [yearText, if_neg (by omega), if_neg (by omega)]
  have earlyText : yearText (yearOf (dayOf early)) =
      pad 4 (yearOf (dayOf early) - yearZero) := if_pos (plain_year low high)
  simp only [isoChars, lateText, earlyText, pad, List.cons_append]
  refine List.cons_lt_cons_iff.mpr (Or.inl ?_)
  have plus : ∀ value, value < 10 → '+' < Nat.digitChar value := by
    intro value bound
    interval_cases value <;> decide
  exact plus _ (Nat.mod_lt _ (by omega))

theorem isoChars_of_printed {millis : Int} {source : String}
    (printed : toISOString millis = some source) : isoChars millis = source.toList := by
  unfold toISOString at printed
  split at printed
  · rw [← Option.some.inj printed, String.toList_ofList]
  · cases printed

theorem toISOString_lt {left right : Int} {leftText rightText : String}
    (leftPrinted : toISOString left = some leftText)
    (rightPrinted : toISOString right = some rightText) (low : minPlain ≤ left)
    (order : left < right) (high : right ≤ maxPlain) : leftText < rightText := by
  rw [String.lt_iff_toList_lt, ← isoChars_of_printed leftPrinted,
    ← isoChars_of_printed rightPrinted]
  exact isoChars_lt low order high

theorem toISOString_late_lt {early late : Int} {earlyText lateText : String}
    (earlyPrinted : toISOString early = some earlyText)
    (latePrinted : toISOString late = some lateText) (low : minPlain ≤ early)
    (high : early ≤ maxPlain) (after : maxPlain < late) : lateText < earlyText := by
  rw [String.lt_iff_toList_lt, ← isoChars_of_printed earlyPrinted,
    ← isoChars_of_printed latePrinted]
  exact isoChars_late_lt low high after

end IsoTime
