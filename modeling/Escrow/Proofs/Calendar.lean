import Mathlib
import Escrow.Calendar

/-!
# Texts in the order of time

An instant is shown field by field, each one with all its digits, and a fraction of a second only when
there is one.  In universal time the texts are nevertheless in the order of the instants: the sign of
the offset that follows whole seconds comes before the point of a fraction.
-/

namespace Escrow

/-! ## Texts that are ordered as numbers -/

/-- Two rows of characters are ordered as two numbers. -/
structure SortsAs (first second : List Char) (m n : Nat) : Prop where
  lt_iff : first < second ↔ m < n
  gt_iff : second < first ↔ n < m

variable {first second left right : List Char} {m n g h : Nat}

private theorem append_lt_append (aligned : first.length = second.length) (less : first < second)
    (left right : List Char) : first ++ left < second ++ right := by
  induction less with
  | nil => cases aligned
  | cons _ ih => exact .cons (ih (Nat.succ.inj aligned))
  | rel less => exact .rel less

namespace SortsAs

theorem refl (chars : List Char) (n : Nat) : SortsAs chars chars n n where
  lt_iff := iff_of_false (lt_irrefl _) (lt_irrefl _)
  gt_iff := iff_of_false (lt_irrefl _) (lt_irrefl _)

theorem symm (sorts : SortsAs first second m n) : SortsAs second first n m :=
  ⟨sorts.gt_iff, sorts.lt_iff⟩

private theorem of_lt (less : first < second) (below : m < n) : SortsAs first second m n :=
  ⟨iff_of_true less below, iff_of_false less.asymm below.asymm⟩

private theorem eq_of_eq (sorts : SortsAs first second n n) : first = second :=
  le_antisymm (not_lt.mp fun less => (sorts.gt_iff.mp less).ne rfl)
    (not_lt.mp fun less => (sorts.lt_iff.mp less).ne rfl)

private theorem le_iff (sorts : SortsAs first second m n) : first ≤ second ↔ m ≤ n := by
  rw [← not_lt, ← not_lt, sorts.gt_iff]

/-- What stands before both counts for nothing. -/
theorem prepend (sorts : SortsAs first second m n) (chars : List Char) (k : Nat) :
    SortsAs (chars ++ first) (chars ++ second) (k + m) (k + n) := by
  induction chars with
  | nil => exact ⟨sorts.lt_iff.trans (by simp), sorts.gt_iff.trans (by simp)⟩
  | cons c rest ih =>
      exact ⟨List.cons_lt_cons_iff.trans (by simpa using ih.lt_iff),
        List.cons_lt_cons_iff.trans (by simpa using ih.gt_iff)⟩

theorem cons (sorts : SortsAs first second m n) (c : Char) :
    SortsAs (c :: first) (c :: second) m n := by
  simpa using sorts.prepend [c] 0

/-- A field, and behind it what is counted from where the field starts. -/
theorem append {start : Nat → Nat} (rises : Monotone start) (front : SortsAs first second m n)
    (aligned : first.length = second.length) (below : start m + g < start (m + 1))
    (below' : start n + h < start (n + 1)) (back : m = n → SortsAs left right g h) :
    SortsAs (first ++ left) (second ++ right) (start m + g) (start n + h) := by
  rcases lt_trichotomy m n with less | rfl | greater
  · have : start (m + 1) ≤ start n := rises less
    exact of_lt (append_lt_append aligned (front.lt_iff.mpr less) _ _) (by omega)
  · obtain rfl := front.eq_of_eq
    exact (back rfl).prepend first (start m)
  · have : start (n + 1) ≤ start m := rises greater
    exact (of_lt (append_lt_append aligned.symm (front.gt_iff.mpr greater) _ _) (by omega)).symm

end SortsAs

/-! ## Numbers with all their digits -/

/-- The last digit stands at the end. -/
theorem toList_paddedNumber_succ {width : Nat} (positive : 0 < width) (n : Nat) :
    (paddedNumber (width + 1) n).toList =
      (paddedNumber width (n / 10)).toList ++ [Nat.digitChar (n % 10)] := by
  unfold paddedNumber
  simp only [String.toList_ofList]
  rw [Nat.toDigits_eq_if (n := n) (by omega)]
  split
  · rename_i single
    obtain ⟨others, rfl⟩ := Nat.exists_eq_succ_of_ne_zero positive.ne'
    have rest : n / 10 = 0 := Nat.div_eq_of_lt single
    rw [rest, Nat.mod_eq_of_lt single]
    simp [List.replicate_succ']
  · simp

private theorem toList_paddedNumber_one {n : Nat} (single : n < 10) :
    (paddedNumber 1 n).toList = [Nat.digitChar n] := by
  simp [paddedNumber, Nat.toDigits_of_lt_base single]

private theorem length_paddedNumber {width n : Nat} (positive : 0 < width)
    (bounded : n < 10 ^ width) :
    (paddedNumber width n).toList.length = width := by
  have short := (Nat.length_toDigits_le_iff (b := 10) (by omega) positive).mpr bounded
  unfold paddedNumber
  rw [String.toList_ofList, List.length_append, List.length_replicate]
  omega

private theorem sortsAs_digits : ∀ m < 10, ∀ n < 10,
    SortsAs [Nat.digitChar m] [Nat.digitChar n] m n := by
  have compared : ∀ m < 10, ∀ n < 10,
      ([Nat.digitChar m] < [Nat.digitChar n] ↔ m < n) := by
    decide +kernel
  exact fun m small n small' => ⟨compared m small n small', compared n small' m small⟩

/-- Numbers of one width are in order as texts. -/
theorem sortsAs_paddedNumber {width : Nat} (positive : 0 < width) (bounded : m < 10 ^ width)
    (bounded' : n < 10 ^ width) :
    SortsAs (paddedNumber width m).toList (paddedNumber width n).toList m n := by
  induction width, positive using Nat.le_induction generalizing m n with
  | base =>
      rw [toList_paddedNumber_one bounded, toList_paddedNumber_one bounded']
      exact sortsAs_digits m bounded n bounded'
  | succ width positive ih =>
      rw [toList_paddedNumber_succ positive, toList_paddedNumber_succ positive]
      have small : m / 10 < 10 ^ width := by rw [pow_succ] at bounded; omega
      have small' : n / 10 < 10 ^ width := by rw [pow_succ] at bounded'; omega
      have rises : Monotone (10 * ·) := fun _ _ le => Nat.mul_le_mul_left 10 le
      have joined := SortsAs.append rises (ih small small')
        ((length_paddedNumber positive small).trans (length_paddedNumber positive small').symm)
        (g := m % 10) (h := n % 10) (by omega) (by omega)
        fun _ => sortsAs_digits (m % 10) (by omega) (n % 10) (by omega)
      rwa [Nat.div_add_mod, Nat.div_add_mod] at joined

/-- A number with all its digits, and behind it what is counted from where it starts. -/
theorem SortsAs.field {start : Nat → Nat} (rises : Monotone start) {width : Nat}
    (positive : 0 < width) (bounded : m < 10 ^ width) (bounded' : n < 10 ^ width)
    (below : start m + g < start (m + 1)) (below' : start n + h < start (n + 1))
    (back : m = n → SortsAs left right g h) :
    SortsAs ((paddedNumber width m).toList ++ left) ((paddedNumber width n).toList ++ right)
      (start m + g) (start n + h) :=
  append rises (sortsAs_paddedNumber positive bounded bounded')
    ((length_paddedNumber positive bounded).trans (length_paddedNumber positive bounded').symm)
    below below' back

/-- What is counted in a greater unit stands before. -/
theorem SortsAs.behind (back : SortsAs left right g h) (unit : Nat)
    (front : SortsAs first second m n) (aligned : first.length = second.length)
    (below : g < unit) (below' : h < unit) :
    SortsAs (first ++ left) (second ++ right) (m * unit + g) (n * unit + h) := by
  have rises : Monotone (· * unit) := fun _ _ le => Nat.mul_le_mul_right unit le
  refine append rises front aligned ?_ ?_ fun _ => back
  · rw [Nat.add_one_mul]
    omega
  · rw [Nat.add_one_mul]
    omega

/-- A number of a greater unit stands before. -/
theorem SortsAs.counted (back : SortsAs left right g h) (unit : Nat) {width : Nat}
    (positive : 0 < width) (bounded : m < 10 ^ width) (bounded' : n < 10 ^ width)
    (below : g < unit) (below' : h < unit) :
    SortsAs ((paddedNumber width m).toList ++ left) ((paddedNumber width n).toList ++ right)
      (m * unit + g) (n * unit + h) :=
  back.behind unit (sortsAs_paddedNumber positive bounded bounded')
    ((length_paddedNumber positive bounded).trans (length_paddedNumber positive bounded').symm)
    below below'

/-! ## Dates -/

namespace Date

private theorem daysBeforeYear_monotone : Monotone daysBeforeYear := by
  refine monotone_nat_of_le_succ fun year => ?_
  unfold daysBeforeYear
  dsimp only
  omega

private theorem daysBeforeMonth_monotone (year : Nat) : Monotone (daysBeforeMonth year) := by
  refine monotone_nat_of_le_succ fun month => ?_
  cases month with
  | zero => exact le_rfl
  | succ month => exact Nat.le_add_right _ _

/-- A month reaches to the next one. -/
theorem daysBeforeMonth_succ (year : Nat) {month : Nat} (positive : 1 ≤ month) :
    daysBeforeMonth year (month + 1) = daysBeforeMonth year month + daysInMonth year month := by
  obtain ⟨earlier, rfl⟩ := Nat.exists_eq_succ_of_ne_zero (Nat.one_le_iff_ne_zero.mp positive)
  rfl

/-- Twelve months reach to the next year. -/
theorem daysBeforeYear_succ {year : Nat} (positive : 1 ≤ year) :
    daysBeforeYear year + daysBeforeMonth year 13 = daysBeforeYear (year + 1) := by
  have length : daysBeforeMonth year 13 = 365 + if isLeap year then 1 else 0 := by
    simp only [daysBeforeMonth, daysInMonth]
    cases isLeap year <;> decide +kernel
  rw [length]
  obtain ⟨past, rfl⟩ := Nat.exists_eq_add_of_le' positive
  have leap : isLeap (past + 1) = true ↔
      4 ∣ past + 1 ∧ (¬100 ∣ past + 1 ∨ 400 ∣ past + 1) := by
    simp [isLeap, Nat.dvd_iff_mod_eq_zero]
  have fourths : 100 ∣ past + 1 → 4 ∣ past + 1 := Nat.dvd_trans (by decide)
  have centuries : 400 ∣ past + 1 → 100 ∣ past + 1 := Nat.dvd_trans (by decide)
  have fewer : past / 100 ≤ past / 4 := Nat.div_le_div_left (by omega) (by omega)
  unfold daysBeforeYear
  simp only [Nat.add_sub_cancel, Nat.succ_div, leap]
  -- What is left is linear in the three quotients.
  generalize past / 4 = a at *
  generalize past / 100 = b at *
  generalize past / 400 = c at *
  split_ifs <;> omega

private theorem daysInMonth_le (year month : Nat) : daysInMonth year month ≤ 31 := by
  unfold daysInMonth
  split_ifs <;> omega

/-- The fields of a day of the calendar. -/
structure IsValid (date : Date) : Prop where
  year_pos : 1 ≤ date.year
  year_le : date.year ≤ 9999
  month_pos : 1 ≤ date.month
  month_le : date.month ≤ 12
  day_pos : 1 ≤ date.day
  day_le : date.day ≤ daysInMonth date.year date.month

variable {date other : Date}

private theorem isValid_iff : date.isValid = true ↔ date.IsValid := by
  simp only [isValid, Bool.and_eq_true, decide_eq_true_eq]
  constructor
  · rintro ⟨⟨⟨⟨⟨year_pos, year_le⟩, month_pos⟩, month_le⟩, day_pos⟩, day_le⟩
    exact ⟨year_pos, year_le, month_pos, month_le, day_pos, day_le⟩
  · rintro ⟨year_pos, year_le, month_pos, month_le, day_pos, day_le⟩
    exact ⟨⟨⟨⟨⟨year_pos, year_le⟩, month_pos⟩, month_le⟩, day_pos⟩, day_le⟩

/-- A day lies before the end of its month. -/
theorem IsValid.below_month (valid : date.IsValid) :
    daysBeforeMonth date.year date.month + (date.day - 1) <
      daysBeforeMonth date.year (date.month + 1) := by
  have day_pos := valid.day_pos
  have day_le := valid.day_le
  rw [daysBeforeMonth_succ _ valid.month_pos]
  omega

/-- A day lies before the end of its year. -/
theorem IsValid.below_year (valid : date.IsValid) :
    daysBeforeYear date.year + (daysBeforeMonth date.year date.month + (date.day - 1)) <
      daysBeforeYear (date.year + 1) := by
  have below := valid.below_month
  have within : daysBeforeMonth date.year (date.month + 1) ≤ daysBeforeMonth date.year 13 :=
    daysBeforeMonth_monotone _ (Nat.succ_le_succ valid.month_le)
  rw [← daysBeforeYear_succ valid.year_pos]
  omega

private theorem toList_text (date : Date) :
    date.text.toList = (paddedNumber 4 date.year).toList ++ '-' ::
      ((paddedNumber 2 date.month).toList ++ '-' :: ((paddedNumber 2 date.day).toList ++ [])) := by
  simp [text]

private theorem IsValid.length_text (valid : date.IsValid) : date.text.toList.length = 10 := by
  have days := daysInMonth_le date.year date.month
  obtain ⟨-, year_le, -, month_le, -, day_le⟩ := valid
  have year : (paddedNumber 4 date.year).toList.length = 4 :=
    length_paddedNumber (by omega) (by omega)
  have month : (paddedNumber 2 date.month).toList.length = 2 :=
    length_paddedNumber (by omega) (by omega)
  have day : (paddedNumber 2 date.day).toList.length = 2 :=
    length_paddedNumber (by omega) (by omega)
  simp [toList_text, year, month, day]

/-- Dates are in order as texts. -/
theorem IsValid.sortsAs_text (valid : date.IsValid) (valid' : other.IsValid) :
    SortsAs date.text.toList other.text.toList date.number other.number := by
  have days := daysInMonth_le date.year date.month
  have days' := daysInMonth_le other.year other.month
  obtain ⟨-, year_le, -, month_le, day_pos, day_le⟩ := id valid
  obtain ⟨-, year_le', -, month_le', day_pos', day_le'⟩ := id valid'
  have day : SortsAs ((paddedNumber 2 date.day).toList ++ [])
      ((paddedNumber 2 other.day).toList ++ []) (date.day - 1) (other.day - 1) := by
    have rises : Monotone fun day => day - 1 := fun _ _ le => Nat.sub_le_sub_right le 1
    refine SortsAs.field rises ?_ ?_ ?_ ?_ ?_ fun _ => SortsAs.refl [] 0
    all_goals omega
  have month (same : date.year = other.year) : SortsAs
      ((paddedNumber 2 date.month).toList ++ '-' :: ((paddedNumber 2 date.day).toList ++ []))
      ((paddedNumber 2 other.month).toList ++ '-' :: ((paddedNumber 2 other.day).toList ++ []))
      (daysBeforeMonth date.year date.month + (date.day - 1))
      (daysBeforeMonth other.year other.month + (other.day - 1)) := by
    have below' := valid'.below_month
    rw [← same] at below' ⊢
    exact SortsAs.field (daysBeforeMonth_monotone _) (by omega) (by omega) (by omega)
      valid.below_month below' fun _ => day.cons '-'
  rw [toList_text, toList_text, number, number, Nat.add_assoc, Nat.add_assoc]
  exact SortsAs.field daysBeforeYear_monotone (by omega) (by omega) (by omega) valid.below_year
    valid'.below_year fun same => (month same).cons '-'

end Date

/-! ## Instants in universal time -/

namespace Instant

/-- The instant is in the calendar, and its clock shows universal time. -/
structure IsUniversal (t : Instant) : Prop where
  isValid : t.isValid = true
  offset_eq : t.offset = some 0

/-- The fields of an instant in universal time. -/
structure HasFields (t : Instant) : Prop where
  date : t.date.IsValid
  hour : t.hour < 24
  minute : t.minute < 60
  second : t.second < 60
  micro : t.micro < 1000000

variable {t u : Instant}

private theorem IsUniversal.hasFields (universal : t.IsUniversal) : t.HasFields := by
  have valid := universal.isValid
  simp only [Instant.isValid, Bool.and_eq_true, decide_eq_true_eq] at valid
  obtain ⟨⟨⟨⟨⟨date, hour⟩, minute⟩, second⟩, micro⟩, -⟩ := valid
  exact ⟨Date.isValid_iff.mp date, hour, minute, second, micro⟩

/-- The characters behind the whole seconds of an instant in universal time. -/
def ending (micro : Nat) : List Char :=
  (if micro = 0 then [] else '.' :: (paddedNumber 6 micro).toList) ++ ['+', '0', '0', ':', '0', '0']

private theorem ending_zero : ending 0 = ['+', '0', '0', ':', '0', '0'] := rfl

private theorem ending_of_ne_zero {micro : Nat} (some_left : micro ≠ 0) :
    ending micro = '.' :: ((paddedNumber 6 micro).toList ++ ['+', '0', '0', ':', '0', '0']) := by
  rw [ending, if_neg some_left, List.cons_append]

/-- Whole seconds come before fractions, because the sign comes before the point. -/
theorem ending_zero_lt {micro : Nat} (some_left : micro ≠ 0) : ending 0 < ending micro := by
  rw [ending_zero, ending_of_ne_zero some_left]
  exact .rel (by decide)

private theorem sortsAs_ending (small : m < 1000000) (small' : n < 1000000) :
    SortsAs (ending m) (ending n) m n := by
  rcases Nat.eq_zero_or_pos m with rfl | positive <;>
    rcases Nat.eq_zero_or_pos n with rfl | positive'
  · exact .refl _ _
  · exact .of_lt (ending_zero_lt positive'.ne') positive'
  · exact (SortsAs.of_lt (ending_zero_lt positive.ne') positive).symm
  · rw [ending_of_ne_zero positive.ne', ending_of_ne_zero positive'.ne']
    exact (SortsAs.field monotone_id (by omega) (by omega) (by omega) (Nat.lt_succ_self m)
      (Nat.lt_succ_self n) fun _ => SortsAs.refl _ 0).cons '.'

/-- The text of an instant in universal time, field by field. -/
theorem IsUniversal.toList_text (universal : t.IsUniversal) :
    t.text.toList = t.date.text.toList ++ 'T' :: ((paddedNumber 2 t.hour).toList ++ ':' ::
      ((paddedNumber 2 t.minute).toList ++ ':' ::
        ((paddedNumber 2 t.second).toList ++ ending t.micro))) := by
  have offset : offsetText 0 = "+00:00" := by decide +kernel
  unfold text textWith ending
  rw [universal.offset_eq]
  dsimp only
  rw [offset]
  split <;> simp

/-- The tick count of an instant in universal time, field by field. -/
theorem IsUniversal.ticks_eq (universal : t.IsUniversal) :
    t.ticks = (t.date.number * dayLength + (t.hour * 3600000000 + (t.minute * 60000000 +
      (t.second * 1000000 + t.micro))) : Nat) := by
  simp only [ticks, clockTicks, universal.offset_eq, Option.getD_some]
  push_cast
  ring

/-- In universal time the texts are in the order of the instants. -/
theorem IsUniversal.text_le_iff (universal : t.IsUniversal) (universal' : u.IsUniversal) :
    t.text ≤ u.text ↔ t.ticks ≤ u.ticks := by
  obtain ⟨date, hour, minute, second, micro⟩ := universal.hasFields
  obtain ⟨date', hour', minute', second', micro'⟩ := universal'.hasFields
  have wide : 0 < 2 := by omega
  have seconds := (sortsAs_ending micro micro').counted (m := t.second) (n := u.second)
    1000000 wide (by omega) (by omega) micro micro'
  have minutes := (seconds.cons ':').counted (m := t.minute) (n := u.minute)
    60000000 wide (by omega) (by omega) (by omega) (by omega)
  have hours := (minutes.cons ':').counted (m := t.hour) (n := u.hour)
    3600000000 wide (by omega) (by omega) (by omega) (by omega)
  have days := (hours.cons 'T').behind dayLength (date.sortsAs_text date')
    (date.length_text.trans date'.length_text.symm)
    (by unfold dayLength; omega) (by unfold dayLength; omega)
  rw [String.le_iff_toList_le, universal.toList_text, universal'.toList_text, universal.ticks_eq,
    universal'.ticks_eq, Int.ofNat_le]
  exact days.le_iff

end Instant
end Escrow
