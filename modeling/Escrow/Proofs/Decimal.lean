import Escrow.Ledger.Custody
import Escrow.Proofs.Text

/-!
# Amounts in whole units

An exchange counts in whole units and writes them as decimal texts without an exponent.  Shifting the
point, dropping final zeros and writing the digits out lose nothing of an amount: the text is read as
a number of exactly as many base units.
-/

namespace Escrow
namespace Text

variable {chars : List Char}

/-! ## The value of digits -/

private theorem digitsValue_append (front back : List Char) :
    digitsValue (front ++ back) = digitsValue front * 10 ^ back.length + digitsValue back := by
  change Nat.ofDigitChars 10 (front ++ back) 0 = Nat.ofDigitChars 10 front 0 * _ +
    Nat.ofDigitChars 10 back 0
  rw [Nat.ofDigitChars_append, Nat.ofDigitChars_eq_ofDigitChars_zero, Nat.mul_comm]

@[simp]
theorem digitsValue_zeros (count : Nat) : digitsValue (List.replicate count '0') = 0 := by
  change Nat.ofDigitChars 10 (List.replicate count '0') 0 = 0
  rw [Nat.ofDigitChars_replicate_zero, Nat.mul_zero]

/-- Zeros in front of digits do not count. -/
theorem digitsValue_zeros_append (count : Nat) (chars : List Char) :
    digitsValue (List.replicate count '0' ++ chars) = digitsValue chars := by
  rw [digitsValue_append, digitsValue_zeros, Nat.zero_mul, Nat.zero_add]

private theorem digitsValue_dropWhile (chars : List Char) :
    digitsValue (chars.dropWhile (· == '0')) = digitsValue chars := by
  induction chars with
  | nil => rfl
  | cons c rest ih =>
      by_cases zero : c = '0'
      · rw [zero, List.dropWhile_cons_of_pos (by rfl), ih]
        exact (digitsValue_zeros_append 1 rest).symm
      · rw [List.dropWhile_cons_of_neg (by simpa using zero)]

private theorem digitsValue_concat (front : List Char) (c : Char) :
    digitsValue (front ++ [c]) = 10 * digitsValue front + (c.toNat - '0'.toNat) := by
  rw [digitsValue, List.foldl_append]
  rfl

/-- The last of some digits is a zero exactly if their value is a multiple of ten. -/
theorem getLast?_eq_zero_iff (digits : AreDigits chars) (some_digits : chars ≠ []) :
    chars.getLast? = some '0' ↔ digitsValue chars % 10 = 0 := by
  obtain empty | ⟨front, c, rfl⟩ := chars.eq_nil_or_concat'
  · exact absurd empty some_digits
  · obtain ⟨least, greatest⟩ := toNat_of_isDigit (digits c (by simp))
    have zero : '0'.toNat = 48 := rfl
    rw [List.getLast?_concat, digitsValue_concat, Option.some_inj]
    constructor
    · rintro rfl
      omega
    · intro multiple
      rw [← Char.toNat_inj]
      omega

/-! ## Digits with a point -/

theorem toLower_of_isDigit {c : Char} (digit : c.isDigit = true) : c.toLower = c := by
  obtain ⟨least, greatest⟩ := toNat_of_isDigit digit
  have low : ¬(c.val ≥ 'A'.val ∧ c.val ≤ 'Z'.val) := by
    intro upper
    have above : 65 ≤ c.toNat := upper.1
    omega
  simp only [Char.toLower]
  split
  · rename_i upper
    exact absurd upper low
  · rfl

private theorem isBlank_of_isDigit {c : Char} (digit : c.isDigit = true) : isBlank c = false := by
  obtain ⟨least, greatest⟩ := toNat_of_isDigit digit
  simp only [isBlank, Bool.or_eq_false_iff, Bool.and_eq_false_iff, decide_eq_false_iff_not,
    beq_eq_false_iff_ne]
  omega

/-- Digits, with a point in front of the last of them if these are some. -/
def withPoint (whole fraction : List Char) : List Char :=
  whole ++ if fraction = [] then [] else '.' :: fraction

/-- What is written with a point has a digit in front of it, and no zero at the end. -/
structure IsNumeral (whole fraction : List Char) : Prop where
  some_digits : whole ≠ []
  whole_digits : AreDigits whole
  fraction_digits : AreDigits fraction
  last_digit : fraction.getLast? ≠ some '0'

private theorem areDigits_zeros {count : Nat} : AreDigits (List.replicate count '0') := by
  intro c member
  rw [List.eq_of_mem_replicate member]
  rfl

theorem AreDigits.append {front back : List Char} (first : AreDigits front)
    (last : AreDigits back) : AreDigits (front ++ back) := by
  intro c member
  rcases List.mem_append.mp member with early | late
  · exact first c early
  · exact last c late

section

variable {whole fraction : List Char}

private theorem mem_withPoint {c : Char} (member : c ∈ withPoint whole fraction) :
    c ∈ whole ∨ c = '.' ∨ c ∈ fraction := by
  unfold withPoint at member
  split at member <;> simp at member <;> tauto

private theorem asciiDigits_withPoint (first : AreDigits whole) (last : AreDigits fraction) :
    asciiDigits (withPoint whole fraction) = withPoint whole fraction := by
  have point : asciiDigits ['.'] = ['.'] := by decide +kernel
  have split (front back : List Char) :
      asciiDigits (front ++ back) = asciiDigits front ++ asciiDigits back := List.map_append
  unfold withPoint
  split
  · rw [List.append_nil, asciiDigits_of_digits first]
  · change asciiDigits (whole ++ (['.'] ++ fraction)) = whole ++ (['.'] ++ fraction)
    rw [split, split, asciiDigits_of_digits first, asciiDigits_of_digits last, point]

private theorem takeDecimal_withPoint (some_digits : whole ≠ []) (first : AreDigits whole)
    (last : AreDigits fraction) :
    takeDecimal (withPoint whole fraction) = some (whole ++ fraction, fraction.length, []) := by
  have all : fraction.takeWhile Char.isDigit = fraction := List.takeWhile_eq_self_iff.mpr last
  have none : fraction.dropWhile Char.isDigit = [] := List.dropWhile_eq_nil_iff.mpr last
  unfold takeDecimal withPoint
  rw [List.takeWhile_append_of_pos first, List.dropWhile_append_of_pos first]
  by_cases empty : fraction = []
  · simp [empty, some_digits]
  · have point : Char.isDigit '.' = false := rfl
    simp [empty, point, some_digits, all, none]

end

end Text

namespace Decimal

open Text

private theorem ofDigits?_eq {digits : List Char} {exponent : Int}
    (above : leastReadExponent ≤ exponent)
    (below : exponent + digits.length ≤ greatestReadExponent) :
    ofDigits? false digits exponent = some (.finite false (digitsValue digits) exponent) := by
  have shorter : (digits.dropWhile (· == '0')).length ≤ digits.length :=
    (List.dropWhile_sublist _).length_le
  unfold ofDigits?
  dsimp only
  rw [digitsValue_dropWhile, if_neg]
  simp only [Bool.or_eq_true, decide_eq_true_eq, not_or, not_lt]
  omega

private theorem ne_of_isDigit {c other : Char} (digit : c.isDigit = true)
    (apart : other.isDigit = false) : c ≠ other := by
  rintro rfl
  rw [digit] at apart
  cases apart

/-- A text that begins with a digit is no word. -/
theorem ofText?_of_digit {c : Char} {rest : List Char} (digit : c.isDigit = true)
    (trimmed : trim isBlank (c :: rest) = c :: rest) (ascii : asciiDigits (c :: rest) = c :: rest)
    (filtered : (c :: rest).filter (· != '_') = c :: rest) :
    ofText? (String.ofList (c :: rest)) =
      (takeDecimal (c :: rest)).bind fun (digits, behind, rest) =>
        (exponent? rest).bind fun exponent => ofDigits? false digits (exponent - behind) := by
  have unsigned : takeSign (c :: rest) = (false, c :: rest) := by
    unfold takeSign
    split
    · rename_i minus
      exact absurd (List.cons.inj minus).1 (ne_of_isDigit digit rfl)
    · rename_i plus
      exact absurd (List.cons.inj plus).1 (ne_of_isDigit digit rfl)
    · rfl
  have i : c ≠ 'i' := ne_of_isDigit digit rfl
  have n : c ≠ 'n' := ne_of_isDigit digit rfl
  have s : c ≠ 's' := ne_of_isDigit digit rfl
  unfold ofText?
  rw [String.toList_ofList, trimmed, ascii]
  dsimp only
  rw [filtered, unsigned]
  simp [toLower_of_isDigit digit, i, n, s]

/-- Digits with a point among them are read as the number that they write. -/
theorem ofText?_withPoint {whole fraction : List Char} (some_digits : whole ≠ [])
    (first : AreDigits whole) (last : AreDigits fraction)
    (short : whole.length + fraction.length ≤ 10 ^ 17) :
    ofText? (String.ofList (withPoint whole fraction)) =
      some (.finite false (digitsValue (whole ++ fraction)) (-(fraction.length : Int))) := by
  have digits_or_point : ∀ c ∈ withPoint whole fraction, c.isDigit = true ∨ c = '.' := by
    intro c member
    rcases mem_withPoint member with early | rfl | late
    · exact .inl (first c early)
    · exact .inr rfl
    · exact .inl (last c late)
  have trimmed : trim isBlank (withPoint whole fraction) = withPoint whole fraction := by
    apply trim_eq_self
    intro c member
    rcases digits_or_point c member with digit | rfl
    · exact isBlank_of_isDigit digit
    · rfl
  have filtered : (withPoint whole fraction).filter (· != '_') = withPoint whole fraction := by
    apply List.filter_eq_self.mpr
    intro c member
    rcases digits_or_point c member with digit | rfl
    · simpa using ne_of_isDigit digit rfl
    · rfl
  have ascii := asciiDigits_withPoint first last
  have taken := takeDecimal_withPoint some_digits first last
  obtain ⟨c, others, rfl⟩ := List.exists_cons_of_ne_nil some_digits
  have digit : c.isDigit = true := first c List.mem_cons_self
  have begins : withPoint (c :: others) fraction = c :: withPoint others fraction := rfl
  rw [begins] at trimmed filtered ascii taken ⊢
  rw [ofText?_of_digit digit trimmed ascii filtered, taken]
  change ofDigits? false (c :: others ++ fraction) (0 - (fraction.length : Int)) = _
  rw [Int.zero_sub]
  apply ofDigits?_eq
  · unfold leastReadExponent
    omega
  · rw [List.length_append]
    unfold greatestReadExponent
    omega

/-! ## Numbers as texts -/

/-- The rational number that a decimal number stands for. -/
def toRat? : Decimal → Option ℚ
  | .finite negative coefficient exponent =>
    some ((if negative then -1 else 1) * coefficient * 10 ^ exponent)
  | _ => none

theorem toRat?_finite (coefficient : Nat) (exponent : Int) :
    toRat? (.finite false coefficient exponent) = some (coefficient * 10 ^ exponent : ℚ) := by
  simp [toRat?]

/-- A number without an exponent is written with these digits around the point. -/
structure Shows (coefficient : Nat) (exponent : Int) (whole fraction : List Char) : Prop where
  text_eq : positionalText (.finite false coefficient exponent) =
    String.ofList (withPoint whole fraction)
  some_digits : whole ≠ []
  whole_digits : AreDigits whole
  fraction_digits : AreDigits fraction
  value_eq : (digitsValue (whole ++ fraction) * 10 ^ (-(fraction.length : Int)) : ℚ) =
    coefficient * 10 ^ exponent
  last_zero : fraction.getLast? = some '0' → exponent < 0 ∧ coefficient % 10 = 0
  length_le : whole.length + fraction.length ≤
    (Nat.toDigits 10 coefficient).length + exponent.natAbs + 1

private theorem signText_append (text : String) : Double.signText false ++ text = text := by
  simp [Double.signText]

private theorem shows_zero (zeros : Nat) : Shows 0 zeros ['0'] [] := by
  refine ⟨?_, by simp, by simp [AreDigits], by simp [AreDigits], by simp [digitsValue], by simp,
    by simp⟩
  simp [positionalText, signText_append, withPoint]

private theorem shows_whole {coefficient : Nat} (nonzero : coefficient ≠ 0) (zeros : Nat) :
    Shows coefficient zeros (Nat.toDigits 10 coefficient ++ List.replicate zeros '0') [] := by
  refine ⟨?_, by simp [Nat.toDigits_ne_nil], ?_, by simp [AreDigits], ?_, by simp, by simp⟩
  · simp [positionalText, signText_append, withPoint, nonzero]
  · exact (areDigits_toDigits coefficient).append areDigits_zeros
  · rw [List.append_nil, digitsValue_append, digitsValue_zeros, digitsValue_toDigits]
    simp

/-- The digits of a number with at least one of them in front of the last `places`. -/
def padded (coefficient places : Nat) : List Char :=
  List.replicate (places + 1 - (Nat.toDigits 10 coefficient).length) '0' ++
    Nat.toDigits 10 coefficient

private theorem areDigits_padded (coefficient places : Nat) : AreDigits
    (padded coefficient places) :=
  areDigits_zeros.append (areDigits_toDigits coefficient)

private theorem digitsValue_padded (coefficient places : Nat) :
    digitsValue (padded coefficient places) = coefficient := by
  rw [padded, digitsValue_zeros_append, digitsValue_toDigits]

private theorem length_padded (coefficient places : Nat) :
    (padded coefficient places).length =
      max (places + 1) (Nat.toDigits 10 coefficient).length := by
  rw [padded, List.length_append, List.length_replicate]
  omega

private theorem shows_broken (coefficient : Nat) {places : Nat} (positive : 0 < places) :
    Shows coefficient (-(places : Int))
      ((padded coefficient places).take ((padded coefficient places).length - places))
      ((padded coefficient places).drop ((padded coefficient places).length - places)) := by
  have length_eq := length_padded coefficient places
  have fraction_length : ((padded coefficient places).drop
      ((padded coefficient places).length - places)).length = places := by
    rw [List.length_drop]
    omega
  refine ⟨?_, ?_, ?_, ?_, ?_, ?_, ?_⟩
  · have below : ¬(0 : Int) ≤ -(places : Int) := by omega
    have fraction_ne : (padded coefficient places).drop
        ((padded coefficient places).length - places) ≠ [] := by
      intro empty
      rw [empty] at fraction_length
      exact positive.ne fraction_length
    unfold positionalText
    dsimp only
    rw [if_neg below, signText_append, Int.neg_neg, Int.toNat_natCast, withPoint,
      if_neg fraction_ne, pointed, if_neg positive.ne']
    rfl
  · intro empty
    have none := congrArg List.length empty
    rw [List.length_take, List.length_nil] at none
    omega
  · exact fun c member => areDigits_padded coefficient places c (List.mem_of_mem_take member)
  · exact fun c member => areDigits_padded coefficient places c (List.mem_of_mem_drop member)
  · rw [List.take_append_drop, digitsValue_padded, fraction_length]
  · intro last
    have some_digits : padded coefficient places ≠ [] := List.ne_nil_of_length_pos (by omega)
    rw [List.getLast?_drop, if_neg (by omega),
      getLast?_eq_zero_iff (areDigits_padded coefficient places) some_digits,
      digitsValue_padded] at last
    exact ⟨by omega, last⟩
  · rw [List.length_take, fraction_length]
    omega

private theorem exists_shows (coefficient : Nat) (exponent : Int) :
    ∃ whole fraction, Shows coefficient exponent whole fraction := by
  by_cases broken : exponent < 0
  · obtain ⟨places, positive, rfl⟩ : ∃ places : Nat, 0 < places ∧ exponent = -(places : Int) :=
      ⟨exponent.natAbs, by omega, by omega⟩
    exact ⟨_, _, shows_broken coefficient positive⟩
  · obtain ⟨zeros, rfl⟩ := Int.eq_ofNat_of_zero_le (not_lt.mp broken)
    by_cases nothing : coefficient = 0
    · exact ⟨_, _, nothing ▸ shows_zero zeros⟩
    · exact ⟨_, _, shows_whole nothing zeros⟩

/-! ## Shifted points and dropped zeros -/

private theorem length_toDigits_le {coefficient : Nat} (small : coefficient < 10 ^ precision) :
    (Nat.toDigits 10 coefficient).length ≤ precision :=
  (Nat.length_toDigits_le_iff (by omega) (by decide)).mpr small

/-- A coefficient that is not too long is computed as it is. -/
theorem computed_of_small {coefficient : Nat} {exponent : Int}
    (small : coefficient < 10 ^ precision) (fine : finestExponent ≤ exponent)
    (least : exponent ≤ 0) :
    computed false coefficient exponent = .ok (.finite false coefficient exponent) := by
  have digits := length_toDigits_le small
  have greatest : (0 : Int) ≤ greatestExponent := by decide
  unfold computed
  split
  · rename_i nothing
    rw [nothing, min_eq_left (least.trans greatest), max_eq_right fine]
  · have kept : raised coefficient exponent = (coefficient, exponent) := by
      unfold raised
      rw [if_neg (not_lt.mpr fine)]
    have whole : shortened coefficient exponent = (coefficient, exponent) := by
      unfold shortened Double.digitCount
      rw [Nat.sub_eq_zero_of_le digits]
      rfl
    have within : ¬greatestExponent < exponent + Double.digitCount coefficient - 1 := by
      unfold greatestExponent Double.digitCount
      unfold precision at digits
      omega
    rw [kept]
    dsimp only
    rw [whole]
    dsimp only
    rw [if_neg within]

/-- The final zeros of digits are zeros behind the other digits, which do not end in one. -/
theorem exists_front (digits : List Char) :
    ∃ front, digits = front ++ List.replicate (finalZeros digits) '0' ∧
      front.getLast? ≠ some '0' := by
  have zeros : digits.reverse.takeWhile (· == '0') =
      List.replicate (finalZeros digits) '0' := by
    rw [List.eq_replicate_iff]
    exact ⟨rfl, fun c member => by simpa using List.mem_takeWhile_imp member⟩
  have parts := @List.takeWhile_append_dropWhile _ (· == '0') digits.reverse
  refine ⟨(digits.reverse.dropWhile (· == '0')).reverse, ?_, ?_⟩
  · have turned := congrArg List.reverse parts
    rw [List.reverse_append, List.reverse_reverse, zeros, List.reverse_replicate] at turned
    exact turned.symm
  · intro last
    have stops := List.head?_dropWhile_not (· == '0') digits.reverse
    rw [List.getLast?_reverse] at last
    rw [last] at stops
    simp at stops

/-- The coefficient does not end in a zero; zero itself has the exponent zero. -/
def IsReduced (coefficient : Nat) (exponent : Int) : Prop :=
  coefficient % 10 = 0 → coefficient = 0 ∧ exponent = 0

/-- Without its final zeros a number stands for the same. -/
theorem exists_stripped (coefficient : Nat) (exponent : Int) :
    ∃ kept raised, stripped (.finite false coefficient exponent) = .finite false kept raised ∧
      (kept * 10 ^ raised : ℚ) = coefficient * 10 ^ exponent ∧ IsReduced kept raised ∧
      kept ≤ coefficient ∧
      raised.natAbs ≤ exponent.natAbs + (Nat.toDigits 10 coefficient).length := by
  by_cases nothing : coefficient = 0
  · exact ⟨0, 0, by simp [stripped, nothing], by simp [nothing], by simp [IsReduced],
      Nat.zero_le _, by simp⟩
  · obtain ⟨front, digits, last⟩ := exists_front (Nat.toDigits 10 coefficient)
    have all_digits := areDigits_toDigits coefficient
    have length_eq := congrArg List.length digits
    rw [List.length_append, List.length_replicate] at length_eq
    generalize finalZeros_eq : finalZeros (Nat.toDigits 10 coefficient) = zeros
      at digits length_eq
    have split : coefficient = digitsValue front * 10 ^ zeros := by
      have value := digitsValue_toDigits coefficient
      rw [digits, digitsValue_append, digitsValue_zeros, List.length_replicate] at value
      omega
    have kept : coefficient / 10 ^ zeros = digitsValue front := by
      rw [split]
      exact Nat.mul_div_cancel _ (by positivity)
    have some_digits : front ≠ [] := by
      rintro rfl
      rw [split] at nothing
      exact nothing (Nat.zero_mul _)
    rw [digits] at all_digits
    have front_digits : AreDigits front :=
      fun c member => all_digits c (List.mem_append_left _ member)
    refine ⟨digitsValue front, exponent + zeros, ?_, ?_, ?_, ?_, by omega⟩
    · unfold stripped
      dsimp only
      rw [if_neg nothing, finalZeros_eq]
      exact congrArg (fun n => Decimal.finite false n (exponent + zeros)) kept
    · rw [zpow_add₀ (by norm_num), zpow_natCast, split]
      push_cast
      ring
    · intro multiple
      exact absurd ((getLast?_eq_zero_iff front_digits some_digits).mpr multiple) last
    · rw [← kept]
      exact Nat.div_le_self _ _

end Decimal

open Text

section

variable {custody : Custody} {asset decimals : Value} {places n : Int}

/-- An amount in whole units is a numeral without an exponent that stands for exactly the
amount. -/
theorem Custody.exists_exchangeAmount (listed : custody.decimalsOf asset = .ok (some decimals))
    (read : placesOf decimals = .ok places) (least : 0 ≤ places) (most : places ≤ 999999)
    (amount : IsAmount n) :
    ∃ whole fraction,
      custody.exchangeAmount (.int n) asset = .ok (String.ofList (withPoint whole fraction)) ∧
      IsNumeral whole fraction ∧ whole.length + fraction.length ≤ 10 ^ 17 ∧
      (digitsValue (whole ++ fraction) * 10 ^ (-(fraction.length : Int)) : ℚ) =
        n * 10 ^ (-places) := by
  obtain ⟨size, rfl⟩ := Int.eq_ofNat_of_zero_le amount.1
  have small : size < 10 ^ Decimal.precision := by
    have bounded := amount.2
    unfold greatestAmount at bounded
    unfold Decimal.precision
    omega
  have shifted : (Decimal.ofInt size).shift (-places) = .ok (.finite false size (-places)) := by
    have near : ¬Decimal.greatestShift < (-places).natAbs := by
      unfold Decimal.greatestShift Decimal.greatestExponent Decimal.precision
      omega
    have fine : Decimal.finestExponent ≤ -places := by
      unfold Decimal.finestExponent Decimal.leastExponent Decimal.precision
      omega
    have computed := Decimal.computed_of_small small fine (by omega)
    have sign : decide ((size : Int) < 0) = false := by simp
    unfold Decimal.shift Decimal.ofInt
    dsimp only
    rw [if_neg near, sign, Int.natAbs_natCast, Int.zero_add, computed]
  obtain ⟨kept, raised, stripped, value_eq, reduced, kept_le, near⟩ :=
    Decimal.exists_stripped size (-places)
  obtain ⟨whole, fraction, shown⟩ := Decimal.exists_shows kept raised
  have last_digit : fraction.getLast? ≠ some '0' := by
    intro last
    obtain ⟨broken, multiple⟩ := shown.last_zero last
    obtain ⟨-, level⟩ := reduced multiple
    omega
  refine ⟨whole, fraction, ?_, ⟨shown.some_digits, shown.whole_digits, shown.fraction_digits,
    last_digit⟩, ?_, ?_⟩
  · simp [exchangeAmount, listed, amountNumber, read, shifted, Decimal.reduced, stripped,
      shown.text_eq, Except.mapError, bind, Except.bind, pure, Except.pure]
  · have short := Decimal.length_toDigits_le small
    have kept_short := Decimal.length_toDigits_le (kept_le.trans_lt small)
    have bounded := shown.length_le
    unfold Decimal.precision at short kept_short
    omega
  · rw [shown.value_eq, value_eq]
    norm_cast

/-- How many base units a decimal text stands for if a whole unit has the given places. -/
def baseUnits? (places : Int) (text : String) : Option ℚ :=
  (Decimal.ofText? text).bind fun number => number.toRat?.map (· * 10 ^ places)

/-- The text of an amount in whole units stands for exactly the amount. -/
theorem Custody.baseUnits?_exchangeAmount {shown : String}
    (listed : custody.decimalsOf asset = .ok (some decimals))
    (read : placesOf decimals = .ok places) (least : 0 ≤ places) (most : places ≤ 999999)
    (amount : IsAmount n) (converted : custody.exchangeAmount (.int n) asset = .ok shown) :
    baseUnits? places shown = some (n : ℚ) := by
  obtain ⟨whole, fraction, converted', numeral, short, value_eq⟩ :=
    exists_exchangeAmount listed read least most amount
  rw [converted] at converted'
  obtain rfl := Except.ok.inj converted'
  have cancelled : (10 : ℚ) ^ (-places) * 10 ^ places = 1 :=
    zpow_neg_mul_zpow_self places (by norm_num)
  rw [baseUnits?, Decimal.ofText?_withPoint numeral.some_digits numeral.whole_digits
    numeral.fraction_digits short, Option.bind_some, Decimal.toRat?_finite, Option.map_some,
    value_eq, mul_assoc, cancelled, mul_one]

end

end Escrow
