import Mathlib
import Escrow.Amount
import Escrow.Archive.Row
import Escrow.Engine.Create

/-!
# Texts of the archive

The archive keeps amounts as texts and reads them back.  The text of an amount is a row of decimal
digits: it can be encoded, and it is read as the amount that it was written for.
-/

namespace Escrow
namespace Text

/-- The characters are decimal digits. -/
def AreDigits (chars : List Char) : Prop := ∀ c ∈ chars, c.isDigit = true

theorem areDigits_toDigits (n : Nat) : AreDigits (Nat.toDigits 10 n) := fun _ member =>
  Nat.isDigit_of_mem_toDigits (by omega) (by omega) member

theorem toNat_of_isDigit {c : Char} (digit : c.isDigit = true) : 48 ≤ c.toNat ∧ c.toNat ≤ 57 := by
  simp only [Char.isDigit, Bool.and_eq_true, decide_eq_true_eq, ge_iff_le] at digit
  exact digit

/-! ## Texts that can be encoded -/

/-- A character below the private ones of the halves stands for no half. -/
theorem half?_of_small {c : Char} (small : c.toNat < 0x100000) : half? c = none := by
  have first : c.toNat - halfDistance = 0 := by
    unfold halfDistance
    omega
  simp [half?, first, isHalfCode]

theorem hasHalf_eq_false {text : String} (small : ∀ c ∈ text.toList, c.toNat < 0x100000) :
    hasHalf text = false := by
  unfold hasHalf
  rw [List.any_eq_false]
  intro c member
  simp [half?_of_small (small c member)]

theorem hasHalf_ofList {chars : List Char} (small : ∀ c ∈ chars, c.toNat < 0x100000) :
    hasHalf (String.ofList chars) = false := by
  apply hasHalf_eq_false
  rwa [String.toList_ofList]

theorem hasHalf_append (left right : String) :
    hasHalf (left ++ right) = (hasHalf left || hasHalf right) := by
  simp [hasHalf]

theorem toNat_digitChar_lt {digit : Nat} (proper : digit < 16) :
    (Nat.digitChar digit).toNat < 0x100000 := by
  have ascii : ∀ digit < 16, (Nat.digitChar digit).toNat < 128 := by decide
  exact (ascii digit proper).trans (by omega)

/-- The digits of a number are small characters. -/
theorem toNat_lt_of_mem_toDigits {base n : Nat} (proper : 1 < base) (most : base ≤ 16) {c : Char}
    (member : c ∈ Nat.toDigits base n) : c.toNat < 0x100000 := by
  induction n using Nat.strongRecOn with
  | ind n ih =>
      rw [Nat.toDigits_eq_if proper] at member
      split at member
      · rename_i single
        rw [List.mem_singleton.mp member]
        exact toNat_digitChar_lt (single.trans_le most)
      · rename_i large
        rcases List.mem_append.mp member with front | last
        · exact ih (n / base) (Nat.div_lt_self (by omega) proper) front
        · rw [List.mem_singleton.mp last]
          exact toNat_digitChar_lt ((Nat.mod_lt n (by omega)).trans_le most)

theorem hasHalf_toString (n : Nat) : hasHalf (toString n) = false := by
  rw [Nat.toString_eq_ofList_toDigits]
  exact hasHalf_ofList fun c member => toNat_lt_of_mem_toDigits (by omega) (by omega) member

/-! ## Numerals of digits -/

variable {chars : List Char}

theorem trim_eq_self {blank : Char → Bool} (shown : ∀ c ∈ chars, blank c = false) :
    trim blank chars = chars := by
  have kept {others : List Char} (shown : ∀ c ∈ others, blank c = false) :
      others.dropWhile blank = others := by
    cases others with
    | nil => rfl
    | cons first rest => exact List.dropWhile_cons_of_neg (by simp [shown first])
  unfold trim
  rw [kept shown, kept (by simpa using shown), List.reverse_reverse]

theorem isNumeralBlank_of_isDigit {c : Char} (digit : c.isDigit = true) :
    isNumeralBlank c = false := by
  obtain ⟨least, greatest⟩ := toNat_of_isDigit digit
  simp only [isNumeralBlank, isBlank, Bool.and_eq_false_iff, Bool.or_eq_false_iff,
    decide_eq_false_iff_not, beq_eq_false_iff_ne]
  omega

/-- ASCII digits are their own ASCII digits. -/
theorem asciiDigits_of_digits (digits : AreDigits chars) : asciiDigits chars = chars := by
  unfold asciiDigits
  rw [List.map_congr_left, List.map_id]
  intro c member
  obtain ⟨least, greatest⟩ := toNat_of_isDigit (digits c member)
  have value : digitValue? c = some (c.toNat - 0x30) := by
    have found : (decide (0x30 ≤ c.toNat) && decide (c.toNat < 0x30 + 10)) = true := by
      simp only [Bool.and_eq_true, decide_eq_true_eq]
      omega
    unfold digitValue? digitZeros
    simp only [List.find?_cons, found, Option.map_some]
  have back : '0'.toNat + (c.toNat - 0x30) = c.toNat := by
    change 48 + (c.toNat - 48) = c.toNat
    omega
  simp only [value, back, Char.ofNat_toNat, id]

theorem dropUnderscores_of_digits (digits : AreDigits chars) (afterDigit : Bool) :
    dropUnderscores afterDigit chars = some chars := by
  induction chars generalizing afterDigit with
  | nil => rfl
  | cons c rest ih =>
      have other : c ≠ '_' := by
        rintro rfl
        exact absurd (digits '_' List.mem_cons_self) (by decide)
      rw [dropUnderscores, ih fun d member => digits d (.tail _ member)]
      · rfl
      · exact other

theorem takeSign_of_digits (digits : AreDigits chars) : takeSign chars = (false, chars) := by
  unfold takeSign
  split
  · exact absurd (digits '-' List.mem_cons_self) (by decide)
  · exact absurd (digits '+' List.mem_cons_self) (by decide)
  · rfl

theorem digitsValue_toDigits (n : Nat) : digitsValue (Nat.toDigits 10 n) = n := by
  have read := @Nat.ofDigitChars_ten_toDigits n
  rwa [Nat.ofDigitChars_eq_foldl] at read

/-- The text of a number that is not too long is read as the number. -/
theorem readInt_toString {n : Nat}
    (short : (Nat.toDigits 10 n).length ≤ greatestDigitCount) :
    readInt (toString n) = .ok n := by
  have digits := areDigits_toDigits n
  have plain : plainNumeral (toString n) = some (Nat.toDigits 10 n) := by
    unfold plainNumeral
    rw [Nat.toString_eq_ofList_toDigits, String.toList_ofList,
      trim_eq_self fun c member => isNumeralBlank_of_isDigit (digits c member),
      asciiDigits_of_digits digits, dropUnderscores_of_digits digits]
  have natural : natural? (Nat.toDigits 10 n) = some n := by
    unfold natural?
    rw [digitsValue_toDigits]
    simp [Nat.toDigits_ne_nil, List.all_eq_true.mpr digits]
  unfold readInt
  rw [plain]
  dsimp only
  rw [takeSign_of_digits digits]
  dsimp only
  rw [natural]
  simp [Nat.not_lt.mpr short]

end Text

/-! ## Texts that the engine writes -/

theorem Value.plain_natCast (n : Nat) : (Value.int n).plain = toString n := by
  simp only [Value.plain, Value.quoted]
  rfl

/-- The text of a whole number can be encoded. -/
theorem hasHalf_int (n : Int) : Text.hasHalf (Value.int n).plain = false := by
  cases n with
  | ofNat size =>
      rw [Int.ofNat_eq_natCast, Value.plain_natCast]
      exact Text.hasHalf_toString size
  | negSucc size =>
      have sign : Text.hasHalf "-" = false := by decide +kernel
      change Text.hasHalf ("-" ++ toString (size + 1)) = false
      rw [Text.hasHalf_append, sign, Text.hasHalf_toString]
      rfl

theorem isEmpty_toString (n : Nat) : (toString n).isEmpty = false := by
  rw [Nat.toString_eq_ofList_toDigits]
  simp [Nat.toDigits_ne_nil]

theorem isEmpty_amount {n : Int} (amount : IsAmount n) :
    (Value.int n).plain.isEmpty = false := by
  obtain ⟨size, rfl⟩ := Int.eq_ofNat_of_zero_le amount.1
  rw [Value.plain_natCast, isEmpty_toString]

/-- The text of a number that is not too long is read as the number. -/
theorem readAmount_toString {n : Nat}
    (short : (Nat.toDigits 10 n).length ≤ Text.greatestDigitCount) :
    readAmount (toString n) = .ok n := by
  rw [readAmount, Value.readInt, Value.readNumeral, Text.readInt_toString short]

/-- An amount has few digits. -/
theorem length_toDigits_amount {n : Int} (amount : IsAmount n) :
    (Nat.toDigits 10 n.natAbs).length ≤ Text.greatestDigitCount := by
  have bounded : n.natAbs < 10 ^ 20 := by
    obtain ⟨least, most⟩ := amount
    unfold greatestAmount at most
    omega
  have length : (Nat.toDigits 10 n.natAbs).length ≤ 20 :=
    (Nat.length_toDigits_le_iff (by omega) (by omega)).mpr bounded
  exact length.trans (by decide)

theorem Value.isWritable_amount {n : Int} (amount : IsAmount n) :
    (Value.int n).isWritable = true := by
  rw [isWritable, decide_eq_true_eq]
  exact length_toDigits_amount amount

/-- The text of an amount is read as the amount. -/
theorem readAmount_plain {n : Int} (amount : IsAmount n) :
    readAmount (Value.int n).plain = .ok n := by
  obtain ⟨size, rfl⟩ := Int.eq_ofNat_of_zero_le amount.1
  rw [Value.plain_natCast]
  exact readAmount_toString (length_toDigits_amount amount)

theorem hasHalf_drawnId (n : Nat) : Text.hasHalf (drawnId n) = false := by
  apply Text.hasHalf_ofList
  intro c member
  rcases List.mem_append.mp member with zero | digit
  · rw [List.eq_of_mem_replicate zero]
    decide
  · exact Text.toNat_lt_of_mem_toDigits (by omega) (by omega) digit

theorem hasHalf_nextReference (books : Books) : Text.hasHalf books.nextReference = false := by
  have name : Text.hasHalf "mem-" = false := by decide +kernel
  change Text.hasHalf ("mem-" ++ toString (books.journal.length + 1)) = false
  rw [Text.hasHalf_append, name, Text.hasHalf_toString]
  rfl

end Escrow
