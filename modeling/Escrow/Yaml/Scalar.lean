import Escrow.Text.Base64
import Escrow.Text.Case
import Escrow.Value.Read
import Escrow.Yaml.Tag

/-!
# Scalars

The values that the texts of scalars stand for under the plain tags of the language.  A tag may be
given to any text, so a text need not have the form of its tag.
-/

namespace Escrow.Yaml

/-- A whole number in the decimal system. -/
def decimalOf (chars : List Char) : Except Fault Int :=
  match Text.readInt (String.ofList chars) with
  | .ok n => .ok n
  | .error _ => .error .badValue

/-- A whole number in another base. -/
def basedOf (base : Nat) (chars : List Char) : Except Fault Int :=
  match Text.readIntIn? base chars with
  | some n => .ok n
  | none => .error .badValue

/-- The number of a sign and what follows it.  There must be something; a sign stands for itself and
a plus for nothing. -/
def takeSign : List Char → Except Fault (Bool × List Char)
  | [] => .error .missingItem
  | chars => .ok (Text.takeSign chars)

/-- How many units of one place of a sexagesimal number make one of the next place. -/
def sexagesimalBase : Nat := 60

/-- A whole number behind its sign: binary, hexadecimal, octal, sexagesimal or decimal. -/
def unsignedOf : List Char → Except Fault Int
  | [] => .error .missingItem
  | ['0'] => .ok 0
  | '0' :: 'b' :: digits => basedOf 2 digits
  | '0' :: 'x' :: digits => basedOf 16 digits
  | '0' :: digits => basedOf 8 ('0' :: digits)
  | digits =>
    if digits.contains ':' then
      (Text.split ':' digits).foldlM
        (fun value part => do return sexagesimalBase * value + (← decimalOf part)) 0
    else decimalOf digits

/-- The whole number of a scalar. -/
def intOf (text : String) : Except Fault Int := do
  let (negative, digits) ← takeSign (text.toList.filter (· != '_'))
  let n ← unsignedOf digits
  return if negative then -n else n

/-- The sum of the places of a sexagesimal number from the last one on, of which the first counts
so many units. -/
def sexagesimal (unit : Nat) (sum : Double) : List Double → Except Fault Double
  | [] => .ok sum
  | part :: rest =>
    match Double.ofInt unit with
    | .infinite _ => .error .outOfRange
    | x => sexagesimal (unit * sexagesimalBase) (sum.add (part.mul x)) rest

/-- The double of a text. -/
def realOf (chars : List Char) : Except Fault Double :=
  match Text.readDouble? (String.ofList chars) with
  | some x => .ok x
  | none => .error .badValue

/-- The double of a scalar. -/
def doubleOf (text : String) : Except Fault Double := do
  let (negative, body) ← takeSign ((text.toList.filter (· != '_')).map Char.toLower)
  let sign (x : Double) : Double := if negative then x.neg else x
  let word := String.ofList body
  if word == ".inf" then return sign (.infinite false)
  if word == ".nan" then return .nan
  if body.contains ':' then
    return sign (← sexagesimal 1 (.ofInt 0) (← (Text.split ':' body).mapM realOf).reverse)
  return sign (← realOf body)

/-- The date or instant of a scalar, which must be in the calendar. -/
def momentOf (text : String) : Except Fault Value := do
  match Form.moment? (Form.withoutFinalBreak text.toList) with
  | none => throw .missingMember
  | some moment =>
    match moment.time with
    | none => if moment.date.isValid then return .date moment.date else throw .badValue
    | some (hour, minute, second) =>
      let offset := moment.offset.map fun (negative, hours, minutes) =>
        let seconds : Int := (hours * 60 + minutes) * 60
        if negative then -seconds else seconds
      let instant : Instant :=
        ⟨moment.date, hour, minute, second, Instant.fractionMicros moment.fraction, offset⟩
      if instant.isValid then return .moment instant else throw .badValue

/-- The truth value of a scalar. -/
def boolOf (text : String) : Except Fault Value :=
  let word := Text.lower text
  if (Form.trueWords.map Text.lower).contains word then .ok (.bool true)
  else if (Form.falseWords.map Text.lower).contains word then .ok (.bool false)
  else .error (.missingKey word)

/-- The bytes of a scalar. -/
def bytesOf (text : String) : Except Fault Value :=
  if text.toList.any fun c => 0x7f < c.toNat then .error .malformedDocument
  else
    match Text.Base64.decode? text.toList with
    | some bytes => .ok (.bytes bytes)
    | none => .error .malformedDocument

/-- The tag of bytes. -/
def bytesTag : String := coreTag "binary"

/-- How the text of a scalar becomes a value under a tag; there is no way under an unknown one. -/
def scalarReading? (tag : String) : Option (String → Except Fault Value) :=
  if tag == Form.text.tag then some fun text => .ok (.text text)
  else if tag == Form.null.tag then some fun _ => .ok .null
  else if tag == Form.bool.tag then some boolOf
  else if tag == Form.int.tag then some fun text => (intOf text).map .int
  else if tag == Form.float.tag then some fun text => (doubleOf text).map .double
  else if tag == Form.timestamp.tag then some momentOf
  else if tag == bytesTag then some bytesOf
  else none

end Escrow.Yaml
