import Escrow.Error

/-!
# The text of a file

A text file holds UTF-8.  However its lines are broken, in the text they end in line feeds.
-/

namespace Escrow.Text

/-- The text with a line feed for every line break: for a carriage return with a line feed, and for
a carriage return alone. -/
def unifyBreaks : List Char → List Char
  | '\r' :: '\n' :: rest => '\n' :: unifyBreaks rest
  | '\r' :: rest => '\n' :: unifyBreaks rest
  | c :: rest => c :: unifyBreaks rest
  | [] => []

/-- The characters that bytes stand for. -/
def decode (bytes : ByteArray) : Except Fault String :=
  match String.fromUTF8? bytes with
  | some text => .ok text
  | none => .error .badEncoding

/-- The text of a file with the given content. -/
def ofContent (bytes : ByteArray) : Except Fault String :=
  (decode bytes).map fun text => String.ofList (unifyBreaks text.toList)

/-- Does a text occur in another? -/
def occurs (part : List Char) : List Char → Bool
  | [] => part.isEmpty
  | c :: rest => part.isPrefixOf (c :: rest) || occurs part rest

end Escrow.Text
