import EventScript.Decimal.Power
import EventScript.Text.Blank

/-!
Decimal digits of every script and the integers written with them.
-/

namespace EventScript.Text

/-- The code points of the zeros; each is followed by the other nine digits of its script. -/
def zeroDigits : List Nat := [
  0x30, 0x660, 0x6F0, 0x7C0, 0x966, 0x9E6, 0xA66, 0xAE6, 0xB66, 0xBE6, 0xC66, 0xCE6, 0xD66, 0xDE6,
  0xE50, 0xED0, 0xF20, 0x1040, 0x1090, 0x17E0, 0x1810, 0x1946, 0x19D0, 0x1A80, 0x1A90, 0x1B50,
  0x1BB0, 0x1C40, 0x1C50, 0xA620, 0xA8D0, 0xA900, 0xA9D0, 0xA9F0, 0xAA50, 0xABF0, 0xFF10, 0x104A0,
  0x10D30, 0x11066, 0x110F0, 0x11136, 0x111D0, 0x112F0, 0x11450, 0x114D0, 0x11650, 0x116C0,
  0x11730, 0x118E0, 0x11950, 0x11C50, 0x11D50, 0x11DA0, 0x16A60, 0x16AC0, 0x16B50, 0x1D7CE,
  0x1D7D8, 0x1D7E2, 0x1D7EC, 0x1D7F6, 0x1E140, 0x1E2F0, 0x1E950, 0x1FBF0]

def digitValue? (c : Char) : Option Nat :=
  (zeroDigits.find? fun z => z ≤ c.toNat && c.toNat < z + 10).map (c.toNat - ·)

def isDigit (c : Char) : Bool := (digitValue? c).isSome

def isAsciiDigit (c : Char) : Bool := '0' ≤ c && c ≤ '9'

def isWordChar (c : Char) : Bool :=
  ('A' ≤ c && c ≤ 'Z') || ('a' ≤ c && c ≤ 'z') || isAsciiDigit c || c == '_'

def digitsValue (cs : List Char) : Nat :=
  cs.foldl (fun n c => 10 * n + (digitValue? c).getD 0) 0

def digitLimit : Nat := 4300

@[irreducible] def exceedsDigitLimit (n : Int) : Bool := pow10 digitLimit ≤ n.natAbs

def splitSign : List Char → Bool × List Char
  | '+' :: cs => (false, cs)
  | '-' :: cs => (true, cs)
  | cs => (false, cs)

def isIntegerLiteral (cs : List Char) : Bool :=
  let ds := (splitSign cs).2
  !ds.isEmpty && ds.all isAsciiDigit

def literalValue (cs : List Char) : Int :=
  let (minus, ds) := splitSign cs
  if minus then -(digitsValue ds : Int) else digitsValue ds

def literalTooLong (cs : List Char) : Bool := digitLimit < (splitSign cs).2.length

def groupedDigits? : List Char → Option (List Char)
  | [] => none
  | [c] => if isDigit c then some [c] else none
  | c :: '_' :: cs => if isDigit c then (groupedDigits? cs).map (c :: ·) else none
  | c :: cs => if isDigit c then (groupedDigits? cs).map (c :: ·) else none

/-- What may stand around a number: blanks other than the four separators before the space. -/
def isNumberBlank (c : Char) : Bool := isBlank c && !(0x1C ≤ c.toNat && c.toNat < 0x20)

def trimNumber (cs : List Char) : List Char :=
  ((cs.dropWhile isNumberBlank).reverse.dropWhile isNumberBlank).reverse

/-- Reads an integer as a person may write it: blanks around it, a sign, digits of any script and
underscores between them. Too many digits are refused. -/
def readInteger? (cs : List Char) : Option Int := do
  let (minus, body) := splitSign (trimNumber cs)
  let ds ← groupedDigits? body
  if digitLimit < ds.length then none
  else some (if minus then -(digitsValue ds : Int) else digitsValue ds)

/-- Lower case letters for upper case ones. Of the characters beyond ASCII only the Kelvin sign has
an ASCII letter as its lower case, and no other matters to names made of ASCII letters. -/
def lowerChar (c : Char) : Char :=
  if 'A' ≤ c && c ≤ 'Z' then Char.ofNat (c.toNat + 32)
  else if c.toNat = 0x212A then 'k' else c

def lower (s : String) : String := s.map lowerChar

end EventScript.Text
