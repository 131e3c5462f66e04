import EventScript.Decimal.Binary64
import EventScript.Text.Digit

/-!
Reading a double as a person may write it: blanks around it, a sign, digits with single underscores
between them, a point, an exponent, or the words for infinity and for no number at all.
-/

namespace EventScript.Decimal

open Text

def optionalDigits? (cs : List Char) : Option (List Char) :=
  if cs.isEmpty then some [] else groupedDigits? cs

def isExponentMark (c : Char) : Bool := c == 'e' || c == 'E'

def exponent? : List Char → Option Int
  | [] => some 0
  | _ :: cs => do
    let (minus, body) := splitSign cs
    let ds ← groupedDigits? body
    return if minus then -(digitsValue ds : Int) else digitsValue ds

def farthest : Int := 400

/-- The double nearest to the digits at an exponent, however large that is. Where the first digit
stands that is not zero decides whether the number is too large or too small for a double. -/
def ofDigits (negative : Bool) (ds : List Char) (e : Int) : Float :=
  match ds.dropWhile fun c => digitValue? c == some 0 with
  | [] => nearest negative 0 1
  | ds =>
    let top := ds.length + e
    if farthest < top then nearest negative (pow10 farthest.toNat) 1
    else if top < -farthest then nearest negative 0 1
    else ofDecimal negative (digitsValue ds) e

def notANumberBits : UInt64 := 0x7FF8000000000000

def named? (negative : Bool) (word : String) : Option Float :=
  if word = "inf" || word = "infinity" then
    some (nearest negative (pow10 farthest.toNat) 1)
  else if word = "nan" then some (Float.ofBits notANumberBits)
  else none

def read? (cs : List Char) : Option Float := do
  let (minus, body) := splitSign (trimNumber cs)
  match named? minus (lower (String.ofList body)) with
  | some x => some x
  | none =>
    let mantissa := body.takeWhile fun c => !isExponentMark c
    let whole := mantissa.takeWhile (· != '.')
    let fraction := (mantissa.drop whole.length).drop 1
    if whole.isEmpty && fraction.isEmpty then none
    let ds ← optionalDigits? whole
    let fs ← optionalDigits? fraction
    let e ← exponent? (body.drop mantissa.length)
    some (ofDigits minus (ds ++ fs) (e - fs.length))

end EventScript.Decimal
