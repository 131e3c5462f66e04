import EventScript.Decimal.Binary64

/-!
Numbers with a fixed count of six decimal places.
-/

namespace EventScript.Decimal

def places : Nat := 6

def Parts.millionths (p : Parts) : Nat :=
  let (n, d) := p.ratio
  roundDiv (n * pow10 places) d

def padLeft (width : Nat) (c : Char) (cs : List Char) : List Char :=
  List.replicate (width - cs.length) c ++ cs

/-- Six places after the point, correctly rounded from the exact binary value. Zero has no sign. -/
def fixed (x : Float) : String :=
  match parts? x with
  | none => if x.isNaN then "nan" else if x < 0 then "-inf" else "inf"
  | some p =>
    let n := p.millionths
    let whole := Nat.toDigits 10 (n / pow10 places)
    let fraction := padLeft places '0' (Nat.toDigits 10 (n % pow10 places))
    let sign := if p.negative && p.mantissa != 0 then ['-'] else []
    String.ofList (sign ++ whole ++ '.' :: fraction)

def roundPlaces (x : Float) : Float :=
  match parts? x with
  | none => x
  | some p => nearest p.negative p.millionths (pow10 places)

def clip (x lo hi : Float) : Float := if x < lo then lo else if hi < x then hi else x

end EventScript.Decimal
