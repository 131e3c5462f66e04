import EventScript.Decimal.Power

/-!
Double precision numbers as exact fractions. A finite double is `±m·2^e`; a fraction is rounded to
the nearest double, a tie going to the even significand.
-/

namespace EventScript.Decimal

/-- The quotient of two numbers rounded to the nearest integer, a half going to the even one. -/
def roundDiv (n d : Nat) : Nat :=
  let q := n / d
  let r := n % d
  if 2 * r < d then q else if d < 2 * r then q + 1 else q + q % 2

/-- A finite double taken apart: its sign, significand and binary exponent. -/
structure Parts where
  negative : Bool
  mantissa : Nat
  exponent : Int

def parts? (x : Float) : Option Parts :=
  let bits := x.toBits.toNat
  let field : Nat := bits / pow2 52 % pow2 11
  let fraction : Nat := bits % pow2 52
  let negative := bits / pow2 63 == 1
  if field = 2047 then none
  else if field = 0 then some ⟨negative, fraction, -1074⟩
  else some ⟨negative, fraction + pow2 52, (field : Int) - 1075⟩

def Parts.ratio (p : Parts) : Nat × Nat :=
  match p.exponent with
  | .ofNat e => (p.mantissa * pow2 e, 1)
  | .negSucc e => (p.mantissa, pow2 (e + 1))

def scaleRatio (n d : Nat) : Int → Nat × Nat
  | .ofNat e => (n * pow2 e, d)
  | .negSucc e => (n, d * pow2 (e + 1))

def floorLog2 (n d : Nat) : Int :=
  let k : Int := (n.log2 : Int) - d.log2
  let (n', d') := scaleRatio n d (-k)
  if n' < d' then k - 1 else k

def infinityBits : Nat := 2047 * pow2 52

/-- The bits of the double nearest to `n / d`. Significand and exponent are laid out so that a
significand rounded up to the next power of two carries into the exponent. -/
def nearestBits (n d : Nat) : Nat :=
  if n = 0 then 0
  else
    let e := max (floorLog2 n d - 52) (-1074)
    let (n', d') := scaleRatio n d (-e)
    min ((e + 1074).toNat * pow2 52 + roundDiv n' d') infinityBits

def nearest (negative : Bool) (n d : Nat) : Float :=
  Float.ofBits (UInt64.ofNat (nearestBits n d + if negative then pow2 63 else 0))

def ofDecimal (negative : Bool) (n : Nat) (e : Int) : Float :=
  match e with
  | .ofNat k => nearest negative (n * pow10 k) 1
  | .negSucc k => nearest negative n (pow10 (k + 1))

def ofInt? (n : Int) : Option Float :=
  if nearestBits n.natAbs 1 = infinityBits then none else some (nearest (n < 0) n.natAbs 1)

end EventScript.Decimal
