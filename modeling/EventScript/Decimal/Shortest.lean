import EventScript.Decimal.Fixed

/-!
The shortest decimal that reads back as the same double, and the usual text of a double.
-/

namespace EventScript.Decimal

/-- Decimal digits with a point: the value is `0.d₁d₂… · 10^point`. -/
structure Digits where
  digits : List Char
  point : Int

def floorLog10 (n d : Nat) : Nat → Int → Int
  | 0, k => k
  | fuel + 1, k =>
    let fits : Bool := match k with
      | .ofNat j => decide (d * pow10 j ≤ n)
      | .negSucc j => decide (d ≤ n * pow10 (j + 1))
    if fits then k else floorLog10 n d fuel (k - 1)

def leading (n d : Nat) : Int := floorLog10 n d 3 ((floorLog2 n d * 30103) / 100000 + 1)

def dropPlaces (n d : Nat) : Int → Nat × Nat
  | .ofNat e => (n, d * pow10 e)
  | .negSucc e => (n * pow10 (e + 1), d)

/-- `k` significant digits of a positive fraction whose first digit has weight `10^top`, with the
weight of the last one. -/
def significant (n d : Nat) (top : Int) (k : Nat) : Nat × Int :=
  let e := top - k + 1
  let (n', d') := dropPlaces n d e
  (roundDiv n' d', e)

def readsBack (bits m : Nat) (e : Int) : Bool :=
  let (n, d) := dropPlaces m 1 (-e)
  nearestBits n d == bits

/-- The digits of a positive double: of the counts from one to seventeen the first for which a
neighbour of the value reads back, the nearer one if both do. -/
def shortestFrom (bits n d : Nat) (top : Int) : List Nat → Nat × Int
  | [] => significant n d top 17
  | k :: ks =>
    let (m, e) := significant n d top k
    let (n', d') := dropPlaces n d e
    let other := if m = n' / d' then m + 1 else m - 1
    if readsBack bits m e then (m, e)
    else if readsBack bits other e then (other, e)
    else shortestFrom bits n d top ks

def stripZeros (cs : List Char) : List Char := (cs.reverse.dropWhile (· == '0')).reverse

def shortest (p : Parts) : Digits :=
  if p.mantissa = 0 then ⟨['0'], 1⟩
  else
    let (n, d) := p.ratio
    let (m, e) := shortestFrom (nearestBits n d) n d (leading n d) ((List.range 17).map (· + 1))
    let ds := Nat.toDigits 10 m
    ⟨stripZeros ds, e + ds.length⟩

def Digits.split (s : Digits) : List Char × List Char :=
  match s.point with
  | .ofNat 0 => (['0'], s.digits)
  | .ofNat k => (s.digits.take k ++ List.replicate (k - s.digits.length) '0', s.digits.drop k)
  | .negSucc k => (['0'], List.replicate (k + 1) '0' ++ s.digits)

def exponentText (width : Nat) (e : Int) : List Char :=
  (if e < 0 then '-' else '+') :: padLeft width '0' (Nat.toDigits 10 e.natAbs)

/-- The usual text of a double: without an exponent from a ten thousandth up to ten quadrillion, and
then always with a digit after the point. -/
def shown (x : Float) : String :=
  match parts? x with
  | none => if x.isNaN then "nan" else if x < 0 then "-inf" else "inf"
  | some p =>
    let s := shortest p
    let sign := if p.negative then ['-'] else []
    if -4 < s.point ∧ s.point ≤ 16 then
      let (whole, fraction) := s.split
      String.ofList (sign ++ whole ++ '.' :: (if fraction.isEmpty then ['0'] else fraction))
    else
      let tail := match s.digits.drop 1 with
        | [] => []
        | ds => '.' :: ds
      String.ofList (sign ++ s.digits.take 1 ++ tail ++ 'e' :: exponentText 2 (s.point - 1))

end EventScript.Decimal
