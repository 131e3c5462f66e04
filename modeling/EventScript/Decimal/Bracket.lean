import EventScript.Decimal.Shortest

/-!
Pairs of doubles in a bracket. The numbers are aligned at their points, an integer keeps its point,
and both are written with an exponent or both without.
-/

namespace EventScript.Decimal

def bracketPlaces : Nat := 8

def padRight (width : Nat) (c : Char) (cs : List Char) : List Char :=
  cs ++ List.replicate (width - cs.length) c

def sign (p : Parts) : List Char := if p.negative then ['-'] else []

def leadingDigits (p : Parts) (k : Nat) : Digits :=
  let (n, d) := p.ratio
  let (m, e) := significant n d (leading n d) k
  let ds := Nat.toDigits 10 m
  ⟨ds.take k, e + ds.length⟩

def plainParts (p : Parts) : List Char × List Char :=
  let (whole, fraction) := (shortest p).split
  let (whole, fraction) :=
    if fraction.length ≤ bracketPlaces then (whole, fraction)
    else
      let (n, d) := p.ratio
      let r := roundDiv (n * pow10 bracketPlaces) d
      (Nat.toDigits 10 (r / pow10 bracketPlaces),
        padLeft bracketPlaces '0' (Nat.toDigits 10 (r % pow10 bracketPlaces)))
  (sign p ++ whole, if fraction == ['0'] then [] else stripZeros fraction)

/-- The digits of a number with an exponent: the shortest ones, but no more than are shown. -/
def scientificDigits (p : Parts) : Digits :=
  let s := shortest p
  if s.digits.length ≤ bracketPlaces + 1 then s
  else
    let s := leadingDigits p (bracketPlaces + 1)
    { s with digits := stripZeros s.digits }

/-- The digits of a number that is to have `k` of them: if the shortest are fewer, the first ones of
the exact value. -/
def filledDigits (p : Parts) (k : Nat) : Digits :=
  let s := scientificDigits p
  if p.mantissa = 0 then { s with digits := padRight k '0' s.digits }
  else if k ≤ s.digits.length then s
  else leadingDigits p k

/-- Exponents are used for numbers from a hundred million on, for small fractions, and when two
numbers differ by more than a factor of a thousand. -/
def wantsExponent (xs : List Float) : Bool :=
  match (xs.map Float.abs).filter (0 < ·) with
  | [] => false
  | a :: rest =>
    let hi := rest.foldl max a
    let lo := rest.foldl min a
    1e8 ≤ hi || lo < 1e-4 || 1000 < hi / lo

def maxLength (l : List (List Char)) : Nat := (l.map List.length).foldl max 0

abbrev Split := List Char × List Char

/-- Numbers with exponents: as many digits as the longest has, exponents of the same width. -/
def scientificSplits (ps : List Parts) : List Split :=
  let digits := (ps.map fun p => (scientificDigits p).digits.length).foldl max 0
  let items := ps.map fun p =>
    let s := filledDigits p digits
    (p, s.digits, if p.mantissa = 0 then 0 else s.point - 1)
  let width := max 2 (maxLength (items.map fun (_, _, e) => Nat.toDigits 10 e.natAbs))
  items.map fun (p, ds, e) => (sign p ++ ds.take 1, ds.drop 1 ++ 'e' :: exponentText width e)

def plainSplits (ps : List Parts) : List Split :=
  let items := ps.map plainParts
  let right := maxLength (items.map (·.2))
  items.map fun (whole, fraction) => (whole, padRight right ' ' fraction)

def word (x : Float) : List Char :=
  (if x.isNaN then "nan" else if x < 0 then "-inf" else "inf").toList

def bracketOf (xs : List Float) : List Char :=
  let finite := xs.filterMap parts?
  let words := xs.filter fun x => (parts? x).isNone
  let splits :=
    if wantsExponent (xs.filter fun x => (parts? x).isSome) then scientificSplits finite
    else plainSplits finite
  let right := maxLength (splits.map (·.2))
  let least := if words.isEmpty then 0 else max 3 (maxLength (words.map word)) - (right + 1)
  let left := max (maxLength (splits.map (·.1))) least
  let rec place : List Float → List Split → List (List Char)
    | [], _ => []
    | x :: xs, splits =>
      match parts? x, splits with
      | some _, (whole, tail) :: splits =>
        (padLeft left ' ' whole ++ '.' :: tail) :: place xs splits
      | _, splits => padLeft (left + right + 1) ' ' (word x) :: place xs splits
  '[' :: (List.intercalate [' '] (place xs splits)) ++ [']']

def bracket (x y : Float) : String := String.ofList (bracketOf [x, y])

end EventScript.Decimal
