import EventScript.Datum
import EventScript.Decimal.Read
import EventScript.Settings.Toml.Scan

/-!
Values of a settings text: truth values, strings, integers in four bases and floats.
-/

namespace EventScript.Toml

open Text

def cuts (c : Char) : List Char → List (List Char)
  | [] => [[]]
  | d :: ds => if d = c then [] :: cuts c ds else consHead d (cuts c ds)

def endsEscaped (cs : List Char) : Bool := escapes cs.reverse

/-- Follows the stretches between the quotes of a string: whether it was closed, and how many empty
ones came in a row. Nothing may follow the quote that closes it. -/
def followStretch (triple : Bool) : Option (Bool × Nat) → List Char → Option (Bool × Nat)
  | none, _ => none
  | some (closed, run), cs =>
    if cs.isEmpty then some (if triple then (closed, run + 1) else (true, run))
    else if endsEscaped cs then some (closed, run)
    else if closed then none
    else if !triple || 1 < run then some (true, run)
    else some (closed, 0)

def endsOnce (quote : Char) (cs : List Char) : Bool :=
  (match cuts quote (cs.drop 1) with
    | [] :: [] :: rest => rest.foldl (followStretch true) (some (false, 0))
    | stretches => stretches.foldl (followStretch false) (some (false, 0))).isSome

def escaped? (c : Char) : Option Char :=
  match c with
  | '0' => some '\x00'
  | 'b' => some '\x08'
  | 'f' => some '\x0c'
  | 'n' => some '\n'
  | 'r' => some '\r'
  | 't' => some '\t'
  | '\x22' => some '\x22'
  | _ => none

/-- Whether every backslash starts an escape that is known; `paired` tells whether an odd number of
backslashes was just seen. -/
def knownEscapes (paired : Bool) : List (List Char) → Bool
  | [] => true
  | [] :: rest => knownEscapes (!paired) rest
  | (c :: _) :: rest =>
    ((escaped? c).isSome || c == 'u' || c == 'U' || paired) && knownEscapes false rest

def cutsAtMark (mark : Char) : List Char → List (List Char)
  | [] => [[]]
  | [c] => [[c]]
  | c :: d :: ds =>
    if c = '\\' ∧ d = mark then [] :: cutsAtMark mark ds
    else consHead c (cutsAtMark mark (d :: ds))

def hexValue? (c : Char) : Option Nat :=
  if isAsciiDigit c then some (c.toNat - 48)
  else if 'a' ≤ c && c ≤ 'f' then some (c.toNat - 87)
  else if 'A' ≤ c && c ≤ 'F' then some (c.toNat - 55)
  else none

def codeLimit : Nat := pow2 31

def charOfCode (n : Nat) : Except Fault Char :=
  if codeLimit ≤ n then .error .overflow
  else if Nat.isValidChar n then .ok (Char.ofNat n)
  else .error .badSettings

def charOfDigits (cs : List Char) : Except Fault Char :=
  match cs.mapM hexValue? with
  | none => .error .badSettings
  | some [] => .error .pastEnd
  | some [13] => .error .pastEnd
  | some (a :: b :: ds) =>
    if a = 13 ∧ 7 < b then .error .badSettings
    else charOfCode ((a :: b :: ds).foldl (fun n d => 16 * n + d) 0)
  | some [a] => charOfCode a

/-- Replaces the codes behind a mark, `width` digits each. A mark behind an escaped backslash is
left alone. -/
def expandFrom (mark : Char) (width : Nat) : Bool → List (List Char) → Except Fault (List Char)
  | _, [] => .ok []
  | true, cs :: rest => do
    return '\\' :: mark :: cs ++ (← expandFrom mark width (endsEscaped cs) rest)
  | false, cs :: rest => do
    let c ← charOfDigits (cs.take width)
    return c :: cs.drop width ++ (← expandFrom mark width false rest)

def expandCodes (mark : Char) (width : Nat) (cs : List Char) : Except Fault (List Char) :=
  match cutsAtMark mark cs with
  | [] => .ok []
  | first :: rest => do return first ++ (← expandFrom mark width (endsEscaped first) rest)

def unescape : List Char → Option (List Char)
  | [] => some []
  | [c] => some [c]
  | c :: d :: ds =>
    if c ≠ '\\' then (unescape (d :: ds)).map (c :: ·)
    else
      match escaped? d with
      | some e => (unescape ds).map (e :: ·)
      | none =>
        if d = '\\' then (unescape ds).map ('\\' :: ·)
        else if d = 'u' ∨ d = 'U' then (unescape ds).map ('\\' :: d :: ·)
        else none

def inner (n : Nat) (cs : List Char) : List Char := (cs.take (cs.length - n)).drop n

/-- Takes the quotes off a string: three at each end if it starts with three, or with two that are
all there is, and otherwise one. -/
def unwrap (quote : Char) (cs : List Char) : List Char :=
  match cs with
  | [_, c] => if c = quote then [] else inner 1 cs
  | _ :: c :: d :: _ => if c = quote ∧ c = d then inner 1 (inner 2 cs) else inner 1 cs
  | _ => inner 1 cs

def string (quote : Char) (cs : List Char) : Except Fault String := do
  if !endsOnce quote cs then throw .badSettings
  if quote = singleQuote then return String.ofList (unwrap quote cs)
  if !knownEscapes false ((cuts '\\' cs).drop 1) then throw .badSettings
  let cs ← expandCodes 'U' 8 (← expandCodes 'u' 4 cs)
  match unescape cs with
  | some cs => return String.ofList (unwrap quote cs)
  | none => throw .badSettings

def hasPair (a b : Char) : List Char → Bool
  | [] => false
  | c :: cs => (c == a && cs.head? == some b) || hasPair a b cs

def isStrict (cs : List Char) : Bool :=
  let cs := trim cs
  let underscored := cs.head? == some '_' || cs.getLast? == some '_' || hasPair '_' '.' cs ||
    hasPair '.' '_' cs
  match cs with
  | [] => false
  | [_] => !underscored
  | c :: d :: ds =>
    if underscored then false
    else if c == '0' && !(d == '.' || d == 'o' || d == 'b' || d == 'x') then false
    else if c == '+' || c == '-' then
      !(d == '0' && !ds.isEmpty && ds.head? != some '.') && !hasPair '_' '_' (d :: ds)
    else !hasPair '_' '_' cs

def digitsIn? (base : Nat) (cs : List Char) : Option Nat :=
  if cs.isEmpty then none
  else cs.foldl (fun n c => do
    let d ← match digitValue? c with
      | some d => some d
      | none => hexValue? c
    if d < base then return base * (← n) + d else none) (some 0)

def magnitude? (cs : List Char) : Option Nat :=
  match cs with
  | '0' :: c :: ds =>
    if c = 'x' ∨ c = 'X' then digitsIn? 16 ds
    else if c = 'o' ∨ c = 'O' then digitsIn? 8 ds
    else if c = 'b' ∨ c = 'B' then digitsIn? 2 ds
    else
      match digitsIn? 10 cs with
      | some 0 => some 0
      | _ => none
  | _ => if digitLimit < cs.length then none else digitsIn? 10 cs

def integer? (cs : List Char) : Option Int := do
  let (minus, ds) := splitSign (trimNumber cs)
  let n ← magnitude? ds
  return if minus then -(n : Int) else n

/-- Whether a number is a float: it has a point, or an exponent and no hexadecimal digits. -/
def isFloat (cs : List Char) : Bool :=
  cs.contains '.' || (!cs.contains 'x' && (cs.contains 'e' || cs.contains 'E'))

def float? (cs : List Char) : Option Float :=
  let digits := (cs.head?.any isAsciiDigit)
  let point := cs.getLast? == some '.' && (cs.filter (· == '.')).length == 1
  if digits && !point then Decimal.read? cs else none

def isWordFloat (cs : List Char) : Bool :=
  let word := lower (String.ofList cs)
  word == "inf" || word == "nan"

def unsigned? (cs : List Char) : Option Datum :=
  let cs := cs.filter (· != '_')
  if isFloat cs then (float? cs).map .real
  else if isWordFloat cs then (Decimal.read? cs).map .real
  else (integer? cs).map .int

def negate : Datum → Datum
  | .int n => .int (0 - n)
  | .real x => .real (0 - x)
  | d => d

def number? (cs : List Char) : Option Datum :=
  let (minus, ds) := splitSign cs
  (unsigned? ds).map (if minus then negate else id)

/-- The value that a trimmed text writes; `strict` tells whether it kept to the rules of numbers. -/
def value (strict : Bool) (cs : List Char) : Except Fault Datum :=
  match cs with
  | [] => .error .badSettings
  | c :: _ =>
    if cs = "true".toList then .ok (.bool true)
    else if cs = "false".toList then .ok (.bool false)
    else if isQuote c then (string c cs).map .text
    else
      match strict, number? cs with
      | true, some d => .ok d
      | _, _ => .error .badSettings

end EventScript.Toml
