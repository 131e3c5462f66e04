import EventScript.Settings.Toml.Value

/-!
Settings texts in TOML: tables, dotted tables, strings, integers, floats, truth values and comments.
A line either opens a table or assigns a value to a key of the table that was opened last.
-/

namespace EventScript.Toml

open Text

/-- Puts the stretches of an unfinished single quoted part together again with those behind it. -/
def absorb (singles : List (List Char)) : List (List Char) → List (List Char) × List (List Char)
  | [] => (singles, [])
  | d :: ds =>
    if singles.length % 2 = 0 then
      let last := singles.getLast?.getD [] ++ doubleQuote :: d
      absorb (singles.dropLast ++ cuts singleQuote last) ds
    else (singles, d :: ds)

def cutFirst : List (List Char) → List (List Char)
  | [] => []
  | d :: ds => cuts singleQuote d ++ ds

def stretches (cs : List Char) : List (List Char) :=
  match cuts doubleQuote cs with
  | first :: second :: rest =>
    if first.contains singleQuote then
      let (singles, rest) := absorb (cuts singleQuote first) (second :: rest)
      singles ++ cutFirst rest
    else cutFirst (first :: second :: rest)
  | ds => cutFirst ds

def skipped (c : Char) (quoted : Bool) : List (List Char) → Nat
  | [] => 0
  | s :: ss => if !quoted && s.contains c then 0 else s.count c + skipped c (!quoted) ss

def joinWith (c : Char) (ps : List (List Char)) : List Char := [c].intercalate ps

/-- What stands before and behind an occurrence of a character, counted from one; the last one if
there are not so many. -/
def cutAt (c : Char) (n : Nat) (cs : List Char) : List Char × List Char :=
  let ps := cuts c cs
  let k := min n (ps.length - 1)
  (joinWith c (ps.take k), joinWith c (ps.drop k))

def dottedNames (cs : List Char) : List (List Char) :=
  if cs.any isQuote then
    (stretches cs).zipIdx.flatMap fun (s, i) =>
      if i % 2 = 0 then (cuts '.' s).map trim else [s]
  else cuts '.' cs

def keyPath (cs : List Char) : Except Fault (List String) :=
  if cs.contains '.' then
    let names := ((dottedNames cs).reverse.dropWhile (·.isEmpty)).reverse
    match names.getLast? with
    | none => .error .pastEnd
    | some last =>
      .ok ((names.dropLast.filter (!·.isEmpty) ++ [trim last]).map String.ofList)
  else
    match cs.head?, cs.getLast? with
    | some a, some b => .ok [String.ofList (if a == b && isQuote a then inner 1 cs else cs)]
    | _, _ => .error .pastEnd

def startsValue (cs : List Char) : Bool :=
  match cs with
  | [] => true
  | c :: _ =>
    c == ' ' || c == '\t' || isQuote c || c == '[' || c == '\x7b' || trim cs == "true".toList ||
      trim cs == "false".toList

/-- Key, value and whether the value is strict, divided at an equals sign. A number right behind
the sign that is none moves the division to the next sign; `more` signs are left. -/
def divide (cs : List Char) : Nat → Nat → Bool → Option (List Char × List Char × Bool)
  | more, n, strict =>
    let (key, text) := cutAt '=' n cs
    if startsValue text || (Decimal.read? text).isSome then some (key, text, strict)
    else
      match more with
      | 0 => none
      | more + 1 => divide cs more (n + 1) (strict && isStrict (cutAt '=' (n + 1) cs).2)

def dropUnderscores (cs : List Char) : List Char :=
  if cs.head?.any isAsciiDigit then cs.filter (· != '_') else cs

def assignment? (cs : List Char) : Option (List Char × List Char × Bool) :=
  let n := 1 + skipped '=' false (stretches cs)
  let (key, text) := cutAt '=' n cs
  let plain := dropUnderscores text
  if (Decimal.read? plain).isSome then some (key, plain, isStrict text)
  else divide cs (cs.count '=' - n) n (isStrict text)

/-- The text read so far: the tree, and the table that lines go to. -/
structure Draft where
  tree : Ledger String Datum := []
  here : List String := []
  /-- The names of tables that were made only because a table in them was opened. -/
  implied : List String := []

def checkWay (d : Datum) : List String → Except Fault Unit
  | [] | [_] => .ok ()
  | k :: ks =>
    match d with
    | .table es =>
      match Ledger.get? es k with
      | none => .ok ()
      | some sub => checkWay sub ks
    | _ => .error .wrongKind

def putNew (v : Datum) : List String → Datum → Except Fault Datum
  | [], _ => .error .badSettings
  | [k], .table es =>
    if Ledger.has es k then .error .badSettings else .ok (.table (Ledger.put es k v))
  | k :: ks, .table es => do
    return .table (Ledger.put es k (← putNew v ks ((Ledger.get? es k).getD (.table []))))
  | _, _ => .error .badSettings

/-- Opens the table at a path. It has to be new, or to be there only because of the tables in it. -/
def openTable (implied : List String) : List String → Datum → Except Fault (Datum × List String)
  | [], d => .ok (d, implied)
  | "" :: _, _ => .error .badSettings
  | k :: ks, .table es =>
    match Ledger.get? es k, ks with
    | none, [] => .ok (.table (Ledger.put es k (.table [])), implied)
    | some _, [] =>
      if implied.contains k then .ok (.table es, implied.erase k) else .error .badSettings
    | none, ks => do
      let (sub, implied) ← openTable (implied ++ [k]) ks (.table [])
      return (.table (Ledger.put es k sub), implied)
    | some sub, ks => do
      let (sub, implied) ← openTable implied ks sub
      return (.table (Ledger.put es k sub), implied)
  | _ :: _, .text "" => .error .pastEnd
  | _ :: _, _ => .error .wrongKind

def isBareName (cs : List Char) : Bool := !cs.isEmpty && cs.all fun c => isWordChar c || c == '-'

def isClosed (cs : List Char) : Bool := 1 < cs.length && cs.head? == cs.getLast?

/-- The names in a header, from its stretches between dots; `pending` is the start of a name in
quotes that holds a dot. -/
def headerNames (pending : Option (List Char)) : List (List Char) → Option (List String)
  | [] => if pending.isNone then some [] else none
  | p :: ps =>
    let whole := match pending with
      | some start => start ++ '.' :: p
      | none => trim p
    let name := trim whole
    if name.head?.any isQuote then
      if isClosed name then (headerNames none ps).map (String.ofList (inner 1 name) :: ·)
      else headerNames (some whole) ps
    else if isBareName name then (headerNames none ps).map (String.ofList name :: ·)
    else none

def header? (cs : List Char) : Option (List String) :=
  let n := 1 + skipped ']' false (stretches cs)
  let (names, rest) := cutAt ']' n cs
  if cs.count ']' < n || !(trim rest).isEmpty then none else headerNames none (cuts '.' names)

def openLine (d : Draft) (path : List String) : Except Fault Draft := do
  match ← openTable d.implied path (.table d.tree) with
  | (.table tree, implied) => return { tree, here := path, implied }
  | _ => throw .badSettings

def assignLine (d : Draft) (key text : List Char) (strict : Bool) : Except Fault Draft := do
  let path := d.here ++ (← keyPath (trim key))
  checkWay (.table d.tree) path
  match ← putNew (← value strict (trim text)) path (.table d.tree) with
  | .table tree => return { d with tree }
  | _ => throw .badSettings

def addLine (d : Draft) (line : List Char) : Except Fault Draft :=
  match trim line with
  | [] => .ok d
  | '[' :: cs =>
    match header? cs with
    | some path => openLine d path
    | none => .error .badSettings
  | cs =>
    if cs.contains '=' then
      match assignment? cs with
      | some (key, text, strict) => assignLine d key text strict
      | none => .error .badSettings
    else .ok d

def parse (text : String) : Except Fault (Ledger String Datum) := do
  let d ← (← scan text.toList).foldlM addLine {}
  return d.tree

end EventScript.Toml
