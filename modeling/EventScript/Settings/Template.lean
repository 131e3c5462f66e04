import EventScript.Text.Digit
import EventScript.Text.Quoted

/-!
Message templates: a name in braces is replaced by its value, and a doubled brace stands for itself.
Behind the name may follow the number of one character of the value in square brackets, a mark and
how the value is quoted, and a colon and its layout. A layout may hold fields itself.
-/

namespace EventScript.Template

open Text

def openBrace : Char := '\x7b'
def closeBrace : Char := '\x7d'

def isBrace (c : Char) : Bool := c = openBrace || c = closeBrace

def numberLimit : Nat := pow2 63 - 1

def number? (ds : List Char) : Option Nat :=
  if digitsValue ds ≤ numberLimit then some (digitsValue ds) else none

inductive Align where
  | left | right | center

def Align.ofChar? (c : Char) : Option Align :=
  if c = '<' then some left
  else if c = '>' then some right
  else if c = '^' then some center
  else none

def widthLimit : Nat := 100000000

structure Layout where
  fill : Char := ' '
  align : Align := .left
  width : Nat := 0
  /-- How much of the value is shown at most. -/
  limit : Option Nat := none

namespace Layout

def readZero (align : Align) : List Char → Layout × List Char
  | '0' :: cs => ({ align, fill := '0' }, cs)
  | cs => ({ align }, cs)

def readAlign : List Char → Layout × List Char
  | [] => ({}, [])
  | [c] =>
    match Align.ofChar? c with
    | some align => ({ align }, [])
    | none => readZero .left [c]
  | c :: d :: rest =>
    match Align.ofChar? d, Align.ofChar? c with
    | some align, _ => ({ fill := c, align }, rest)
    | none, some align => readZero align (d :: rest)
    | none, none => readZero .left (c :: d :: rest)

def readLimit? : List Char → Option (Option Nat × List Char)
  | '.' :: cs =>
    let ds := cs.takeWhile isDigit
    if ds.isEmpty then none else (number? ds).map fun n => (some n, cs.drop ds.length)
  | cs => some (none, cs)

def read? (cs : List Char) : Option Layout := do
  let (layout, cs) := readAlign cs
  let ds := cs.takeWhile isDigit
  let width ← number? ds
  let (limit, rest) ← readLimit? (cs.drop ds.length)
  if rest = [] ∨ rest = ['s'] then some { layout with width, limit } else none

def lay? (l : Layout) (cs : List Char) : Option (List Char) :=
  let cs := match l.limit with
    | some n => cs.take n
    | none => cs
  let missing := l.width - cs.length
  if widthLimit < missing then none
  else
    match l.align with
    | .left => some (cs ++ List.replicate missing l.fill)
    | .right => some (List.replicate missing l.fill ++ cs)
    | .center =>
      some (List.replicate (missing / 2) l.fill ++ cs ++
        List.replicate (missing - missing / 2) l.fill)

end Layout

inductive Piece where
  | char (c : Char)
  /-- A field: what it names, the letter behind the mark, and its layout. -/
  | field (key : List Char) (conversion : Option Char) (layout : List Char)

/-- Where in a template a reader is; what is being read stands with its last character first. -/
inductive Place where
  | text
  | key (read : List Char)
  /-- Between square brackets. -/
  | item (read : List Char)
  | mark (key : List Char)
  | marked (key : List Char) (conversion : Char)
  /-- In a layout, with the number of braces that are open in it. -/
  | layout (key : List Char) (conversion : Option Char) (read : List Char) (depth : Nat)

def pieces? : Place → List Char → Option (List Piece)
  | .text, [] => some []
  | .text, [c] => if isBrace c then none else some [.char c]
  | .text, c :: d :: cs =>
    if !isBrace c then (pieces? .text (d :: cs)).map (.char c :: ·)
    else if d = c then (pieces? .text cs).map (.char c :: ·)
    else if c = openBrace then pieces? (.key []) (d :: cs)
    else none
  | .key read, c :: cs =>
    if c = openBrace then none
    else if c = closeBrace then (pieces? .text cs).map (.field read.reverse none [] :: ·)
    else if c = ':' then pieces? (.layout read.reverse none [] 0) cs
    else if c = '!' then pieces? (.mark read.reverse) cs
    else if c = '[' then pieces? (.item (c :: read)) cs
    else pieces? (.key (c :: read)) cs
  | .item read, c :: cs =>
    if c = ']' then pieces? (.key (c :: read)) cs else pieces? (.item (c :: read)) cs
  | .mark key, c :: cs => pieces? (.marked key c) cs
  | .marked key conversion, c :: cs =>
    if c = closeBrace then (pieces? .text cs).map (.field key (some conversion) [] :: ·)
    else if c = ':' then pieces? (.layout key (some conversion) [] 0) cs
    else none
  | .layout key conversion read depth, c :: cs =>
    if c = openBrace then pieces? (.layout key conversion (c :: read) (depth + 1)) cs
    else if c = closeBrace then
      match depth with
      | 0 => (pieces? .text cs).map (.field key conversion read.reverse :: ·)
      | depth + 1 => pieces? (.layout key conversion (c :: read) depth) cs
    else pieces? (.layout key conversion (c :: read) depth) cs
  | _, [] => none

def char? (value ds : List Char) : Option Char :=
  if ds.isEmpty || !ds.all isDigit then none
  else (number? ds).bind fun n => value[n]?

def follow? (value : List Char) : Option (List Char) → List Char → Option (List Char)
  | none, [] => some value
  | none, c :: cs => if c = '[' then follow? value (some []) cs else none
  | some _, [] => none
  | some read, c :: cs =>
    if c = ']' then (char? value read.reverse).bind fun x => follow? [x] none cs
    else follow? value (some (c :: read)) cs

def lookup? (name value : String) (key : List Char) : Option (List Char) :=
  let first := key.takeWhile fun c => c ≠ '.' ∧ c ≠ '['
  if String.ofList first = name then follow? value.toList none (key.drop first.length) else none

/-- A value as a field wants it: as it is, in quotes, or in quotes with nothing beyond ASCII. -/
def convert? (value : List Char) : Option Char → Option (List Char)
  | none | some 's' => some value
  | some 'r' => some (quoted (String.ofList value)).toList
  | some 'a' => some (quotedAscii (String.ofList value)).toList
  | some _ => none

def depthLimit : Nat := 2

def fillChars (name value : String) : Nat → List Char → Option (List Char)
  | 0, _ => none
  | depth + 1, template => do
    let filled ← (← pieces? .text template).mapM fun
      | .char c => some [c]
      | .field key conversion layout => do
        let shown ← convert? (← lookup? name value key) conversion
        let layout ←
          if layout.contains openBrace then fillChars name value depth layout else some layout
        (← Layout.read? layout).lay? shown
    return filled.flatten

def fill (template name value : String) : Option String :=
  (fillChars name value depthLimit template.toList).map String.ofList

end EventScript.Template
