import EventScript.Fault
import EventScript.Text.Alphanumeric
import EventScript.Text.Blank

/-!
The first look at a settings text, character by character. Comments are blanked out, every key has
to be followed by an equals sign, and every string has to end on the line on which it starts.
-/

namespace EventScript.Toml

open Text

inductive KeyPart where
  /-- Not in a key. -/
  | outside
  /-- In a name. -/
  | name
  /-- Behind a name, after a blank or a closing quote. -/
  | gap
  deriving DecidableEq

inductive Header where
  | closed
  | single
  | double
  deriving DecidableEq

structure Scan where
  /-- What was read, the last character first. What stands before the start of a text is its end. -/
  past : List Char
  /-- What is kept, the last character first. -/
  kept : List Char := []
  /-- The quote that opened the string the scan is in. -/
  quote : Option Char := none
  /-- Whether three quotes opened a string that may go on over several lines. -/
  long : Bool := false
  /-- How many brackets are open behind the start of a line. -/
  nesting : Int := 0
  header : Header := .closed
  /-- Whether only spaces and tabs were read on this line. -/
  fresh : Bool := true
  key : KeyPart := .outside
  /-- Whether the key has a dot. -/
  dotted : Bool := false
  comment : Bool := false

def doubleQuote : Char := '\x22'

def singleQuote : Char := '\x27'

def isQuote (c : Char) : Bool := c == doubleQuote || c == singleQuote

def escapes (cs : List Char) : Bool := (cs.takeWhile (· == '\\')).length % 2 == 1

namespace Scan

def keep (s : Scan) (c : Char) : Scan := { s with past := c :: s.past, kept := c :: s.kept }

def afterGap (s : Scan) (next : Option Char) : Except Fault Scan :=
  match next with
  | none => .error .pastEnd
  | some n => .ok { s with key := if isBlank n || n == '.' then .gap else .name }

def keyStep (s : Scan) (c : Char) (next : Option Char) : Except Fault (Option Scan) :=
  if c = '\n' then .error .badSettings
  else
    match s.quote, s.key with
    | some q, _ =>
      .ok (some (if c = q ∧ !escapes s.past then { s with key := .gap, quote := none } else s))
    | none, .name =>
      if isBlank c then .ok (some { s with key := .gap })
      else if c = '.' then .ok (some { s with dotted := true })
      else if isAlphanumeric c || c == '_' || c == '-' then .ok (some s)
      else if s.dotted && s.past.head? == some '.' && isQuote c then
        .ok (some { s with quote := some c })
      else if c = '=' then .ok none
      else .error .badSettings
    | none, _ =>
      if isBlank c then
        if s.dotted then (s.afterGap next).map some else .ok (some s)
      else if c = '.' then (afterGap { s with dotted := true } next).map some
      else if c = '=' then .ok none
      else .error .badSettings

/-- Opens or closes a string at a quote. A third quote in a row opens or closes a long string, and a
double quote behind a backslash does nothing. -/
def quoteStep (s : Scan) (c : Char) : Scan :=
  if !isQuote c || s.quote.any (· != c) then s
  else
    let run := ((s.past.take 2).takeWhile (· == c)).length
    if c == doubleQuote && run != 1 && escapes (s.past.drop run) then s
    else if run = 2 then { s with long := !s.long, quote := if s.long then none else some c }
    else { s with quote := if s.quote.isSome then none else some c }

def bracketStep (s : Scan) (c : Char) (next : Option Char) : Scan :=
  if s.quote.isSome then s
  else if c = '[' ∧ s.header = .closed then
    if s.fresh then { s with header := if next = some '[' then .double else .single }
    else { s with nesting := s.nesting + 1 }
  else if c = ']' then
    match s.header with
    | .single => { s with header := .closed }
    | .double => if s.past.head? = some ']' then { s with header := .closed } else s
    | .closed => { s with nesting := s.nesting - 1 }
  else s

def endLine (s : Scan) : Except Fault Scan :=
  if s.quote.isSome || s.long then .error .badSettings
  else if s.nesting ≠ 0 then .ok (s.keep ' ')
  else .ok (keep { s with fresh := true } '\n')

def startLine (s : Scan) (c : Char) : Except Fault Scan :=
  if !s.fresh || c == ' ' || c == '\t' then .ok s
  else if s.header ≠ .closed then .ok { s with fresh := false }
  else if c = '=' then .error .badSettings
  else .ok { s with fresh := false, key := .name }

def plainStep (s : Scan) (c : Char) (next : Option Char) : Except Fault Scan :=
  let s := s.quoteStep c
  if c = '#' ∧ s.quote.isNone ∧ s.header = .closed then
    .ok (keep { s with comment := true } ' ')
  else if c = '\n' then s.endLine
  else ((s.bracketStep c next).startLine c).map (·.keep c)

def step (s : Scan) (c : Char) (next : Option Char) : Except Fault Scan :=
  if s.comment then
    if c = '\n' then endLine { s with comment := false } else .ok (s.keep ' ')
  else if c = '\r' ∧ next = none then .error .pastEnd
  else if c = '\r' ∧ next = some '\n' then .ok (s.keep ' ')
  else if s.key = .outside then s.plainStep c next
  else do
    match ← s.keyStep c next with
    | some s => .ok (s.keep c)
    | none => plainStep { s with key := .outside, dotted := false } c next

def run : Scan → List Char → Except Fault Scan
  | s, [] => .ok s
  | s, c :: cs => do
    let s ← s.step c cs.head?
    s.run cs

end Scan

def scan (cs : List Char) : Except Fault (List (List Char)) := do
  let s ← Scan.run { past := cs.reverse } cs
  if s.key ≠ .outside ∨ s.quote.isSome then .error .badSettings
  else .ok (splitFeeds s.kept.reverse)

end EventScript.Toml
