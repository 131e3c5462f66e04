import EventScript.Fault
import EventScript.Ledger
import EventScript.Text.Digit

/-!
Buy lists: sections of options. Options have small letters, a section called `DEFAULT` speaks for
all others, and a line further to the right than its option goes on with the value.
-/

namespace EventScript

abbrev Options := Ledger String (List String)

structure BuyList where
  sections : Ledger String Options := []
  defaults : Options := []

namespace BuyList

open Text

def defaultSection : String := "DEFAULT"

/-- The list read so far, the section and option that lines go to, and the indentation of the last
header or option. `broken` remembers a line that made no sense. -/
structure Draft where
  list : BuyList := {}
  here : Option String := none
  option : Option String := none
  indent : Nat := 0
  broken : Bool := false

def Draft.options (d : Draft) : Options :=
  match d.here with
  | none => []
  | some s => if s = defaultSection then d.list.defaults else (d.list.sections.get? s).getD []

def Draft.setOptions (d : Draft) (o : Options) : Draft :=
  match d.here with
  | none => d
  | some s =>
    if s = defaultSection then { d with list := { d.list with defaults := o } }
    else { d with list := { d.list with sections := d.list.sections.put s o } }

def Draft.extend (d : Draft) (value : String) : Draft :=
  match d.option with
  | none => d
  | some k => d.setOptions (d.options.put k ((d.options.get? k).getD [] ++ [value]))

def header? : List Char → Option String
  | '[' :: cs =>
    let tail := cs.reverse.dropWhile (· ≠ ']')
    match tail with
    | _ :: body => if body.isEmpty then none else some (String.ofList body.reverse)
    | [] => none
  | _ => none

def isDelimiter (c : Char) : Bool := c == '=' || c == ':'

def option? (cs : List Char) : Option (String × String) :=
  let k := cs.takeWhile fun c => !isDelimiter c
  match cs.drop k.length with
  | _ :: v => some (lower (String.ofList (trimRight k)), String.ofList (trim v))
  | [] => none

def Draft.startSection (d : Draft) (s : String) : Draft :=
  let d := { d with here := some s, option := none }
  if s = defaultSection || d.list.sections.has s then d
  else { d with list := { d.list with sections := d.list.sections.put s [] } }

def isComment (value : List Char) : Bool := value.head? == some '#' || value.head? == some ';'

def addLine (d : Draft) (line : List Char) : Option Draft :=
  let value := trim line
  if isComment value then some d
  else if value.isEmpty then some (d.extend "")
  else
    let indent := (line.takeWhile isBlank).length
    if d.option.isSome && d.indent < indent then some (d.extend (String.ofList value))
    else
      let d := { d with indent }
      match header? value with
      | some s => some (d.startSection s)
      | none =>
        if d.here.isNone then none
        else
          match option? value with
          | none => some { d with broken := true }
          | some (k, v) =>
            let d := d.setOptions (d.options.put k [v])
            some { d with option := if k = "" then none else some k, broken := d.broken || k = "" }

def parse (text : String) : Except Fault BuyList :=
  match (splitFeeds text.toList).foldlM addLine {} with
  | some d => if d.broken then .error .badBuyList else .ok d.list
  | none => .error .badBuyList

def value? (o : Options) (k : String) : Option String :=
  (o.get? k).map fun ls => String.ofList (trimRight ("\n".intercalate ls).toList)

def get? (b : BuyList) (sectionName option : String) : Except Fault String :=
  let k := lower option
  let found :=
    if sectionName = defaultSection then some (value? b.defaults k)
    else (b.sections.get? sectionName).map fun o => (value? o k).or (value? b.defaults k)
  match found.join with
  | some v => .ok v
  | none => .error .missingKey

end BuyList

end EventScript
