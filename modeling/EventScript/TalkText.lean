import EventScript.Fault
import EventScript.Ledger
import EventScript.Text.Digit

/-!
Talk text: the lines of dialogue by number. A file holds one entry a line, written as
`[index][portrait]text`, and any other line is passed over.
-/

namespace EventScript

structure TalkLine where
  index : Int
  portrait : Int
  text : String
  deriving DecidableEq

abbrev TalkText := Ledger Int TalkLine

namespace TalkText

open Text

def bracketed? : List Char → Option (List Char × List Char)
  | '[' :: cs =>
    let ds := cs.takeWhile isDigit
    match cs.drop ds.length with
    | ']' :: rest => if ds.isEmpty then none else some (ds, rest)
    | _ => none
  | _ => none

def entry? (line : List Char) : Option (List Char × List Char × List Char) := do
  let (index, rest) ← bracketed? (trim line)
  let (portrait, body) ← bracketed? rest
  return (index, portrait, body)

/-- Adds the entry of a line, if it is one; a later entry replaces an earlier one of its index. -/
def addLine (t : TalkText) (line : List Char) : Except Fault TalkText :=
  match entry? line with
  | none => .ok t
  | some (index, portrait, body) =>
    if digitLimit < index.length ∨ digitLimit < portrait.length then .error .tooManyDigits
    else
      let i : Int := digitsValue index
      .ok (t.put i ⟨i, digitsValue portrait, String.ofList body⟩)

def addLines (t : TalkText) : List (List Char) → Except Fault TalkText
  | [] => .ok t
  | l :: ls =>
    match addLine t l with
    | .error f => .error f
    | .ok t => addLines t ls

def ofText (text : String) : Except Fault TalkText := addLines [] (lines text.toList)

def ofLines (ls : List TalkLine) : TalkText := Ledger.ofPairs (ls.map fun l => (l.index, l))

end TalkText

end EventScript
