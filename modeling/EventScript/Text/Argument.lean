import EventScript.Text.Blank

/-!
Quotes, comments and argument lists of a script line. A double quote opens a quoted stretch and the
next one closes it; commas and comment marks count only outside such stretches.
-/

namespace EventScript.Text

def quoteMark : Char := '\x22'

def unquote (cs : List Char) : List Char :=
  let t := trim cs
  match t with
  | c :: d :: rest =>
    if c = quoteMark ∧ (d :: rest).getLast? = some quoteMark then (d :: rest).dropLast else t
  | _ => t

/-- The pieces between the commas that stand outside quotes; `quoted` tells whether the text starts
inside a quoted stretch. -/
def pieces (quoted : Bool) : List Char → List (List Char)
  | [] => [[]]
  | c :: cs =>
    if c = ',' ∧ quoted = false then [] :: pieces false cs
    else consHead c (pieces (if c = quoteMark then !quoted else quoted) cs)

/-- The arguments of a list: its pieces, trimmed, with their quotes. A blank text has none. -/
def splitArgs (cs : List Char) : List (List Char) :=
  if trim cs = [] then [] else (pieces false cs).map trim

def beforeComment (quoted : Bool) : List Char → List Char
  | [] => []
  | c :: cs =>
    if c = '/' ∧ quoted = false ∧ cs.head? = some '/' then []
    else c :: beforeComment (if c = quoteMark then !quoted else quoted) cs

def stripComment (cs : List Char) : List Char := beforeComment false cs

end EventScript.Text
