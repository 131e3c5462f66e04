/-!
File paths in their normal form: empty parts and single dots are dropped, double dots stay.
-/

namespace EventScript

structure Path where
  /-- Nothing for a relative path, else the slashes it starts with. -/
  anchor : String := ""
  parts : List String := []
  deriving DecidableEq

namespace Path

def anchorOf : List Char → String
  | ['/', '/'] => "//"
  | '/' :: '/' :: c :: _ => if c = '/' then "/" else "//"
  | '/' :: _ => "/"
  | _ => ""

def ofString (s : String) : Path where
  anchor := anchorOf s.toList
  parts := (s.splitOn "/").filter fun p => p ≠ "" ∧ p ≠ "."

def isAbsolute (p : Path) : Bool := p.anchor ≠ ""

def join (p q : Path) : Path := if q.isAbsolute then q else { p with parts := p.parts ++ q.parts }

def child (p : Path) (s : String) : Path := p.join (ofString s)

def text (p : Path) : String :=
  let body := "/".intercalate p.parts
  if p.anchor = "" ∧ p.parts = [] then "." else p.anchor ++ body

def name (p : Path) : String := p.parts.getLast?.getD ""

/-- A name without its extension: what follows the last dot, unless that dot is the first or the
last character. -/
def stemOf (name : String) : String :=
  let cs := name.toList
  let extension := cs.reverse.takeWhile (· ≠ '.')
  let before := cs.length - extension.length
  if 1 < before ∧ extension ≠ [] then String.ofList (cs.take (before - 1)) else name

def stem (s : String) : String := stemOf (ofString s).name

end Path

end EventScript
