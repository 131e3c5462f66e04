import EventScript.Text.Argument
import EventScript.Text.Printable

/-!
A text as it is shown inside a message: in quotes, with everything that cannot be printed escaped.
-/

namespace EventScript.Text

def hexDigits (width n : Nat) : List Char :=
  let ds := Nat.toDigits 16 n
  List.replicate (width - ds.length) '0' ++ ds

def apostrophe : Char := '\x27'

def enclosing (cs : List Char) : Char :=
  if apostrophe ∈ cs ∧ quoteMark ∉ cs then quoteMark else apostrophe

def escapeNumber (n : Nat) : List Char :=
  if n < 0x100 then '\\' :: 'x' :: hexDigits 2 n
  else if n < 0x10000 then '\\' :: 'u' :: hexDigits 4 n
  else '\\' :: 'U' :: hexDigits 8 n

def escapeChar (mark c : Char) : List Char :=
  if c = mark ∨ c = '\\' then ['\\', c]
  else if c = '\n' then ['\\', 'n']
  else if c = '\r' then ['\\', 'r']
  else if c = '\t' then ['\\', 't']
  else if isPrintable c then [c]
  else escapeNumber c.toNat

def quoted (s : String) : String :=
  let cs := s.toList
  let mark := enclosing cs
  String.ofList (mark :: cs.flatMap (escapeChar mark) ++ [mark])

def quotedAscii (s : String) : String :=
  String.ofList ((quoted s).toList.flatMap fun c =>
    if c.toNat < 0x80 then [c] else escapeNumber c.toNat)

end EventScript.Text
