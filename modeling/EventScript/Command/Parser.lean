import EventScript.Command.Basic
import EventScript.Text.Argument

/-!
Reading one line. After its comment and the blanks around it are dropped, a line is blank, a
label, or a command: a name, an argument list in parentheses that may be left out, and a semicolon
that may be left out.
-/

namespace EventScript

open Text

/-- The label that a line defines: an at sign, one or more characters other than colons and blanks,
and a colon that may be left out. -/
def labelOf? : List Char → Option (List Char)
  | '@' :: cs =>
    let body := if cs.getLast? = some ':' then cs.dropLast else cs
    if !body.isEmpty && body.all (fun c => c != ':' && !isBlank c) then some body else none
  | _ => none

def dropSemicolon (cs : List Char) : List Char :=
  if cs.getLast? = some ';' then trimRight cs.dropLast else cs

def isNameStart (c : Char) : Bool := isWordChar c && !isAsciiDigit c

/-- What stands between the parentheses of an argument list, nothing if there is no list. -/
def argumentText? : List Char → Option (List Char)
  | [] => some []
  | '(' :: cs =>
    if cs.getLast? = some ')' && !cs.dropLast.contains '\n' then some cs.dropLast else none
  | _ => none

/-- The name of a command and the text of its argument list, of a line without blanks around it. -/
def splitCommand? : List Char → Option (List Char × List Char)
  | [] => none
  | c :: cs =>
    if isNameStart c then
      let tail := cs.takeWhile isWordChar
      (argumentText? (dropSemicolon (trimLeft (cs.drop tail.length)))).map (c :: tail, ·)
    else none

/-- Why an argument was not read: it spoils its line, or reading itself fails. -/
inductive Refusal where
  | line (e : LineError)
  | fault (f : Fault)

def Arg.read (type : ArgType) (token : List Char) : Except Refusal Arg :=
  let value := unquote token
  match type with
  | .text => .ok (.text (String.ofList value))
  | .int =>
    if isIntegerLiteral value then
      if literalTooLong value then .error (.fault .tooManyDigits)
      else .ok (.int (literalValue value))
    else .error (.line (.notInteger (String.ofList token)))
  | .var =>
    if Condition.isVariable value then .ok (.var (String.ofList value))
    else .error (.line (.notVariable (String.ofList token)))
  | .label =>
    match value with
    | '@' :: c :: cs =>
      .ok (.label (String.ofList (((c :: cs).reverse.dropWhile (· == ':')).reverse)))
    | _ => .error (.line (.notLabel (String.ofList token)))
  | .condition =>
    match Condition.parse value with
    | .ok c => .ok (.condition c)
    | .error f => .error (.fault f)

def Arg.readAll : List ArgType → List (List Char) → Except Refusal (List Arg)
  | t :: ts, token :: tokens =>
    match Arg.read t token with
    | .error e => .error e
    | .ok a =>
      match Arg.readAll ts tokens with
      | .error e => .error e
      | .ok as => .ok (a :: as)
  | _, _ => .ok []

namespace Command

def check (v : Verb) (c : Command) (tokens : List (List Char)) : Except Fault Command :=
  let s := v.signature
  if s.accepts tokens.length then
    match Arg.readAll s.types tokens with
    | .ok args => .ok { c with args := args }
    | .error (.line e) => .ok { c with error := some e }
    | .error (.fault f) => .error f
  else
    .ok { c with error := some (.arity c.name s.required s.types.length tokens.length) }

/-- Reads a line without comment and surrounding blanks that is neither blank nor a label. -/
def ofText (line : List Char) (number : Int) : Except Fault Command :=
  match splitCommand? line with
  | none =>
    let text := String.ofList line
    .ok { kind := .invalid, name := text, line := number, error := some (.unparsable text) }
  | some (name, argText) =>
    let tokens := splitArgs argText
    let name := String.ofList name
    let params := tokens.map fun t => String.ofList (unquote t)
    let kind := CommandKind.ofName name
    let c : Command := { kind, name, params, line := number }
    match kind with
    | .builtin v => check v c tokens
    | _ => .ok { c with args := params.map .text }

def bare (source : List Char) : List Char := trim (stripComment source)

def parseLine (source : List Char) (number : Int) : Except Fault (Option Command) :=
  let line := bare source
  if line.isEmpty || (labelOf? line).isSome then .ok none
  else (ofText line number).map some

end Command

end EventScript
