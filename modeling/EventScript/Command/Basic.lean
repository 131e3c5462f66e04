import EventScript.Command.Verb
import EventScript.Condition

/-!
Commands: one line of a script, checked against the signature of its verb. A line that fails the
check is kept as a command with an error.
-/

namespace EventScript

inductive LineError where
  | unparsable (line : String)
  | arity (name : String) (least most given : Nat)
  | notInteger (token : String)
  | notVariable (token : String)
  | notLabel (token : String)
  | elseAlone
  | endIfAlone
  | unknownLabel (label : String)
  | backwardLabel (label : String)
  deriving DecidableEq

namespace LineError

def message : LineError → String
  | unparsable line => "cannot parse \"" ++ line ++ "\""
  | arity name least most given => s!"{name} takes {least} to {most} arguments, got {given}"
  | notInteger token => "expected an integer, got \"" ++ token ++ "\""
  | notVariable token => "expected a variable, got \"" ++ token ++ "\""
  | notLabel token => "expected a label, got \"" ++ token ++ "\""
  | elseAlone => "Else without matching If"
  | endIfAlone => "EndIf without matching If"
  | unknownLabel label => "unknown label @" ++ label
  | backwardLabel label => "backward jump to @" ++ label

end LineError

/-- What a line asks for: a built-in command, one that only the host may know, or nothing that can
be made out. -/
inductive CommandKind where
  | builtin (verb : Verb)
  | unknown
  | invalid
  deriving DecidableEq

namespace CommandKind

def ofName (s : String) : CommandKind :=
  match Verb.ofName? s with
  | some v => builtin v
  | none => unknown

def tag : CommandKind → String
  | builtin v => v.tag
  | unknown => "UNKNOWN"
  | invalid => "INVALID"

end CommandKind

inductive Arg where
  | text (s : String)
  | int (n : Int)
  | var (x : String)
  | label (l : String)
  | condition (c : Condition)
  deriving DecidableEq

def Arg.type : Arg → ArgType
  | text _ => .text
  | int _ => .int
  | var _ => .var
  | label _ => .label
  | condition _ => .condition

structure Command where
  kind : CommandKind
  name : String
  /-- The parameters as written, without their quotes. -/
  params : List String := []
  args : List Arg := []
  line : Int := 0
  error : Option LineError := none
  /-- Where `If`, `Else` and `Goto` jump to. -/
  target : Option Nat := none
  deriving DecidableEq

namespace Command

def isValid (c : Command) : Bool := c.error.isNone

def shown (c : Command) : String :=
  c.name ++ "(" ++ ", ".intercalate c.params ++ ")@" ++ toString c.line

end Command

end EventScript
