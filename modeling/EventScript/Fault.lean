/-!
Why an operation failed. A script fault costs one command, a fatal one the script instance, and
every other one is unexpected wherever a script runs.
-/

namespace EventScript

inductive ScriptFault where
  | plain
  | parse
  | unknownCommand
  | unresolvedTarget
  | resourceConflict
  deriving DecidableEq

inductive Fault where
  /-- A recoverable failure of one command. -/
  | script (kind : ScriptFault) (text : String)
  /-- Something every script needs is missing. -/
  | fatal (text : String)
  /-- A variable was given something other than an integer, shown as in the message. -/
  | notAnInteger (name shown : String)
  | unknownComparator (comparator : String)
  | backwardJump (cursor : Nat) (target : Int)
  | badStepBudget (steps : Int)
  | builtinName (name : String)
  /-- Two settings trees disagree on what stands at a path. -/
  | mergeConflict (path : List String)
  | wrongMarker (expected : String) (position : Nat) (found : String)
  | shortRead (expected found : Nat)
  /-- An integer has too many digits to be read or written. -/
  | tooManyDigits
  /-- A text is not the number that was asked for. -/
  | notANumber
  | badDate
  /-- A message template names something that is not there or is malformed. -/
  | badTemplate
  | badSettings
  | missingKey
  /-- A value is not of the kind that was needed. -/
  | wrongKind
  /-- Something was looked for behind the end of a text or list. -/
  | pastEnd
  /-- A number does not fit the width or type it is written in. -/
  | overflow
  /-- A number of bytes is negative. -/
  | negativeLength
  /-- Bytes are no text in the expected encoding. -/
  | undecodable
  /-- Nothing says in which order the bytes of a text stand, or the encoding takes none. -/
  | unmarkedText
  | unknownEncoding
  /-- The name of a file or of an encoding holds a zero character. -/
  | embeddedZero
  /-- A path, or one of its parts, is longer than a path can be. -/
  | nameTooLong
  | noSuchFile
  | isDirectory
  /-- A file stands where a directory is wanted. -/
  | fileExists
  | notDirectory
  /-- No number lies in the range to draw from. -/
  | emptyRange
  | badBuyList
  /-- Random numbers cannot start from this. -/
  | badSeed
  /-- An instance was not in the state an operation needs. -/
  | assertion
  /-- The reason of a wait was asked for after the wait had ended. -/
  | noSuspension
  | missingArgument
  /-- Something was to be done to an entity that is not there. -/
  | nobody
  /-- Something was to be done to an entity that cannot do it. -/
  | unfit
  /-- Nothing of this name can be asked for. -/
  | unknownService (name : String)
  | watcherFailed
  /-- Host commands called each other too deeply. -/
  | tooDeep
  /-- A failure the host raised itself, under a name of its own. -/
  | raised (kind text : String)

namespace Fault

def message : Fault → String
  | script _ text => text
  | fatal text => text
  | notAnInteger name shown => s!"variable {name} must be an int, got {shown}"
  | unknownComparator c => "unknown comparator \"" ++ c ++ "\""
  | backwardJump cursor target => s!"cannot jump backward from {cursor} to {target}"
  | badStepBudget n => s!"max_steps_per_tick must be at least 1, got {n}"
  | builtinName name => s!"{name} is a built-in command"
  | mergeConflict path => "Conflict at " ++ ".".intercalate path
  | wrongMarker expected position found =>
    "expected marker \"" ++ expected ++ s!"\" at {position}, got \"" ++ found ++ "\""
  | shortRead expected found => s!"expected {expected} bytes, got {found}"
  | tooManyDigits => "too many digits"
  | notANumber => "not a number"
  | badDate => "not a date"
  | badTemplate => "bad message template"
  | badSettings => "bad settings text"
  | missingKey => "no such key"
  | wrongKind => "value of the wrong kind"
  | pastEnd => "nothing there"
  | overflow => "number too large"
  | negativeLength => "a length is not negative"
  | undecodable => "cannot decode"
  | unmarkedText => "text without a byte order mark"
  | unknownEncoding => "unknown encoding"
  | embeddedZero => "embedded zero character"
  | nameTooLong => "file name too long"
  | noSuchFile => "no such file"
  | isDirectory => "is a directory"
  | fileExists => "file exists"
  | notDirectory => "not a directory"
  | emptyRange => "empty range"
  | badBuyList => "bad buy list"
  | badSeed => "a seed is not negative"
  | assertion => ""
  | noSuspension => "not suspended"
  | missingArgument => "missing argument"
  | nobody => "no such entity"
  | unfit => "entity of the wrong kind"
  | unknownService name => s!"nothing is called {name}"
  | watcherFailed => "observer failed"
  | tooDeep => "host commands nested too deeply"
  | raised _ text => text

end Fault

end EventScript
