import EventScript.Datum
import EventScript.Decimal.Read

/-!
The arguments of the command line: one script, and options by their names. A long name may be cut
short as long as it fits one option only; a value may follow its option or stand behind an equals
sign; short options may be written together.
-/

namespace EventScript.Cli

inductive Opt where
  | help | talkText | config | root | map | tickMs | maxTicks | select | seed | loadFrom
  | saveTo | verbose
  deriving DecidableEq

namespace Opt

def all : List Opt := [
  .help, .talkText, .config, .root, .map, .tickMs, .maxTicks, .select, .seed, .loadFrom,
  .saveTo, .verbose]

def names : Opt → List String
  | help => ["-h", "--help"]
  | talkText => ["-t", "--talk-text"]
  | config => ["-c", "--config"]
  | root => ["--root"]
  | map => ["--map"]
  | tickMs => ["--tick-ms"]
  | maxTicks => ["--max-ticks"]
  | select => ["--select"]
  | seed => ["--seed"]
  | loadFrom => ["--variables"]
  | saveTo => ["--save-variables"]
  | verbose => ["-v", "--verbose"]

def takesValue : Opt → Bool
  | help | verbose => false
  | _ => true

def ofName? (s : String) : Option Opt := all.find? (·.names.contains s)

def abbreviated (s : String) : List Opt :=
  all.flatMap fun o => (o.names.filter (s.isPrefixOf ·)).map fun _ => o

end Opt

/-- The value of an option. Two dashes in place of a value leave the option blank. -/
inductive Setting (α : Type) where
  | unset
  | blank
  | value (a : α)

namespace Setting

def text? : Setting String → Option String
  | value s => if s = "" then none else some s
  | _ => none

def value? {α : Type} : Setting α → Option α
  | value a => some a
  | _ => none

def toDatum {α : Type} (f : α → Datum) : Setting α → Datum
  | unset => .null
  | blank => .list []
  | value a => f a

end Setting

structure Arguments where
  script : String := ""
  talkText : Setting String := .unset
  config : Setting String := .unset
  root : Setting String := .unset
  map : Setting String := .unset
  tickMs : Setting Float := .value 16
  maxTicks : Setting Int := .value 100000
  select : Setting Int := .value 0
  seed : Setting Int := .unset
  loadFrom : Setting String := .unset
  saveTo : Setting String := .unset
  verbose : Bool := false

inductive Request where
  | run (args : Arguments)
  | help
  /-- The arguments make no sense. -/
  | misuse

inductive Token where
  | value (s : String)
  /-- An option by its short or long name, alone or with what the word says behind the name. -/
  | option (o : Opt) (isLong : Bool) (attached : Option String)
  | unknown
  /-- Two dashes, behind which everything is a value. -/
  | divider

def splitAssign? (s : String) : Option (String × String) :=
  let name := s.toList.takeWhile (· != '=')
  match s.toList.drop name.length with
  | _ :: value => some (String.ofList name, String.ofList value)
  | [] => none

def isNegativeNumber : List Char → Bool
  | '-' :: cs =>
    let cs := if cs.getLast? = some '\n' then cs.dropLast else cs
    let whole := cs.takeWhile Text.isDigit
    match cs.drop whole.length with
    | [] => !whole.isEmpty
    | '.' :: fraction => !fraction.isEmpty && fraction.all Text.isDigit
    | _ => false
  | _ => false

def isLong (s : String) : Bool := s.startsWith "--"

def startsDashed : List Char → Bool
  | '-' :: _ :: _ => true
  | _ => false

def readings (s : String) : List Token :=
  if isLong s then
    let (name, attached) := match splitAssign? s with
      | some (name, value) => (name, some value)
      | none => (s, none)
    (Opt.abbreviated name).map (.option · true attached)
  else
    match Opt.ofName? (String.ofList (s.toList.take 2)) with
    | some o => [.option o false (some (String.ofList (s.toList.drop 2)))]
    | none => []

def fullName? (s : String) : Option Token :=
  match Opt.ofName? s with
  | some o => some (.option o (isLong s) none)
  | none => do
    let (name, value) ← splitAssign? s
    let o ← Opt.ofName? name
    return .option o (isLong name) (some value)

def token? (s : String) : Option Token :=
  if !startsDashed s.toList then some (.value s)
  else
    match fullName? s with
    | some t => some t
    | none =>
      match readings s with
      | [t] => some t
      | _ :: _ :: _ => none
      | [] =>
        if isNegativeNumber s.toList || s.toList.contains ' ' then some (.value s)
        else some .unknown

def tokens? : List String → Option (List Token)
  | [] => some []
  | s :: rest =>
    if s = "--" then some (.divider :: rest.map .value)
    else do
      let t ← token? s
      return t :: (← tokens? rest)

structure Draft where
  args : Arguments := {}
  script : Option String := none
  /-- Whether there was something that nothing asked for. -/
  surplus : Bool := false

def setting? {α : Type} (read? : String → Option α) (s : String) : Option (Setting α) :=
  if s = "--" then some .blank else (read? s).map .value

def readNumber? (s : String) : Option Int := Text.readInteger? s.toList

def Arguments.set? (a : Arguments) (o : Opt) (s : String) : Option Arguments :=
  match o with
  | .talkText => (setting? some s).map ({ a with talkText := · })
  | .config => (setting? some s).map ({ a with config := · })
  | .root => (setting? some s).map ({ a with root := · })
  | .map => (setting? some s).map ({ a with map := · })
  | .tickMs => (setting? (Decimal.read? ·.toList) s).map ({ a with tickMs := · })
  | .maxTicks => (setting? readNumber? s).map ({ a with maxTicks := · })
  | .select => (setting? readNumber? s).map ({ a with select := · })
  | .seed => (setting? readNumber? s).map ({ a with seed := · })
  | .loadFrom => (setting? some s).map ({ a with loadFrom := · })
  | .saveTo => (setting? some s).map ({ a with saveTo := · })
  | .verbose => some { a with verbose := true }
  | .help => some a

/-- Options named in one word: flags, and a last one with the value that is part of the word. -/
structure Group where
  flags : List Opt := []
  last : Opt
  attached : Option String := none

/-- An option and the letters behind it. They are the value of an option that takes one; behind a
flag they are short options themselves. -/
def Group.ofLetters? : Opt → List Char → Option Group
  | o, [] => some { last := o }
  | o, c :: cs =>
    if o.takesValue then some { last := o, attached := some (String.ofList (c :: cs)) }
    else do
      let next ← Opt.ofName? (String.ofList ['-', c])
      let g ← ofLetters? next cs
      return { g with flags := o :: g.flags }

/-- The options of a token. A flag has nothing behind its long name or behind an equals sign that
nothing follows. -/
def Group.ofToken? : Token → Option Group
  | .option o _ none => some { last := o }
  | .option o isLong (some s) =>
    if o.takesValue then some { last := o, attached := some s }
    else if isLong || s = "" then none
    else ofLetters? o s.toList
  | _ => none

def Draft.finish (d : Draft) : Request :=
  match d.script with
  | none => .misuse
  | some script => if d.surplus then .misuse else .run { d.args with script }

def Draft.flag (d : Draft) (o : Opt) : Draft :=
  { d with args := if o = .verbose then { d.args with verbose := true } else d.args }

def Draft.setFlags (d : Draft) (flags : List Opt) : Draft := flags.foldl Draft.flag d

/-- Reads the tokens in their order. The first value is the script; asking for help ends
everything. -/
def readTokens : Draft → List Token → Request
  | d, [] => d.finish
  | d, .value s :: rest =>
    match d.script, rest with
    | none, .divider :: rest => readTokens { d with script := some s } rest
    | none, rest => readTokens { d with script := some s } rest
    | some _, rest => readTokens { d with surplus := true } rest
  | d, .divider :: rest =>
    if d.script.isNone then readTokens d rest else readTokens { d with surplus := true } rest
  | d, .unknown :: rest => readTokens { d with surplus := true } rest
  | d, t :: rest =>
    match Group.ofToken? t with
    | none => .misuse
    | some ⟨flags, last, attached⟩ =>
      let d := d.setFlags flags
      let help := flags.contains .help || last = .help
      match last.takesValue, attached, rest with
      | false, _, rest => if help then .help else readTokens (d.flag last) rest
      | true, some s, rest =>
        match help, d.args.set? last s with
        | true, _ => .help
        | false, some args => readTokens { d with args } rest
        | false, none => .misuse
      | true, none, .value s :: rest =>
        match help, d.args.set? last s with
        | true, _ => .help
        | false, some args => readTokens { d with args } rest
        | false, none => .misuse
      | true, none, _ => .misuse

def readArguments (argv : List String) : Request :=
  match tokens? argv with
  | some ts => readTokens {} ts
  | none => .misuse

end EventScript.Cli
