import EventScript.Datum
import EventScript.Text.Digit

/-!
The variables as a host sees them: any value may be offered, and writing checks that it is an
integer. Adding does not check, so that it can leave a number that is none.
-/

namespace EventScript

abbrev Sheet := Ledger String Datum

namespace Sheet

inductive Op where
  | set (name : String) (value : Datum)
  | item (name : String)
  | get (name : String) (default : Datum)
  | delete (name : String)
  | has (name : String)
  | size
  | names
  | assign (name : String) (value : Datum)
  | add (name : String) (value : Datum)
  | reset
  | replace (pairs : List (String × Datum))
  | pop (name : String) (default : Option Datum)
  | popOldest
  | clear
  | setDefault (name : String) (value : Datum)
  | update (pairs : List (String × Datum))
  | equals (pairs : List (String × Datum))

def set (s : Sheet) (name : String) : Datum → Except Fault Sheet
  | .int n => .ok (Ledger.put s name (.int n))
  | d => .error (.notAnInteger name d.shown)

def setAll (s : Sheet) : List (String × Datum) → Except Fault Unit × Sheet
  | [] => (.ok (), s)
  | (k, v) :: rest =>
    match s.set k v with
    | .ok s' => setAll s' rest
    | .error e => (.error e, s)

def ofPairs? (ps : List (String × Datum)) : Except Fault Sheet :=
  match setAll [] (Ledger.ofPairs ps) with
  | (.ok (), s) => .ok s
  | (.error e, _) => .error e

def sum : Datum → Datum → Except Fault Datum
  | .int a, .int b => .ok (.int (a + b))
  | .int a, .bool b => .ok (.int (a + if b then 1 else 0))
  | .int a, .real y =>
    match Decimal.ofInt? a with
    | some x => .ok (.real (x + y))
    | none => .error .overflow
  | .real x, .int b =>
    match Decimal.ofInt? b with
    | some y => .ok (.real (x + y))
    | none => .error .overflow
  | .real x, .bool b => .ok (.real (x + if b then 1 else 0))
  | .real x, .real y => .ok (.real (x + y))
  | _, _ => .error .wrongKind

def add (s : Sheet) (name : String) (value : Datum) : Except Fault Datum × Sheet :=
  let s := if Ledger.has s name then s else Ledger.put s name (.int 0)
  match sum ((Ledger.get? s name).getD (.int 0)) value with
  | .error e => (.error e, s)
  | .ok total =>
    let s := Ledger.put s name total
    if value.isPrintable && total.isPrintable then (.ok total, s) else (.error .tooManyDigits, s)

/-- Equality of the values a sheet can hold; numbers of different kinds compare by value. -/
def same : Datum → Datum → Bool
  | .int a, .int b => a == b
  | .int a, .bool b => a == if b then 1 else 0
  | .bool a, .bool b => a == b
  | .real x, .real y => x == y
  | .int a, .real y =>
    match Decimal.parts? y with
    | none => false
    | some p =>
      let (n, d) := p.ratio
      a * d == if p.negative then -(n : Int) else n
  | .real x, .int b =>
    match Decimal.parts? x with
    | none => false
    | some p =>
      let (n, d) := p.ratio
      b * d == if p.negative then -(n : Int) else n
  | .real x, .bool b => x == if b then 1 else 0
  | .text a, .text b => a == b
  | _, _ => false

def equals (s : Sheet) (other : Ledger String Datum) : Bool :=
  s.length == other.length &&
    s.all fun (k, v) => match Ledger.get? other k with
      | some w => same v w
      | none => false

def run (s : Sheet) : Op → Except Fault Datum × Sheet
  | .set k v =>
    match s.set k v with
    | .ok s' => (.ok .null, s')
    | .error e => (.error e, s)
  | .item k =>
    match Ledger.get? s k with
    | some v => (.ok v, s)
    | none => (.error .missingKey, s)
  | .get k d => (.ok ((Ledger.get? s k).getD d), s)
  | .delete k => if Ledger.has s k then (.ok .null, Ledger.erase s k) else (.error .missingKey, s)
  | .has k => (.ok (.bool (Ledger.has s k)), s)
  | .size => (.ok (.int s.length), s)
  | .names => (.ok (.list ((Ledger.keys s).map .text)), s)
  | .assign k v =>
    if v.isPrintable then
      match s.set k v with
      | .ok s' => (.ok .null, s')
      | .error e => (.error e, s)
    else (.error .tooManyDigits, s)
  | .add k v => s.add k v
  | .reset | .clear => (.ok .null, [])
  | .replace ps =>
    match setAll [] (Ledger.ofPairs ps) with
    | (.ok (), s') => (.ok .null, s')
    | (.error e, s') => (.error e, s')
  | .pop k d =>
    match Ledger.get? s k, d with
    | some v, _ => (.ok v, Ledger.erase s k)
    | none, some d => (.ok d, s)
    | none, none => (.error .missingKey, s)
  | .popOldest =>
    match s with
    | [] => (.error .missingKey, s)
    | (k, v) :: rest => (.ok (.list [.text k, v]), rest)
  | .setDefault k v =>
    match Ledger.get? s k with
    | some w => (.ok w, s)
    | none =>
      match s.set k v with
      | .ok s' => (.ok v, s')
      | .error e => (.error e, s)
  | .update ps =>
    match setAll s (Ledger.ofPairs ps) with
    | (.ok (), s') => (.ok .null, s')
    | (.error e, s') => (.error e, s')
  | .equals ps =>
    match ofPairs? ps with
    | .ok other => (.ok (.bool (s.equals other)), s)
    | .error e => (.error e, s)

end Sheet

end EventScript
