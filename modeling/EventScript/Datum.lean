import EventScript.Decimal.Read
import EventScript.Decimal.Shortest
import EventScript.Fault
import EventScript.Ledger
import EventScript.Text.Digit
import EventScript.Text.Quoted

/-!
Values whose kind is known only when the program runs: settings, replies of a host, values offered
to a variable. Main operation: a settings tree is merged into another, key by key.
-/

namespace EventScript

inductive Datum where
  | null
  | bool (b : Bool)
  | int (n : Int)
  | real (x : Float)
  | text (s : String)
  | list (ds : List Datum)
  | table (entries : List (String × Datum))
  /-- A table whose entries are read as fields. -/
  | record (fields : List (String × Datum))
  deriving Inhabited

inductive DatumKind where
  | null | bool | int | real | text | list | table | record
  deriving DecidableEq

namespace Datum

def kind : Datum → DatumKind
  | null => .null
  | bool _ => .bool
  | int _ => .int
  | real _ => .real
  | text _ => .text
  | list _ => .list
  | table _ => .table
  | record _ => .record

mutual

def shown : Datum → String
  | null => "None"
  | bool b => if b then "True" else "False"
  | int n => toString n
  | real x => Decimal.shown x
  | text s => Text.quoted s
  | list ds => "[" ++ ", ".intercalate (shownList ds) ++ "]"
  | table es => "\x7b" ++ ", ".intercalate (shownEntries es) ++ "\x7d"
  | record es => "\x7b" ++ ", ".intercalate (shownEntries es) ++ "\x7d"

def shownList : List Datum → List String
  | [] => []
  | d :: ds => shown d :: shownList ds

def shownEntries : List (String × Datum) → List String
  | [] => []
  | (k, d) :: es => (Text.quoted k ++ ": " ++ shown d) :: shownEntries es

end

mutual

def isPrintable : Datum → Bool
  | int n => !Text.exceedsDigitLimit n
  | list ds => arePrintable ds
  | table es => entriesPrintable es
  | record es => entriesPrintable es
  | _ => true

def arePrintable : List Datum → Bool
  | [] => true
  | d :: ds => isPrintable d && arePrintable ds

def entriesPrintable : List (String × Datum) → Bool
  | [] => true
  | (_, d) :: es => isPrintable d && entriesPrintable es

end

def plain : Datum → String
  | text s => s
  | d => shown d

def isTruthy : Datum → Bool
  | null => false
  | bool b => b
  | int n => n ≠ 0
  | real x => x != 0
  | text s => s ≠ ""
  | list ds => !ds.isEmpty
  | table es => !es.isEmpty
  | record _ => true

/-- A value as a double. An integer may be too large for one, and a text has to write one. -/
def toReal : Datum → Except Fault Float
  | real x => .ok x
  | bool b => .ok (if b then 1 else 0)
  | int n =>
    match Decimal.ofInt? n with
    | some x => .ok x
    | none => .error .overflow
  | text s =>
    match Decimal.read? s.toList with
    | some x => .ok x
    | none => .error .notANumber
  | _ => .error .wrongKind

/-- Merges the entries of `b` into `a` in their order: tables are merged, other values replaced by
values of their own kind, new keys added. At the first entry of a different kind it stops with the
path of that entry, and what came before it stays merged. -/
def mergeInto (path : List String) (a : Ledger String Datum) :
    List (String × Datum) → Ledger String Datum × Option (List String)
  | [] => (a, none)
  | (k, v) :: rest =>
    match a.get? k, v with
    | none, v => mergeInto path (a.put k v) rest
    | some (.table as), .table bs =>
      match mergeInto (path ++ [k]) as bs with
      | (m, some conflict) => (a.put k (.table m), some conflict)
      | (m, none) => mergeInto path (a.put k (.table m)) rest
    | some w, v =>
      if w.kind = v.kind then mergeInto path (a.put k v) rest else (a, some (path ++ [k]))

mutual

def toRecord : Datum → Datum
  | table es => record (recordEntries es)
  | d => d

def recordEntries : List (String × Datum) → List (String × Datum)
  | [] => []
  | (k, d) :: es => (k, toRecord d) :: recordEntries es

end

def at? (d : Datum) : List String → Option Datum
  | [] => some d
  | k :: ks =>
    match d with
    | table es => (Ledger.get? es k).bind (at? · ks)
    | _ => none

end Datum

end EventScript
