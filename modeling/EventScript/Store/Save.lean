import EventScript.Store.Basic
import EventScript.Store.Codec
import EventScript.Store.Moment

/-!
Saved variables: a marker, the date, the number of variables, each name with its value in eight
bytes, and a second marker.
-/

namespace EventScript.Save

open Codec

def openingMarker : String := "variables"
def closingMarker : String := "variables end"

abbrev Writer := EStateM Fault (List UInt8)

def emit (part : Except Fault (List UInt8)) : Writer Nat := do
  match part with
  | .ok bs =>
    modify (· ++ bs)
    return bs.length
  | .error e => throw e

def writePairs : List (String × Int) → Writer Nat
  | [] => return 0
  | (k, v) :: rest => do
    let name ← emit (encodeText 2 k)
    let value ← emit (encodeInt 8 true v)
    return name + value + (← writePairs rest)

def write (s : Store) (date : Stamp) : Writer Nat := do
  let opening ← emit (encodeText 2 openingMarker)
  let saved ← emit (encodeText 2 date.text)
  let count ← emit (encodeInt 4 false s.length)
  let pairs ← writePairs s
  let closing ← emit (encodeText 2 closingMarker)
  return opening + saved + count + pairs + closing

def written {α : Type} (p : Writer α) : Except Fault α × List UInt8 :=
  match p.run [] with
  | .ok a bs => (.ok a, bs)
  | .error e bs => (.error e, bs)

def save (s : Store) (date : Stamp) : Except Fault Nat × List UInt8 := written (write s date)

def readPairs : Nat → Store → Reader Store
  | 0, s => return s
  | n + 1, s => do
    let k ← Reader.text 2
    let v ← Reader.int 8 true
    readPairs n (s.assign k v)

def read : Reader Store := do
  let _ ← Reader.marker openingMarker
  let date ← Reader.text 2
  if !Moment.accepts (utf8 date) then throw .badDate
  let count ← Reader.int 4 false
  let s ← readPairs count.toNat []
  let _ ← Reader.marker closingMarker
  return s

def load (bs : List UInt8) : Except Fault Store × Cursor := Codec.run read { rest := bs }

/-- Replaces the variables of a store if the bytes can be read, and leaves it alone otherwise. -/
def loadInto (s : Store) (bs : List UInt8) : Except Fault Unit × Store :=
  match load bs with
  | (.ok loaded, _) => (.ok (), loaded)
  | (.error e, _) => (.error e, s)

end EventScript.Save
