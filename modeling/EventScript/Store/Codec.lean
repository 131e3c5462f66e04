import EventScript.Decimal.Power
import EventScript.Fault

/-!
Bytes of a save: integers, highest byte first, of a given width, and texts in UTF-8 after their
length. Reading past the end gives the bytes there are, so that a short integer is read from what is
left of it; a short text is a fault.
-/

namespace EventScript.Codec

def natBytes : Nat → Nat → List UInt8
  | 0, _ => []
  | width + 1, n => natBytes width (n / 256) ++ [UInt8.ofNat n]

def bytesNat (bs : List UInt8) : Nat := bs.foldl (fun n b => 256 * n + b.toNat) 0

def countLimit : Nat := pow2 63

def stringLimit : Nat := countLimit - 33

def width (n : Int) : Except Fault Nat :=
  if n < 0 then .error .negativeLength
  else if stringLimit ≤ n.toNat then .error .overflow
  else .ok n.toNat

def fits (width : Nat) (signed : Bool) (x : Int) : Bool :=
  if signed then
    if width = 0 then x == 0 || x == -1
    else -(pow2 (8 * width - 1) : Nat) ≤ x && x < (pow2 (8 * width - 1) : Nat)
  else 0 ≤ x && x < (pow2 (8 * width) : Nat)

def encodeInt (width : Nat) (signed : Bool) (x : Int) : Except Fault (List UInt8) :=
  if fits width signed x then .ok (natBytes width (x % (pow2 (8 * width) : Nat)).toNat)
  else .error .overflow

def encodeSized (size : Int) (signed : Bool) (x : Int) : Except Fault (List UInt8) :=
  match width size with
  | .ok n => encodeInt n signed x
  | .error e => .error e

/-- The integer that some bytes write; if it is signed, the highest bit of the first byte is a
minus. -/
def decodeInt (signed : Bool) (bs : List UInt8) : Int :=
  let n := bytesNat bs
  if signed && pow2 (8 * bs.length) ≤ 2 * n then (n : Int) - (pow2 (8 * bs.length) : Nat) else n

def utf8 (s : String) : List UInt8 := s.toByteArray.data.toList

def ofUtf8? (bs : List UInt8) : Option String := String.fromUTF8? ⟨bs.toArray⟩

def encodeText (width : Nat) (s : String) : Except Fault (List UInt8) :=
  match encodeInt width false (utf8 s).length with
  | .ok size => .ok (size ++ utf8 s)
  | .error e => .error e

/-- Bytes being read: those that are left and the number already read. -/
structure Cursor where
  rest : List UInt8
  position : Nat := 0

abbrev Reader := EStateM Fault Cursor

namespace Reader

def take (n : Nat) : Reader (List UInt8) := do
  let c ← get
  let bs := c.rest.take n
  set ({ rest := c.rest.drop n, position := c.position + bs.length } : Cursor)
  return bs

/-- The next bytes, as many as asked for or as there are. A negative number asks for all. -/
def takeCount (n : Int) : Reader (List UInt8) := do
  if countLimit ≤ n.natAbs then throw .overflow
  if n < 0 then take (← get).rest.length else take n.toNat

def int (width : Int) (signed : Bool) : Reader Int := do
  let bs ← takeCount width
  return decodeInt signed bs

def text (width : Int) : Reader String := do
  let size := bytesNat (← takeCount width)
  let bs ← takeCount size
  if bs.length ≠ size then throw (.shortRead size bs.length)
  match ofUtf8? bs with
  | some s => return s
  | none => throw .undecodable

def marker (expected : String) : Reader String := do
  let found ← text 2
  if found ≠ expected then throw (.wrongMarker expected (← get).position found)
  return found

end Reader

def run {α : Type} (r : Reader α) (c : Cursor) : Except Fault α × Cursor :=
  match r.run c with
  | .ok a c => (.ok a, c)
  | .error e c => (.error e, c)

end EventScript.Codec
