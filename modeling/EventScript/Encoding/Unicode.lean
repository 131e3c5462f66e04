import EventScript.Fault

/-!
The encodings of all characters in units of one, two or four bytes. The bytes of a unit stand in
either order; where the encoding leaves the order open, a mark at the start of the text tells it.
-/

namespace EventScript.Encoding

inductive ByteOrder where
  | little
  | big
  deriving DecidableEq

def ByteOrder.number (order : ByteOrder) (bs : List UInt8) : Nat :=
  let highestFirst : List UInt8 := match order with
    | .little => bs.reverse
    | .big => bs
  highestFirst.foldl (fun n b => 256 * n + b.toNat) 0

def isHighSurrogate (u : Nat) : Bool := 0xD800 ≤ u && u < 0xDC00

def isLowSurrogate (u : Nat) : Bool := 0xDC00 ≤ u && u < 0xE000

def units16? (order : ByteOrder) : List UInt8 → Option (List Nat)
  | [] => some []
  | [_] => none
  | a :: b :: rest => (units16? order rest).map (order.number [a, b] :: ·)

def ofUnits16? : List Nat → Option (List Char)
  | [] => some []
  | [u] => if isHighSurrogate u || isLowSurrogate u then none else some [Char.ofNat u]
  | u :: v :: rest =>
    if isHighSurrogate u then
      if isLowSurrogate v then
        (ofUnits16? rest).map (Char.ofNat (0x10000 + (u - 0xD800) * 1024 + (v - 0xDC00)) :: ·)
      else none
    else if isLowSurrogate u then none
    else (ofUnits16? (v :: rest)).map (Char.ofNat u :: ·)

def decode16? (order : ByteOrder) (bs : List UInt8) : Option (List Char) :=
  (units16? order bs).bind ofUnits16?

def decode32? (order : ByteOrder) : List UInt8 → Option (List Char)
  | [] => some []
  | a :: b :: c :: d :: rest =>
    let u := order.number [a, b, c, d]
    if u.isValidChar then (decode32? order rest).map (Char.ofNat u :: ·) else none
  | _ => none

/-- A text whose byte order is told by a mark. Only a text without any bytes can do without it. -/
def decodeMarked (little big : List UInt8) (decode? : ByteOrder → List UInt8 → Option (List Char))
    (bs : List UInt8) : Except Fault (List Char) :=
  let (order, body, marked) :=
    if little.isPrefixOf bs then (ByteOrder.little, bs.drop little.length, true)
    else if big.isPrefixOf bs then (.big, bs.drop big.length, true)
    else (.little, bs, bs.isEmpty)
  match decode? order body with
  | none => .error .undecodable
  | some cs => if marked then .ok cs else .error .unmarkedText

def decodeMarked16 : List UInt8 → Except Fault (List Char) :=
  decodeMarked [0xFF, 0xFE] [0xFE, 0xFF] decode16?

def decodeMarked32 : List UInt8 → Except Fault (List Char) :=
  decodeMarked [0xFF, 0xFE, 0, 0] [0, 0, 0xFE, 0xFF] decode32?

end EventScript.Encoding
