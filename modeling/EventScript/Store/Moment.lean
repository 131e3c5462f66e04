import EventScript.Fault
import EventScript.Text.Digit

/-!
Dates and times of a save. They are written as `YYYY-MM-DDTHH:MM:SS`, with six more digits if there
are microseconds, and with a zone behind if they have one. Reading takes every form of the calendar,
week and time notation: with or without separators, with a fraction of a second, with a zone.
-/

namespace EventScript

structure Moment where
  year : Int
  month : Int
  day : Int
  hour : Int := 0
  minute : Int := 0
  second : Int := 0
  microsecond : Int := 0
  deriving DecidableEq

namespace Moment

def isLeap (y : Int) : Bool := y % 4 == 0 && (y % 100 != 0 || y % 400 == 0)

def daysInMonth (y m : Int) : Int :=
  if m = 2 then if isLeap y then 29 else 28
  else if m = 4 ∨ m = 6 ∨ m = 9 ∨ m = 11 then 30 else 31

def isDate (y m d : Int) : Bool :=
  1 ≤ y && y ≤ 9999 && 1 ≤ m && m ≤ 12 && 1 ≤ d && d ≤ daysInMonth y m

def isTime (h mi s us : Int) : Bool :=
  0 ≤ h && h < 24 && 0 ≤ mi && mi < 60 && 0 ≤ s && s < 60 && 0 ≤ us && us < 1000000

def isValid (t : Moment) : Bool :=
  isDate t.year t.month t.day && isTime t.hour t.minute t.second t.microsecond

def parts (t : Moment) : List Int :=
  [t.year, t.month, t.day, t.hour, t.minute, t.second, t.microsecond]

/-- Checks that a moment exists. Parts of more than thirty-two bits are not even looked at. -/
def check (t : Moment) : Except Fault Unit :=
  if t.parts.any fun n => n < -(pow2 31 : Nat) || (pow2 31 : Nat) ≤ n then .error .overflow
  else if t.isValid then .ok ()
  else .error .badDate

def padded (width : Nat) (n : Int) : String :=
  let ds := Nat.toDigits 10 n.toNat
  String.ofList (List.replicate (width - ds.length) '0' ++ ds)

def fractionText (us : Int) : String := if us = 0 then "" else "." ++ padded 6 us

def text (t : Moment) : String :=
  padded 4 t.year ++ "-" ++ padded 2 t.month ++ "-" ++ padded 2 t.day ++ "T" ++ padded 2 t.hour ++
    ":" ++ padded 2 t.minute ++ ":" ++ padded 2 t.second ++ fractionText t.microsecond

def dayLength : Nat := 86400000000

def zoneText (offset : Int) : String :=
  let us := offset.natAbs
  let rest := us % 60000000
  (if offset < 0 then "-" else "+") ++ padded 2 (us / 3600000000 : Nat) ++ ":" ++
    padded 2 (us / 60000000 % 60 : Nat) ++
    if rest = 0 then ""
    else ":" ++ padded 2 (rest / 1000000 : Nat) ++ fractionText (rest % 1000000 : Nat)

end Moment

/-- A moment that may have a zone, in which clocks are some microseconds ahead of universal time. -/
structure Stamp extends Moment where
  offset : Option Int := none

namespace Stamp

instance : Coe Moment Stamp where
  coe t := { t with }

def isValid (t : Stamp) : Bool :=
  t.toMoment.isValid && t.offset.all (·.natAbs < Moment.dayLength)

def text (t : Stamp) : String := t.toMoment.text ++ (t.offset.map Moment.zoneText).getD ""

end Stamp

namespace Moment

def byteAt (bs : List UInt8) (i : Nat) : UInt8 := bs.getD i 0

def isDigitByte (b : UInt8) : Bool := 0x30 ≤ b && b ≤ 0x39

/-- The number written by the `n` bytes from place `i` on, all of which have to be digits. -/
def digitsAt? (bs : List UInt8) (i n : Nat) : Option Nat :=
  let ds := (List.range n).map fun k => byteAt bs (i + k)
  if ds.all isDigitByte then some (ds.foldl (fun v b => 10 * v + (b.toNat - 0x30)) 0) else none

def dash : UInt8 := 0x2D
def colon : UInt8 := 0x3A
def letterW : UInt8 := 0x57
def letterZ : UInt8 := 0x5A

/-- Where the date ends. Week dates without a dash are told apart by the count of digits that
follow. -/
def dateLength (bs : List UInt8) : Option Nat :=
  let n := bs.length
  if n = 7 then some 7
  else if byteAt bs 4 = dash then
    if byteAt bs 5 = letterW then
      if n < 8 then none
      else if 8 < n ∧ byteAt bs 8 = dash then
        if n = 9 then none
        else if 10 < n ∧ isDigitByte (byteAt bs 10) then some 8 else some 10
      else some 8
    else some 10
  else if byteAt bs 4 = letterW then
    let stop := 7 + ((bs.drop 7).takeWhile isDigitByte).length
    if stop < 9 then some stop else if stop % 2 = 0 then some 7 else some 8
  else some 8

def daysBeforeYear (y : Int) : Int := (y - 1) * 365 + (y - 1) / 4 - (y - 1) / 100 + (y - 1) / 400

def newYearWeekday (y : Int) : Int := daysBeforeYear y % 7

def lastDay : Int := 3652059

def isWeekDate (y w d : Int) : Bool :=
  let jan1 := newYearWeekday y
  let long := jan1 == 3 || (jan1 == 2 && isLeap y)
  let monday := daysBeforeYear y + 1 - jan1 + (if 3 < jan1 then 7 else 0)
  let ordinal := monday + (w - 1) * 7 + d - 1
  1 ≤ y && 1 ≤ w && (w < 53 || (w == 53 && long)) && 1 ≤ d && d ≤ 7 && 1 ≤ ordinal &&
    ordinal ≤ lastDay

def isDateText (bs : List UInt8) (n : Nat) : Bool :=
  (do
    let y ← digitsAt? bs 0 4
    let separated := byteAt bs 4 = dash
    let p := if separated then 5 else 4
    if byteAt bs p = letterW then
      let w ← digitsAt? bs (p + 1) 2
      let p := p + 3
      if p < n then
        if separated ∧ byteAt bs p ≠ dash then none
        let d ← digitsAt? bs (if separated then p + 1 else p) 1
        some (isWeekDate y w d)
      else some (isWeekDate y w 1)
    else
      let m ← digitsAt? bs p 2
      if separated ∧ byteAt bs (p + 2) ≠ dash then none
      let d ← digitsAt? bs (if separated then p + 3 else p + 2) 2
      some (isDate y m d) : Option Bool).getD false

/-- Hours, minutes, seconds and microseconds, and whether something follows them. -/
structure ClockText where
  hour : Nat := 0
  minute : Nat := 0
  second : Nat := 0
  microsecond : Nat := 0
  more : Bool := false

def fraction? (bs : List UInt8) (p stop : Nat) : Option (Nat × Bool) := do
  let n := min (stop - p) 6
  let v ← digitsAt? bs p n
  let tail := (bs.drop (p + n)).dropWhile isDigitByte
  some (v * pow10 (6 - n), byteAt tail 0 ≠ 0)

/-- Reads pairs of digits from place `p` up to `stop`; `values` are those already read. The first
pair decides whether pairs are separated by colons. -/
def clockFrom? (bs : List UInt8) (stop : Nat) : Nat → Nat → Bool → List Nat → Option ClockText
  | 0, p, _, values => do
    let (us, more) ← fraction? bs p stop
    some ⟨values.getD 0 0, values.getD 1 0, values.getD 2 0, us, more⟩
  | left + 1, p, separated, values => do
    let v ← digitsAt? bs p 2
    let values := values ++ [v]
    let c := byteAt bs (p + 2)
    let separated := if values.length = 1 then c = colon else separated
    if stop ≤ p + 3 then
      some ⟨values.getD 0 0, values.getD 1 0, values.getD 2 0, 0, c ≠ 0⟩
    else if separated ∧ c = colon then clockFrom? bs stop left (p + 3) separated values
    else if c = 0x2E ∨ c = 0x2C then clockFrom? bs stop 0 (p + 3) separated values
    else if separated then none
    else clockFrom? bs stop left (p + 2) separated values

def clock? (bs : List UInt8) (start stop : Nat) : Option ClockText :=
  clockFrom? bs stop 3 start true []

def isZoneStart (b : UInt8) : Bool := b = 0x2B || b = dash || b = letterZ

/-- Whether the bytes are a time of day, with a zone less than a day away if there is one. -/
def isTimeText (bs : List UInt8) : Bool :=
  let n := bs.length
  let zone := max 1 ((bs.takeWhile fun b => !isZoneStart b).length)
  let zone := if isZoneStart (byteAt bs 0) then 0 else zone
  match clock? bs 0 zone with
  | none => false
  | some t =>
    let inRange := isTime t.hour t.minute t.second t.microsecond
    if zone = n then inRange && !t.more
    else if byteAt bs zone = letterZ then inRange && byteAt bs (zone + 1) = 0
    else
      match clock? bs (zone + 1) n with
      | none => false
      | some z =>
        inRange && !z.more &&
          (z.hour * 3600 + z.minute * 60 + z.second) * 1000000 + z.microsecond < dayLength

def separatorWidth (b : UInt8) : Nat :=
  if b < 0x80 then 1
  else if b &&& 0xF0 = 0xE0 then 3
  else if b &&& 0xF0 = 0xF0 then 4
  else 2

def accepts (bs : List UInt8) : Bool :=
  if bs.length < 7 then false
  else
    match dateLength bs with
    | none => false
    | some n =>
      isDateText bs n &&
        (bs.length ≤ n || isTimeText (bs.drop (n + separatorWidth (byteAt bs n))))

end Moment

end EventScript
