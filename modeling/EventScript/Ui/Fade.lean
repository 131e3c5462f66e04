import EventScript.Decimal.Fixed

/-!
The fade of the screen: one transparency between clear and dark that runs towards one end or the
other.
-/

namespace EventScript

structure Fade where
  /-- How far the transparency moves each tick. -/
  rate : Float
  fadingOut : Bool := false
  fadingIn : Bool := false
  transparency : Float := 0

namespace Fade

def setTransparency (f : Fade) (x : Float) : Fade :=
  { f with transparency := Decimal.clip (Decimal.roundPlaces x) 0 1 }

def fadeOut (f : Fade) : Fade := { f with fadingOut := true, fadingIn := false }.setTransparency 0

def fadeIn (f : Fade) : Fade := { f with fadingOut := false, fadingIn := true }.setTransparency 1

def outEnded (f : Fade) : Bool := 1 ≤ f.transparency

def inEnded (f : Fade) : Bool := !f.fadingIn

def update (f : Fade) : Fade :=
  if f.fadingOut && f.transparency < 1 then f.setTransparency (f.transparency + f.rate)
  else if f.fadingIn && 0 < f.transparency then
    let f := f.setTransparency (f.transparency - f.rate)
    if f.transparency ≤ 0 then { f with fadingIn := false } else f
  else f

def reset (f : Fade) : Fade := { f with fadingOut := false, fadingIn := false, transparency := 0 }

end Fade

end EventScript
