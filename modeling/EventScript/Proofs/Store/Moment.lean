import EventScript.Proofs.Store.Digits
import Mathlib.Data.List.TakeWhile
import Mathlib.Tactic.Lift

/-! A date that exists can be read from the text that is written for it. -/

namespace EventScript.Moment

open Codec

/-! ### Dates -/

lemma ne_of_isDigitByte {b c : UInt8} (hb : isDigitByte b = true) (hc : isDigitByte c = false) :
    b ≠ c := by
  rintro rfl
  rw [hb] at hc
  cases hc

def dateBytes (y m d : Nat) : List UInt8 :=
  digitBytes 4 y ++ dash :: (digitBytes 2 m ++ dash :: digitBytes 2 d)

lemma byteAt_dateBytes (y m d : Nat) (ys : List UInt8) :
    byteAt (dateBytes y m d ++ ys) 4 = dash ∧ byteAt (dateBytes y m d ++ ys) 7 = dash ∧
      byteAt (dateBytes y m d ++ ys) 5 ≠ letterW :=
  ⟨rfl, rfl, ne_of_isDigitByte (isDigitByte_digitByte (Nat.mod_lt _ (by decide))) rfl⟩

lemma dateLength_dateBytes (y m d : Nat) {ys : List UInt8} :
    dateLength (dateBytes y m d ++ ys) = some 10 := by
  obtain ⟨h4, -, h5⟩ := byteAt_dateBytes y m d ys
  have hlength : (dateBytes y m d ++ ys).length ≠ 7 := by
    simp [dateBytes]
    omega
  unfold dateLength
  rw [if_neg hlength, if_pos h4, if_neg h5]

lemma isDateText_dateBytes {y m d : Nat} (hy : y < pow10 4) (hm : m < pow10 2) (hd : d < pow10 2)
    (ys : List UInt8) : isDateText (dateBytes y m d ++ ys) 10 = isDate y m d := by
  obtain ⟨h4, h7, h5⟩ := byteAt_dateBytes y m d ys
  have hyear : digitsAt? (dateBytes y m d ++ ys) 0 4 = some y := by
    have h := digitsAt?_append [] (dash :: (digitBytes 2 m ++ dash :: digitBytes 2 d) ++ ys) hy
    simpa [dateBytes] using h
  have hmonth : digitsAt? (dateBytes y m d ++ ys) 5 2 = some m := by
    have h := digitsAt?_append (digitBytes 4 y ++ [dash]) (dash :: digitBytes 2 d ++ ys) hm
    simpa [dateBytes] using h
  have hday : digitsAt? (dateBytes y m d ++ ys) 8 2 = some d := by
    have h := digitsAt?_append (digitBytes 4 y ++ dash :: (digitBytes 2 m ++ [dash])) ys hd
    simpa [dateBytes] using h
  unfold isDateText
  simp [hyear, hmonth, hday, h4, h5, h7]

/-! ### Times -/

section Clock

variable {bs : List UInt8} {stop p left v : Nat} {values : List Nat}

lemma clockFrom?_colon (hv : digitsAt? bs p 2 = some v) (hc : byteAt bs (p + 2) = colon)
    (hstop : p + 3 < stop) :
    clockFrom? bs stop (left + 1) p true values =
      clockFrom? bs stop left (p + 3) true (values ++ [v]) := by
  simp [clockFrom?, hv, hc, Nat.not_le.mpr hstop]

lemma clockFrom?_end (hv : digitsAt? bs p 2 = some v) (hstop : stop ≤ p + 3) (separated : Bool) :
    clockFrom? bs stop (left + 1) p separated values =
      some ⟨(values ++ [v]).getD 0 0, (values ++ [v]).getD 1 0, (values ++ [v]).getD 2 0, 0,
        byteAt bs (p + 2) ≠ 0⟩ := by
  simp [clockFrom?, hv, hstop]

lemma clockFrom?_dot {us : Nat} {more : Bool} (hv : digitsAt? bs p 2 = some v)
    (hc : byteAt bs (p + 2) = 0x2E) (hstop : p + 3 < stop)
    (hf : fraction? bs (p + 3) stop = some (us, more)) (separated : Bool) :
    clockFrom? bs stop (left + 1) p separated values =
      some ⟨(values ++ [v]).getD 0 0, (values ++ [v]).getD 1 0, (values ++ [v]).getD 2 0, us,
        more⟩ := by
  have hdot : (0x2E : UInt8) ≠ colon := by decide
  simp [clockFrom?, hv, hc, Nat.not_le.mpr hstop, hdot, hf]

end Clock

def clockBytes (h mi s : Nat) (ys : List UInt8) : List UInt8 :=
  digitBytes 2 h ++ colon :: (digitBytes 2 mi ++ colon :: (digitBytes 2 s ++ ys))

def fractionBytes (us : Nat) : List UInt8 := if us = 0 then [] else 0x2E :: digitBytes 6 us

variable {h mi s us : Nat} {zs : List UInt8}

lemma fraction?_six (xs : List UInt8) (hus : us < pow10 6)
    (hzs : isDigitByte (byteAt zs 0) = false) :
    fraction? (xs ++ (digitBytes 6 us ++ zs)) xs.length (xs.length + 6) =
      some (us, decide (byteAt zs 0 ≠ 0)) := by
  have hdigits := digitsAt?_append xs zs hus
  have hrest : (xs ++ (digitBytes 6 us ++ zs)).drop (xs.length + 6) = zs := by
    rw [← List.append_assoc]
    exact List.drop_left' (by simp)
  have hnone : zs.dropWhile isDigitByte = zs := by
    cases zs with
    | nil => rfl
    | cons b zs => exact List.dropWhile_cons_of_neg (Bool.eq_false_iff.mp hzs)
  unfold fraction?
  simp [hdigits, hrest, hnone, pow10]

lemma clock?_clockBytes (xs zs : List UInt8) (hh : h < pow10 2) (hmi : mi < pow10 2)
    (hs : s < pow10 2) (hus : us < pow10 6) (hzs : isDigitByte (byteAt zs 0) = false) :
    clock? (xs ++ (clockBytes h mi s (fractionBytes us) ++ zs)) xs.length
      (xs.length + (clockBytes h mi s (fractionBytes us)).length) =
        some ⟨h, mi, s, us, byteAt zs 0 ≠ 0⟩ := by
  set bs := xs ++ (clockBytes h mi s (fractionBytes us) ++ zs) with hbs
  have hlength : (clockBytes h mi s (fractionBytes us)).length = 8 + (fractionBytes us).length := by
    simp [clockBytes]
    omega
  have hhour : digitsAt? bs xs.length 2 = some h := by
    have h' := digitsAt?_append xs
      (colon :: (digitBytes 2 mi ++ colon :: (digitBytes 2 s ++ fractionBytes us)) ++ zs) hh
    simpa [hbs, clockBytes] using h'
  have hminute : digitsAt? bs (xs.length + 3) 2 = some mi := by
    have h' := digitsAt?_append (xs ++ (digitBytes 2 h ++ [colon]))
      (colon :: (digitBytes 2 s ++ fractionBytes us) ++ zs) hmi
    simpa [hbs, clockBytes] using h'
  have hsecond : digitsAt? bs (xs.length + 6) 2 = some s := by
    have h' := digitsAt?_append (xs ++ (digitBytes 2 h ++ colon :: (digitBytes 2 mi ++ [colon])))
      (fractionBytes us ++ zs) hs
    simpa [hbs, clockBytes] using h'
  have hcolon : byteAt bs (xs.length + 2) = colon := byteAt_append xs _ 2
  have hcolon' : byteAt bs (xs.length + 3 + 2) = colon := byteAt_append xs _ 5
  -- Hours and minutes end at their colons; the seconds at a dot, or at the end.
  unfold clock?
  rw [hlength, clockFrom?_colon hhour hcolon (by omega),
    clockFrom?_colon hminute hcolon' (by omega)]
  have hbehind : byteAt bs (xs.length + 6 + 2) = byteAt (fractionBytes us ++ zs) 0 := by
    rw [hbs]
    exact byteAt_append xs _ 8
  by_cases hzero : us = 0
  · subst hzero
    rw [clockFrom?_end hsecond (by simp [fractionBytes]), hbehind]
    rfl
  · have hfraction : fractionBytes us = 0x2E :: digitBytes 6 us := if_neg hzero
    have hdot : byteAt bs (xs.length + 6 + 2) = 0x2E := by
      rw [hbehind, hfraction]
      rfl
    have hbytes : bs = (xs ++ clockBytes h mi s [0x2E]) ++ (digitBytes 6 us ++ zs) := by
      simp [hbs, clockBytes, hfraction]
    have hplace : (xs ++ clockBytes h mi s [0x2E]).length = xs.length + 6 + 3 := by
      simp [clockBytes]
    have hsix := fraction?_six (xs ++ clockBytes h mi s [0x2E]) hus hzs
    rw [← hbytes, hplace] at hsix
    rw [hfraction, List.length_cons, length_digitBytes]
    exact clockFrom?_dot hsecond hdot (by omega) hsix true

/-! ### Zones -/

def zoneBytes (sign : UInt8) (h mi s us : Nat) : List UInt8 :=
  sign :: if s = 0 ∧ us = 0 then digitBytes 2 h ++ colon :: digitBytes 2 mi
    else clockBytes h mi s (fractionBytes us)

def IsSign (b : UInt8) : Prop := b = 0x2B ∨ b = dash

inductive IsZone : List UInt8 → Prop
  | none : IsZone []
  | away (sign : UInt8) (h mi s us : Nat) : IsSign sign → h < pow10 2 → mi < pow10 2 →
    s < pow10 2 → us < pow10 6 → (h * 3600 + mi * 60 + s) * 1000000 + us < dayLength →
    IsZone (zoneBytes sign h mi s us)

lemma clock?_zone (xs : List UInt8) (hh : h < pow10 2) (hmi : mi < pow10 2)
    (hs : s < pow10 2) (hus : us < pow10 6) (sign : UInt8) :
    let bs := xs ++ zoneBytes sign h mi s us
    clock? bs (xs.length + 1) bs.length = some ⟨h, mi, s, us, false⟩ := by
  intro bs
  by_cases hzero : s = 0 ∧ us = 0
  · obtain ⟨rfl, rfl⟩ := hzero
    have hbs : bs = (xs ++ [sign]) ++ (digitBytes 2 h ++ colon :: digitBytes 2 mi) := by
      simp [bs, zoneBytes]
    have hlength : bs.length = xs.length + 6 := by simp [hbs]
    have hhour : digitsAt? bs (xs.length + 1) 2 = some h := by
      have h' := digitsAt?_append (xs ++ [sign]) (colon :: digitBytes 2 mi) hh
      simpa [hbs] using h'
    have hminute : digitsAt? bs (xs.length + 1 + 3) 2 = some mi := by
      have h' := digitsAt?_append (xs ++ sign :: (digitBytes 2 h ++ [colon])) [] hmi
      simpa [hbs] using h'
    have hcolon : byteAt bs (xs.length + 1 + 2) = colon := byteAt_append xs _ 3
    have hend : byteAt bs (xs.length + 1 + 3 + 2) = 0 := byteAt_append xs _ 6
    unfold clock?
    rw [clockFrom?_colon hhour hcolon (by omega), clockFrom?_end hminute (by omega), hend]
    rfl
  · have hbs : bs = (xs ++ [sign]) ++ (clockBytes h mi s (fractionBytes us) ++ []) := by
      simp [bs, zoneBytes, hzero]
    have hclock := clock?_clockBytes (xs ++ [sign]) [] hh hmi hs hus rfl
    rw [← hbs] at hclock
    have hlength : bs.length =
        (xs ++ [sign]).length + (clockBytes h mi s (fractionBytes us)).length := by
      rw [hbs, List.append_nil, List.length_append]
    rw [hlength]
    simpa [byteAt] using hclock

lemma isZoneStart_of_isDigitByte {b : UInt8} (hb : isDigitByte b = true) : isZoneStart b = false := by
  simp [isZoneStart, ne_of_isDigitByte hb (c := 0x2B) rfl, ne_of_isDigitByte hb (c := dash) rfl,
    ne_of_isDigitByte hb (c := letterZ) rfl]

lemma isZoneStart_clockBytes {h mi s us : Nat} {b : UInt8}
    (hb : b ∈ clockBytes h mi s (fractionBytes us)) : isZoneStart b = false := by
  have hdigit {width n : Nat} (hb : b ∈ digitBytes width n) : isZoneStart b = false :=
    isZoneStart_of_isDigitByte (isDigitByte_of_mem hb)
  have hfraction (hb : b ∈ fractionBytes us) : isZoneStart b = false := by
    unfold fractionBytes at hb
    split at hb
    · cases hb
    · rcases List.mem_cons.mp hb with rfl | hb
      · rfl
      · exact hdigit hb
  simp only [clockBytes, List.mem_append, List.mem_cons] at hb
  rcases hb with hb | rfl | hb | rfl | hb | hb
  · exact hdigit hb
  · rfl
  · exact hdigit hb
  · rfl
  · exact hdigit hb
  · exact hfraction hb

lemma takeWhile_clockBytes (h mi s us : Nat) (zs : List UInt8)
    (hzs : zs = [] ∨ isZoneStart (byteAt zs 0) = true) :
    (clockBytes h mi s (fractionBytes us) ++ zs).takeWhile (fun b => !isZoneStart b) =
      clockBytes h mi s (fractionBytes us) := by
  rw [List.takeWhile_append_of_pos fun b hb => by simp [isZoneStart_clockBytes hb]]
  rcases hzs with rfl | hzs
  · simp
  · cases zs with
    | nil => simp
    | cons b zs =>
      rw [List.takeWhile_cons_of_neg (by simpa [byteAt] using hzs), List.append_nil]

lemma IsSign.isZoneStart {b : UInt8} (hb : IsSign b) :
    isZoneStart b = true ∧ b ≠ letterZ ∧ isDigitByte b = false := by
  rcases hb with rfl | rfl <;> decide

lemma isTimeText_clockBytes (hh : h < pow10 2) (hmi : mi < pow10 2) (hs : s < pow10 2)
    (hus : us < pow10 6) (hzs : IsZone zs) :
    isTimeText (clockBytes h mi s (fractionBytes us) ++ zs) = isTime h mi s us := by
  have hfirst : isZoneStart (byteAt (clockBytes h mi s (fractionBytes us) ++ zs) 0) = false :=
    isZoneStart_of_isDigitByte (isDigitByte_digitByte (Nat.mod_lt _ (by decide)))
  have hmax : max 1 (clockBytes h mi s (fractionBytes us)).length =
      (clockBytes h mi s (fractionBytes us)).length := by
    simp [clockBytes]
    omega
  unfold isTimeText
  cases hzs with
  | none =>
    have hclock := clock?_clockBytes [] [] hh hmi hs hus rfl
    have hwhole := takeWhile_clockBytes h mi s us [] (.inl rfl)
    simp only [List.nil_append, List.append_nil, List.length_nil, Nat.zero_add] at *
    have hend : byteAt [] 0 = 0 := rfl
    simp only [hwhole, hfirst, hmax, hclock, hend, Bool.false_eq_true, if_false, if_true, ne_eq,
      not_true_eq_false, decide_false, Bool.not_false, Bool.and_true]
  | away sign zh zmi zsec zus hsign hzh hzmi hzsec hzus haway =>
    obtain ⟨hstart, hletter, hdigit⟩ := hsign.isZoneStart
    have hclock := clock?_clockBytes [] (zoneBytes sign zh zmi zsec zus) hh hmi hs hus hdigit
    have hwhole := takeWhile_clockBytes h mi s us (zoneBytes sign zh zmi zsec zus) (.inr hstart)
    have hzone := clock?_zone (clockBytes h mi s (fractionBytes us)) hzh hzmi hzsec hzus sign
    have hsignAt : byteAt (clockBytes h mi s (fractionBytes us) ++ zoneBytes sign zh zmi zsec zus)
        (clockBytes h mi s (fractionBytes us)).length = sign := byteAt_append _ _ 0
    have hlonger : (clockBytes h mi s (fractionBytes us)).length ≠
        (clockBytes h mi s (fractionBytes us) ++ zoneBytes sign zh zmi zsec zus).length := by
      simp [zoneBytes]
    simp only [List.nil_append, List.length_nil, Nat.zero_add] at hclock
    simp only [hwhole, hfirst, hmax, Bool.false_eq_true, if_false, hclock, hlonger, hsignAt, hletter,
      hzone, Bool.not_false, Bool.and_true, haway, decide_true]

/-! ### Moments -/

lemma daysInMonth_le (y m : Int) : daysInMonth y m ≤ 31 := by
  unfold daysInMonth
  split
  · split <;> decide
  · split <;> decide

lemma isDate_bounds {y m d : Int} (h : isDate y m d = true) :
    (0 ≤ y ∧ y < 10000) ∧ (0 ≤ m ∧ m < 100) ∧ (0 ≤ d ∧ d < 100) := by
  have hdays := daysInMonth_le y m
  simp only [isDate, Bool.and_eq_true, decide_eq_true_eq] at h
  omega

lemma isTime_bounds {h mi s us : Int} (ht : isTime h mi s us = true) :
    (0 ≤ h ∧ h < 100) ∧ (0 ≤ mi ∧ mi < 100) ∧ (0 ≤ s ∧ s < 100) ∧ (0 ≤ us ∧ us < 1000000) := by
  simp only [isTime, Bool.and_eq_true, decide_eq_true_eq] at ht
  omega

lemma utf8_fraction {us : Nat} (hus : us < pow10 6) :
    utf8 (fractionText us) = fractionBytes us := by
  unfold fractionBytes fractionText
  by_cases hzero : us = 0
  · rw [if_pos hzero, if_pos (by omega)]
    rfl
  · rw [if_neg hzero, if_neg (by omega), utf8_append, utf8_padded hus]
    rfl

lemma utf8_text {t : Moment} (ht : t.isValid = true) : ∃ y m d h mi s us : Nat,
    utf8 t.text = dateBytes y m d ++ 0x54 :: clockBytes h mi s (fractionBytes us) ∧
      (y < pow10 4 ∧ m < pow10 2 ∧ d < pow10 2 ∧ isDate y m d = true) ∧
      h < pow10 2 ∧ mi < pow10 2 ∧ s < pow10 2 ∧ us < pow10 6 ∧ isTime h mi s us = true := by
  obtain ⟨hdate, htime⟩ := Bool.and_eq_true_iff.mp ht
  obtain ⟨⟨hy, hy'⟩, ⟨hm, hm'⟩, hd, hd'⟩ := isDate_bounds hdate
  obtain ⟨⟨hh, hh'⟩, ⟨hmi, hmi'⟩, ⟨hs, hs'⟩, hus, hus'⟩ := isTime_bounds htime
  obtain ⟨year, month, day, hour, minute, second, microsecond⟩ := t
  lift year to Nat using hy
  lift month to Nat using hm
  lift day to Nat using hd
  lift hour to Nat using hh
  lift minute to Nat using hmi
  lift second to Nat using hs
  lift microsecond to Nat using hus
  replace hy' : year < pow10 4 := Int.ofNat_lt.mp hy'
  replace hm' : month < pow10 2 := Int.ofNat_lt.mp hm'
  replace hd' : day < pow10 2 := Int.ofNat_lt.mp hd'
  replace hh' : hour < pow10 2 := Int.ofNat_lt.mp hh'
  replace hmi' : minute < pow10 2 := Int.ofNat_lt.mp hmi'
  replace hs' : second < pow10 2 := Int.ofNat_lt.mp hs'
  replace hus' : microsecond < pow10 6 := Int.ofNat_lt.mp hus'
  refine ⟨year, month, day, hour, minute, second, microsecond, ?_, ⟨hy', hm', hd', hdate⟩, hh', hmi',
    hs', hus', htime⟩
  have hdash : utf8 "-" = [dash] := rfl
  have hcolon : utf8 ":" = [colon] := rfl
  have hT : utf8 "T" = [0x54] := rfl
  unfold text
  simp only [utf8_append, hdash, hcolon, hT, utf8_padded hy', utf8_padded hm', utf8_padded hd',
    utf8_padded hh', utf8_padded hmi', utf8_padded hs', utf8_fraction hus']
  simp [dateBytes, clockBytes]

lemma utf8_zoneText {o : Int} (ho : o.natAbs < dayLength) : IsZone (utf8 (zoneText o)) := by
  obtain ⟨us, hus⟩ : ∃ us, o.natAbs = us := ⟨_, rfl⟩
  rw [hus] at ho
  have hday : dayLength = 86400000000 := rfl
  have htwo : pow10 2 = 100 := rfl
  have hsix : pow10 6 = 1000000 := rfl
  have hh : us / 3600000000 < pow10 2 := by omega
  have hmi : us / 60000000 % 60 < pow10 2 := by omega
  have hs : us % 60000000 / 1000000 < pow10 2 := by omega
  have hmicro : us % 60000000 % 1000000 < pow10 6 := by omega
  have htotal : (us / 3600000000 * 3600 + us / 60000000 % 60 * 60 + us % 60000000 / 1000000) *
      1000000 + us % 60000000 % 1000000 < dayLength := by omega
  obtain ⟨sign, hsign, hutf8⟩ : ∃ sign, IsSign sign ∧ utf8 (if o < 0 then "-" else "+") = [sign] := by
    split
    · exact ⟨_, .inr rfl, rfl⟩
    · exact ⟨_, .inl rfl, rfl⟩
  have hzone := IsZone.away sign _ _ _ _ hsign hh hmi hs hmicro htotal
  have hcolon : utf8 ":" = [colon] := rfl
  have hbytes : utf8 (zoneText o) = zoneBytes sign (us / 3600000000) (us / 60000000 % 60)
      (us % 60000000 / 1000000) (us % 60000000 % 1000000) := by
    unfold zoneText zoneBytes
    rw [hus]
    have hrest : us % 60000000 = 0 ↔ us % 60000000 / 1000000 = 0 ∧ us % 60000000 % 1000000 = 0 := by
      omega
    simp only [utf8_append, hutf8, hcolon, utf8_padded hh, utf8_padded hmi, ← hrest]
    split
    · exact List.append_nil _
    · simp only [utf8_append, hcolon, utf8_padded hs, utf8_fraction hmicro, clockBytes]
      simp
  rw [hbytes]
  exact hzone

end EventScript.Moment

namespace EventScript.Stamp

open Codec Moment

variable {t : Stamp}

lemma isValid_coe {t : Moment} : (t : Stamp).isValid = t.isValid := Bool.and_true _

lemma text_coe {t : Moment} : (t : Stamp).text = t.text := String.append_empty

lemma utf8_text (ht : t.isValid = true) :
    ∃ zs, IsZone zs ∧ utf8 t.text = utf8 t.toMoment.text ++ zs := by
  obtain ⟨-, hoffset⟩ := Bool.and_eq_true_iff.mp ht
  refine ⟨_, ?_, utf8_append _ _⟩
  cases ho : t.offset with
  | none => exact .none
  | some o => exact utf8_zoneText (by simpa [ho] using hoffset)

lemma accepts_text (ht : t.isValid = true) : accepts (utf8 t.text) = true := by
  obtain ⟨zs, hzs, hzone⟩ := utf8_text ht
  obtain ⟨y, m, d, h, mi, s, us, htext, ⟨hy, hm, hd, hdate⟩, hh, hmi, hs, hus, htime⟩ :=
    Moment.utf8_text (Bool.and_eq_true_iff.mp ht).1
  have hbytes : utf8 t.text =
      dateBytes y m d ++ 0x54 :: (clockBytes h mi s (fractionBytes us) ++ zs) := by
    rw [hzone, htext, List.append_assoc, List.cons_append]
  have hdateText := isDateText_dateBytes hy hm hd
    (0x54 :: (clockBytes h mi s (fractionBytes us) ++ zs))
  have htimeText := isTimeText_clockBytes hh hmi hs hus hzs
  have hdrop : (dateBytes y m d ++ 0x54 :: (clockBytes h mi s (fractionBytes us) ++ zs)).drop 11 =
      clockBytes h mi s (fractionBytes us) ++ zs := rfl
  have hseparator : separatorWidth
      (byteAt (dateBytes y m d ++ 0x54 :: (clockBytes h mi s (fractionBytes us) ++ zs)) 10) = 1 := rfl
  have hlength : ¬ (dateBytes y m d ++
      0x54 :: (clockBytes h mi s (fractionBytes us) ++ zs)).length < 7 := by
    simp [dateBytes]
    omega
  rw [hbytes]
  unfold accepts
  rw [if_neg hlength, dateLength_dateBytes]
  simp only [hdateText, hdate, hseparator, hdrop, htimeText, htime, Bool.or_true, Bool.and_self]

lemma length_text (ht : t.isValid = true) : (utf8 t.text).length ≤ 65535 := by
  obtain ⟨zs, hzs, hzone⟩ := utf8_text ht
  obtain ⟨y, m, d, h, mi, s, us, htext, -⟩ := Moment.utf8_text (Bool.and_eq_true_iff.mp ht).1
  have hfraction (us : Nat) : (fractionBytes us).length ≤ 7 := by
    unfold fractionBytes
    split <;> simp
  have hclock (h mi s us : Nat) : (clockBytes h mi s (fractionBytes us)).length ≤ 15 := by
    have hus := hfraction us
    simp [clockBytes]
    omega
  have hlength : zs.length ≤ 16 := by
    cases hzs with
    | none => decide
    | away sign h mi s us =>
      have hlong := hclock h mi s us
      unfold zoneBytes
      split
      · simp
      · simp
        omega
  have hlong := hclock h mi s us
  rw [hzone, htext]
  simp only [dateBytes, List.length_append, List.length_cons, length_digitBytes]
  omega

end EventScript.Stamp
