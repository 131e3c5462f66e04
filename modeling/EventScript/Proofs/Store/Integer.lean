import EventScript.Proofs.Store.Load

/-! Integers of any width. Writing and reading are inverse to each other, on the integers of a width
on one side and all lists of so many bytes on the other. -/

namespace EventScript.Codec

open Save

variable {width : Nat} {signed : Bool} {x : Int} {bs : List UInt8}

/-- The integers that `width` bytes can write, with or without a sign. -/
def IsOfWidth (width : Nat) : Bool → Int → Prop
  | true, x => -2 ^ (8 * width - 1) ≤ x ∧ x < 2 ^ (8 * width - 1)
  | false, x => 0 ≤ x ∧ x < 2 ^ (8 * width)

instance (width : Nat) : (signed : Bool) → (x : Int) → Decidable (IsOfWidth width signed x)
  | true, _ => inferInstanceAs (Decidable (_ ∧ _))
  | false, _ => inferInstanceAs (Decidable (_ ∧ _))

lemma isOfWidth_zero (width : Nat) : IsOfWidth width false 0 := ⟨le_refl 0, Int.pow_pos (by decide)⟩

lemma natCast_pow2 (k : Nat) : (pow2 k : Int) = 2 ^ k := by
  rw [pow2_eq, Nat.cast_pow, Nat.cast_ofNat]

lemma fits_iff (hwidth : width ≠ 0) : fits width signed x = true ↔ IsOfWidth width signed x := by
  cases signed with
  | false => rw [fits_unsigned, natCast_pow2, IsOfWidth]
  | true => rw [fits_signed hwidth, natCast_pow2, IsOfWidth]

lemma decodeInt_intBytes (hwidth : width ≠ 0) (h : fits width signed x = true) :
    decodeInt signed (intBytes width x) = x := by
  cases signed with
  | false => exact decodeInt_unsigned h
  | true => exact decodeInt_signed hwidth h

lemma decodeInt_cases (signed : Bool) (bs : List UInt8) :
    (decodeInt signed bs = bytesNat bs ∧
      (signed = true → 2 * bytesNat bs < pow2 (8 * bs.length))) ∨
    (decodeInt signed bs = bytesNat bs - (pow2 (8 * bs.length) : Nat) ∧ signed = true ∧
      pow2 (8 * bs.length) ≤ 2 * bytesNat bs) := by
  rw [decodeInt]
  by_cases h : (signed && decide (pow2 (8 * bs.length) ≤ 2 * bytesNat bs)) = true
  · have hminus := h
    simp only [Bool.and_eq_true, decide_eq_true_eq] at hminus
    exact .inr ⟨if_pos h, hminus⟩
  · refine .inl ⟨if_neg h, fun hsigned => ?_⟩
    simpa [hsigned] using h

lemma decodeInt_emod (signed : Bool) (bs : List UInt8) :
    decodeInt signed bs % (pow2 (8 * bs.length) : Nat) = bytesNat bs := by
  have hlt := bytesNat_lt bs
  have hmod : (bytesNat bs : Int) % (pow2 (8 * bs.length) : Nat) = bytesNat bs :=
    Int.emod_eq_of_lt (by omega) (by omega)
  obtain ⟨hx, -⟩ | ⟨hx, -⟩ := decodeInt_cases signed bs
  · rw [hx, hmod]
  · rw [hx, Int.sub_emod_right, hmod]

lemma intBytes_decodeInt (signed : Bool) (bs : List UInt8) :
    intBytes bs.length (decodeInt signed bs) = bs :=
  (eq_intBytes_iff.mpr ⟨rfl, decodeInt_emod signed bs⟩).symm

lemma fits_decodeInt (signed : Bool) (hne : bs.length ≠ 0) :
    fits bs.length signed (decodeInt signed bs) = true := by
  have hlt := bytesNat_lt bs
  have hhalf := pow2_bytes_half hne
  obtain ⟨hx, hplus⟩ | ⟨hx, rfl, hminus⟩ := decodeInt_cases signed bs
  · cases signed with
    | false => exact fits_unsigned.mpr (by omega)
    | true => exact (fits_signed hne).mpr (by have := hplus rfl; omega)
  · exact (fits_signed hne).mpr (by omega)

lemma width_natCast (n : Nat) :
    Codec.width n = if stringLimit ≤ n then .error .overflow else .ok n := by
  rw [Codec.width, if_neg (by omega), Int.toNat_natCast]

lemma lt_countLimit (h : width < stringLimit) : width < countLimit :=
  h.trans_le (Nat.sub_le countLimit 33)

lemma encodeSized_of_lt (h : width < stringLimit) :
    encodeSized width signed x = encodeInt width signed x := by
  rw [encodeSized, width_natCast, if_neg (by omega)]

lemma encodeSized_of_le (h : stringLimit ≤ width) :
    encodeSized width signed x = .error .overflow := by
  rw [encodeSized, width_natCast, if_pos h]

/-- Writing an integer takes exactly as many bytes as asked for if the integer can be written in
so many, and fails without a byte written if it cannot. What was written is read as the same
integer, and what was read is written as the same bytes. No string of bytes is as long as
`stringLimit`, so from that width on nothing is written. -/
theorem integers_are_byte_lists (hwidth : 1 ≤ width) (signed : Bool) :
    (width < stringLimit →
      (∀ x, IsOfWidth width signed x → ∃ bs, bs.length = width ∧
        Writes (emit (encodeSized width signed x)) bs width ∧
        Reads (Reader.int width signed) bs x) ∧
      (∀ x, ¬ IsOfWidth width signed x → Breaks (emit (encodeSized width signed x)) []) ∧
      ∀ bs, bs.length = width → ∃ x, Reads (Reader.int width signed) bs x ∧
        Writes (emit (encodeSized width signed x)) bs width) ∧
    (stringLimit ≤ width → ∀ x, Breaks (emit (encodeSized width signed x)) []) := by
  have hne : width ≠ 0 := by omega
  have hlength (x : Int) : (intBytes width x).length = width := length_natBytes _ _
  refine ⟨fun hlimit => ?_, fun hlimit x => ?_⟩
  · have hwrites {x : Int} (h : fits width signed x = true) :
        Writes (emit (encodeSized width signed x)) (intBytes width x) width := by
      rw [encodeSized_of_lt hlimit]
      simpa only [hlength] using writes_int h
    have hreads {x : Int} (h : fits width signed x = true) :
        Reads (Reader.int width signed) (intBytes width x) x :=
      .int (lt_countLimit hlimit) (decodeInt_intBytes hne h)
    refine ⟨fun x hx => ?_, fun x hx => ?_, fun bs hbs => ?_⟩
    · rw [← fits_iff hne] at hx
      exact ⟨intBytes width x, hlength x, hwrites hx, hreads hx⟩
    · rw [← fits_iff hne] at hx
      rw [encodeSized_of_lt hlimit]
      exact breaks_int hx
    · have hfits : fits width signed (decodeInt signed bs) = true := by
        rw [← hbs] at hne ⊢
        exact fits_decodeInt signed hne
      have hbytes : intBytes width (decodeInt signed bs) = bs := by
        rw [← hbs]
        exact intBytes_decodeInt signed bs
      have hw := hwrites hfits
      have hr := hreads hfits
      rw [hbytes] at hw hr
      exact ⟨decodeInt signed bs, hr, hw⟩
  · rw [encodeSized_of_le hlimit]
    exact .emit

theorem integers_are_byte_lists_three : 1 ≤ 3 ∧ 3 < stringLimit ∧ IsOfWidth 3 true (-2 ^ 23) ∧
    ¬ IsOfWidth 3 true (2 ^ 23) ∧
    (∃ bs, bs.length = 3 ∧ Writes (emit (encodeSized 3 true (-2 ^ 23))) bs 3 ∧
      Reads (Reader.int 3 true) bs (-2 ^ 23)) ∧
    Breaks (emit (encodeSized 3 true (2 ^ 23))) [] ∧
    ∃ x, Reads (Reader.int 3 true) [255, 0, 128] x ∧
      Writes (emit (encodeSized 3 true x)) [255, 0, 128] 3 := by
  have hlimit : 3 < stringLimit := by decide
  have hleast : IsOfWidth 3 true (-2 ^ 23) := by decide
  have hmost : ¬ IsOfWidth 3 true (2 ^ 23) := by decide
  have hwidth : 1 ≤ 3 := by decide
  obtain ⟨hwrites, hbreaks, hreads⟩ := (integers_are_byte_lists hwidth true).1 hlimit
  exact ⟨hwidth, hlimit, hleast, hmost, hwrites _ hleast, hbreaks _ hmost, hreads _ rfl⟩

/-- Zero can be written in any number of bytes but for the limit. -/
theorem widest_zero_is_not_written : 1 ≤ countLimit ∧ IsOfWidth countLimit false 0 ∧
    Breaks (emit (encodeSized countLimit false 0)) [] ∧
    ¬ ∃ bs, Writes (emit (encodeSized countLimit false 0)) bs countLimit := by
  have hbreaks : Breaks (emit (encodeSized countLimit false 0)) [] := by
    rw [encodeSized_of_le (Nat.sub_le _ _)]
    exact .emit
  refine ⟨by decide, isOfWidth_zero countLimit, hbreaks, ?_⟩
  rintro ⟨bs, hwrites⟩
  cases (hwrites []).symm.trans (hbreaks [])

end EventScript.Codec
