import EventScript.Proofs.Store.Codec
import EventScript.Store.Moment

/-! Numbers written with a fixed count of digits are read where they stand. -/

namespace EventScript.Moment

open Codec

def digitByte (n : Nat) : UInt8 := UInt8.ofNat (0x30 + n)

def digitBytes : Nat → Nat → List UInt8
  | 0, _ => []
  | width + 1, n => digitBytes width (n / 10) ++ [digitByte (n % 10)]

@[simp] lemma length_digitBytes (width n : Nat) : (digitBytes width n).length = width := by
  induction width generalizing n with
  | zero => rfl
  | succ width ih => simp [digitBytes, ih]

lemma toNat_digitByte {n : Nat} (h : n < 10) : (digitByte n).toNat = 0x30 + n := by
  simp only [digitByte, UInt8.toNat_ofNat']
  omega

lemma isDigitByte_digitByte {n : Nat} (h : n < 10) : isDigitByte (digitByte n) = true := by
  have hn := toNat_digitByte h
  simp only [isDigitByte, Bool.and_eq_true, decide_eq_true_eq, UInt8.le_iff_toNat_le, hn]
  simp
  omega

lemma isDigitByte_of_mem {width n : Nat} {b : UInt8} (h : b ∈ digitBytes width n) :
    isDigitByte b = true := by
  induction width generalizing n with
  | zero => simp [digitBytes] at h
  | succ width ih =>
    rcases List.mem_append.mp h with h | h
    · exact ih h
    · rw [List.mem_singleton.mp h]
      exact isDigitByte_digitByte (Nat.mod_lt n (by decide))

lemma foldl_digitBytes {width n : Nat} (h : n < pow10 width) :
    (digitBytes width n).foldl (fun v b => 10 * v + (b.toNat - 0x30)) 0 = n := by
  induction width generalizing n with
  | zero =>
    have hn : n < 1 := h
    simp [digitBytes]
    omega
  | succ width ih =>
    rw [pow10_succ] at h
    have hhigh : n / 10 < pow10 width := by omega
    rw [digitBytes, List.foldl_append, ih hhigh]
    simp only [List.foldl_cons, List.foldl_nil, toNat_digitByte (Nat.mod_lt n (by decide))]
    omega

lemma utf8_append (s t : String) : utf8 (s ++ t) = utf8 s ++ utf8 t := by
  simp [utf8]

lemma utf8_ofList (cs : List Char) : utf8 (String.ofList cs) = cs.flatMap String.utf8EncodeChar := by
  simp [utf8, List.utf8Encode]

lemma utf8EncodeChar_digitChar : ∀ n < 10, String.utf8EncodeChar n.digitChar = [digitByte n] := by
  decide

lemma utf8_padded {width n : Nat} (h : n < pow10 (width + 1)) :
    utf8 (padded (width + 1) n) = digitBytes (width + 1) n := by
  unfold padded
  rw [utf8_ofList, Int.toNat_natCast]
  induction width generalizing n with
  | zero =>
    have hn : n < 10 := h
    simp [Nat.toDigits_of_lt_base hn, utf8EncodeChar_digitChar n hn, digitBytes,
      Nat.mod_eq_of_lt hn]
  | succ width ih =>
    rw [pow10_succ] at h
    have hhigh := ih (n := n / 10) (by omega)
    have hlast := utf8EncodeChar_digitChar (n % 10) (Nat.mod_lt n (by decide))
    rw [digitBytes, ← hhigh]
    by_cases hn : n < 10
    · rw [Nat.toDigits_of_lt_base hn, Nat.div_eq_of_lt hn, Nat.toDigits_zero]
      rw [Nat.mod_eq_of_lt hn] at hlast ⊢
      simp [hlast, List.replicate_succ']
    · rw [Nat.toDigits_of_base_le (by decide) (Nat.not_lt.mp hn)]
      simp [hlast]

lemma byteAt_append (xs ys : List UInt8) (i : Nat) :
    byteAt (xs ++ ys) (xs.length + i) = byteAt ys i := by
  simp [byteAt, List.getElem?_append_right]

lemma digitsAt?_append (xs ys : List UInt8) {width n : Nat} (h : n < pow10 width) :
    digitsAt? (xs ++ (digitBytes width n ++ ys)) xs.length width = some n := by
  have hbytes : (List.range width).map
      (fun k => byteAt (xs ++ (digitBytes width n ++ ys)) (xs.length + k)) = digitBytes width n := by
    refine List.ext_getElem (by simp) fun k _ hk => ?_
    simp only [List.getElem_map, List.getElem_range, byteAt_append]
    simp [byteAt, List.getElem?_append_left hk, List.getElem?_eq_getElem hk]
  unfold digitsAt?
  dsimp only
  rw [hbytes, foldl_digitBytes h]
  exact if_pos (List.all_eq_true.mpr fun b hb => isDigitByte_of_mem hb)

end EventScript.Moment
