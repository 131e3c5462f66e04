import EventScript.Proofs.Store.Save
import Mathlib.Data.List.Induction

/-! Loading accepts what has the form of saved variables, and nothing else. Numbers are read from
however few bytes are left, so it is the closing marker that tells when a save was cut short. -/

namespace EventScript

namespace Ledger

variable {κ α : Type} [DecidableEq κ]

lemma ofPairs_concat (ps : List (κ × α)) (p : κ × α) :
    ofPairs (ps ++ [p]) = put (ofPairs ps) p.1 p.2 := by
  simp [ofPairs]

lemma get?_ofPairs (ps : List (κ × α)) (k : κ) : get? (ofPairs ps) k = ps.reverse.lookup k := by
  induction ps using List.reverseRecOn with
  | nil => rfl
  | append_singleton ps p ih =>
    rw [ofPairs_concat, get?_put, ih, List.reverse_append, List.reverse_singleton,
      List.singleton_append, List.lookup_cons]
    by_cases h : p.1 = k
    · simp [h]
    · simp [h, beq_false_of_ne (Ne.symm h)]

lemma keys_ofPairs (ps : List (κ × α)) : keys (ofPairs ps) = (ps.map Prod.fst).eraseDups := by
  induction ps using List.reverseRecOn with
  | nil => rfl
  | append_singleton ps p ih =>
    have hmem : has (ofPairs ps) p.1 = true ↔ p.1 ∈ ps.map Prod.fst := by
      rw [has_iff_mem_keys, ih, List.mem_eraseDups]
    rw [ofPairs_concat, keys_put, ih, List.map_append, List.eraseDups_append]
    by_cases h : p.1 ∈ ps.map Prod.fst
    · simp [hmem.mpr h, h, List.removeAll]
    · simp [mt hmem.mp h, h, List.removeAll, List.eraseDups_cons]

end Ledger

namespace Codec

/-! ### The form of numbers and texts -/

def IsNumber (width n : Nat) (bs : List UInt8) : Prop := bs.length = width ∧ bytesNat bs = n

def IsValue (v : Int) (bs : List UInt8) : Prop :=
  (-2 ^ 63 ≤ v ∧ v < 2 ^ 63) ∧ bs.length = 8 ∧ v % 2 ^ 64 = bytesNat bs

def IsText (t : String) (bs : List UInt8) : Prop :=
  ∃ size, IsNumber 2 (utf8 t).length size ∧ bs = size ++ utf8 t

lemma natBytes_bytesNat (bs : List UInt8) : natBytes bs.length (bytesNat bs) = bs := by
  induction bs using List.reverseRecOn with
  | nil => rfl
  | append_singleton bs b ih =>
    have hb := b.toNat_lt
    have hhigh : (256 * bytesNat bs + b.toNat) / 256 = bytesNat bs := by omega
    have hlow : UInt8.ofNat (256 * bytesNat bs + b.toNat) = b := by
      apply UInt8.toNat.inj
      rw [UInt8.toNat_ofNat']
      omega
    rw [bytesNat_concat, List.length_append, List.length_singleton, natBytes, hhigh, ih, hlow]

lemma bytesNat_lt (bs : List UInt8) : bytesNat bs < pow2 (8 * bs.length) := by
  induction bs using List.reverseRecOn with
  | nil => decide
  | append_singleton bs b ih =>
    have hb := b.toNat_lt
    rw [bytesNat_concat, List.length_append, List.length_singleton, pow2_bytes_succ]
    omega

lemma eq_intBytes_iff {width : Nat} {x : Int} {bs : List UInt8} :
    bs = intBytes width x ↔ bs.length = width ∧ x % (pow2 (8 * width) : Nat) = bytesNat bs := by
  constructor
  · rintro rfl
    exact ⟨by simp [intBytes], (bytesNat_intBytes width x).symm⟩
  · rintro ⟨rfl, hx⟩
    rw [intBytes, hx, Int.toNat_natCast, natBytes_bytesNat]

lemma isNumber_iff {width n : Nat} {bs : List UInt8} :
    IsNumber width n bs ↔ n < pow2 (8 * width) ∧ bs = intBytes width n := by
  rw [eq_intBytes_iff]
  constructor
  · rintro ⟨rfl, rfl⟩
    have hlt := bytesNat_lt bs
    exact ⟨hlt, rfl, Int.emod_eq_of_lt (by omega) (by omega)⟩
  · rintro ⟨hlt, hlength, hn⟩
    rw [Int.emod_eq_of_lt (by omega) (by omega)] at hn
    exact ⟨hlength, by omega⟩

lemma isValue_iff {v : Int} {bs : List UInt8} :
    IsValue v bs ↔ (-2 ^ 63 ≤ v ∧ v < 2 ^ 63) ∧ bs = intBytes 8 v := by
  rw [eq_intBytes_iff]
  rfl

lemma isText_iff {t : String} {bs : List UInt8} :
    IsText t bs ↔ (utf8 t).length ≤ 65535 ∧ bs = textBytes 2 t := by
  have hlimit : pow2 (8 * 2) = 65535 + 1 := rfl
  unfold IsText
  simp only [isNumber_iff, hlimit, Nat.lt_succ_iff]
  constructor
  · rintro ⟨_, ⟨hlength, rfl⟩, rfl⟩
    exact ⟨hlength, rfl⟩
  · rintro ⟨hlength, rfl⟩
    exact ⟨_, ⟨hlength, rfl⟩, rfl⟩

lemma IsText.ne_nil {t : String} {bs : List UInt8} (h : IsText t bs) : bs ≠ [] := by
  obtain ⟨size, ⟨hsize, -⟩, rfl⟩ := h
  intro hnil
  simp [(List.append_eq_nil_iff.mp hnil).1] at hsize

/-! ### What readers can have read -/

section Readers

variable {c c' : Cursor} {F G : List UInt8 → Prop}

/-- Between two places of the bytes stands something of the form `F`, unless the bytes have
ended. -/
def Took (F : List UInt8 → Prop) (c c' : Cursor) : Prop :=
  c'.rest = [] ∨ ∃ bs, F bs ∧ c.rest = bs ++ c'.rest

lemma Took.imp (h : Took F c c') (hFG : ∀ bs, F bs → G bs) : Took G c c' := by
  refine Or.imp_right ?_ h
  rintro ⟨bs, hbs, hrest⟩
  exact ⟨bs, hFG bs hbs, hrest⟩

lemma Took.andThen {c₁ : Cursor} (h : Took F c c₁) (h' : Took G c₁ c') :
    Took (fun bs => ∃ xs ys, bs = xs ++ ys ∧ F xs ∧ G ys) c c' := by
  rcases h' with hend | ⟨ys, hys, hrest'⟩
  · exact .inl hend
  rcases h with hend | ⟨xs, hxs, hrest⟩
  · rw [hend] at hrest'
    exact .inl (List.append_eq_nil_iff.mp hrest'.symm).2
  · refine .inr ⟨xs ++ ys, ⟨xs, ys, rfl, hxs, hys⟩, ?_⟩
    rw [hrest, hrest', List.append_assoc]

lemma utf8_of_ofUtf8? {bs : List UInt8} {t : String} (h : ofUtf8? bs = some t) : utf8 t = bs := by
  unfold ofUtf8? String.fromUTF8? at h
  split at h
  · obtain rfl := Option.some.inj h
    rfl
  · cases h

lemma takeCount_inv {n : Nat} {bs : List UInt8} (hn : n < countLimit)
    (h : Reader.takeCount n c = .ok bs c') :
    c.rest = bs ++ c'.rest ∧ (bs.length = n ∨ bs.length < n ∧ c'.rest = []) := by
  rw [takeCount_eq hn, take_apply] at h
  obtain ⟨rfl, rfl⟩ := EStateM.Result.ok.inj h
  refine ⟨(List.take_append_drop n c.rest).symm, ?_⟩
  dsimp only
  rw [List.length_take, List.drop_eq_nil_iff]
  omega

lemma int_took {width : Nat} {signed : Bool} {x : Int} (hwidth : width < countLimit)
    (h : Reader.int width signed c = .ok x c') :
    Took (fun bs => bs.length = width ∧ decodeInt signed bs = x) c c' := by
  obtain ⟨bs, c₁, hbs, h⟩ := bind_eq_ok h
  obtain ⟨rfl, rfl⟩ := EStateM.Result.ok.inj h
  obtain ⟨hrest, hlength | ⟨-, hend⟩⟩ := takeCount_inv hwidth hbs
  · exact .inr ⟨bs, ⟨hlength, rfl⟩, hrest⟩
  · exact .inl hend

lemma text_inv {t : String} (h : Reader.text 2 c = .ok t c') :
    (t = "" ∧ c'.rest = []) ∨ ∃ bs, IsText t bs ∧ c.rest = bs ++ c'.rest := by
  obtain ⟨size, c₁, hsize, h⟩ := bind_eq_ok h
  obtain ⟨body, c₂, hbody, h⟩ := bind_eq_ok h
  obtain ⟨hrest, hcut⟩ := takeCount_inv (n := 2) (by decide) hsize
  have hlimit : bytesNat size < countLimit := by
    have hlt := bytesNat_lt size
    have hmono : pow2 (8 * size.length) ≤ pow2 16 := Nat.pow_le_pow_right (by decide) (by omega)
    exact (hlt.trans_le hmono).trans (by decide)
  obtain ⟨hrest', -⟩ := takeCount_inv hlimit hbody
  by_cases hlength : body.length = bytesNat size
  · rw [if_neg (by simpa using hlength)] at h
    cases ht : ofUtf8? body with
    | none =>
      rw [ht] at h
      cases h
    | some u =>
      rw [ht] at h
      obtain ⟨rfl, rfl⟩ := EStateM.Result.ok.inj h
      have hbytes := utf8_of_ofUtf8? ht
      rcases hcut with hcut | ⟨-, hend⟩
      · refine .inr ⟨size ++ utf8 u, ⟨size, ⟨hcut, ?_⟩, rfl⟩, ?_⟩
        · rw [hbytes, hlength]
        · rw [hbytes, hrest, hrest', List.append_assoc]
      · rw [hend] at hrest'
        obtain ⟨rfl, hend'⟩ := List.append_eq_nil_iff.mp hrest'.symm
        exact .inl ⟨Option.some.inj (ht.symm.trans (ofUtf8?_utf8 "")), hend'⟩
  · rw [if_pos (by simpa using hlength)] at h
    cases h

lemma text_took {t : String} (h : Reader.text 2 c = .ok t c') : Took (IsText t) c c' :=
  (text_inv h).imp_left And.right

lemma marker_inv {expected t : String} (hne : expected ≠ "")
    (h : Reader.marker expected c = .ok t c') :
    ∃ bs, IsText expected bs ∧ c.rest = bs ++ c'.rest := by
  obtain ⟨found, c₁, hfound, h⟩ := bind_eq_ok h
  by_cases heq : found = expected
  · rw [if_neg (by simpa using heq)] at h
    obtain ⟨rfl, rfl⟩ := EStateM.Result.ok.inj h
    rcases text_inv hfound with ⟨rfl, -⟩ | hbs
    · exact absurd heq.symm hne
    · rwa [heq] at hbs
  · rw [if_pos (by simpa using heq)] at h
    cases h

end Readers

end Codec

open Codec

namespace Save

/-! ### The form of saved variables -/

def ArePairs : List (String × Int) → List UInt8 → Prop
  | [], bs => bs = []
  | (x, v) :: ps, bs =>
    ∃ name value rest,
      bs = name ++ value ++ rest ∧ IsText x name ∧ IsValue v value ∧ ArePairs ps rest

/-- A marker, a date, the number of pairs, the pairs and another marker, with something after
them. -/
def IsSave (date : String) (ps : List (String × Int)) (rest bs : List UInt8) : Prop :=
  ∃ opening saved count pairs closing,
    bs = opening ++ saved ++ count ++ pairs ++ closing ++ rest ∧ IsText openingMarker opening ∧
      IsText date saved ∧ IsNumber 4 ps.length count ∧ ArePairs ps pairs ∧
      IsText closingMarker closing

variable {date : String} {ps : List (String × Int)} {r bs : List UInt8}

lemma arePairs_iff : ArePairs ps bs ↔ (∀ p ∈ ps, FitsPair p) ∧ bs = ps.flatMap pairBytes := by
  induction ps generalizing bs with
  | nil => simp [ArePairs]
  | cons p ps ih =>
    simp only [ArePairs, isText_iff, isValue_iff, ih, List.forall_mem_cons, List.flatMap_cons,
      FitsPair, pairBytes]
    constructor
    · rintro ⟨_, _, _, rfl, ⟨hx, rfl⟩, ⟨hv, rfl⟩, hps, rfl⟩
      exact ⟨⟨⟨hx, hv⟩, hps⟩, rfl⟩
    · rintro ⟨⟨⟨hx, hv⟩, hps⟩, rfl⟩
      exact ⟨_, _, _, rfl, ⟨hx, rfl⟩, ⟨hv, rfl⟩, hps, rfl⟩

lemma isSave_iff : IsSave date ps r bs ↔
    ((utf8 date).length ≤ 65535 ∧ Store.Fits ps) ∧ bs = bytes ps date ++ r := by
  have hlimit : pow2 (8 * 4) = 2 ^ 32 := rfl
  simp only [IsSave, isText_iff, isNumber_iff, arePairs_iff, hlimit, Store.Fits, bytes]
  constructor
  · rintro ⟨_, _, _, _, _, rfl, ⟨-, rfl⟩, ⟨hdate, rfl⟩, ⟨hcount, rfl⟩, ⟨hps, rfl⟩, -, rfl⟩
    exact ⟨⟨hdate, hps, hcount⟩, by simp⟩
  · rintro ⟨⟨hdate, hps, hcount⟩, rfl⟩
    exact ⟨_, _, _, _, _, by simp, ⟨length_openingMarker, rfl⟩, ⟨hdate, rfl⟩, ⟨hcount, rfl⟩,
      ⟨hps, rfl⟩, length_closingMarker, rfl⟩

/-! ### What can have been loaded -/

section Readers

variable {c c' : Cursor} {s t : Store}

lemma value_took {v : Int} (h : Reader.int 8 true c = .ok v c') : Took (IsValue v) c c' := by
  refine (int_took (by decide) h).imp ?_
  rintro bs ⟨hlength, rfl⟩
  have hlt := bytesNat_lt bs
  have hlimit : pow2 (8 * 8) = 2 ^ 64 := rfl
  simp only [IsValue, decodeInt, hlength, hlimit, Bool.true_and, decide_eq_true_eq] at hlt ⊢
  split <;> exact ⟨by omega, trivial, by omega⟩

lemma count_took {n : Int} (h : Reader.int 4 false c = .ok n c') :
    Took (IsNumber 4 n.toNat) c c' := by
  refine (int_took (by decide) h).imp ?_
  rintro bs ⟨hlength, rfl⟩
  exact ⟨hlength, rfl⟩

lemma readPairs_took {n : Nat} (h : readPairs n s c = .ok t c') :
    Took (fun bs => ∃ ps, ps.length = n ∧ ArePairs ps bs ∧
      t = ps.foldl (fun s p => Ledger.put s p.1 p.2) s) c c' := by
  induction n generalizing s c with
  | zero =>
    obtain ⟨rfl, rfl⟩ := EStateM.Result.ok.inj h
    exact .inr ⟨[], ⟨[], rfl, rfl, rfl⟩, rfl⟩
  | succ n ih =>
    obtain ⟨x, c₁, hx, h⟩ := bind_eq_ok h
    obtain ⟨v, c₂, hv, h⟩ := bind_eq_ok h
    refine (((text_took hx).andThen (value_took hv)).andThen (ih h)).imp ?_
    rintro _ ⟨_, rest, rfl, ⟨name, value, rfl, hname, hvalue⟩, ps, rfl, hps, rfl⟩
    exact ⟨(x, v) :: ps, rfl, ⟨name, value, rest, rfl, hname, hvalue, hps⟩, rfl⟩

lemma read_inv (h : read c = .ok t c') :
    ∃ date ps, Moment.accepts (utf8 date) = true ∧ IsSave date ps c'.rest c.rest ∧
      t = Ledger.ofPairs ps := by
  obtain ⟨_, c₁, hopening, h⟩ := bind_eq_ok h
  obtain ⟨date, c₂, hdate, h⟩ := bind_eq_ok h
  cases haccepts : Moment.accepts (utf8 date) with
  | false =>
    rw [haccepts] at h
    cases h
  | true =>
    rw [haccepts] at h
    obtain ⟨n, c₃, hcount, h⟩ := bind_eq_ok h
    obtain ⟨t', c₄, hpairs, h⟩ := bind_eq_ok h
    obtain ⟨_, c₅, hclosing, h⟩ := bind_eq_ok h
    obtain ⟨rfl, rfl⟩ := EStateM.Result.ok.inj h
    obtain ⟨opening, hopening, hrest⟩ := marker_inv (by decide) hopening
    obtain ⟨closing, hclosing, hrest'⟩ := marker_inv (by decide) hclosing
    -- There are bytes for the closing marker, so they cannot have ended before it.
    have hmiddle := ((text_took hdate).andThen (count_took hcount)).andThen (readPairs_took hpairs)
    rcases hmiddle with hend | ⟨_, ⟨_, pairs, rfl, ⟨saved, count, rfl, hsaved, hcount⟩, ps, hlength,
      hps, rfl⟩, hmiddle⟩
    · rw [hend] at hrest'
      exact absurd (List.append_eq_nil_iff.mp hrest'.symm).1 hclosing.ne_nil
    · refine ⟨date, ps, haccepts, ⟨opening, saved, count, pairs, closing, ?_, hopening, hsaved,
        hlength ▸ hcount, hps, hclosing⟩, rfl⟩
      rw [hrest, hmiddle, hrest']
      simp

end Readers

lemma load_isSave (h : IsSave date ps r bs) (haccepts : Moment.accepts (utf8 date) = true) :
    load bs = (.ok (Ledger.ofPairs ps), { rest := r, position := bs.length - r.length }) := by
  obtain ⟨⟨hdate, hps⟩, rfl⟩ := isSave_iff.mp h
  have hreads := reads_bytes hps hdate haccepts r 0
  unfold load Codec.run
  rw [run_apply, hreads]
  simp

lemma loadInto_cases (s : Store) (bs : List UInt8) :
    (∃ date ps r, Moment.accepts (utf8 date) = true ∧ IsSave date ps r bs ∧
      loadInto s bs = (.ok (), Ledger.ofPairs ps)) ∨
    ∃ e, loadInto s bs = (.error e, s) := by
  unfold loadInto load Codec.run
  rw [run_apply]
  cases h : read { rest := bs } with
  | ok t c =>
    obtain ⟨date, ps, haccepts, hsave, rfl⟩ := read_inv h
    exact .inl ⟨date, ps, c.rest, haccepts, hsave, rfl⟩
  | error e c => exact .inr ⟨e, rfl⟩

lemma IsSave.append (h : IsSave date ps r bs) (q : List UInt8) :
    IsSave date ps (r ++ q) (bs ++ q) := by
  obtain ⟨hfits, rfl⟩ := isSave_iff.mp h
  exact isSave_iff.mpr ⟨hfits, List.append_assoc ..⟩

lemma IsSave.loadInto_cut {part q : List UInt8} (h : IsSave date ps [] (part ++ q))
    (haccepts : Moment.accepts (utf8 date) = true) (hq : q ≠ []) (old : Store) :
    ∃ e, loadInto old part = (.error e, old) := by
  rcases loadInto_cases old part with ⟨date', ps', r, haccepts', hloads, -⟩ | hfails
  · -- What loads from the part loads from the whole too, and leaves the missing bytes.
    have hwhole := load_isSave h haccepts
    rw [load_isSave (hloads.append q) haccepts'] at hwhole
    have hrest : r ++ q = [] := congrArg (fun x => x.2.rest) hwhole
    exact absurd (List.append_eq_nil_iff.mp hrest).2 hq
  · exact hfails

lemma isSave_of_save {s : Store} {d : Stamp} (hd : d.isValid = true) {n : Nat}
    (h : save s d = (.ok n, bs)) : IsSave d.text s [] bs := by
  by_cases hs : s.Fits
  · rw [save_of_fits hs hd] at h
    obtain ⟨-, rfl⟩ := Prod.mk.inj h
    exact isSave_iff.mpr ⟨⟨Stamp.length_text hd, hs⟩, (List.append_nil _).symm⟩
  · rw [save_of_not_fits hs hd] at h
    cases h

end Save

theorem load_accepts_saves_only (s : Store) (bs : List UInt8) :
    ((Save.loadInto s bs).1 = .ok () ↔
        ∃ date ps r, Moment.accepts (utf8 date) = true ∧ Save.IsSave date ps r bs) ∧
      (∀ date ps r, Moment.accepts (utf8 date) = true → Save.IsSave date ps r bs →
        Ledger.keys (Save.loadInto s bs).2 = (ps.map Prod.fst).eraseDups ∧
          ∀ x, Ledger.get? (Save.loadInto s bs).2 x = ps.reverse.lookup x) ∧
      ((¬ ∃ date ps r, Moment.accepts (utf8 date) = true ∧ Save.IsSave date ps r bs) →
        ∃ e, Save.loadInto s bs = (.error e, s)) := by
  have hloads {date : String} {ps : List (String × Int)} {r : List UInt8}
      (haccepts : Moment.accepts (utf8 date) = true) (hsave : Save.IsSave date ps r bs) :
      Save.loadInto s bs = (.ok (), Ledger.ofPairs ps) := by
    rw [Save.loadInto, Save.load_isSave hsave haccepts]
  refine ⟨⟨fun h => ?_, ?_⟩, fun date ps r haccepts hsave => ?_, fun hnone => ?_⟩
  · rcases Save.loadInto_cases s bs with ⟨date, ps, r, haccepts, hsave, -⟩ | ⟨e, he⟩
    · exact ⟨date, ps, r, haccepts, hsave⟩
    · rw [he] at h
      cases h
  · rintro ⟨date, ps, r, haccepts, hsave⟩
    rw [hloads haccepts hsave]
  · rw [hloads haccepts hsave]
    exact ⟨Ledger.keys_ofPairs ps, Ledger.get?_ofPairs ps⟩
  · rcases Save.loadInto_cases s bs with ⟨date, ps, r, haccepts, hsave, -⟩ | hfails
    · exact absurd ⟨date, ps, r, haccepts, hsave⟩ hnone
    · exact hfails

/-- A name that is written twice, and a byte after the end. -/
theorem load_accepts_saves_only_repeated :
    ∃ ps bs, ps = [("$a", 1), ("$b", -2), ("$a", 3)] ∧
      Moment.accepts (utf8 "20240229") = true ∧ Save.IsSave "20240229" ps [7] bs ∧
      ∀ s, (Save.loadInto s bs).1 = .ok () ∧ Ledger.keys (Save.loadInto s bs).2 = ["$a", "$b"] ∧
        Ledger.get? (Save.loadInto s bs).2 "$a" = some 3 := by
  let ps : List (String × Int) := [("$a", 1), ("$b", -2), ("$a", 3)]
  have haccepts : Moment.accepts (utf8 "20240229") = true := by decide
  have hfits : Store.Fits ps := by
    refine ⟨?_, by decide⟩
    simp only [ps, List.forall_mem_cons, FitsPair]
    exact ⟨by decide, by decide, by decide, nofun⟩
  have hsave : Save.IsSave "20240229" ps [7] (Save.bytes ps "20240229" ++ [7]) :=
    Save.isSave_iff.mpr ⟨⟨by decide, hfits⟩, rfl⟩
  refine ⟨ps, _, rfl, haccepts, hsave, fun s => ?_⟩
  obtain ⟨hok, hholds, -⟩ := load_accepts_saves_only s (Save.bytes ps "20240229" ++ [7])
  obtain ⟨hkeys, hvalues⟩ := hholds _ _ _ haccepts hsave
  refine ⟨hok.mpr ⟨_, _, _, haccepts, hsave⟩, ?_, ?_⟩
  · exact hkeys.trans (by decide)
  · exact (hvalues "$a").trans (by decide)

theorem truncated_save_fails (s : Store) (d : Stamp) (hd : d.isValid = true) {n : Nat}
    {bs part : List UInt8} (hsave : Save.save s d = (.ok n, bs)) (hpart : part <+: bs)
    (hne : part ≠ bs) (old : Store) : ∃ e, Save.loadInto old part = (.error e, old) := by
  obtain ⟨q, rfl⟩ := hpart
  refine (Save.isSave_of_save hd hsave).loadInto_cut (Stamp.accepts_text hd) ?_ old
  rintro rfl
  exact hne (List.append_nil part).symm

/-- A save that ends within its count, which then reads as zero. -/
theorem truncated_save_fails_in_count : ∃ (s : Store) (d : Stamp) (bs : List UInt8),
    s = [("$a", 5)] ∧ d.isValid = true ∧ Save.save s d = (.ok bs.length, bs) ∧
      bs.take 34 <+: bs ∧ bs.take 34 ≠ bs ∧
      ∀ old, ∃ e, Save.loadInto old (bs.take 34) = (.error e, old) := by
  let s : Store := [("$a", 5)]
  let d : Stamp := { year := 2024, month := 5, day := 1, hour := 12 }
  have hd : d.isValid = true := by decide
  have hfits : s.Fits := by
    refine ⟨?_, by decide⟩
    simp only [s, List.forall_mem_cons, FitsPair]
    exact ⟨by decide, nofun⟩
  have hsave := Save.save_of_fits hfits hd
  have hlong : 34 < (Save.bytes s d.text).length := by
    have hopening : (utf8 Save.openingMarker).length = 9 := by decide
    have hclosing : (utf8 Save.closingMarker).length = 13 := by decide
    have hpairs : (s.flatMap Save.pairBytes).length = 12 := by decide
    simp only [Save.bytes, textBytes, intBytes, List.length_append, length_natBytes, hopening,
      hclosing, hpairs]
    omega
  have hne : (Save.bytes s d.text).take 34 ≠ Save.bytes s d.text := by
    intro h
    have hlength := congrArg List.length h
    rw [List.length_take] at hlength
    omega
  refine ⟨s, d, _, rfl, hd, hsave, List.take_prefix .., hne, fun old => ?_⟩
  exact truncated_save_fails s d hd hsave (List.take_prefix ..) hne old

end EventScript
