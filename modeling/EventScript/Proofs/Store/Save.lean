import EventScript.Proofs.Store.Moment
import EventScript.Proofs.Store.Writer

/-! Saved variables can be loaded again. Saving fails only for names and values that do not fit. -/

namespace EventScript

open Codec

def FitsPair (p : String × Int) : Prop :=
  (utf8 p.1).length ≤ 65535 ∧ -2 ^ 63 ≤ p.2 ∧ p.2 < 2 ^ 63

instance : DecidablePred FitsPair := fun _ => inferInstanceAs (Decidable (_ ∧ _ ∧ _))

def Store.Fits (s : Store) : Prop := (∀ p ∈ s, FitsPair p) ∧ s.length < 2 ^ 32

namespace Ledger

variable {κ α : Type} [DecidableEq κ]

lemma put_of_new {l : Ledger κ α} {k : κ} (h : k ∉ keys l) (v : α) : put l k v = l ++ [(k, v)] := by
  induction l with
  | nil => rfl
  | cons p l ih =>
    obtain ⟨hne, hl⟩ := not_or.mp (mt List.mem_cons.mpr h)
    rw [put, if_neg (Ne.symm hne), ih hl]
    rfl

lemma ofPairs_of_nodup {l : Ledger κ α} (h : (keys l).Nodup) : ofPairs l = l := by
  suffices hfold : ∀ acc ps : Ledger κ α, (keys (acc ++ ps)).Nodup →
      ps.foldl (fun l p => put l p.1 p.2) acc = acc ++ ps from hfold [] l h
  intro acc ps hkeys
  induction ps generalizing acc with
  | nil => simp
  | cons p ps ih =>
    have hnew : p.1 ∉ keys acc := by
      intro hmem
      rw [keys, List.map_append, List.nodup_append] at hkeys
      exact hkeys.2.2 _ hmem _ (by simp) rfl
    rw [List.foldl_cons, put_of_new hnew, ih]
    · simp
    · simpa using hkeys

end Ledger

namespace Save

def pairBytes (p : String × Int) : List UInt8 := textBytes 2 p.1 ++ intBytes 8 p.2

lemma writes_pairs {ps : List (String × Int)} (h : ∀ p ∈ ps, FitsPair p) :
    Writes (writePairs ps) (ps.flatMap pairBytes) (ps.flatMap pairBytes).length := by
  induction ps with
  | nil => exact .pure 0
  | cons p ps ih =>
    obtain ⟨hp, hps⟩ := List.forall_mem_cons.mp h
    have hvalue := (fits_value p.2).mpr hp.2
    have hall : Writes (writePairs (p :: ps))
        (textBytes 2 p.1 ++ (intBytes 8 p.2 ++ (ps.flatMap pairBytes ++ []))) _ :=
      (writes_text hp.1).bind ((writes_int hvalue).bind ((ih hps).bind (.pure _)))
    simpa [pairBytes, Nat.add_assoc] using hall

/-- The pairs before the first that does not fit, and the name of that one if it is not too long. -/
def tornPairs : List (String × Int) → List UInt8
  | [] => []
  | p :: ps =>
    if FitsPair p then pairBytes p ++ tornPairs ps
    else if (utf8 p.1).length ≤ 65535 then textBytes 2 p.1 else []

lemma breaks_pairs {ps : List (String × Int)} (h : ¬ ∀ p ∈ ps, FitsPair p) :
    Breaks (writePairs ps) (tornPairs ps) := by
  induction ps with
  | nil => simp at h
  | cons p ps ih =>
    by_cases hp : FitsPair p
    · have hps : ¬ ∀ p ∈ ps, FitsPair p := fun hps => h (List.forall_mem_cons.mpr ⟨hp, hps⟩)
      have hvalue := (fits_value p.2).mpr hp.2
      rw [tornPairs, if_pos hp, pairBytes, List.append_assoc]
      exact (writes_text hp.1).breaks ((writes_int hvalue).breaks ((ih hps).bind _))
    · rw [tornPairs, if_neg hp]
      by_cases hname : (utf8 p.1).length ≤ 65535
      · have hvalue : ¬ fits 8 true p.2 = true := fun hfits => hp ⟨hname, (fits_value p.2).mp hfits⟩
        rw [if_pos hname, ← List.append_nil (textBytes 2 p.1)]
        exact (writes_text hname).breaks ((breaks_int hvalue).bind _)
      · rw [if_neg hname]
        exact (breaks_text hname).bind _

lemma reads_pairs {ps : List (String × Int)} (h : ∀ p ∈ ps, FitsPair p) (s : Store) :
    Reads (readPairs ps.length s) (ps.flatMap pairBytes)
      (ps.foldl (fun s p => Ledger.put s p.1 p.2) s) := by
  induction ps generalizing s with
  | nil => exact .pure s
  | cons p ps ih =>
    obtain ⟨hp, hps⟩ := List.forall_mem_cons.mp h
    have hvalue : Reads (Reader.int 8 true) (intBytes 8 p.2) p.2 :=
      .int (by decide) (decodeInt_signed (by decide) ((fits_value p.2).mpr hp.2))
    have hall : Reads (readPairs (p :: ps).length s)
        (textBytes 2 p.1 ++ (intBytes 8 p.2 ++ ps.flatMap pairBytes)) _ :=
      (Reads.shortText hp.1).bind (hvalue.bind (ih hps (s.assign p.1 p.2)))
    simpa [pairBytes, Store.assign] using hall

def bytes (s : Store) (date : String) : List UInt8 :=
  textBytes 2 openingMarker ++ (textBytes 2 date ++ (intBytes 4 s.length ++
    (s.flatMap pairBytes ++ textBytes 2 closingMarker)))

def torn (s : Store) (date : String) : List UInt8 :=
  textBytes 2 openingMarker ++ (textBytes 2 date ++
    if s.length < 2 ^ 32 then intBytes 4 s.length ++ tornPairs s else [])

lemma length_openingMarker : (utf8 openingMarker).length ≤ 65535 := by decide

lemma length_closingMarker : (utf8 closingMarker).length ≤ 65535 := by decide

variable {s : Store} {d : Stamp}

lemma writes_store (hs : s.Fits) (hd : (utf8 d.text).length ≤ 65535) :
    Writes (write s d) (bytes s d.text) (bytes s d.text).length := by
  have hcount := (fits_count s.length).mpr hs.2
  have hall : Writes (write s d) (textBytes 2 openingMarker ++ (textBytes 2 d.text ++
      (intBytes 4 s.length ++ (s.flatMap pairBytes ++ (textBytes 2 closingMarker ++ []))))) _ :=
    (writes_text length_openingMarker).bind <| (writes_text hd).bind <|
      (writes_int hcount).bind <| (writes_pairs hs.1).bind <|
        (writes_text length_closingMarker).bind (.pure _)
  simpa [bytes, Nat.add_assoc] using hall

lemma breaks_store (hs : ¬ s.Fits) (hd : (utf8 d.text).length ≤ 65535) :
    Breaks (write s d) (torn s d.text) := by
  refine (writes_text length_openingMarker).breaks ((writes_text hd).breaks ?_)
  by_cases hlength : s.length < 2 ^ 32
  · have hpairs : ¬ ∀ p ∈ s, FitsPair p := fun h => hs ⟨h, hlength⟩
    rw [if_pos hlength]
    exact (writes_int ((fits_count _).mpr hlength)).breaks ((breaks_pairs hpairs).bind _)
  · rw [if_neg hlength]
    exact (breaks_int (mt (fits_count _).mp hlength)).bind _

/-- A repeated name does no harm: its last value counts. -/
lemma reads_bytes {ps : List (String × Int)} {date : String} (hps : Store.Fits ps)
    (hdate : (utf8 date).length ≤ 65535) (haccepts : Moment.accepts (utf8 date) = true) :
    Reads read (bytes ps date) (Ledger.ofPairs ps) := by
  have hcount : Reads (Reader.int 4 false) (intBytes 4 ps.length) ps.length :=
    .int (by decide) (decodeInt_unsigned ((fits_count ps.length).mpr hps.2))
  refine (Reads.marker length_openingMarker).bind ((Reads.shortText hdate).bind ?_)
  rw [haccepts]
  refine hcount.bind ((reads_pairs hps.1 []).bind ?_)
  exact (Reads.marker length_closingMarker).andThen (.pure _)

lemma reads_store (hs : s.Fits) (hkeys : (Ledger.keys s).Nodup) (hd : d.isValid = true) :
    Reads read (bytes s d.text) s := by
  have h := reads_bytes hs (Stamp.length_text hd) (Stamp.accepts_text hd)
  rwa [Ledger.ofPairs_of_nodup hkeys] at h

lemma save_of_fits (hs : s.Fits) (hd : d.isValid = true) :
    save s d = (.ok (bytes s d.text).length, bytes s d.text) :=
  written_of_ok (writes_store hs (Stamp.length_text hd))

lemma save_of_not_fits (hs : ¬ s.Fits) (hd : d.isValid = true) :
    save s d = (.error .overflow, torn s d.text) :=
  written_of_breaks (breaks_store hs (Stamp.length_text hd))

lemma load_bytes (hs : s.Fits) (hkeys : (Ledger.keys s).Nodup) (hd : d.isValid = true)
    (r : List UInt8) :
    load (bytes s d.text ++ r) = (.ok s, { rest := r, position := (bytes s d.text).length }) := by
  have h := reads_store hs hkeys hd r 0
  unfold load Codec.run
  rw [run_apply, h, Nat.zero_add]

end Save

theorem saved_variables_load (s : Store) (d : Stamp) (hkeys : (Ledger.keys s).Nodup)
    (hd : d.isValid = true) :
    ((∃ n, (Save.save s d).1 = .ok n) ↔ s.Fits) ∧
      (¬ s.Fits → (Save.save s d).1 = .error .overflow) ∧
      ∀ n bs, Save.save s d = (.ok n, bs) → n = bs.length ∧ ∀ r,
        Save.load (bs ++ r) = (.ok s, { rest := r, position := bs.length }) ∧
          ∀ old, Save.loadInto old (bs ++ r) = (.ok (), s) := by
  have hfits {n : Nat} (h : (Save.save s d).1 = .ok n) : s.Fits := by
    by_contra hs
    rw [Save.save_of_not_fits hs hd] at h
    cases h
  refine ⟨⟨fun ⟨n, h⟩ => hfits h, fun hs => ⟨_, congrArg Prod.fst (Save.save_of_fits hs hd)⟩⟩,
    fun hs => congrArg Prod.fst (Save.save_of_not_fits hs hd), fun n bs h => ?_⟩
  have hs := hfits (congrArg Prod.fst h)
  rw [Save.save_of_fits hs hd] at h
  obtain ⟨hn, rfl⟩ := Prod.mk.inj h
  refine ⟨(Except.ok.inj hn).symm, fun r => ?_⟩
  have hload := Save.load_bytes hs hkeys hd r
  refine ⟨hload, fun old => ?_⟩
  rw [Save.loadInto, hload]

/-- The least and the greatest value, saved on a leap day in a zone behind universal time. -/
theorem saved_variables_load_leap_day : ∃ (s : Store) (d : Stamp) (bs : List UInt8),
    s = [("$least", -2 ^ 63), ("$最大", 2 ^ 63 - 1)] ∧ Save.save s d = (.ok bs.length, bs) ∧
      Save.load (bs ++ [7]) = (.ok s, { rest := [7], position := bs.length }) := by
  let s : Store := [("$least", -2 ^ 63), ("$最大", 2 ^ 63 - 1)]
  let d : Stamp := {
    year := 2024, month := 2, day := 29, hour := 23, microsecond := 120
    offset := some (-12600000000) }
  obtain ⟨hsave, -, hload⟩ := saved_variables_load s d (by decide) (by decide)
  have hfits : s.Fits := by
    refine ⟨fun p hp => ?_, by decide⟩
    rcases List.mem_cons.mp hp with rfl | hp
    · exact ⟨by decide, by decide, by decide⟩
    · obtain rfl := List.mem_singleton.mp hp
      exact ⟨by decide, by decide, by decide⟩
  obtain ⟨n, hn⟩ := hsave.mpr hfits
  obtain ⟨⟨r, bs⟩, hbs⟩ : ∃ x, Save.save s d = x := ⟨_, rfl⟩
  rw [hbs] at hn
  obtain rfl : r = .ok n := hn
  obtain ⟨rfl, hrest⟩ := hload n bs hbs
  exact ⟨s, d, bs, rfl, hbs, (hrest [7]).1⟩

end EventScript
