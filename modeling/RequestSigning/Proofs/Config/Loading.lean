import RequestSigning.Config.Client
import RequestSigning.Proofs.Json.Documents
import RequestSigning.Proofs.Text.Utf8

/-!
# How loading a configuration fails

A text is loaded, or the error tells what is wrong with the configuration, whatever stands in its
fields. Two errors get through: too many digits of a whole number, and bytes of a file that are no
text.
-/

namespace RequestSigning.ClientConfig

/-- Either a configuration, or an error that tells what is wrong with it. -/
def Told (r : Except Error ClientConfig) : Prop :=
  (∃ c, r = .ok c) ∨ ∃ e, r = .error (.config e)

variable {s : Json.Text} {path : String} {count : Nat} {j : Json} {m : Json.Malformed}
  {tree : FileTree} {bytes : List UInt8}

/-! ## Texts -/

theorem told_of_ok (h : Json.parse s = .ok j) : Told (ofText s) := by
  unfold ofText
  rw [h]
  cases j with
  | object entries =>
    dsimp only
    cases ofValue (Json.object entries).toValue with
    | ok c => exact .inl ⟨c, rfl⟩
    | error e => exact .inr ⟨e, rfl⟩
  | _ => exact .inr ⟨.notObject, rfl⟩

theorem told_of_malformed (h : Json.parse s = .error (.malformed m)) : Told (ofText s) :=
  .inr ⟨.malformed m, by simp only [ofText, h]⟩

theorem ofText_of_tooManyDigits (h : Json.parse s = .error (.tooManyDigits count)) :
    ofText s = .error (.invalid (.tooManyDigits count)) := by
  simp only [ofText, h]

theorem not_told_invalid (cause : Invalid) : ¬ Told (.error (.invalid cause)) := by
  rintro (⟨c, h⟩ | ⟨e, h⟩) <;> cases h

theorem not_told_undecodable (e : Text.Utf8Error) : ¬ Told (.error (.undecodable e)) := by
  rintro (⟨c, h⟩ | ⟨e, h⟩) <;> cases h

theorem ofText_told_iff : Told (ofText s) ↔ ∀ count, ¬ Json.MeetsLongNumber count s := by
  constructor
  · intro htold count h
    rw [ofText_of_tooManyDigits (Json.parse_eq_tooManyDigits_iff.2 h)] at htold
    exact not_told_invalid _ htold
  · intro h
    cases hparse : Json.parse s with
    | ok j => exact told_of_ok hparse
    | error e =>
      cases e with
      | malformed m => exact told_of_malformed hparse
      | tooManyDigits count => exact absurd (Json.parse_eq_tooManyDigits_iff.1 hparse) (h count)

/-! ## Files -/

/-- The text of a file as it is loaded. -/
def unified (t : String) : String := String.ofList (unifyBreaks t.toList)

theorem ofFile_of_text {t : String} (hpath : '\x00' ∉ path.toList)
    (hread : tree.read (.ofString path) = .ok (Text.utf8Encode t)) :
    ofFile tree path = ofText (unified t) := by
  have hnul : path.toList.contains '\x00' = false := by simpa using hpath
  have hdecode : Text.utf8Decode (Text.utf8Encode t) = .ok t := Text.utf8Decode_eq_ok_iff.2 rfl
  simp only [ofFile, hnul, Bool.false_eq_true, if_false, hread, hdecode, unified]

theorem ofFile_of_no_text (hpath : '\x00' ∉ path.toList)
    (hread : tree.read (.ofString path) = .ok bytes) (hbytes : ∀ t, bytes ≠ Text.utf8Encode t) :
    ∃ e, ofFile tree path = .error (.undecodable e) := by
  have hnul : path.toList.contains '\x00' = false := by simpa using hpath
  cases hdecode : Text.utf8Decode bytes with
  | ok t => exact absurd (Text.utf8Decode_eq_ok_iff.1 hdecode) (hbytes t)
  | error e => exact ⟨e, by simp only [ofFile, hnul, Bool.false_eq_true, if_false, hread, hdecode]⟩

theorem ofFile_told_iff (hpath : '\x00' ∉ path.toList)
    (hread : tree.read (.ofString path) = .ok bytes) :
    Told (ofFile tree path) ↔
      ∃ t, bytes = Text.utf8Encode t ∧ ∀ count, ¬ Json.MeetsLongNumber count (unified t) := by
  constructor
  · intro htold
    by_cases hbytes : ∃ t, bytes = Text.utf8Encode t
    · obtain ⟨t, rfl⟩ := hbytes
      rw [ofFile_of_text hpath hread] at htold
      exact ⟨t, rfl, ofText_told_iff.1 htold⟩
    · obtain ⟨e, he⟩ := ofFile_of_no_text hpath hread (not_exists.1 hbytes)
      rw [he] at htold
      exact absurd htold (not_told_undecodable e)
  · rintro ⟨t, rfl, ht⟩
    rw [ofFile_of_text hpath hread]
    exact ofText_told_iff.2 ht

/-! ## When the error tells of the configuration -/

/-- A text is loaded or the error tells of the configuration, exactly when the first thing in it
that is no document is not a whole number with too many digits; where it is, the error is their
number, and as many stand in a row in the text. A file that can be read is loaded as its text is,
and with bytes of no text gives their error. -/
theorem load_told_iff (s : Json.Text) (hpath : '\x00' ∉ path.toList)
    (hread : tree.read (.ofString path) = .ok bytes) :
    (Told (ofText s) ↔ ∀ count, ¬ Json.MeetsLongNumber count s) ∧
    (∀ count, Json.MeetsLongNumber count s →
      ofText s = .error (.invalid (.tooManyDigits count)) ∧ Json.HasLongRun count s) ∧
    (Told (ofFile tree path) ↔
      ∃ t, bytes = Text.utf8Encode t ∧ ∀ count, ¬ Json.MeetsLongNumber count (unified t)) ∧
    (∀ t, bytes = Text.utf8Encode t → ofFile tree path = ofText (unified t)) ∧
    ((∀ t, bytes ≠ Text.utf8Encode t) → ∃ e, ofFile tree path = .error (.undecodable e)) := by
  refine ⟨ofText_told_iff, fun count h => ?_, ofFile_told_iff hpath hread, ?_,
    ofFile_of_no_text hpath hread⟩
  · exact ⟨ofText_of_tooManyDigits (Json.parse_eq_tooManyDigits_iff.2 h), h.hasLongRun⟩
  · rintro t rfl
    exact ofFile_of_text hpath hread

/-- A file with an object that has no fields, over two lines. -/
theorem load_told_of_empty_object :
    let tree : FileTree := ⟨[(["c.json"], [0x7b, 0x0d, 0x0a, 0x7d])], []⟩
    '\x00' ∉ "c.json".toList ∧ tree.read (.ofString "c.json") = .ok [0x7b, 0x0d, 0x0a, 0x7d] ∧
      Told (ofFile tree "c.json") := by
  intro tree
  have hpath : '\x00' ∉ "c.json".toList := by decide
  have hread : tree.read (.ofString "c.json") = .ok [0x7b, 0x0d, 0x0a, 0x7d] := by rfl
  have hbytes : [0x7b, 0x0d, 0x0a, 0x7d] = Text.utf8Encode "\x7b\r\n\x7d" := by
    rw [Text.utf8Encode_eq]
    decide
  have hparse : Json.parse (unified "\x7b\r\n\x7d") = .ok (.object []) := by
    simp only [unified, Json.parse, Json.Text.ofString, String.reduceToList, String.toList_ofList]
    rfl
  obtain ⟨-, -, htold, -, -⟩ := load_told_iff "" hpath hread
  refine ⟨hpath, hread, htold.2 ⟨_, hbytes, fun count h => ?_⟩⟩
  cases hparse.symm.trans (Json.parse_eq_tooManyDigits_iff.2 h)

theorem load_not_told_of_long_number_or_byte :
    ¬ Told (ofText (String.ofList (List.replicate 4301 '1'))) ∧
      ¬ Told (ofFile ⟨[(["b.json"], [0xff])], []⟩ "b.json") := by
  constructor
  · have hwhole : Json.IsWhole (List.replicate 4301 '1') :=
      Json.isWhole_replicate rfl (by decide) (by decide)
    have hmeets := Json.meetsLongNumber_of_isWhole hwhole (by rw [List.length_replicate]; decide)
    rw [Json.Text.ofString_ofList, ofText_of_tooManyDigits
      (Json.parse_eq_tooManyDigits_iff.2 hmeets)]
    exact not_told_invalid _
  · have hload : ofFile ⟨[(["b.json"], [0xff])], []⟩ "b.json" =
        .error (.undecodable ⟨0, 0, 0xff, .invalidStart⟩) := by rfl
    rw [hload]
    exact not_told_undecodable _

end RequestSigning.ClientConfig
