import RequestSigning.Document.Adapter
import RequestSigning.Proofs.Date.UniversalTime
import RequestSigning.Proofs.Json.Documents

/-!
# How reading a document fails

A text is read as a plain document, an item or a date, or the error tells what is wrong with the
document. Only where a whole number has too many digits another error gets through.
-/

namespace RequestSigning.Document

/-- Whether what was read is what was asked for; a date is then one of the calendar. -/
def Loaded.HasKind : Option Kind → Loaded → Prop
  | none, .plain _ => True
  | some .item, .item _ => True
  | some .date, .date t => t.isValid = true
  | some (.key k), .material m => m.kind = k
  | _, _ => False

/-- Either what was asked for, or an error that tells what is wrong with the document. -/
def Told (kind : Option Kind) (r : Except Error Loaded) : Prop :=
  (∃ v, r = .ok v ∧ v.HasKind kind) ∨ ∃ e, r = .error (.document e)

variable {s : Json.Text} {kind : Option Kind} {count : Nat} {j : Json} {m : Json.Malformed}

/-! ## What the reader of documents says -/

theorem readPlain_of_ok (h : Json.parse s = .ok j) : readPlain (.text s) = .ok j := by
  simp only [readPlain, h]

theorem readPlain_of_malformed (h : Json.parse s = .error (.malformed m)) :
    readPlain (.text s) = .error (.document (.malformed (.malformed m))) := by
  simp only [readPlain, h]

theorem readPlain_of_tooManyDigits (h : Json.parse s = .error (.tooManyDigits count)) :
    readPlain (.text s) = .error (.invalid (.tooManyDigits count)) := by
  simp only [readPlain, h]

theorem readText_eq_ok_iff {text : Json.Text} :
    readText (.text s) = .ok text ↔ Json.parse s = .ok (.text text) := by
  rw [readText]
  cases hparse : Json.parse s with
  | ok j =>
    rw [readPlain_of_ok hparse]
    cases j <;> simp
  | error e =>
    cases e with
    | malformed m =>
      rw [readPlain_of_malformed hparse]
      exact iff_of_false nofun nofun
    | tooManyDigits count =>
      rw [readPlain_of_tooManyDigits hparse]
      exact iff_of_false nofun nofun

/-- The kinds of the table that are no key material, and no kind. -/
theorem told_of_ok (hkind : kind ∈ [none, some .item, some .date]) (h : Json.parse s = .ok j) :
    Told kind (ofJson Kind.all (.text s) kind) := by
  have hplain := readPlain_of_ok h
  simp only [List.mem_cons, List.not_mem_nil, or_false] at hkind
  rcases hkind with rfl | rfl | rfl
  · exact .inl ⟨.plain j, by simp only [ofJson, hplain, Except.map], trivial⟩
  · show Told _ ((DataBagItem.decodeText s).map .item)
    unfold DataBagItem.decodeText
    rw [h]
    cases j with
    | object entries =>
      dsimp only
      cases DataBagItem.ofEntries s entries with
      | ok item => exact .inl ⟨.item item, rfl, trivial⟩
      | error e => exact .inr ⟨e, rfl⟩
    | _ => exact .inr ⟨.itemNotObject, rfl⟩
  · show Told _ (decode .date (.text s))
    unfold decode readText
    rw [hplain]
    cases j with
    | text t =>
      dsimp only [decodeDate]
      cases hdate : (dateChars? (expandZulu t)).bind Date.DateTime.ofChars? with
      | some d =>
        obtain ⟨cs, -, hread⟩ := Option.bind_eq_some_iff.1 hdate
        exact .inl ⟨.date d, rfl, (Date.ofChars?_eq_some_iff.1 hread).1⟩
      | none => exact .inr ⟨_, rfl⟩
    | _ => exact .inr ⟨.notTextDocument, rfl⟩

theorem told_of_malformed (hkind : kind ∈ [none, some .item, some .date])
    (h : Json.parse s = .error (.malformed m)) : Told kind (ofJson Kind.all (.text s) kind) := by
  have hplain := readPlain_of_malformed h
  simp only [List.mem_cons, List.not_mem_nil, or_false] at hkind
  rcases hkind with rfl | rfl | rfl
  · exact .inr ⟨_, by simp only [ofJson, hplain, Except.map]; rfl⟩
  · exact .inr ⟨_, by
      simp only [ofJson, decode, DataBagItem.decode, DataBagItem.decodeText, h]; rfl⟩
  · exact .inr ⟨_, by simp only [ofJson, decode, readText, hplain]; rfl⟩

theorem ofJson_of_tooManyDigits (hkind : kind ∈ [none, some .item, some .date])
    (h : Json.parse s = .error (.tooManyDigits count)) :
    ofJson Kind.all (.text s) kind = .error (.invalid (.tooManyDigits count)) := by
  have hplain := readPlain_of_tooManyDigits h
  simp only [List.mem_cons, List.not_mem_nil, or_false] at hkind
  rcases hkind with rfl | rfl | rfl
  · simp only [ofJson, hplain, Except.map]
  · simp only [ofJson, decode, DataBagItem.decode, DataBagItem.decodeText, h]; rfl
  · simp only [ofJson, decode, readText, hplain]; rfl

theorem not_told_invalid (cause : Invalid) : ¬ Told kind (.error (.invalid cause)) := by
  rintro (⟨v, h, -⟩ | ⟨e, h⟩) <;> cases h

/-! ## When the error tells of the document -/

/-- What was asked for is read, or the error tells of the document, exactly when the first thing in
the text that is no document is not a whole number with too many digits. Where it is, the error is
the number of digits, and as many stand in a row in the text. -/
theorem ofJson_told_iff (hkind : kind ∈ [none, some .item, some .date]) :
    (Told kind (ofJson Kind.all (.text s) kind) ↔ ∀ count, ¬ Json.MeetsLongNumber count s) ∧
      ∀ count, Json.MeetsLongNumber count s →
        ofJson Kind.all (.text s) kind = .error (.invalid (.tooManyDigits count)) ∧
          Json.HasLongRun count s := by
  refine ⟨⟨fun htold count h => ?_, fun h => ?_⟩, fun count h => ?_⟩
  · rw [ofJson_of_tooManyDigits hkind (Json.parse_eq_tooManyDigits_iff.2 h)] at htold
    exact not_told_invalid _ htold
  · cases hparse : Json.parse s with
    | ok j => exact told_of_ok hkind hparse
    | error e =>
      cases e with
      | malformed m => exact told_of_malformed hkind hparse
      | tooManyDigits count => exact absurd (Json.parse_eq_tooManyDigits_iff.1 hparse) (h count)
  · exact ⟨ofJson_of_tooManyDigits hkind (Json.parse_eq_tooManyDigits_iff.2 h), h.hasLongRun⟩

/-- A text without an end, read as a date. -/
theorem ofJson_told_of_open_text : some Kind.date ∈ [none, some .item, some .date] ∧
    Told (some .date) (ofJson Kind.all (.text "\"2030") (some .date)) := by
  have hkind : some Kind.date ∈ [none, some .item, some .date] := by decide
  refine ⟨hkind, (ofJson_told_iff hkind).1.2 fun count h => ?_⟩
  have hparse : Json.parse "\"2030" = .error (.malformed ⟨.unterminatedText, 1, 1, 0⟩) := by
    simp only [Json.parse, Json.Text.ofString, String.reduceToList]
    rfl
  cases hparse.symm.trans (Json.parse_eq_tooManyDigits_iff.2 h)

theorem ofJson_not_told_of_long_number :
    let s : Json.Text := String.ofList (List.replicate 4301 '1')
    ¬ Told none (ofJson Kind.all (.text s) none) ∧
      ¬ Told (some .item) (ofJson Kind.all (.text s) (some .item)) ∧
      ¬ Told (some .date) (ofJson Kind.all (.text s) (some .date)) := by
  intro s
  have hwhole : Json.IsWhole (List.replicate 4301 '1') :=
    Json.isWhole_replicate rfl (by decide) (by decide)
  have hmeets := Json.meetsLongNumber_of_isWhole hwhole (by rw [List.length_replicate]; decide)
  have hs : s = Json.Text.ofChars (List.replicate 4301 '1') := Json.Text.ofString_ofList _
  have hparse := Json.parse_eq_tooManyDigits_iff.2 (hs ▸ hmeets)
  refine ⟨?_, ?_, ?_⟩ <;> rw [ofJson_of_tooManyDigits (by simp) hparse] <;> exact not_told_invalid _

end RequestSigning.Document
