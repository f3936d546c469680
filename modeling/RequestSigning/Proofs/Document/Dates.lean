import RequestSigning.Proofs.Date.Writing
import RequestSigning.Proofs.Document.Loading
import RequestSigning.Proofs.Document.Writing

/-!
# Documents of dates

A date is written as a text that is read as the same date again. In a text that is read, a `Z` at
the end stands for universal time, as long as the date in front of it has a time and no null
character.
-/

namespace RequestSigning.Document

open Date (DateTime SpellsDate)
open Json (Symbol)

variable {s : Json.Text} {v : Loaded} {t : DateTime} {cs : List Char} {text body : Json.Text}

/-! ## The characters of a date -/

theorem expandZulu_concat (body : Json.Text) :
    expandZulu (body ++ [.char 'Z']) = body ++ ['+', '0', '0', ':', '0', '0'].map .char := by
  rw [expandZulu, List.reverse_concat]
  exact congrArg (· ++ _) body.reverse_reverse

theorem expandZulu_of_not_mem (h : .char 'Z' ∉ text) : expandZulu text = text := by
  unfold expandZulu
  split
  · next heq => exact absurd (List.mem_reverse.1 (heq ▸ List.mem_cons_self)) h
  · rfl

theorem mapM_char?_map_char (cs : List Char) :
    (cs.map Symbol.char).mapM Symbol.char? = some cs := by
  induction cs with
  | nil => rfl
  | cons c cs ih =>
    rw [List.map_cons, List.mapM_cons, ih]
    rfl

/-- Characters behind a text are kept as they are, and it makes no difference to the text that they
are there. -/
theorem dateChars?_append (body : Json.Text) (cs : List Char) :
    dateChars? (body ++ cs.map .char) = (dateChars? body).map (· ++ cs) := by
  have hmapM : ∀ t : Json.Text,
      (t ++ cs.map Symbol.char).mapM Symbol.char? = (t.mapM Symbol.char?).map (· ++ cs) := by
    intro t
    rw [List.mapM_append, mapM_char?_map_char]
    cases t.mapM Symbol.char? <;> rfl
  have hany : ∀ i : Nat,
      (body ++ cs.map Symbol.char)[i]?.any Symbol.isSurrogate =
        body[i]?.any Symbol.isSurrogate := by
    intro i
    rcases Nat.lt_or_ge i body.length with hi | hi
    · rw [List.getElem?_append_left hi]
    · rw [List.getElem?_append_right hi, List.getElem?_eq_none hi, List.getElem?_map]
      cases cs[i - body.length]? <;> rfl
  unfold dateChars?
  simp only [hany]
  cases hfind : [7, 8, 10].find? fun i => body[i]?.any Symbol.isSurrogate with
  | none => exact hmapM body
  | some i =>
    have hi : i < body.length := by
      by_contra hge
      have hsome := List.find?_some hfind
      rw [List.getElem?_eq_none (Nat.not_lt.1 hge)] at hsome
      cases hsome
    dsimp only
    rw [List.set_append_left _ _ hi]
    exact hmapM _

theorem dateChars?_map_char (cs : List Char) : dateChars? (cs.map .char) = some cs :=
  dateChars?_append [] cs

/-! ## What is read as a date -/

theorem decodeDate_eq_ok_iff : decodeDate text = .ok t ↔
    ∃ cs, dateChars? (expandZulu text) = some cs ∧ DateTime.ofChars? cs = some t := by
  rw [← Option.bind_eq_some_iff]
  unfold decodeDate
  dsimp only
  cases (dateChars? (expandZulu text)).bind DateTime.ofChars? with
  | none => exact iff_of_false nofun nofun
  | some t' => rw [Except.ok.injEq, Option.some.injEq]

/-- What is read as a date is the text of a date. -/
theorem ofJson_date_eq_ok_iff : ofJson Kind.all (.text s) (some .date) = .ok v ↔
    ∃ text t, Json.parse s = .ok (.text text) ∧ decodeDate text = .ok t ∧ v = .date t := by
  change decode .date (.text s) = .ok v ↔ _
  simp only [← readText_eq_ok_iff]
  constructor
  · intro h
    unfold decode at h
    dsimp only at h
    cases htext : readText (.text s) with
    | error e =>
      rw [htext] at h
      cases h
    | ok text =>
      rw [htext] at h
      dsimp only at h
      cases hdate : decodeDate text with
      | error e =>
        rw [hdate] at h
        cases h
      | ok t =>
        rw [hdate] at h
        exact ⟨text, t, rfl, hdate, (Except.ok.inj h).symm⟩
  · rintro ⟨text, t, htext, hdate, rfl⟩
    rw [decode, htext]
    dsimp only
    rw [hdate]

/-! ## Dates that were written -/

/-- A date of the calendar whose offset is not known, or is a number of seconds, is written as a
text that is read as this date, with its offset. -/
theorem ofJson_toJson_date (h : t.isValid = true)
    (hoffset : ∀ offset, t.offset = some offset → 1000000 ∣ offset) :
    ∃ s, toJson Kind.all (.other (.date t)) = .ok s ∧
      ofJson Kind.all (.text s) (some .date) = .ok (.date t) := by
  have hreadable : t.HasReadableOffset := fun offset hsome => by
    obtain ⟨seconds, rfl⟩ := hoffset offset hsome
    omega
  have hzulu : Symbol.char 'Z' ∉ Json.Text.ofString t.text := fun hmem => by
    obtain ⟨c, hc, heq⟩ := List.mem_map.1 hmem
    exact Date.not_mem_text h (Symbol.char.inj heq ▸ hc)
  refine ⟨_, rfl, ofJson_date_eq_ok_iff.2 ⟨.ofString t.text, t, parse_print_text t.text, ?_, rfl⟩⟩
  refine decodeDate_eq_ok_iff.2 ⟨t.text.toList, ?_, Date.ofChars?_text h hreadable⟩
  rw [expandZulu_of_not_mem hzulu]
  exact dateChars?_map_char _

/-- The last day of the first year, its last microsecond, and the least offset. -/
theorem ofJson_toJson_date_least :
    let t : DateTime := ⟨⟨1, 12, 31⟩, 23, 59, 59, 999999, some (-86399000000)⟩
    t.isValid = true ∧ ∃ s, toJson Kind.all (.other (.date t)) = .ok s ∧
      ofJson Kind.all (.text s) (some .date) = .ok (.date t) := by
  intro t
  have hvalid : t.isValid = true := by decide
  exact ⟨hvalid, ofJson_toJson_date hvalid fun offset hsome => by cases hsome; decide⟩

/-! ## Universal time -/

theorem ofJson_of_zulu (htext : Json.parse s = .ok (.text (cs.map .char ++ [.char 'Z'])))
    (hdate : DateTime.ofChars? (cs ++ ['+', '0', '0', ':', '0', '0']) = some t) :
    ofJson Kind.all (.text s) (some .date) = .ok (.date t) := by
  refine ofJson_date_eq_ok_iff.2 ⟨_, t, htext, decodeDate_eq_ok_iff.2 ⟨_, ?_, hdate⟩, rfl⟩
  rw [expandZulu_concat, dateChars?_append, dateChars?_map_char]
  rfl

/-- A date that is read from a text with a `Z` at the end, but no null character, has the offset
zero exactly when more than a date stands in front of the `Z`. What can be read without the `Z`, as
a date with a time but no known offset, is the same date with the `Z`. Behind a date alone the `Z`
is not read as an offset: the date is its midnight, of no known offset. -/
theorem offset_of_zulu_iff (htext : Json.parse s = .ok (.text (body ++ [.char 'Z'])))
    (hread : ofJson Kind.all (.text s) (some .date) = .ok v) :
    ∃ cs t, dateChars? body = some cs ∧ v = .date t ∧
      ('\x00' ∉ cs → (t.offset = some 0 ↔ ∀ d, ¬ SpellsDate cs d)) ∧
      (∀ t', DateTime.ofChars? cs = some t' → t'.offset = none → (∀ d, ¬ SpellsDate cs d) →
        t = { t' with offset := some 0 }) ∧
      ∀ d, SpellsDate cs d → t = d.midnight := by
  obtain ⟨text, t, htext', hdate, rfl⟩ := ofJson_date_eq_ok_iff.1 hread
  obtain rfl : text = body ++ [.char 'Z'] := Json.text.inj (Except.ok.inj (htext'.symm.trans htext))
  obtain ⟨cs', hcs', hchars⟩ := decodeDate_eq_ok_iff.1 hdate
  rw [expandZulu_concat, dateChars?_append] at hcs'
  obtain ⟨cs, hcs, rfl⟩ := Option.map_eq_some_iff.1 hcs'
  refine ⟨cs, t, hcs, rfl, ?_⟩
  have hsame : ∀ t', DateTime.ofChars? cs = some t' → t'.offset = none → (∀ d, ¬ SpellsDate cs d) →
      t = { t' with offset := some 0 } := fun t' ht' hnone hdate =>
    Option.some.inj (hchars.symm.trans (Date.ofChars?_append_universal_of_eq_none ht' hnone hdate))
  rcases Date.ofChars?_append_universal hchars with ⟨hdate, hmidnight⟩ | ⟨hdate, hoffset⟩
  · have hnone : t.offset ≠ some 0 := by
      rw [hmidnight]
      nofun
    refine ⟨fun _ => iff_of_false hnone fun h => h _ hdate, hsame, fun d hd => ?_⟩
    rw [hd.unique hdate]
    exact hmidnight
  · exact ⟨fun hnull => iff_of_true (hoffset.resolve_right hnull) hdate, hsame,
      fun d hd => absurd hd (hdate d)⟩

/-- A date without hyphens, a time without colons, and a comma before the fraction. -/
theorem offset_of_zulu_iff_of_fraction :
    let s : Json.Text := "\"20300101T101112,5Z\""
    let cs := "20300101T101112,5".toList
    let t : DateTime := ⟨⟨2030, 1, 1⟩, 10, 11, 12, 500000, some 0⟩
    Json.parse s = .ok (.text (cs.map .char ++ [.char 'Z'])) ∧
      ofJson Kind.all (.text s) (some .date) = .ok (.date t) ∧ ∀ d, ¬ SpellsDate cs d := by
  intro s cs t
  have htext : Json.parse s = .ok (.text (cs.map .char ++ [.char 'Z'])) := by
    simp only [s, cs, Json.parse, Json.Text.ofString, String.reduceToList]
    rfl
  have hread : ofJson Kind.all (.text s) (some .date) = .ok (.date t) :=
    ofJson_of_zulu htext (by decide +kernel)
  obtain ⟨cs', t', hcs, ht, hiff, -⟩ := offset_of_zulu_iff htext hread
  cases ht
  cases (dateChars?_map_char cs).symm.trans hcs
  exact ⟨htext, hread, (hiff (by decide)).1 rfl⟩

/-- Behind a day alone a `Z` leaves the offset unknown. Behind an offset and a null character it
does not count. -/
theorem zulu_without_offset_zero :
    ofJson Kind.all (.text "\"2030-01-01Z\"") (some .date) =
        .ok (.date ⟨⟨2030, 1, 1⟩, 0, 0, 0, 0, none⟩) ∧
      ofJson Kind.all (.text "\"2030-01-01T10+05:00:00.000000\\u0000Z\"") (some .date) =
        .ok (.date ⟨⟨2030, 1, 1⟩, 10, 0, 0, 0, some 18000000000⟩) := by
  constructor
  · refine @ofJson_of_zulu _ _ "2030-01-01".toList ?_ (by decide +kernel)
    simp only [Json.parse, Json.Text.ofString, String.reduceToList]
    rfl
  · refine @ofJson_of_zulu _ _ "2030-01-01T10+05:00:00.000000\x00".toList ?_ (by decide +kernel)
    simp only [Json.parse, Json.Text.ofString, String.reduceToList]
    rfl

end RequestSigning.Document
