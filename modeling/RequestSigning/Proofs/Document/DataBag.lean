import RequestSigning.Document.DataBag
import RequestSigning.Proofs.Json.Documents

/-!
# Items that are decoded again

An item keeps its document from bracket to bracket, so it is encoded as a document that is decoded
to it. More characters are trimmed off a text than may stand around a document, but where a document
is read none of the others stands there.
-/

namespace RequestSigning

/-! ## Trimming an object -/

namespace Json

variable {entries : List (Text × Json)} {inner s before after : Text}

theorem AllBlank.trimmed (h : AllBlank s) : ∀ x ∈ s, x.isBlank = true := by
  intro x hx
  have hblank := h x hx
  simp only [isBlank, Bool.or_eq_true, decide_eq_true_eq] at hblank
  rcases hblank with ((rfl | rfl) | rfl) | rfl <;> rfl

/-- A text with nothing but the blanks of documents around it. -/
def Padded (inner s : Text) : Prop :=
  ∃ before after : Text, AllBlank before ∧ AllBlank after ∧ s = before ++ inner ++ after

theorem padded_self (s : Text) : Padded s s :=
  ⟨[], [], allBlank_nil, allBlank_nil, (List.append_nil s).symm⟩

theorem Padded.append (h : Padded inner s) (hbefore : AllBlank before) (hafter : AllBlank after) :
    Padded inner (before ++ s ++ after) := by
  obtain ⟨before', after', hbefore', hafter', rfl⟩ := h
  exact ⟨before ++ before', after' ++ after, hbefore.append hbefore', hafter'.append hafter,
    by simp only [List.append_assoc]⟩

/-- Trimming takes the blanks off an object, and no more. -/
theorem trim_of_padded (h : Written inner (.object entries)) (hs : Padded inner s) :
    s.trim = inner := by
  obtain ⟨before, after, hbefore, hafter, rfl⟩ := hs
  obtain ⟨q, hq⟩ := h.brackets
  have hstart : (before ++ inner ++ after).dropWhile Symbol.isBlank = inner ++ after := by
    rw [List.append_assoc, List.dropWhile_append_of_pos hbefore.trimmed, hq]
    exact List.dropWhile_cons_of_neg (by decide)
  have hend : (inner ++ after).reverse.dropWhile Symbol.isBlank = inner.reverse := by
    rw [List.reverse_append, List.dropWhile_append_of_pos, hq, List.reverse_concat]
    · exact List.dropWhile_cons_of_neg (by decide)
    · exact fun x hx => hafter.trimmed x (List.mem_reverse.1 hx)
  rw [Text.trim, hstart, hend, List.reverse_reverse]

theorem parse_eq_object_iff :
    parse s = .ok (.object entries) ↔ Written s.trim (.object entries) ∧ Padded s.trim s := by
  rw [parse_eq_ok_iff]
  constructor
  · rintro ⟨before, p, after, hs, hbefore, hafter, hwritten⟩
    have hpadded : Padded p s := ⟨before, after, hbefore, hafter, hs⟩
    rw [trim_of_padded hwritten hpadded]
    exact ⟨hwritten, hpadded⟩
  · rintro ⟨hwritten, before, after, hbefore, hafter, hs⟩
    exact ⟨_, _, _, hs, hbefore, hafter, hwritten⟩

end Json

/-! ## Decoding -/

namespace DataBagItem

variable {s : Json.Text} {item : DataBagItem} {entries : List (Json.Text × Json)}

theorem ofEntries_eq_ok_iff : ofEntries s entries = .ok item ↔
    Json.find? idField entries = some (.text item.id) ∧ item.raw = s.trim := by
  obtain ⟨id, raw⟩ := item
  unfold ofEntries
  split
  · next id' hid => simp [hid, eq_comm]
  · next hid => simpa using fun h => absurd h (hid id)

theorem decodeText_eq_ok_iff : decodeText s = .ok item ↔
    ∃ entries, Json.parse s = .ok (.object entries) ∧ ofEntries s entries = .ok item := by
  unfold decodeText
  split
  · next hparse => simp [hparse]
  · next hparse => simp [hparse]
  · next entries hparse =>
    simp only [hparse, Except.ok.injEq, Json.object.injEq, exists_eq_left']
    cases ofEntries s entries <;> simp
  · next hnot hparse =>
    simp only [hparse, Except.ok.injEq, reduceCtorEq, false_iff, not_exists, not_and]
    exact fun entries hobject => absurd hobject (hnot entries)

/-- Decoding takes the text of an object with an id, from bracket to bracket. -/
theorem decode_text_eq_ok_iff : decode (.text s) = .ok item ↔ Json.Padded item.raw s ∧
    ∃ entries, Json.Written item.raw (.object entries) ∧
      Json.find? idField entries = some (.text item.id) := by
  simp only [decode, decodeText_eq_ok_iff, Json.parse_eq_object_iff, ofEntries_eq_ok_iff]
  constructor
  · rintro ⟨entries, ⟨hwritten, hpadded⟩, hid, hraw⟩
    exact ⟨hraw ▸ hpadded, entries, hraw ▸ hwritten, hid⟩
  · rintro ⟨hpadded, entries, hwritten, hid⟩
    have hraw := Json.trim_of_padded hwritten hpadded
    exact ⟨entries, ⟨hraw.symm ▸ hwritten, hraw.symm ▸ hpadded⟩, hid, hraw.symm⟩

/-- An item keeps its text without the blanks of documents around it, an object from its bracket to
its bracket. It is decoded from its own text, and from its first text with more blanks around it. -/
theorem decode_encode_of_decode (h : decode (.text s) = .ok item) :
    Json.Padded item.raw s ∧ (∃ inside, item.raw = .char '\x7b' :: inside ++ [.char '\x7d']) ∧
      decode (.text item.encode) = .ok item ∧
      ∀ before after : Json.Text, Json.AllBlank before → Json.AllBlank after →
        decode (.text (before ++ s ++ after)) = .ok item := by
  obtain ⟨hpadded, entries, hwritten, hid⟩ := decode_text_eq_ok_iff.1 h
  refine ⟨hpadded, hwritten.brackets, ?_, fun before after hbefore hafter => ?_⟩
  · exact decode_text_eq_ok_iff.2 ⟨Json.padded_self _, entries, hwritten, hid⟩
  · exact decode_text_eq_ok_iff.2 ⟨hpadded.append hbefore hafter, entries, hwritten, hid⟩

/-- A document over two lines, with a blank in front and a line feed behind. -/
theorem decode_encode_of_lines :
    let s : Json.Text := " \x7b\"id\":\"a\",\n\"n\":[1]\x7d\n"
    let item : DataBagItem := ⟨"a", "\x7b\"id\":\"a\",\n\"n\":[1]\x7d"⟩
    let before : Json.Text := "\t\r"
    decode (.text s) = .ok item ∧ decode (.text item.encode) = .ok item ∧ Json.AllBlank before ∧
      decode (.text (before ++ s ++ [])) = .ok item := by
  intro s item before
  have h : decode (.text s) = .ok item := by decide +kernel
  have hblank : Json.AllBlank before := by
    simp [before, Json.AllBlank, Json.isBlank, Json.Text.ofString]
  obtain ⟨-, -, hencode, hblanks⟩ := decode_encode_of_decode h
  exact ⟨h, hencode, hblank, hblanks before [] hblank Json.allBlank_nil⟩

end DataBagItem

end RequestSigning
