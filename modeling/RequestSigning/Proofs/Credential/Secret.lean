import RequestSigning.Credential.Basic
import RequestSigning.Proofs.Base64.Reader
import RequestSigning.Proofs.Text.Trimming

/-!
# Reading shared secrets

A secret is read back as the key it encodes, with any blanks around it, and a text that is read says
nothing else than its key: between the blanks stand the digits of the key's encoding, but for spare
bits of the last one, and then padding. All other texts are refused, either as blank or with a fault
of base64.
-/

namespace RequestSigning.Secret

variable {s before after : String} {key : List UInt8}

/-! ## Blanks around a secret -/

theorem isBlank_digit : ∀ v < 64, Text.isBlank (Base64.digit v) = false := by decide

theorem isBlank_of_mem_encodeChars : ∀ c ∈ Base64.encodeChars key, Text.isBlank c = false := by
  rw [Base64.encodeChars_eq]
  simp only [List.mem_append, List.mem_map, List.mem_replicate]
  rintro c (⟨v, hv, rfl⟩ | ⟨-, rfl⟩)
  · exact isBlank_digit v (Base64.digitsOf_lt key v hv)
  · decide

theorem trim_encode (hbefore : Text.allBlank before = true) (hafter : Text.allBlank after = true) :
    Text.trim (before ++ Base64.encode key ++ after) = Base64.encode key := by
  rw [Text.trim, String.toList_append, String.toList_append, Base64.encode, String.toList_ofList]
  refine congrArg String.ofList (Text.trimChars_append hbefore hafter ?_ ?_)
  · exact fun c hc => isBlank_of_mem_encodeChars c (List.mem_of_mem_head? hc)
  · exact fun c hc => isBlank_of_mem_encodeChars c (List.mem_of_mem_getLast? hc)

/-! ## Outcomes -/

/-- A text that is not blank never decodes to nothing. -/
theorem decode_trim_ne_nil (h : Text.allBlank s = false) :
    Base64.decode (Text.trim s) ≠ .ok [] := by
  intro hnil
  have hchars := Base64.decodeChars_eq_ok_nil hnil
  rw [String.toList_eq_nil_iff, Text.trim_eq_empty_iff, h] at hchars
  cases hchars

theorem decodeText_of_allBlank (h : Text.allBlank s = true) : decodeText s = .error .notText := by
  rw [decodeText, if_pos h]

theorem decodeText_of_not_allBlank (h : Text.allBlank s = false) :
    decodeText s = (Base64.decode (Text.trim s)).mapError .notBase64 := by
  rw [decodeText, h, if_neg Bool.false_ne_true]
  have hne := decode_trim_ne_nil h
  cases hdecode : Base64.decode (Text.trim s) with
  | error fault => rfl
  | ok key =>
    cases key with
    | nil => exact absurd hdecode hne
    | cons b rest => rfl

theorem decode_text_eq_ok_iff :
    decode (.text s) = .ok key ↔ key ≠ [] ∧ Base64.Spells (Text.trim s).toList key := by
  rw [decode_text]
  by_cases hkey : key = []
  · exact iff_of_false (fun h => decodeText_ne_nil h hkey) fun h => h.1 hkey
  rw [and_iff_right hkey, ← Base64.decodeChars_eq_ok_iff_spells hkey]
  cases hblank : Text.allBlank s with
  | true =>
    rw [decodeText_of_allBlank hblank, (Text.trim_eq_empty_iff s).2 hblank]
    refine iff_of_false (fun h => by cases h) fun h => hkey (Except.ok.inj h).symm
  | false =>
    rw [decodeText_of_not_allBlank hblank, Base64.decode]
    cases Base64.decodeChars (Text.trim s).toList with
    | error fault => exact iff_of_false (fun h => by cases h) fun h => by cases h
    | ok read =>
      exact ⟨fun h => congrArg _ (Except.ok.inj h), fun h => congrArg _ (Except.ok.inj h)⟩

theorem decode_text_eq_error_iff {fault : KeyFault} :
    decode (.text s) = .error fault ↔
      fault = .notText ∧ Text.allBlank s = true ∨
        ∃ e, fault = .notBase64 e ∧ Base64.decode (Text.trim s) = .error e := by
  rw [decode_text]
  cases hblank : Text.allBlank s with
  | true =>
    rw [decodeText_of_allBlank hblank, (Text.trim_eq_empty_iff s).2 hblank, and_iff_left rfl,
      or_iff_left]
    · exact ⟨fun h => (Except.error.inj h).symm, fun h => h ▸ rfl⟩
    · rintro ⟨e, -, h⟩
      cases h
  | false =>
    rw [decodeText_of_not_allBlank hblank, or_iff_right fun h => by cases h.2]
    cases Base64.decode (Text.trim s) with
    | error e =>
      constructor
      · exact fun h => ⟨e, (Except.error.inj h).symm, rfl⟩
      · rintro ⟨_, rfl, h⟩
        exact congrArg _ (congrArg _ (Except.error.inj h))
    | ok key =>
      refine iff_of_false (fun h => by cases h) ?_
      rintro ⟨_, -, h⟩
      cases h

theorem decode_encode (hkey : key ≠ []) (hbefore : Text.allBlank before = true)
    (hafter : Text.allBlank after = true) :
    decode (.text (before ++ Base64.encode key ++ after)) = .ok key := by
  rw [← Json.Text.ofString_append, ← Json.Text.ofString_append, decode_text_eq_ok_iff,
    trim_encode hbefore hafter, Base64.encode, String.toList_ofList]
  exact ⟨hkey, Base64.spells_encodeChars hkey⟩

/-- Decoding undoes the encoding of a key, whatever blanks stand around it. What it accepts is
exactly what spells a key between its blanks. What it refuses is a blank text, or a text that base64
refuses. -/
theorem decode_reads_encodings :
    (∀ (key : List UInt8) (before after : String), key ≠ [] → Text.allBlank before = true →
        Text.allBlank after = true →
        decode (.text (before ++ Base64.encode key ++ after)) = .ok key) ∧
      (∀ (s : String) (key : List UInt8),
        decode (.text s) = .ok key ↔ key ≠ [] ∧ Base64.Spells (Text.trim s).toList key) ∧
      ∀ (s : String) (fault : KeyFault), decode (.text s) = .error fault ↔
        fault = .notText ∧ Text.allBlank s = true ∨
          ∃ e, fault = .notBase64 e ∧ Base64.decode (Text.trim s) = .error e :=
  ⟨fun _ _ _ hkey hbefore hafter => decode_encode hkey hbefore hafter,
   fun _ _ => decode_text_eq_ok_iff,
    fun _ _ => decode_text_eq_error_iff⟩

/-- A key of one byte between blanks, the same key spelled with spare bits, and a text that goes on
behind its padding. -/
theorem decode_reads_encodings_of_one_byte :
    ([0] ≠ ([] : List UInt8) ∧ Text.allBlank " \t" = true ∧ Text.allBlank "\n" = true ∧
        decode (.text (" \t" ++ Base64.encode [0] ++ "\n")) = .ok [0]) ∧
      (decode (.text " AB==\n") = .ok [0] ∧ Base64.Spells (Text.trim " AB==\n").toList [0]) ∧
      (Base64.decode (Text.trim "AA=A") = .error .discontinuousPadding ∧
        decode (.text "AA=A") = .error (.notBase64 .discontinuousPadding)) := by
  obtain ⟨hencoded, hread, hrefused⟩ := decode_reads_encodings
  have hne : [0] ≠ ([] : List UInt8) := List.cons_ne_nil 0 []
  have hspare : decode (.text " AB==\n") = .ok [0] := by decide
  have hbehind : Base64.decode (Text.trim "AA=A") = .error .discontinuousPadding := by decide
  exact ⟨⟨hne, by decide, by decide, hencoded [0] " \t" "\n" hne (by decide) (by decide)⟩,
    ⟨hspare, ((hread " AB==\n" [0]).1 hspare).2⟩, hbehind,
    (hrefused "AA=A" _).2 (.inr ⟨_, rfl, hbehind⟩)⟩

end RequestSigning.Secret
