import Mathlib.Algebra.Order.BigOperators.Group.List
import Mathlib.Algebra.Order.Group.Nat
import RequestSigning.Proofs.Header.Firsts
import RequestSigning.Proofs.Request.Agreement
import RequestSigning.Proofs.Request.Length
import RequestSigning.Proofs.Signing.Verification

/-!
# Handing a signed request over as a plain mapping

A plain mapping keeps one value for each name, while the string to sign has all values of a custom
name on one line. So the signature survives exactly where no custom name has several values: a value
that is left out makes the string to sign shorter.
-/

namespace RequestSigning

namespace Header

/-- No custom name has several values. -/
def Multimap.SingleCustom (m : Multimap) : Prop :=
  ∀ name, startsWith customStart (Text.lower name) = true → (m.getAll name).length ≤ 1

theorem Multimap.length_getAll (m : Multimap) (name : String) :
    (m.getAll name).length = (m.entries.map fun e => Text.lower e.1).count (Text.lower name) := by
  unfold getAll
  rw [List.length_map, List.count, List.countP_map, List.countP_eq_length_filter]
  rfl

theorem Multimap.singleCustom_iff_nodup {m : Multimap} :
    m.SingleCustom ↔
      ((m.entries.map fun e => Text.lower e.1).filter (startsWith customStart)).Nodup := by
  rw [List.nodup_iff_count]
  constructor
  · intro h name
    by_cases hmem : name ∈ (m.entries.map fun e => Text.lower e.1).filter (startsWith customStart)
    · obtain ⟨hentry, hs⟩ := List.mem_filter.1 hmem
      obtain ⟨e, _, rfl⟩ := List.mem_map.1 hentry
      rw [List.count_filter hs, ← length_getAll]
      exact h e.1 hs
    · rw [List.count_eq_zero_of_not_mem hmem]
      exact Nat.zero_le 1
  · intro h name hs
    rw [length_getAll, ← List.count_filter hs]
    exact h (Text.lower name)

instance (m : Multimap) : Decidable m.SingleCustom :=
  decidable_of_iff _ Multimap.singleCustom_iff_nodup.symm

theorem length_intercalate_cons (v : String) (vs : List String) :
    (" ".intercalate (v :: vs)).length =
      v.length + if vs = [] then 0 else 1 + (" ".intercalate vs).length := by
  cases vs with
  | nil => simp
  | cons w ws =>
    rw [String.intercalate_cons_cons, String.length_append, String.length_append, if_neg (by simp),
      Nat.add_assoc]
    rfl

variable (m : Multimap)

theorem customNames_firsts (start : String) :
    customNames ⟨m.firsts⟩ start = customNames m start := by
  apply customNames_eq (ascending_customNames m start)
  intro name
  rw [mem_customNames_iff, mem_customNames_iff]
  refine and_congr_right fun _ => ⟨?_, ?_⟩
  · rintro ⟨e, he, hname⟩
    exact ⟨e, m.mem_of_mem_firsts he, hname⟩
  · rintro ⟨e, he, rfl⟩
    have hany : m.firsts.any (fun s => sameName s.1 e.1) = true := by
      rw [Multimap.any_sameName_eq_contains, Multimap.contains_firsts,
        ← Multimap.any_sameName_eq_contains, List.any_eq_true]
      exact ⟨e, he, sameName_self _⟩
    obtain ⟨s, hs, hsame⟩ := List.any_eq_true.1 hany
    exact ⟨s, hs, sameName_iff.1 hsame⟩

/-- The first value of a name takes up no more than all its values, and less if there are others. -/
theorem length_joinedValue_firsts (name : String) :
    (joinedValue ⟨m.firsts⟩ (Text.lower name)).length ≤ (joinedValue m (Text.lower name)).length ∧
      (1 < (m.getAll name).length →
        (joinedValue ⟨m.firsts⟩ (Text.lower name)).length <
          (joinedValue m (Text.lower name)).length) := by
  rw [joinedValue_lower, joinedValue_lower, Multimap.getAll_firsts, Multimap.getFirst?_eq_head?]
  cases m.getAll name with
  | nil => simp
  | cons v vs =>
    simp only [List.head?_cons, Option.toList_some, List.map_cons, List.map_nil,
      length_intercalate_cons, List.map_eq_nil_iff, if_true]
    cases vs with
    | nil => simp
    | cons w ws =>
      simp only [reduceCtorEq, if_false]
      omega

end Header

namespace Request

/-- The request with the first value of each header name only. -/
def firstsOnly (r : Request) : Request := r.withHeaders ⟨r.headers.firsts⟩

variable {r : Request}

theorem getFirst?_firstsOnly (r : Request) (name : String) :
    r.firstsOnly.headers.getFirst? name = r.headers.getFirst? name := by
  change Header.Multimap.getFirst? ⟨r.headers.firsts⟩ name = _
  rw [Header.Multimap.getFirst?_eq_head?, Header.Multimap.getAll_firsts]
  cases r.headers.getFirst? name <;> rfl

theorem rangeLine_firstsOnly (r : Request) : r.firstsOnly.rangeLine = r.rangeLine := by
  unfold rangeLine
  rw [getFirst?_firstsOnly]

/-- Where custom names have one value each, nothing that is signed is left out. -/
theorem agree_firstsOnly (h : r.headers.SingleCustom) : AgreeExcept [] r.firstsOnly r where
  method := rfl
  contentType := rfl
  path := rfl
  range := rangeLine_firstsOnly r
  date _ := getFirst?_firstsOnly r Header.date
  custom name hs _ := by
    change Header.Multimap.getAll ⟨r.headers.firsts⟩ name = _
    have hsingle := h name hs
    rw [Header.Multimap.getAll_firsts, Header.Multimap.getFirst?_eq_head?]
    cases hvalues : r.headers.getAll name with
    | nil => rfl
    | cons v vs =>
      rw [hvalues, List.length_cons] at hsingle
      obtain rfl := List.length_eq_zero_iff.1 (Nat.le_zero.1 (Nat.le_of_succ_le_succ hsingle))
      rfl

/-- A custom name with several values takes up more with all of them than with the first. -/
theorem customSize_firstsOnly_lt (h : ¬ r.headers.SingleCustom) :
    r.firstsOnly.customSize < r.customSize := by
  unfold Header.Multimap.SingleCustom at h
  simp only [not_forall, not_le, exists_prop] at h
  obtain ⟨repeated, hs, hlength⟩ := h
  have hmem : Text.lower repeated ∈ Header.customNames r.headers Header.customStart :=
    Header.lower_mem_customNames_iff.2
      ⟨hs, List.ne_nil_of_length_pos (Nat.lt_of_le_of_lt (Nat.zero_le 1) hlength)⟩
  unfold customSize
  change ((Header.customNames ⟨r.headers.firsts⟩ Header.customStart).map fun name =>
    (pairLine (name, Header.joinedValue ⟨r.headers.firsts⟩ name)).length + 1).sum < _
  rw [Header.customNames_firsts]
  simp only [pairLine, String.length_append]
  apply List.sum_lt_sum
  · intro name hname
    obtain ⟨_, e, _, rfl⟩ := Header.mem_customNames_iff.1 hname
    have hle := (Header.length_joinedValue_firsts r.headers e.1).1
    omega
  · have hlt := (Header.length_joinedValue_firsts r.headers repeated).2 hlength
    exact ⟨_, hmem, by omega⟩

/-- With first values only there still is a string to sign, and it is the same one exactly where no
custom name has several values. -/
theorem stringToSign_firstsOnly {text : String} (h : r.stringToSign = .ok text) :
    ∃ handed, r.firstsOnly.stringToSign = .ok handed ∧
      (handed = text ↔ r.headers.SingleCustom) := by
  obtain ⟨htype, date, path, hdate, hne, hpath, -⟩ := stringToSign_eq_ok_iff.1 h
  have hhanded : r.firstsOnly.stringToSign = .ok _ :=
    stringToSign_eq_ok_iff.2
      ⟨htype, date, path, (getFirst?_firstsOnly r _).trans hdate, hne, hpath, rfl⟩
  refine ⟨_, hhanded, fun heq => ?_, fun hsingle => ?_⟩
  · -- A value that is left out is missed by its length, wherever the lines of the texts end.
    by_contra hrepeated
    subst heq
    have hsize := customSize_eq hhanded h rfl rfl (rangeLine_firstsOnly r)
      (getFirst?_firstsOnly r Header.date) rfl
    exact Nat.ne_of_lt (customSize_firstsOnly_lt hrepeated) hsize
  · exact Except.ok.inj
      (hhanded.symm.trans ((stringToSign_congr (agree_firstsOnly hsingle)).trans h))

/-- The request with its headers read back from a plain mapping. -/
def handOver (r : Request) : Except Error Request := r.headers.handOver.map r.withHeaders

theorem handOver_eq (h : r.headers.Named) : r.handOver = .ok r.firstsOnly := by
  unfold handOver
  rw [Header.Multimap.handOver_eq h]
  rfl

theorem unsigned_firstsOnly (r : Request) : r.firstsOnly.unsigned = r.unsigned.firstsOnly := by
  unfold unsigned firstsOnly
  exact congrArg r.withHeaders (r.headers.remove_firsts Header.signature)

theorem named_stamped (h : r.headers.Named) (uid date : String) :
    (r.stamped uid date).headers.Named := by
  have huid : Header.uid ≠ "" := by decide
  have hdate : Header.date ≠ "" := by decide
  unfold stamped
  exact (((h.remove _).remove _ |>.push huid uid).remove _).push hdate date

/-- The signature itself is one value, so it does not count. -/
theorem singleCustom_push_signature (r : Request) (uid date signature : String) :
    (r.signedAs uid date signature).headers.SingleCustom ↔
      (r.stamped uid date).headers.SingleCustom := by
  refine forall₂_congr fun name _ => ?_
  change (((r.stamped uid date).headers.push Header.signature signature).getAll name).length ≤ 1 ↔ _
  rw [Header.Multimap.getAll_push]
  by_cases hname : Header.sameName Header.signature name = true
  · have hnone : (r.stamped uid date).headers.getAll name = [] := by
      rw [← Header.Multimap.getAll_congr_name _ hname, getAll_stamped]
      simp [Header.sameName]
    simp [hname, hnone]
  · rw [if_neg hname]

end Request

/-- A signed request that is handed over as a plain mapping has the string to sign that was signed
exactly where no custom name has several values; there its signature verifies. -/
theorem Signer.handOver_verifies {s : Signer} {around : Surroundings} {state : SigningState}
    {r signed : Request} (hnamed : r.headers.Named) (h : (s.sign around state r).1 = .ok signed) :
    ∃ plain handed text signature, signed.handOver = .ok plain ∧
      plain.unsigned.stringToSign = .ok handed ∧ signed.unsigned.stringToSign = .ok text ∧
      signText around.primitive s.key text = .ok signature ∧
      signed.headers.getAll Header.signature = [signature] ∧
      (signed.headers.SingleCustom → signText around.primitive s.key handed = .ok signature) ∧
      (handed = text ↔ signed.headers.SingleCustom) := by
  obtain ⟨uid, date, text, signature, _, _, htext, hsignature, rfl⟩ := sign_eq_ok_iff.1 h
  have hname : Header.signature ≠ "" := by decide
  obtain ⟨handed, hhanded, hiff⟩ := Request.stringToSign_firstsOnly htext
  rw [← Request.singleCustom_push_signature r uid date signature] at hiff
  refine ⟨_, handed, text, signature,
    Request.handOver_eq ((Request.named_stamped hnamed uid date).push hname signature), ?_, ?_,
    hsignature, Request.getAll_signature_signed r uid date signature,
    fun hsingle => hiff.2 hsingle ▸ hsignature, hiff⟩
  · rw [Request.unsigned_firstsOnly, Request.unsigned_push_signature]
    exact hhanded
  · rw [Request.unsigned_push_signature]
    exact htext

/-- Repeated headers that are not custom ones do no harm, nor does spelling. -/
theorem Signer.handOver_verifies_single :
    let s : Signer := ⟨.text "a/b", [1, 2, 3]⟩
    let state : SigningState := ⟨.given [.text "now"], ⟨none, []⟩⟩
    let r : Request := ⟨.get, .text "/Rest?x", ⟨[("Accept", "x"), ("X-EMC-Meta", "a  b"),
      ("accept", "y"), ("Range", "BYTES=0-1"), ("range", "z"), ("X-Emc-Uid", "old")]⟩, none⟩
    ∃ signed plain handed signature, (s.sign {} state r).1 = .ok signed ∧
      signed.handOver = .ok plain ∧ plain.unsigned.stringToSign = .ok handed ∧
      signText .works s.key handed = .ok signature ∧
      signed.headers.getAll Header.signature = [signature] := by
  intro s state r
  have htext : (r.stamped "a/b" "now").stringToSign =
      .ok "GET\n\nbytes=0-1\nnow\n/rest\nx-emc-meta:a b\nx-emc-uid:a/b" :=
    Request.stringToSign_eq_ok_iff.2
      ⟨fun h => (by cases h), "now", "/Rest", rfl, by decide, rfl, by decide +kernel⟩
  have h : (s.sign {} state r).1 = .ok _ :=
    sign_eq_ok_iff.2 ⟨"a/b", "now", _, _, rfl, rfl, htext, rfl, rfl⟩
  obtain ⟨plain, handed, text, signature, hplain, hhanded, _, _, hget, hverifies, _⟩ :=
    handOver_verifies (by decide) h
  refine ⟨_, plain, handed, signature, h, hplain, hhanded, hverifies ?_, hget⟩
  apply (Request.singleCustom_push_signature r "a/b" "now" _).2
  decide +kernel

/-- With two values of a custom name the signature does not verify. -/
theorem Signer.handOver_of_repeated :
    let s : Signer := ⟨.text "u", [1, 2, 3]⟩
    let state : SigningState := ⟨.given [.text "now"], ⟨none, []⟩⟩
    let r : Request := ⟨.get, .text "/rest", ⟨[("x-emc-meta", "a"), ("x-emc-meta", "b")]⟩, none⟩
    ∃ signed plain handed, (s.sign {} state r).1 = .ok signed ∧ signed.handOver = .ok plain ∧
      plain.unsigned.stringToSign = .ok handed ∧
      signed.headers.getAll Header.signature ≠ [Digest.signature s.key handed] := by
  intro s state r
  have htext : (r.stamped "u" "now").stringToSign =
      .ok "GET\n\n\nnow\n/rest\nx-emc-meta:a b\nx-emc-uid:u" :=
    Request.stringToSign_eq_ok_iff.2
      ⟨fun h => (by cases h), "now", "/rest", rfl, by decide, rfl, by decide +kernel⟩
  have hhanded : (r.stamped "u" "now").firstsOnly.stringToSign =
      .ok "GET\n\n\nnow\n/rest\nx-emc-meta:a\nx-emc-uid:u" :=
    Request.stringToSign_eq_ok_iff.2
      ⟨fun h => (by cases h), "now", "/rest", rfl, by decide, rfl, by decide +kernel⟩
  have h : (s.sign {} state r).1 = .ok _ :=
    sign_eq_ok_iff.2 ⟨"u", "now", _, _, rfl, rfl, htext, rfl, rfl⟩
  have hnamed : (r.stamped "u" "now").headers.Named := Request.named_stamped (by decide) _ _
  have hne : Digest.signature [1, 2, 3] "GET\n\n\nnow\n/rest\nx-emc-meta:a b\nx-emc-uid:u" ≠
      Digest.signature [1, 2, 3] "GET\n\n\nnow\n/rest\nx-emc-meta:a\nx-emc-uid:u" := by
    decide +kernel
  refine ⟨_, _, "GET\n\n\nnow\n/rest\nx-emc-meta:a\nx-emc-uid:u", h,
    Request.handOver_eq (hnamed.push (by decide) _), ?_, ?_⟩
  · rw [Request.unsigned_firstsOnly, Request.unsigned_push_signature]
    exact hhanded
  · rw [Request.getAll_signature_signed]
    exact fun heq => hne (List.cons.inj heq).1

end RequestSigning
