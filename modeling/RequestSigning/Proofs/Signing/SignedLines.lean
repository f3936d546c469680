import RequestSigning.Proofs.Request.LineFeeds
import RequestSigning.Proofs.Signing.Dependence
import RequestSigning.Proofs.Signing.Verification

/-!
# The lines that are signed

What is signed is five lines and one more for each custom name, as long as the parts that are signed
as they are stay on one line. Custom values, accounts and endpoints cannot add a line.
-/

namespace RequestSigning

namespace Signer

/-- What was signed comes apart into five lines and one line for each custom name exactly where
content type, echoed value, date and custom names have no line feed. -/
theorem signed_lines_iff {s : Signer} {around : Surroundings} {state : SigningState}
    {r signed : Request} (h : (s.sign around state r).1 = .ok signed) :
    ∃ date path text, ∃ names : List String, (state.source.next around.now).1 = .ok (.text date) ∧
      r.path = .ok path ∧ signed.unsigned.stringToSign = .ok text ∧ names.Pairwise (· < ·) ∧
      (∀ name, name ∈ names ↔ Header.startsWith Header.customStart name = true ∧
        ∃ e ∈ signed.unsigned.headers.entries, Text.lower e.1 = name) ∧
      (Text.linesOf text =
          [r.method.name, r.contentTypeLine, r.rangeLine, date, Text.lower path] ++
            names.map (fun name =>
              name ++ ":" ++ Header.joinedValue signed.unsigned.headers name) ↔
        '\n' ∉ r.contentTypeLine.toList ∧ '\n' ∉ r.rangeLine.toList ∧ '\n' ∉ date.toList ∧
          ∀ name ∈ names, '\n' ∉ name.toList) := by
  obtain ⟨uid, date, text, signature, _, hdate, htext, _, rfl⟩ := sign_eq_ok_iff.1 h
  obtain ⟨_, first, path, hfirst, _, hpath, rfl⟩ := Request.stringToSign_eq_ok_iff.1 htext
  -- Old dates are gone, so the first date is that of signing.
  obtain rfl : date = first := by
    rw [Header.Multimap.getFirst?_eq_head?, Request.getAll_stamped,
      if_pos (Header.sameName_self _)] at hfirst
    exact Option.some.inj hfirst
  have hiff := Request.linesOf_lines_iff hpath date
  have hlines : (r.stamped uid date).lines date path =
      [r.method.name, r.contentTypeLine, r.rangeLine, date, Text.lower path] ++
        (Header.customNames (r.stamped uid date).headers Header.customStart).map fun name =>
          name ++ ":" ++ Header.joinedValue (r.stamped uid date).headers name := by
    rw [Request.lines_eq, Request.rangeLine_stamped]
    rfl
  rw [Request.rangeLine_stamped] at hiff
  rw [Request.unsigned_push_signature]
  refine ⟨date, path, _, Header.customNames (r.stamped uid date).headers Header.customStart, hdate,
    hpath, htext, Header.ascending_customNames _ _, fun name => Header.mem_customNames_iff, ?_⟩
  rw [← hlines]
  exact hiff

/-- Breaks in account, custom values and endpoint add no line. -/
theorem signed_lines_of_broken_values :
    let s : Signer := ⟨.text "a\nb", [1, 2, 3]⟩
    let state : SigningState := ⟨.given [.text "now"], ⟨none, []⟩⟩
    let r : Request :=
      ⟨.post, .text "/Re\nst?x\ny", ⟨[("X-Emc-Meta", "a\r\nb"), ("Range", "BYTES=0"),
      ("x-emc-meta", "\nc")]⟩, some ⟨.text "text/plain"⟩⟩
    ∃ signed text, ∃ names : List String, (s.sign {} state r).1 = .ok signed ∧
      signed.unsigned.stringToSign = .ok text ∧
      Text.linesOf text = ["POST", "text/plain", "bytes=0", "now", "/rest"] ++
        names.map fun name => name ++ ":" ++ Header.joinedValue signed.unsigned.headers name := by
  intro s state r
  have hpath : r.path = .ok "/Rest" := by decide +kernel
  have htext : (r.stamped "a\nb" "now").stringToSign =
      .ok "POST\ntext/plain\nbytes=0\nnow\n/rest\nx-emc-meta:ab c\nx-emc-uid:ab" :=
    Request.stringToSign_eq_ok_iff.2
      ⟨fun _ => ⟨"text/plain", rfl⟩, "now", "/Rest", rfl, by decide, hpath, by decide +kernel⟩
  have h : (s.sign {} state r).1 = .ok _ :=
    sign_eq_ok_iff.2 ⟨"a\nb", "now", _, _, rfl, rfl, htext, rfl, rfl⟩
  obtain ⟨date, path, text, names, hdate, hpath', hsigned, _, hnames, hiff⟩ := signed_lines_iff h
  cases hdate
  obtain rfl : "/Rest" = path := Except.ok.inj (hpath.symm.trans hpath')
  have hentries : ∀ e ∈ (r.stamped "a\nb" "now").headers.entries,
      '\n' ∉ (Text.lower e.1).toList := by
    decide +kernel
  have hfirst : [r.method.name, r.contentTypeLine, r.rangeLine, "now", Text.lower "/Rest"] =
      ["POST", "text/plain", "bytes=0", "now", "/rest"] := by decide +kernel
  rw [hfirst] at hiff
  refine ⟨_, text, names, h, hsigned, hiff.2 ⟨by decide, by decide +kernel, by decide, ?_⟩⟩
  intro name hname
  obtain ⟨_, e, he, rfl⟩ := (hnames name).1 hname
  rw [Request.unsigned_push_signature] at he
  exact hentries e he

/-- Content type, echoed value, date and custom names each add a line here. -/
theorem signed_lines_of_broken_parts :
    let s : Signer := ⟨.text "u", [1, 2, 3]⟩
    let state : SigningState := ⟨.given [.text "e\nf"], ⟨none, []⟩⟩
    let r : Request := ⟨.get, .text "/x", ⟨[("Range", "c\nd"), ("x-emc-g\nh", "v")]⟩,
      some ⟨.text "a\nb"⟩⟩
    ∃ signed text, (s.sign {} state r).1 = .ok signed ∧ signed.unsigned.stringToSign = .ok text ∧
      Text.linesOf text =
        ["GET", "a", "b", "c", "d", "e", "f", "/x", "x-emc-g", "h:v", "x-emc-uid:u"] := by
  intro s state r
  have htext : (r.stamped "u" "e\nf").stringToSign =
      .ok "GET\na\nb\nc\nd\ne\nf\n/x\nx-emc-g\nh:v\nx-emc-uid:u" :=
    Request.stringToSign_eq_ok_iff.2
      ⟨fun _ => ⟨"a\nb", rfl⟩, "e\nf", "/x", rfl, by decide, rfl, by decide +kernel⟩
  have h : (s.sign {} state r).1 = .ok _ :=
    sign_eq_ok_iff.2 ⟨"u", "e\nf", _, _, rfl, rfl, htext, rfl, rfl⟩
  refine ⟨_, _, h, (congrArg Request.stringToSign ?_).trans htext, by decide +kernel⟩
  exact Request.unsigned_push_signature ..

end Signer

end RequestSigning
