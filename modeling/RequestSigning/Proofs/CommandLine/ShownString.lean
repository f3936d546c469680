import RequestSigning.Proofs.CommandLine.Passes
import RequestSigning.Proofs.Request.Length

/-!
# The string to sign as commands show it

Two commands show the string to sign of a request: one without signing it, the other with its signed
headers. Signing takes old signatures out of the headers first, and the first command leaves them
in, where they count as custom headers. So the strings are the same exactly where no header argument
is such a signature.
-/

namespace RequestSigning

namespace Request

/-- The request with account and date, and with the signatures that it had. -/
def marked (r : Request) (uid date : String) : Request :=
  r.withHeaders ((((r.headers.remove Header.uid).push Header.uid uid).remove Header.date).push
    Header.date date)

theorem unsigned_marked (r : Request) (uid date : String) :
    (r.marked uid date).unsigned = r.stamped uid date := by
  have huid : ¬ Header.sameName Header.uid Header.signature = true := by simp [Header.sameName]
  have hdate : ¬ Header.sameName Header.date Header.signature = true := by simp [Header.sameName]
  have hheaders : (r.marked uid date).headers.remove Header.signature =
      (r.stamped uid date).headers := by
    unfold marked stamped withHeaders
    dsimp only
    rw [Header.Multimap.remove_push, if_neg hdate, Header.Multimap.remove_comm,
      Header.Multimap.remove_push, if_neg huid, Header.Multimap.remove_comm]
  exact congrArg r.withHeaders hheaders

theorem getAll_signature_marked (r : Request) (uid date : String) :
    (r.marked uid date).headers.getAll Header.signature = r.headers.getAll Header.signature := by
  unfold marked withHeaders
  rw [Header.Multimap.getAll_remove_push, Header.Multimap.getAll_remove_push]
  simp [Header.sameName]

theorem getFirst?_unsigned {r : Request} {name : String}
    (h : Header.sameName Header.signature name = false) :
    r.unsigned.headers.getFirst? name = r.headers.getFirst? name := by
  apply Header.Multimap.getFirst?_congr
  change (r.headers.remove Header.signature).getAll name = _
  rw [Header.Multimap.getAll_remove, h]
  rfl

/-- Signatures among the headers are part of the string to sign. -/
theorem stringToSign_eq_unsigned_iff {r : Request} {text unsignedText : String}
    (h : r.stringToSign = .ok text) (hunsigned : r.unsigned.stringToSign = .ok unsignedText) :
    text = unsignedText ↔ r.headers.getAll Header.signature = [] := by
  constructor
  · rintro rfl
    have hrange : r.rangeLine = r.unsigned.rangeLine := by
      unfold rangeLine
      rw [getFirst?_unsigned (by simp [Header.sameName])]
    have hsize := customSize_eq h hunsigned rfl rfl hrange
      (getFirst?_unsigned (by simp [Header.sameName])).symm rfl
    by_contra hne
    have hmem : Text.lower Header.signature ∈ Header.customNames r.headers Header.customStart :=
      Header.lower_mem_customNames_iff.2 ⟨by decide, hne⟩
    exact Nat.ne_of_gt (customSize_remove_lt hmem) hsize
  · intro hnone
    have hself : r.unsigned = r := congrArg r.withHeaders (r.headers.remove_eq_self hnone)
    rw [hself] at hunsigned
    exact Except.ok.inj (h.symm.trans hunsigned)

end Request

namespace CommandLine

theorem stamped_eq_map {r : RequestArguments} {uid date : String} (huid : r.uid = some uid)
    (hdate : r.date = some date) (now : Date.Instant) :
    stamped r now = r.toRequest.map fun request => request.marked uid date := by
  unfold stamped dateOf
  rw [huid, hdate]
  cases r.toRequest <;> rfl

/-- With account, secret and date among the arguments, the signed headers are printed behind the
string that was signed. -/
theorem printSigned_shows_string {r : RequestArguments} {uid date secret : String} {place : Place}
    {out : String} (huid : r.uid = some uid) (hdate : r.date = some date)
    (h : (printSigned r (some secret) false true place).1 = .ok out) :
    ∃ request text signed, r.toRequest = .ok request ∧
      (request.stamped uid date).stringToSign = .ok text ∧
        signed.unsigned = request.stamped uid date ∧
      out = "String to sign:\n" ++ text ++ "\n\n" ++ signedText signed := by
  obtain ⟨p, signature, hpass, -, rfl⟩ := printSigned_eq_ok_iff.1 h
  obtain ⟨c, hrequest, hcredentials, hmake⟩ := Pass.of_eq_ok_iff.1 hpass
  obtain ⟨-, -, -, hd, htext⟩ := Pass.make_eq_ok_iff.1 hmake
  have hu := Pass.uid_of_make (isAccount_of_resolveCredentials hcredentials) hmake
  rw [resolveCredentials_of_both huid] at hcredentials
  obtain ⟨-, -, rfl⟩ := Credentials.make_eq_ok_iff.1 (mapError_eq_ok_iff.1 hcredentials)
  obtain rfl : uid = p.uid := Json.Text.ofString_inj.1 (Data.text.inj hu)
  unfold dateOf at hd
  rw [hdate] at hd
  obtain rfl : date = p.date := Except.ok.inj hd
  refine ⟨p.request, p.text, _, hrequest, htext,
    Request.unsigned_push_signature p.request p.uid p.date signature, ?_⟩
  rw [signedText_signedAs]
  rfl

theorem signature_not_given_iff {r : RequestArguments} {request : Request}
    (h : r.toRequest = .ok request) :
    request.headers.getAll Header.signature = [] ↔
      ∀ argument ∈ r.headers, ∀ header ∈ headerOfArgument? argument,
        Text.lower header.1 ≠ "x-emc-signature" := by
  rw [Header.Multimap.getAll_eq_nil_iff, RequestArguments.entries_of_toRequest h]
  constructor
  · intro hnone argument hmem header hheader
    exact hnone header (List.mem_filterMap.2 ⟨argument, hmem, hheader⟩)
  · intro hnone header hmem
    obtain ⟨argument, hargument, hheader⟩ := List.mem_filterMap.1 hmem
    exact hnone argument hargument header hheader

variable {r : RequestArguments} {uid date secret : String} {args₁ args₂ : List String}
  {place₁ place₂ : Place} {verbose₁ verbose₂ : Bool} {o₁ o₂ : Outcome}

/-- For the same request arguments both commands show the same string exactly where no header
argument is a signature. -/
theorem shown_strings_agree_iff (huid : r.uid = some uid) (hdate : r.date = some date)
    (hread₁ : (read args₁).map Reading.invocation = .ok ⟨false, verbose₁, .stringToSign r⟩)
    (hread₂ : (read args₂).map Reading.invocation =
      .ok ⟨false, verbose₂, .sign r (some secret) false true⟩)
    (hrun₁ : (run args₁ place₁).outcome = .ok o₁) (hexit₁ : o₁.exit = 0)
    (hrun₂ : (run args₂ place₂).outcome = .ok o₂) (hexit₂ : o₂.exit = 0) :
    ∃ text₁ text₂ signed, o₁.out = text₁ ++ "\n" ∧ signed.unsigned.stringToSign = .ok text₂ ∧
      o₂.out = "String to sign:\n" ++ text₂ ++ "\n\n" ++ signedText signed ∧
      (text₁ = text₂ ↔ ∀ argument ∈ r.headers, ∀ header ∈ headerOfArgument? argument,
        Text.lower header.1 ≠ "x-emc-signature") := by
  obtain ⟨marked, text₁, hmarked, htext₁, hout₁⟩ :=
    printStringToSign_eq_ok (run_stringToSign_exit_zero hread₁ hrun₁ hexit₁)
  obtain ⟨request, text₂, signed, hrequest, htext₂, hunsigned, hout₂⟩ :=
    printSigned_shows_string huid hdate (run_sign_exit_zero hread₂ hrun₂ hexit₂)
  -- Both strings belong to one request: the first with its signatures, the second without them.
  rw [stamped_eq_map huid hdate, hrequest] at hmarked
  obtain rfl : request.marked uid date = marked := Except.ok.inj hmarked
  refine ⟨text₁, text₂, signed, hout₁, hunsigned ▸ htext₂, hout₂, ?_⟩
  rw [← request.unsigned_marked uid date] at htext₂
  rw [Request.stringToSign_eq_unsigned_iff htext₁ htext₂, Request.getAll_signature_marked]
  exact signature_not_given_iff hrequest

/-- A custom header and an old account do no harm. -/
theorem shown_strings_agree_over_account :
    let request := ["--path", "/Rest?q", "--header", "X-Emc-Meta:  a  b", "--header",
      "X-EMC-UID: c", "--uid", "u", "--date", "d"]
    ∃ o₁ o₂ text signed, (run ("string-to-sign" :: request) {}).outcome = .ok o₁ ∧
      (run ("sign" :: "--secret" :: "AQID" :: "--show-string-to-sign" :: request) {}).outcome =
        .ok o₂ ∧ o₁.out = text ++ "\n" ∧
      o₂.out = "String to sign:\n" ++ text ++ "\n\n" ++ signedText signed := by
  intro request
  let r : RequestArguments :=
    ⟨"GET", "/Rest?q", ["X-Emc-Meta:  a  b", "X-EMC-UID: c"], none, some "d", some "u"⟩
  have hread₁ : (read ("string-to-sign" :: request)).map Reading.invocation =
      .ok ⟨false, false, .stringToSign r⟩ := by decide +kernel
  have hread₂ : (read ("sign" :: "--secret" :: "AQID" :: "--show-string-to-sign" :: request)).map
      Reading.invocation = .ok ⟨false, false, .sign r (some "AQID") false true⟩ := by decide +kernel
  have hrun₁ : (run ("string-to-sign" :: request) {}).outcome =
      .ok ⟨0, "GET\n\n\nd\n/rest\nx-emc-meta:a b\nx-emc-uid:u\n", ""⟩ := by decide +kernel
  have hrun₂ :
      (run ("sign" :: "--secret" :: "AQID" :: "--show-string-to-sign" :: request) {}).outcome =
      .ok ⟨0, "String to sign:\nGET\n\n\nd\n/rest\nx-emc-meta:a b\nx-emc-uid:u\n\n"
        ++ "x-emc-uid: u\nDate: d\nx-emc-signature: 6dgmRC+hqMb0GiHlblX2CHaSwLk=\n", ""⟩ := by
    decide +kernel
  obtain ⟨text₁, text₂, signed, hout₁, _, hout₂, hiff⟩ :=
    shown_strings_agree_iff rfl rfl hread₁ hread₂ hrun₁ rfl hrun₂ rfl
  have hnone : ∀ argument ∈ r.headers, ∀ header ∈ headerOfArgument? argument,
      Text.lower header.1 ≠ "x-emc-signature" := by decide +kernel
  obtain rfl := hiff.2 hnone
  exact ⟨_, _, text₁, signed, hrun₁, hrun₂, hout₁, hout₂⟩

/-- With a signature among the header arguments the commands show different strings. -/
theorem shown_strings_differ_with_signature :
    let request := ["--path", "/x", "--header", "x-emc-signature:old", "--uid", "u", "--date", "d"]
    (run ("string-to-sign" :: request) {}).outcome =
      .ok ⟨0, "GET\n\n\nd\n/x\nx-emc-signature:old\nx-emc-uid:u\n", ""⟩ ∧
    (run ("sign" :: "--secret" :: "AQID" :: "--show-string-to-sign" :: request) {}).outcome =
      .ok ⟨0, "String to sign:\nGET\n\n\nd\n/x\nx-emc-uid:u\n\n"
        ++ "x-emc-uid: u\nDate: d\nx-emc-signature: cp59a6+Co+GBJSJFJ+Po/hXfGpk=\n", ""⟩ := by
  decide +kernel

end CommandLine

end RequestSigning
