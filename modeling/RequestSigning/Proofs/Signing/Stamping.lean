import RequestSigning.Proofs.Header.Multimap
import RequestSigning.Signing.Signer

/-!
# What signing returns

The result of signing depends on the account, the date, the primitive, the key and the stamped
request: the headers without old signatures, accounts and dates, then account and date. A signed
request is the stamped one with its signature behind it, so that whoever takes the signature out has
the text before him that was signed.
-/

namespace RequestSigning

namespace Request

/-- The request of which the string to sign is built. -/
def stamped (r : Request) (uid date : String) : Request :=
  r.withHeaders <|
    ((((r.headers.remove Header.signature).remove Header.uid).push Header.uid uid).remove
      Header.date).push Header.date date

/-- The request without its signatures. -/
def unsigned (r : Request) : Request := r.withHeaders (r.headers.remove Header.signature)

/-- The stamped request with a signature at the end. -/
def signedAs (r : Request) (uid date signature : String) : Request :=
  (r.stamped uid date).withHeaders ((r.stamped uid date).headers.push Header.signature signature)

/-- The request with the signature of its string to sign at the end. -/
def withSignature (sign : String → Except Error String) (r : Request) : Except Error Request :=
  match r.stringToSign with
  | .error e => .error e
  | .ok text => (sign text).map fun signature =>
      r.withHeaders ((r.headers.remove Header.signature).push Header.signature signature)

theorem entries_stamped (r : Request) (uid date : String) :
    (r.stamped uid date).headers.entries =
      (r.headers.entries.filter fun e =>
        Text.lower e.1 ∉ ["x-emc-signature", "x-emc-uid", "date"])
        ++ [("x-emc-uid", uid), ("Date", date)] := by
  have huid : [(Header.uid, uid)].filter (fun e => !Header.sameName e.1 Header.date) =
      [("x-emc-uid", uid)] := by
    rw [List.filter_cons_of_pos (by simp [Header.sameName]), List.filter_nil]
    rfl
  unfold stamped withHeaders Header.Multimap.push Header.Multimap.remove
  simp only [List.filter_append, List.filter_filter, huid, List.append_assoc]
  congr 1
  apply List.filter_congr
  intro e _
  rw [Bool.eq_iff_iff]
  simp only [Header.sameName, Header.lower_date, Header.lower_uid, Header.lower_signature,
    Bool.and_eq_true, Bool.not_eq_true', beq_eq_false_iff_ne, decide_eq_true_eq, List.mem_cons,
    List.not_mem_nil, or_false, not_or]
  constructor
  · rintro ⟨hd, hu, hs⟩
    exact ⟨hs, hu, hd⟩
  · rintro ⟨hs, hu, hd⟩
    exact ⟨hd, hu, hs⟩

theorem getAll_stamped (r : Request) (uid date name : String) :
    (r.stamped uid date).headers.getAll name =
      if Header.sameName Header.date name then [date]
      else if Header.sameName Header.uid name then [uid]
      else if Header.sameName Header.signature name then []
      else r.headers.getAll name := by
  unfold stamped withHeaders
  rw [Header.Multimap.getAll_remove_push, Header.Multimap.getAll_remove_push,
    Header.Multimap.getAll_remove]

end Request

namespace Signer

variable (s : Signer) (around : Surroundings)

/-- How a pass takes the signature, for an account and a date. -/
def passSignature (r : Request) (uid : Json.Text) (date : String) : String → Except Error String :=
  s.signature around.primitive (r.stamped (uid.marked '\ufffe') date).stringToSign

variable {s around} in
/-- An account without halves of pairs is encoded. -/
theorem signature_of_whole {uid : Json.Text} (huid : s.uid = .text uid) (hwhole : uid.half? = none)
    (remarked : Except Error String) (text : String) :
    s.signature around.primitive remarked text = signText around.primitive s.key text := by
  unfold signature
  rw [huid]
  dsimp only
  rw [hwhole]

variable {s around} in
theorem passSignature_of_text {uid : String} (huid : s.uid = .text uid) (r : Request)
    (date : String) : s.passSignature around r uid date = signText around.primitive s.key :=
  funext fun text => signature_of_whole huid (Json.Text.half?_ofString uid) _ text

theorem signStamped_result (remarked : Except Error String) (t : Trace) (r : Request) :
    (s.signStamped around remarked t r).1 =
      r.withSignature (s.signature around.primitive remarked) := by
  unfold signStamped Request.withSignature Trace.recording
  cases r.stringToSign with
  | error e => rfl
  | ok text =>
    dsimp only
    cases s.signature around.primitive remarked text <;> rfl

theorem withAccount_of_text {uid : Json.Text} (huid : s.uid = .text uid) (headers : Header.Multimap)
    (mark : Char) : s.withAccount headers mark = .ok (((headers.remove Header.signature).remove
      Header.uid).push Header.uid (uid.marked mark)) := by
  have hname : Header.uid ≠ "" := by decide
  unfold withAccount
  rw [huid]
  exact Header.Multimap.set_text _ hname _

theorem remarkedText_of_texts {uid : Json.Text} (huid : s.uid = .text uid) (date : String)
    (r : Request) :
    s.remarkedText (.text date) r = (r.stamped (uid.marked '\ufffe') date).stringToSign := by
  have hname : Header.date ≠ "" := by decide
  unfold remarkedText
  rw [s.withAccount_of_text huid]
  dsimp only
  rw [Header.Multimap.set_text _ hname]
  rfl

theorem sign_result (state : SigningState) (r : Request) :
    (s.sign around state r).1 =
      match s.uid, (state.source.next around.now).1 with
      | .text uid, .ok (.text date) =>
        (r.stamped uid.toString date).withSignature (s.passSignature around r uid date)
      | .text _, .ok _ => .error (.invalid (.header (.valueNotText Header.date)))
      | .text _, .error e => .error e
      | _, _ => .error (.invalid (.header (.valueNotText Header.uid))) := by
  have huid : Header.uid ≠ "" := by decide
  have hdate : Header.date ≠ "" := by decide
  unfold sign signWith
  cases hu : s.uid with
  | text uid =>
    rw [s.withAccount_of_text hu]
    dsimp only
    cases hd : (state.source.next around.now).1 with
    | error e => rfl
    | ok date =>
      cases date with
      | text date =>
        dsimp only
        rw [Header.Multimap.set_text _ hdate, s.remarkedText_of_texts hu]
        exact s.signStamped_result around _ _ _
      | _ =>
        dsimp only
        rw [Header.Multimap.set_of_text?_eq_none _ hdate rfl]
  | _ =>
    unfold withAccount
    rw [hu]
    dsimp only [Data.mapTexts]
    rw [Header.Multimap.set_of_text?_eq_none _ huid rfl]

end Signer

end RequestSigning
