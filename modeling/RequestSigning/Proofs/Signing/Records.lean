import RequestSigning.Proofs.Request.Recording
import RequestSigning.Proofs.Signing.Verification

/-!
# What signing records

A pass records its string to sign before it takes the signature, and the signature once there is
one. A pass that ends before it has a string to sign records nothing.
-/

namespace RequestSigning

/-- The wire after these entries one after the other. -/
def Wire.recordAll (w : Wire) (entries : List WireEntry) : Wire := entries.foldl record w

/-- The entries of a pass over a stamped request. -/
def Request.records (sign : String → Except Error String) (r : Request) : List WireEntry :=
  match r.stringToSign with
  | .error _ => []
  | .ok text => ⟨.output, text⟩ ::
      match sign text with
      | .error _ => []
      | .ok signature => [⟨.input, signature⟩]

namespace Signer

variable (s : Signer) (around : Surroundings)

theorem wire_signStamped (remarked : Except Error String) (t : Trace) (r : Request) :
    (s.signStamped around remarked t r).2.wire =
      t.wire.map fun w => w.recordAll (r.records (s.signature around.primitive remarked)) := by
  unfold signStamped Request.records Trace.recording
  cases r.stringToSign with
  | error e => exact Option.map_id'.symm
  | ok text =>
    dsimp only
    cases s.signature around.primitive remarked text with
    | error e => exact Trace.wire_record _ _ _
    | ok signature =>
      change ((Trace.record _ .output text).record .input signature).wire = _
      rw [Trace.wire_record, Trace.wire_record, Option.map_map]
      rfl

theorem wire_sign (state : SigningState) (r : Request) :
    (s.sign around state r).2.trace.wire =
      match s.uid, (state.source.next around.now).1 with
      | .text uid, .ok (.text date) =>
        state.trace.wire.map fun w =>
          w.recordAll ((r.stamped uid.toString date).records (s.passSignature around r uid date))
      | _, _ => state.trace.wire := by
  have huid : Header.uid ≠ "" := by decide
  have hdate : Header.date ≠ "" := by decide
  unfold sign signWith
  cases hu : s.uid with
  | text uid =>
    rw [s.withAccount_of_text hu]
    dsimp only
    cases hd : (state.source.next around.now).1 with
    | error e => rfl
    | ok date =>
      cases date with
      | text date =>
        dsimp only
        rw [Header.Multimap.set_text _ hdate, s.remarkedText_of_texts hu]
        exact s.wire_signStamped around _ _ _
      | _ =>
        dsimp only
        rw [Header.Multimap.set_of_text?_eq_none _ hdate rfl]
  | _ =>
    unfold withAccount
    rw [hu]
    dsimp only [Data.mapTexts]
    rw [Header.Multimap.set_of_text?_eq_none _ huid rfl]

variable {s around}

/-- A pass that returns a signed request has recorded its string to sign and its signature. -/
theorem wire_sign_of_ok {state : SigningState} {r signed : Request}
    (h : (s.sign around state r).1 = .ok signed) :
    ∃ text signature, signed.unsigned.stringToSign = .ok text ∧
      signText around.primitive s.key text = .ok signature ∧
      (s.sign around state r).2.trace.wire =
        state.trace.wire.map fun w => w.recordAll [⟨.output, text⟩, ⟨.input, signature⟩] := by
  obtain ⟨uid, date, text, signature, hu, hd, htext, hsignature, rfl⟩ := sign_eq_ok_iff.1 h
  refine ⟨text, signature, ?_, hsignature, ?_⟩
  · rw [Request.unsigned_push_signature]
    exact htext
  · rw [wire_sign, hu, hd]
    dsimp only
    rw [Json.Text.toString_ofString, passSignature_of_text hu]
    unfold Request.records
    simp only [htext, hsignature]

end Signer

end RequestSigning
