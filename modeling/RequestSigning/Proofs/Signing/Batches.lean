import Mathlib.Data.List.Forall2
import RequestSigning.Proofs.Signing.Records

/-!
# What drained batches show

Passes of one signer and drains of its wire in any order. A batch is what the passes since the drain
before have left on the wire, one after the other, and each pass leaves a part of its records that
starts with the first one. So no signature stands in a batch without the string that it signs right
before it.
-/

namespace RequestSigning

/-- A wire keeps the first records of a row that it has room for, if it is enabled. -/
theorem Wire.entries_recordAll (w : Wire) (es : List WireEntry) :
    (w.recordAll es).entries =
      w.entries ++ if w.enabled then es.take (w.capacity - w.entries.length) else [] := by
  induction es generalizing w with
  | nil => cases h : w.enabled <;> simp [recordAll]
  | cons e rest ih =>
    change ((w.record e).recordAll rest).entries = _
    rw [ih]
    cases he : w.enabled with
    | false => simp [record_of_disabled he, he]
    | true =>
      by_cases hroom : w.entries.length < w.capacity
      · have hplaces : w.capacity - w.entries.length = w.capacity - (w.entries.length + 1) + 1 := by
          omega
        simp [record_of_room he hroom, he, hplaces]
      · have hfull : w.capacity ≤ w.entries.length := by omega
        have hplaces : w.capacity - w.entries.length = 0 := by omega
        simp [record_of_full he hfull, he, hplaces]

/-- A stamped request has no string to sign, or one that is not signed, or one that is. -/
theorem Request.records_cases (sign : String → Except Error String) (r : Request) :
    (∃ e, r.stringToSign = .error e ∧ r.withSignature sign = .error e ∧ r.records sign = []) ∨
    (∃ text e, r.stringToSign = .ok text ∧ r.withSignature sign = .error e ∧
      r.records sign = [⟨.output, text⟩]) ∨
    ∃ text signature signed, r.stringToSign = .ok text ∧ sign text = .ok signature ∧
      r.withSignature sign = .ok signed ∧
      r.records sign = [⟨.output, text⟩, ⟨.input, signature⟩] := by
  unfold withSignature records
  cases r.stringToSign with
  | error e => exact Or.inl ⟨e, rfl, rfl, rfl⟩
  | ok text =>
    dsimp only
    cases hs : sign text with
    | error e => exact Or.inr (Or.inl ⟨text, e, rfl, rfl, rfl⟩)
    | ok signature => exact Or.inr (Or.inr ⟨text, signature, _, rfl, hs, rfl, rfl⟩)

namespace SigningState

def onWire (state : SigningState) (f : Wire → Wire) : SigningState :=
  { state with trace := { state.trace with wire := state.trace.wire.map f } }

/-- What a drain of the wire would return. -/
def buffered (state : SigningState) : List WireEntry :=
  match state.trace.wire with
  | some w => w.drain.1
  | none => []

end SigningState

/-- One pass of a signer: the state that it starts from, what surrounds it and the request. -/
structure Pass where
  state : SigningState
  around : Surroundings
  request : Request

namespace Pass

variable (s : Signer) (p : Pass)

def outcome : Except Error Request := (s.sign p.around p.state p.request).1

/-- The request with account and date, if both are texts. -/
def stamped? : Option Request :=
  match s.uid, (p.state.source.next p.around.now).1 with
  | .text uid, .ok (.text date) => some (p.request.stamped uid.toString date)
  | _, _ => none

/-- How the pass takes the signature, if account and date are texts. -/
def signature? : Option (String → Except Error String) :=
  match s.uid, (p.state.source.next p.around.now).1 with
  | .text uid, .ok (.text date) => some (s.passSignature p.around p.request uid date)
  | _, _ => none

/-- The string to sign, if the pass gets as far. -/
def text? : Option String := (p.stamped? s).bind fun r => r.stringToSign.toOption

def records : List WireEntry :=
  match p.stamped? s, p.signature? s with
  | some r, some sign => r.records sign
  | _, _ => []

theorem sign_cases :
    (∃ r sign, p.stamped? s = some r ∧ p.signature? s = some sign ∧
      p.outcome s = r.withSignature sign ∧ ∀ text signature, sign text = .ok signature →
        signature = Digest.signature s.key text) ∨
      (p.stamped? s = none ∧ ∃ e, p.outcome s = .error e) := by
  unfold outcome stamped? signature?
  rw [Signer.sign_result]
  cases hu : s.uid with
  | text uid =>
    cases (p.state.source.next p.around.now).1 with
    | error e => exact Or.inr ⟨rfl, e, rfl⟩
    | ok date =>
      cases date with
      | text date =>
        refine Or.inl ⟨_, _, rfl, rfl, rfl, fun text signature hsign => ?_⟩
        exact (signText_eq_ok_iff.1 ((Signer.passSignature_eq_ok_iff hu).1 hsign).2).2
      | _ => exact Or.inr ⟨rfl, _, rfl⟩
  | _ => exact Or.inr ⟨rfl, _, rfl⟩

theorem wire_sign : (s.sign p.around p.state p.request).2.trace.wire =
    p.state.trace.wire.map fun w => w.recordAll (p.records s) := by
  have hnothing : p.state.trace.wire = p.state.trace.wire.map fun w => w.recordAll [] :=
    Option.map_id'.symm
  rw [Signer.wire_sign]
  unfold records stamped? signature?
  cases s.uid with
  | text uid =>
    cases (p.state.source.next p.around.now).1 with
    | error e => exact hnothing
    | ok date =>
      cases date with
      | text date => rfl
      | _ => exact hnothing
  | _ => exact hnothing

/-- A pass ends without a string to sign, or with one that is not signed, or with one that is. -/
theorem records_cases :
    (p.text? s = none ∧ (∃ e, p.outcome s = .error e) ∧ p.records s = []) ∨
    (∃ text e, p.text? s = some text ∧ p.outcome s = .error e ∧ p.records s = [⟨.output, text⟩]) ∨
    ∃ text signed, p.text? s = some text ∧ p.outcome s = .ok signed ∧
      p.records s = [⟨.output, text⟩, ⟨.input, Digest.signature s.key text⟩] := by
  rcases p.sign_cases s with ⟨r, sign, hr, hs, hresult, hsign⟩ | ⟨hr, he⟩
  · have htext : p.text? s = r.stringToSign.toOption := by simp [text?, hr]
    have hrecords : p.records s = r.records sign := by simp [records, hr, hs]
    rw [htext, hrecords, hresult]
    rcases r.records_cases sign with
      ⟨e, ht, ho, hrec⟩ | ⟨text, e, ht, ho, hrec⟩ | ⟨text, signature, signed, ht, hsig, ho, hrec⟩
    · exact Or.inl ⟨by rw [ht]; rfl, ⟨e, ho⟩, hrec⟩
    · exact Or.inr (Or.inl ⟨text, e, by rw [ht]; rfl, ho, hrec⟩)
    · rw [hsign _ _ hsig] at hrec
      exact Or.inr (Or.inr ⟨text, signed, by rw [ht]; rfl, ho, hrec⟩)
  · exact Or.inl ⟨by simp [text?, hr], he, by simp [records, hr]⟩

end Pass

namespace Signer

inductive Call
  | sign (around : Surroundings) (r : Request)
  | enable
  | disable
  | drain

/-- A drain of the wire: the passes since the drain before, and the batch that it returns. -/
structure Drain where
  passes : List Pass
  batch : List WireEntry

/-- The drains of a run, where these passes have been made since the last drain. -/
def drains (s : Signer) (passes : List Pass) (state : SigningState) : List Call → List Drain
  | [] => []
  | .sign around r :: rest =>
    s.drains (passes ++ [⟨state, around, r⟩]) (s.sign around state r).2 rest
  | .enable :: rest => s.drains passes (state.onWire Wire.enable) rest
  | .disable :: rest => s.drains passes (state.onWire Wire.disable) rest
  | .drain :: rest => ⟨passes, state.buffered⟩ :: s.drains [] (state.onWire fun w => w.drain.2) rest

/-- What a pass may leave: nothing without a string to sign, no more than the string where it is not
signed, and else the string and its signature or as much of both as there is room for. -/
structure Leaves (s : Signer) (p : Pass) (part : List WireEntry) : Prop where
  unbuilt : p.text? s = none → part = []
  failed : ∀ e, p.outcome s = .error e →
    part = [] ∨ ∃ text, p.text? s = some text ∧ part = [⟨.output, text⟩]
  signed : ∀ signed, p.outcome s = .ok signed → ∃ text, p.text? s = some text ∧
    part <+: [⟨.output, text⟩, ⟨.input, Digest.signature s.key text⟩]

/-- Entries are what these passes leave, one part for each and in their order. -/
def Holds (s : Signer) (passes : List Pass) (entries : List WireEntry) : Prop :=
  ∃ parts : List (List WireEntry), entries = parts.flatten ∧
    List.Forall₂ (fun p part => part <+: p.records s) passes parts

variable {s : Signer}

theorem Holds.recordAll {passes : List Pass} {w : Wire} (h : s.Holds passes w.entries) (p : Pass) :
    s.Holds (passes ++ [p]) (w.recordAll (p.records s)).entries := by
  obtain ⟨parts, hentries, hparts⟩ := h
  rw [w.entries_recordAll, hentries]
  have hpart : ∀ part, part <+: p.records s → s.Holds (passes ++ [p]) (parts.flatten ++ part) := by
    intro part hprefix
    refine ⟨parts ++ [part], by simp, List.rel_append hparts ?_⟩
    exact List.Forall₂.cons hprefix List.Forall₂.nil
  apply hpart
  split
  · exact List.take_prefix _ _
  · exact List.nil_prefix

/-- Passes and drains keep what the wire holds: no more than what the passes since the last drain
leave. -/
theorem holds_of_mem_drains {passes : List Pass} {state : SigningState} {w : Wire}
    (hw : state.trace.wire = some w) (h : s.Holds passes w.entries) (calls : List Call) :
    ∀ d ∈ s.drains passes state calls, s.Holds d.passes d.batch := by
  induction calls generalizing passes state w with
  | nil => simp [drains]
  | cons c rest ih =>
    cases c with
    | sign around r =>
      have hwire := (Pass.mk state around r).wire_sign s
      rw [hw, Option.map_some] at hwire
      exact ih hwire (h.recordAll _)
    | enable => exact ih (w := w.enable) (by simp [SigningState.onWire, hw]) h
    | disable => exact ih (w := w.disable) (by simp [SigningState.onWire, hw]) h
    | drain =>
      intro d hd
      rcases List.mem_cons.1 hd with rfl | hrest
      · simpa [SigningState.buffered, hw, Wire.drain] using h
      · exact ih (w := w.drain.2) (by simp [SigningState.onWire, hw])
          ⟨[], rfl, List.Forall₂.nil⟩ d hrest

theorem leaves_of_prefix {p : Pass} {part : List WireEntry} (h : part <+: p.records s) :
    s.Leaves p part := by
  rcases p.records_cases s with
    ⟨ht, ⟨e, ho⟩, hrec⟩ | ⟨text, e, ht, ho, hrec⟩ | ⟨text, signed, ht, ho, hrec⟩
  all_goals rw [hrec] at h
  · have hnil : part = [] := List.prefix_nil.1 h
    exact ⟨fun _ => hnil, fun _ _ => Or.inl hnil, by simp [ho]⟩
  · refine ⟨by simp [ht], fun _ _ => ?_, by simp [ho]⟩
    rcases List.prefix_cons_iff.1 h with hnil | ⟨rest, hcons, hrest⟩
    · exact Or.inl hnil
    · exact Or.inr ⟨text, ht, by rw [hcons, List.prefix_nil.1 hrest]⟩
  · exact ⟨by simp [ht], by simp [ho], fun _ _ => ⟨text, ht, h⟩⟩

/-- What a pass leaves is nothing, its string to sign, or the string with its signature behind
it. -/
theorem Leaves.eq_nil_or {p : Pass} {part : List WireEntry} (h : s.Leaves p part) :
    part = [] ∨ ∃ t, p.text? s = some t ∧
      (part = [⟨.output, t⟩] ∨ part = [⟨.output, t⟩, ⟨.input, Digest.signature s.key t⟩]) := by
  cases ho : p.outcome s with
  | error e =>
    rcases h.failed e ho with hnil | ⟨t, ht, hone⟩
    · exact Or.inl hnil
    · exact Or.inr ⟨t, ht, Or.inl hone⟩
  | ok signed =>
    obtain ⟨t, ht, hprefix⟩ := h.signed signed ho
    rcases List.prefix_cons_iff.1 hprefix with hnil | ⟨rest, rfl, hrest⟩
    · exact Or.inl hnil
    · refine Or.inr ⟨t, ht, ?_⟩
      rcases List.prefix_cons_iff.1 hrest with hnil | ⟨last, rfl, hlast⟩
      · exact Or.inl (by rw [hnil])
      · exact Or.inr (by rw [List.prefix_nil.1 hlast])

/-- Where passes leave a signature, it stands behind the string of the same pass. -/
theorem input_behind_output {passes : List Pass} {parts : List (List WireEntry)}
    (h : List.Forall₂ s.Leaves passes parts) {before after : List WireEntry}
    {text : String} (heq : parts.flatten = before ++ ⟨.input, text⟩ :: after) :
    ∃ i p t, passes[i]? = some p ∧ p.text? s = some t ∧
      parts[i]? = some [⟨.output, t⟩, ⟨.input, text⟩] ∧
      before = (parts.take i).flatten ++ [⟨.output, t⟩] ∧ text = Digest.signature s.key t := by
  induction h generalizing before with
  | nil => simp at heq
  | @cons p part passes parts hpart _ ih =>
    -- An entry of a later pass is found there, one pass further on.
    have later : ∀ before', parts.flatten = before' ++ ⟨.input, text⟩ :: after →
        before = part ++ before' →
        ∃ i q t, (p :: passes)[i]? = some q ∧ q.text? s = some t ∧
          (part :: parts)[i]? = some [⟨.output, t⟩, ⟨.input, text⟩] ∧
          before = ((part :: parts).take i).flatten ++ [⟨.output, t⟩] ∧
          text = Digest.signature s.key t := by
      intro before' hrest hbefore
      obtain ⟨i, q, t, hq, ht, hi, hb, hsignature⟩ := ih hrest
      exact ⟨i + 1, q, t, hq, ht, hi, by simp [hbefore, hb], hsignature⟩
    rw [List.flatten_cons] at heq
    rcases hpart.eq_nil_or with rfl | ⟨t, ht, rfl | rfl⟩
    · exact later before heq rfl
    · cases before with
      | nil => cases (List.cons.inj heq).1
      | cons first before' =>
        obtain ⟨rfl, hrest⟩ := List.cons.inj heq
        exact later before' hrest rfl
    · cases before with
      | nil => cases (List.cons.inj heq).1
      | cons first tail =>
        obtain ⟨rfl, hrest⟩ := List.cons.inj heq
        cases tail with
        | nil =>
          obtain ⟨hinput, -⟩ := List.cons.inj hrest
          obtain rfl : Digest.signature s.key t = text := congrArg WireEntry.text hinput
          exact ⟨0, p, t, rfl, ht, rfl, rfl, rfl⟩
        | cons second before' =>
          obtain ⟨rfl, hlast⟩ := List.cons.inj hrest
          exact later before' hlast rfl

/-- A batch is made of what each pass since the drain before has left, and right before a signature
stands the string that the same pass has signed. -/
theorem drained_inputs_follow_outputs {state : SigningState} {w : Wire}
    (hw : state.trace.wire = some w) (hempty : w.entries = []) (calls : List Call) :
    ∀ d ∈ s.drains [] state calls, ∃ parts : List (List WireEntry),
      d.batch = parts.flatten ∧ List.Forall₂ s.Leaves d.passes parts ∧
      ∀ before text after, d.batch = before ++ ⟨.input, text⟩ :: after →
        ∃ i p t, d.passes[i]? = some p ∧ p.text? s = some t ∧
          parts[i]? = some [⟨.output, t⟩, ⟨.input, text⟩] ∧
          before = (parts.take i).flatten ++ [⟨.output, t⟩] ∧ text = Digest.signature s.key t := by
  intro d hd
  have hstart : s.Holds [] w.entries := ⟨[], hempty, List.Forall₂.nil⟩
  obtain ⟨parts, hbatch, hparts⟩ := holds_of_mem_drains hw hstart calls d hd
  have hleaves : List.Forall₂ s.Leaves d.passes parts := hparts.imp fun _ _ => leaves_of_prefix
  exact ⟨parts, hbatch, hleaves, fun before text after heq =>
    input_behind_output hleaves (hbatch ▸ heq)⟩

/-- Four places and three passes, of which the second fails in the primitive. -/
theorem drained_inputs_follow_outputs_on_full_wire :
    let s : Signer := ⟨.text "u", [1, 2, 3]⟩
    let w : Wire := ⟨true, 4, [], 0⟩
    let state : SigningState := ⟨.given [.text "d", .text "d", .text "d"], ⟨some w, []⟩⟩
    let r : Request := ⟨.get, .text "/x", ⟨[]⟩, none⟩
    let broken : Surroundings := { primitive := .fails ⟨.finish, .runtime, "no"⟩ }
    state.trace.wire = some w ∧ w.entries = [] ∧
      ∃ d ∈ s.drains [] state [.sign {} r, .sign broken r, .sign {} r, .drain],
        d.batch.map (·.direction) = [.output, .input, .output, .output] ∧
        ∃ t rest, d.batch = ⟨.output, t⟩ :: ⟨.input, Digest.signature s.key t⟩ :: rest := by
  intro s w state r broken
  have hbatches : (s.drains [] state [.sign {} r, .sign broken r, .sign {} r, .drain]).map
      (fun d => d.batch.map (·.direction)) = [[.output, .input, .output, .output]] := by
    decide +kernel
  obtain ⟨d, drains, hd, hdirections, -⟩ := List.map_eq_cons_iff.1 hbatches
  obtain ⟨first, tail, hfirst, hout, htail⟩ := List.map_eq_cons_iff.1 hdirections
  obtain ⟨second, rest, hsecond, hin, -⟩ := List.map_eq_cons_iff.1 htail
  have hmem : d ∈ s.drains [] state [.sign {} r, .sign broken r, .sign {} r, .drain] :=
    hd ▸ List.mem_cons_self
  obtain ⟨parts, -, -, hinputs⟩ := drained_inputs_follow_outputs (s := s) (w := w) rfl rfl _ d hmem
  have hsplit : d.batch = [first] ++ ⟨.input, second.text⟩ :: rest := by
    rw [hfirst, hsecond, ← hin]
    rfl
  obtain ⟨i, p, t, -, -, -, hbefore, htext⟩ := hinputs _ _ _ hsplit
  have hstring : first = ⟨.output, t⟩ := by
    simpa using congrArg List.getLast? hbefore
  refine ⟨rfl, rfl, d, hmem, hdirections, t, rest, ?_⟩
  rw [hsplit, hstring, htext]
  rfl

end Signer

end RequestSigning
