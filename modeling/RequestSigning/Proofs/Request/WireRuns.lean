import RequestSigning.Request.Wire

/-!
# Runs of a wire

A wire is set beside a journal that has no bound and keeps all records made while enabled, in one
period for each stretch between two drains. Batches and buffer are the periods cut to the capacity,
and what is cut off is what the wire counts as dropped.
-/

namespace RequestSigning

namespace Wire

inductive Call
  | record (e : WireEntry)
  | enable
  | disable
  | drain
  deriving DecidableEq, Repr

def after (w : Wire) : Call → Wire
  | .record e => w.record e
  | .enable => w.enable
  | .disable => w.disable
  | .drain => w.drain.2

/-- The batches that a call returns: one if it is a drain. -/
def returned (w : Wire) : Call → List (List WireEntry)
  | .drain => [w.drain.1]
  | _ => []

def run (w : Wire) (calls : List Call) : Wire := calls.foldl after w

def batches (w : Wire) : List Call → List (List WireEntry)
  | [] => []
  | c :: rest => w.returned c ++ (w.after c).batches rest

theorem record_of_disabled {w : Wire} (h : w.enabled = false) (e : WireEntry) : w.record e = w := by
  simp [record, h]

theorem record_of_room {w : Wire} (h : w.enabled = true) (hroom : w.entries.length < w.capacity)
    (e : WireEntry) : w.record e = { w with entries := w.entries ++ [e] } := by
  simp [record, h, hroom]

theorem record_of_full {w : Wire} (h : w.enabled = true) (hfull : w.capacity ≤ w.entries.length)
    (e : WireEntry) : w.record e = { w with dropped := w.dropped + 1 } := by
  simp [record, h, Nat.not_lt.2 hfull]

/-- Nothing but a record made while enabled is ever counted, and it counts for one at most. -/
theorem dropped_after (w : Wire) (c : Call) :
    (w.after c).dropped = w.dropped ∨
      (w.after c).dropped = w.dropped + 1 ∧ w.enabled = true ∧ ∃ e, c = .record e := by
  cases c with
  | record e =>
    cases he : w.enabled with
    | false =>
      apply Or.inl
      simp only [after, record_of_disabled he]
    | true =>
      by_cases hroom : w.entries.length < w.capacity
      · apply Or.inl
        simp only [after, record_of_room he hroom]
      · refine Or.inr ⟨?_, rfl, e, rfl⟩
        simp only [after, record_of_full he (Nat.not_lt.1 hroom)]
  | enable => exact Or.inl rfl
  | disable => exact Or.inl rfl
  | drain => exact Or.inl rfl

theorem run_append (w : Wire) (calls later : List Call) :
    w.run (calls ++ later) = (w.run calls).run later := List.foldl_append

theorem dropped_le_run (w : Wire) (calls : List Call) : w.dropped ≤ (w.run calls).dropped := by
  induction calls generalizing w with
  | nil => exact Nat.le_refl _
  | cons c rest ih =>
    have hstep : w.dropped ≤ (w.after c).dropped := by
      rcases w.dropped_after c with h | ⟨h, -⟩ <;> omega
    exact Nat.le_trans hstep (ih (w.after c))

end Wire

/-- All records made while enabled: the periods that drains have closed, and the one that is
open. -/
structure Journal where
  enabled : Bool
  closed : List (List WireEntry)
  current : List WireEntry

namespace Journal

def start (enabled : Bool) : Journal := ⟨enabled, [], []⟩

def after (j : Journal) : Wire.Call → Journal
  | .record e => if j.enabled then { j with current := j.current ++ [e] } else j
  | .enable => { j with enabled := true }
  | .disable => { j with enabled := false }
  | .drain => { j with closed := j.closed ++ [j.current], current := [] }

def run (j : Journal) (calls : List Wire.Call) : Journal := calls.foldl after j

/-- The records of all periods, oldest first. -/
def made (j : Journal) : List WireEntry := j.closed.flatten ++ j.current

/-- The closed periods cut to a length. -/
def cut (n : Nat) (j : Journal) : List (List WireEntry) := j.closed.map (List.take n)

end Journal

namespace Wire

/-- A wire that holds the open period cut to its capacity and counts what was cut off all
periods. -/
structure Follows (n : Nat) (w : Wire) (j : Journal) : Prop where
  enabled : w.enabled = j.enabled
  capacity : w.capacity = n
  entries : w.entries = j.current.take n
  balance : j.made.length = (j.cut n).flatten.length + w.entries.length + w.dropped

namespace Follows

variable {n : Nat} {w : Wire} {j : Journal}

theorem start (enabled : Bool) : Follows n ⟨enabled, n, [], 0⟩ (.start enabled) :=
  ⟨rfl, rfl, List.take_nil.symm, rfl⟩

theorem length_entries (h : Follows n w j) : w.entries.length = min n j.current.length := by
  rw [h.entries, List.length_take]

theorem record (h : Follows n w j) (e : WireEntry) :
    Follows n (w.record e) (j.after (.record e)) := by
  cases he : w.enabled with
  | false =>
    have hj : j.after (.record e) = j := by simp [Journal.after, ← h.enabled, he]
    rwa [record_of_disabled he, hj]
  | true =>
    have hj : j.after (.record e) = { j with current := j.current ++ [e] } := by
      simp [Journal.after, ← h.enabled, he]
    have hmade : (j.after (.record e)).made.length = j.made.length + 1 := by
      simp [hj, Journal.made, Nat.add_assoc]
    have hlength := h.length_entries
    have hbalance := h.balance
    by_cases hroom : w.entries.length < w.capacity
    · rw [record_of_room he hroom]
      rw [h.capacity] at hroom
      have hshort : j.current.length < n := by omega
      refine ⟨hj ▸ h.enabled, h.capacity, ?_, ?_⟩
      · simp only [hj, h.entries]
        rw [List.take_of_length_le (by omega), List.take_of_length_le (by simp; omega)]
      · rw [hmade, hj]
        simp only [List.length_append, List.length_singleton]
        change _ = (j.cut n).flatten.length + _ + _
        omega
    · rw [record_of_full he (Nat.not_lt.1 hroom)]
      rw [h.capacity] at hroom
      refine ⟨hj ▸ h.enabled, h.capacity, ?_, ?_⟩
      · simp only [hj, h.entries]
        rw [List.take_append_of_le_length (by omega)]
      · rw [hmade, hj]
        change _ = (j.cut n).flatten.length + w.entries.length + (w.dropped + 1)
        omega

theorem drain (h : Follows n w j) : Follows n w.drain.2 (j.after .drain) := by
  refine ⟨h.enabled, h.capacity, List.take_nil.symm, ?_⟩
  have hbalance := h.balance
  have hmade : (j.after .drain).made = j.made := by simp [Journal.after, Journal.made]
  have hcut : (j.after .drain).cut n = j.cut n ++ [w.entries] := by
    simp [Journal.after, Journal.cut, h.entries]
  simp only [hmade, hcut, List.flatten_append, List.flatten_singleton, List.length_append]
  simpa [Wire.drain] using hbalance

theorem after (h : Follows n w j) (c : Call) : Follows n (w.after c) (j.after c) := by
  cases c with
  | record e => exact h.record e
  | enable => exact ⟨rfl, h.capacity, h.entries, h.balance⟩
  | disable => exact ⟨rfl, h.capacity, h.entries, h.balance⟩
  | drain => exact h.drain

theorem cut_after (h : Follows n w j) (c : Call) : (j.after c).cut n = j.cut n ++ w.returned c := by
  cases c with
  | record e =>
    have hclosed : (j.after (.record e)).closed = j.closed := by
      change (if j.enabled then _ else j).closed = j.closed
      split <;> rfl
    simp [Journal.cut, hclosed, returned]
  | enable => exact (List.append_nil _).symm
  | disable => exact (List.append_nil _).symm
  | drain => simp [Journal.after, Journal.cut, returned, Wire.drain, h.entries]

theorem run (h : Follows n w j) (calls : List Call) : Follows n (w.run calls) (j.run calls) := by
  induction calls generalizing w j with
  | nil => exact h
  | cons c rest ih => exact ih (h.after c)

/-- The drains of a run return the periods that it closes, each cut to the capacity. -/
theorem cut_run (h : Follows n w j) (calls : List Call) :
    (j.run calls).cut n = j.cut n ++ w.batches calls := by
  induction calls generalizing w j with
  | nil => exact (List.append_nil _).symm
  | cons c rest ih =>
    change ((j.after c).run rest).cut n = _
    rw [ih (h.after c), h.cut_after, List.append_assoc]
    rfl

end Follows

/-- At every point of a run the buffer is the open period cut to the capacity and the batches are
the closed periods cut to it, so that all records made while enabled are drained, buffered or
counted. The counter never falls, and neither drains nor records made while disabled touch it. -/
theorem run_accounts (enabled : Bool) {capacity : Int} (h : 1 ≤ capacity) (calls : List Call) :
    let journal := (Journal.start enabled).run calls
    ∃ w, make enabled capacity = .ok w ∧
      (w.run calls).entries.length ≤ capacity ∧
      (w.run calls).entries = journal.current.take capacity.toNat ∧
      w.batches calls = journal.closed.map (List.take capacity.toNat) ∧
      journal.made.length =
        (w.batches calls).flatten.length + (w.run calls).entries.length + (w.run calls).dropped ∧
      (∀ later, (w.run calls).dropped ≤ (w.run (calls ++ later)).dropped) ∧
      (w.run (calls ++ [.drain])).dropped = (w.run calls).dropped ∧
      ((w.run calls).enabled = false →
        ∀ e, (w.run (calls ++ [.record e])).dropped = (w.run calls).dropped) := by
  intro journal
  have hmake : make enabled capacity = .ok ⟨enabled, capacity.toNat, [], 0⟩ := by
    unfold make
    rw [if_neg (by omega)]
  have hstart : Follows capacity.toNat _ _ := Follows.start enabled
  have hrun := hstart.run calls
  have hcut : Wire.batches ⟨enabled, capacity.toNat, [], 0⟩ calls = journal.cut capacity.toNat :=
    (hstart.cut_run calls).symm
  refine ⟨_, hmake, ?_, hrun.entries, hcut, ?_, ?_, ?_, ?_⟩
  · have hlength := hrun.length_entries
    omega
  · rw [hcut]
    exact hrun.balance
  · intro later
    rw [run_append]
    exact dropped_le_run _ later
  · rw [run_append]
    rfl
  · intro hdisabled e
    rw [run_append]
    change ((Wire.run _ calls).record e).dropped = _
    rw [record_of_disabled hdisabled]

/-- Two places, four records made while enabled and a drain before the last of them. -/
theorem run_accounts_of_overflow :
    let a : WireEntry := ⟨.output, "a"⟩
    let b : WireEntry := ⟨.input, "b"⟩
    let calls : List Call :=
      [.record a, .enable, .record b, .record a, .record a, .drain, .record b, .disable, .record a]
    (1 : Int) ≤ 2 ∧ ∃ w, make false 2 = .ok w ∧ w.batches calls = [[b, a]] ∧
      (w.run calls).entries = [b] ∧ (w.run calls).dropped = 1 := by
  intro a b calls
  have hcapacity : (1 : Int) ≤ 2 := by decide
  obtain ⟨w, hmake, -, hentries, hbatches, hbalance, -⟩ := run_accounts false hcapacity calls
  have hb : w.batches calls = [[b, a]] := hbatches.trans (by decide)
  have he : (w.run calls).entries = [b] := hentries.trans (by decide)
  have hmade : ((Journal.start false).run calls).made.length = 4 := by decide
  rw [hmade, hb, he] at hbalance
  change 4 = 2 + 1 + (w.run calls).dropped at hbalance
  exact ⟨hcapacity, w, hmake, hb, he, by omega⟩

end Wire

end RequestSigning
