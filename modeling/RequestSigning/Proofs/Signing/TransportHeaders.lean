import Mathlib.Data.List.Induction
import RequestSigning.Proofs.Header.Multimap
import RequestSigning.Signing.Prepared

/-!
# Transport headers through their values

Setting a header changes the value of one name, keeps all others at their places and leaves one
value for each name. Headers that can be read as a multimap have the same values there.
-/

namespace RequestSigning.TransportHeaders

def lowerNames (headers : TransportHeaders) : List String := headers.map fun e => Text.lower e.1

/-- There is one value for each name, whatever its case. -/
def Distinct (headers : TransportHeaders) : Prop := (lowerNames headers).Nodup

/-- The value of a name. -/
def get? (name : String) (headers : TransportHeaders) : Option Value :=
  (headers.find? fun e => Header.sameName e.1 name).map (·.2)

theorem get?_cons (other : String) (e : String × Value) (headers : TransportHeaders) :
    get? other (e :: headers) =
      if Header.sameName e.1 other then some e.2 else get? other headers := by
  unfold get?
  rw [List.find?_cons]
  by_cases h : Header.sameName e.1 other = true <;> simp [h]

theorem get?_eq_none_iff {name : String} {headers : TransportHeaders} :
    get? name headers = none ↔ Text.lower name ∉ lowerNames headers := by
  unfold get? lowerNames
  rw [Option.map_eq_none_iff, List.find?_eq_none, List.mem_map]
  constructor
  · rintro h ⟨e, he, hname⟩
    exact h e he (Header.sameName_iff.2 hname)
  · intro h e he hname
    exact h ⟨e, he, Header.sameName_iff.1 hname⟩

/-! ## Setting a header -/

theorem lowerNames_set (name : String) (value : Value) (headers : TransportHeaders) :
    lowerNames (set name value headers) =
      if Text.lower name ∈ lowerNames headers then lowerNames headers
      else lowerNames headers ++ [Text.lower name] := by
  induction headers with
  | nil => rfl
  | cons e rest ih =>
    obtain ⟨n, v⟩ := e
    change lowerNames (if Header.sameName n name then (name, value) :: rest
      else (n, v) :: set name value rest) =
        if Text.lower name ∈ Text.lower n :: lowerNames rest then Text.lower n :: lowerNames rest
        else Text.lower n :: lowerNames rest ++ [Text.lower name]
    by_cases h : Header.sameName n name = true
    · rw [if_pos h, Header.sameName_iff.1 h, if_pos List.mem_cons_self]
      rfl
    · have hne : Text.lower name ≠ Text.lower n := fun he => h (Header.sameName_iff.2 he.symm)
      rw [if_neg h]
      change Text.lower n :: lowerNames (set name value rest) = _
      rw [ih]
      by_cases hmem : Text.lower name ∈ lowerNames rest
      · rw [if_pos hmem, if_pos (List.mem_cons_of_mem _ hmem)]
      · rw [if_neg hmem, if_neg fun hc => (List.mem_cons.1 hc).elim hne hmem]
        rfl

theorem Distinct.set {headers : TransportHeaders} (h : Distinct headers) (name : String)
    (value : Value) : Distinct (set name value headers) := by
  unfold Distinct
  rw [lowerNames_set]
  split
  · exact h
  · next hn =>
    rw [List.nodup_append]
    refine ⟨h, by simp, ?_⟩
    rintro a ha b hb rfl
    exact hn (List.mem_singleton.1 hb ▸ ha)

/-- Headers that were set one after the other have one value for each name. -/
theorem distinct_ofList (entries : List (String × Value)) : Distinct (ofList entries) := by
  induction entries using List.reverseRecOn with
  | nil => exact List.nodup_nil
  | append_singleton entries e ih =>
    have hset : ofList (entries ++ [e]) = TransportHeaders.set e.1 e.2 (ofList entries) := by
      unfold ofList
      rw [List.foldl_append]
      rfl
    rw [hset]
    exact ih.set e.1 e.2

theorem get?_set (name other : String) (value : Value) (headers : TransportHeaders) :
    get? other (set name value headers) =
      if Header.sameName name other then some value else get? other headers := by
  induction headers with
  | nil => exact get?_cons other (name, value) []
  | cons e rest ih =>
    obtain ⟨n, v⟩ := e
    unfold set
    by_cases hn : Header.sameName n name = true
    · rw [if_pos hn, get?_cons, get?_cons, Header.sameName_congr_left hn]
      by_cases h : Header.sameName name other = true
      · rw [if_pos h, if_pos h]
      · rw [if_neg h, if_neg h, if_neg h]
    · rw [if_neg hn, get?_cons, get?_cons, ih]
      by_cases ho : Header.sameName n other = true
      · have hno : ¬ Header.sameName name other = true := by
          intro hno
          rw [Header.sameName_congr_left ho, Header.sameName_comm] at hn
          exact hn hno
        rw [if_pos ho, if_neg hno, if_pos ho]
      · rw [if_neg ho, if_neg ho]

/-- A test that sees the lower case of names only and drops the name that is set keeps the same
headers in the same order. -/
theorem filter_set (keep : String → Bool) {name : String} (hname : keep (Text.lower name) = false)
    (value : Value) (headers : TransportHeaders) :
    (set name value headers).filter (fun e => keep (Text.lower e.1)) =
      headers.filter fun e => keep (Text.lower e.1) := by
  induction headers with
  | nil => simp [set, hname]
  | cons e rest ih =>
    obtain ⟨n, v⟩ := e
    unfold set
    by_cases h : Header.sameName n name = true
    · rw [if_pos h]
      simp [Header.sameName_iff.1 h, hname]
    · rw [if_neg h, List.filter_cons, List.filter_cons, ih]

theorem set_cons (name : String) (value : Value) (e : String × Value) (headers : TransportHeaders) :
    set name value (e :: headers) =
      if Header.sameName e.1 name then (name, value) :: headers else e :: set name value headers :=
  rfl

theorem set_set {a b : String} (hab : Header.sameName a b = true) (v w : Value)
    (headers : TransportHeaders) : set b w (set a v headers) = set b w headers := by
  induction headers with
  | nil => exact if_pos hab
  | cons e rest ih =>
    have hsame : Header.sameName e.1 b = Header.sameName e.1 a := by
      rw [Header.sameName_comm e.1, Header.sameName_comm e.1, Header.sameName_congr_left hab]
    rw [set_cons a, set_cons b w e rest, hsame]
    by_cases h : Header.sameName e.1 a = true
    · rw [if_pos h, if_pos h, set_cons, if_pos hab]
    · rw [if_neg h, if_neg h, set_cons, hsame, if_neg h, ih]

/-- A name that is there is set at its place, whatever else is set before or after. -/
theorem set_comm {a b : String} (hab : Header.sameName a b = false) (v w : Value)
    {headers : TransportHeaders} (ha : Text.lower a ∈ lowerNames headers) :
    set a v (set b w headers) = set b w (set a v headers) := by
  have hba : Header.sameName b a = false := Header.sameName_comm a b ▸ hab
  induction headers with
  | nil => exact absurd ha List.not_mem_nil
  | cons e rest ih =>
    by_cases hea : Header.sameName e.1 a = true
    · have heb : Header.sameName e.1 b = false := Header.sameName_congr_left hea b ▸ hab
      simp only [set_cons, hea, heb, hab, if_true, Bool.false_eq_true, if_false]
    · have hrest : Text.lower a ∈ lowerNames rest :=
        (List.mem_cons.1 ha).resolve_left fun h => hea (Header.sameName_iff.2 h.symm)
      by_cases heb : Header.sameName e.1 b = true
      · simp only [set_cons, hea, heb, hba, if_true, Bool.false_eq_true, if_false]
      · simp only [set_cons, hea, heb, if_false, ih hrest, Bool.false_eq_true]

/-! ## Headers as a multimap -/

/-- Every header has a name and a text. -/
def Readable (headers : TransportHeaders) : Prop :=
  ∀ e ∈ headers, e.1 ≠ "" ∧ ∃ v, e.2 = .text v

theorem Readable.set {headers : TransportHeaders} (h : Readable headers) {name : String}
    (hn : name ≠ "") (value : String) : Readable (set name (.text value) headers) := by
  induction headers with
  | nil =>
    intro e he
    obtain rfl := List.mem_singleton.1 he
    exact ⟨hn, value, rfl⟩
  | cons e rest ih =>
    obtain ⟨he, hrest⟩ := List.forall_mem_cons.1 h
    unfold TransportHeaders.set
    split
    · exact List.forall_mem_cons.2 ⟨⟨hn, value, rfl⟩, hrest⟩
    · exact List.forall_mem_cons.2 ⟨he, ih hrest⟩

/-- The headers with their texts. -/
def texts (headers : TransportHeaders) : List (String × String) :=
  headers.map fun e => (e.1, e.2.text?.getD "")

theorem readable_cons {e : String × Value} {headers : TransportHeaders} :
    Readable (e :: headers) ↔ (e.1 ≠ "" ∧ ∃ v, e.2 = .text v) ∧ Readable headers :=
  List.forall_mem_cons

theorem addEntries_eq_ok_iff (m m' : Header.Multimap) (headers : TransportHeaders) :
    m.addEntries (headers.map fun e => (.text e.1, e.2)) = .ok m' ↔
      Readable headers ∧ m' = ⟨m.entries ++ texts headers⟩ := by
  induction headers generalizing m with
  | nil =>
    constructor
    · intro h
      refine ⟨fun _ he => absurd he List.not_mem_nil, ?_⟩
      rw [← Except.ok.inj h]
      simp [texts]
    · rintro ⟨_, rfl⟩
      simp [texts, Header.Multimap.addEntries]
  | cons e rest ih =>
    obtain ⟨n, v⟩ := e
    rw [List.map_cons, Header.Multimap.addEntries, readable_cons]
    by_cases hn : n = ""
    · rw [hn, Header.Multimap.add_empty]
      simp
    · cases v with
      | text s =>
        rw [Header.Multimap.add_text _ hn]
        change (m.push n s).addEntries _ = _ ↔ _
        rw [ih]
        simp [hn, texts, Header.Multimap.push, Data.text?]
      | _ =>
        rw [Header.Multimap.add_of_text?_eq_none _ hn rfl]
        simp

/-- With one value for each name, that value is all there is. -/
theorem Distinct.getAll_texts {headers : TransportHeaders} (h : Distinct headers) (name : String) :
    Header.Multimap.getAll ⟨texts headers⟩ name =
      ((get? name headers).map fun v => v.text?.getD "").toList := by
  induction headers with
  | nil => rfl
  | cons e rest ih =>
    obtain ⟨n, v⟩ := e
    obtain ⟨hn, hrest⟩ := List.nodup_cons.1 h
    change Header.Multimap.getAll ⟨(n, v.text?.getD "") :: texts rest⟩ name = _
    rw [get?_cons, Header.Multimap.getAll_cons, ih hrest]
    by_cases hname : Header.sameName n name = true
    · have hnone : get? name rest = none := by
        rw [get?_eq_none_iff, ← Header.sameName_iff.1 hname]
        exact hn
      rw [if_pos hname, if_pos hname, hnone]
      rfl
    · rw [if_neg hname, if_neg hname]

end RequestSigning.TransportHeaders
