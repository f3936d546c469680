import RequestSigning.Document.Adapter
import RequestSigning.Proofs.Json.Printing

/-!
# Documents of nested values

A codec value alone is written in the words of its codec, inside of another value as the document
that these words are read as. Either way the text is read as the document that the value stands for,
except that the two halves of a pair are read as one character where a document was written anew.
-/

namespace RequestSigning.Document

/-- The document that a value stands for: a date is its text and an item the document that it keeps,
whether alone or in lists and tables. -/
inductive Denotes : Content → Json → Prop
  | null : Denotes .null .null
  | bool (b : Bool) : Denotes (.bool b) (.bool b)
  | int {n : Int} : n.natAbs < 10 ^ Json.maxDigits → Denotes (.int n) (.int n)
  | text (t : Json.Text) : Denotes (.text t) (.text t)
  | date (t : Date.DateTime) : Denotes (.other (.date t)) (.text t.text)
  | item {i : DataBagItem} {j : Json} :
      Json.parse i.raw = .ok j → j.FloatFree → Denotes (.other (.item i)) j
  | list {items : List (Content × Json)} : (∀ p ∈ items, Denotes p.1 p.2) →
      Denotes (.list (items.map Prod.fst)) (.list (items.map Prod.snd))
  | table {entries : List (Json.Text × Content × Json)} : (entries.map Prod.fst).Nodup →
      (∀ e ∈ entries, Denotes e.2.1 e.2.2) →
      Denotes (.table (entries.map fun e => (.text e.1, e.2.1)))
        (.object (entries.map fun e => (e.1, e.2.2)))

variable {table : Table} {l : Leaf} {v : Content} {j : Json}

/-! ## Codec values -/

theorem parse_print_text (s : String) : Json.parse (Json.text s).print = .ok (.text s) := by
  have hjoined : (Json.text s).Joined := .text (Json.Text.joined_ofString s)
  rw [Json.parse_print (.text _) (.text _), (Json.paired_eq_self_iff (.text _)).2 hjoined]

/-- What a codec writes is read as what its value stands for. -/
theorem exists_encodeIn?_of_denotes (h : Denotes (.other l) j) :
    ∃ t, l.encodeIn? Kind.all = some t ∧ Json.parse t = .ok j := by
  cases h with
  | date t => exact ⟨_, rfl, parse_print_text t.text⟩
  | @item i j hraw _ => exact ⟨i.raw, rfl, hraw⟩

theorem nested_of_denotes (h : Denotes (.other l) j) : nested Kind.all l = .ok j := by
  obtain ⟨t, ht, hparse⟩ := exists_encodeIn?_of_denotes h
  simp only [nested, ht, hparse]

/-! ## Lists and tables -/

theorem toItems_eq {items : List (Content × Json)}
    (h : ∀ p ∈ items, toDocument table p.1 = .ok p.2) :
    toItems table (items.map Prod.fst) = .ok (items.map Prod.snd) := by
  induction items with
  | nil => rfl
  | cons p items ih =>
    obtain ⟨hp, hitems⟩ := List.forall_mem_cons.1 h
    rw [List.map_cons, toItems, hp, ih hitems]
    rfl

theorem toEntries_eq {entries : List (Json.Text × Content × Json)}
    (h : ∀ e ∈ entries, toDocument table e.2.1 = .ok e.2.2) :
    toEntries table (entries.map fun e => (.text e.1, e.2.1)) =
      .ok (entries.map fun e => (e.1, e.2.2)) := by
  induction entries with
  | nil => rfl
  | cons e entries ih =>
    obtain ⟨he, hentries⟩ := List.forall_mem_cons.1 h
    rw [List.map_cons, toEntries, keyText, he, ih hentries]
    rfl

theorem toDocument_of_denotes (h : Denotes v j) : toDocument Kind.all v = .ok j := by
  induction h with
  | null | bool | text => rw [toDocument]
  | int hn =>
    rw [← Decimal.length_natText_le_iff (by decide), String.length_toList] at hn
    rw [toDocument, writableInt, if_pos hn]
    rfl
  | date t => rw [toDocument, nested_of_denotes (.date t)]
  | item hraw hfree => rw [toDocument, nested_of_denotes (.item hraw hfree)]
  | list _ ih =>
    rw [toDocument, toItems_eq ih]
    rfl
  | table _ _ ih =>
    rw [toDocument, toEntries_eq ih]
    rfl

/-! ## Reading back -/

theorem Denotes.normal (h : Denotes v j) : j.Normal := by
  induction h with
  | null => exact .null
  | bool b => exact .bool b
  | int hn => exact .int hn
  | text t => exact .text t
  | date t => exact .text t.text
  | item hraw _ => exact Json.normal_of_parse hraw
  | list _ ih => exact .list (List.forall_mem_map.2 ih)
  | table hkeys _ ih =>
    refine .object ?_ (List.forall_mem_map.2 ih)
    rw [List.map_map]
    exact hkeys

theorem Denotes.floatFree (h : Denotes v j) : j.FloatFree := by
  induction h with
  | null => exact .null
  | bool b => exact .bool b
  | int => exact .int _
  | text t => exact .text t
  | date t => exact .text t.text
  | item _ hfree => exact hfree
  | list _ ih => exact .list (List.forall_mem_map.2 ih)
  | table _ _ ih => exact .object (List.forall_mem_map.2 ih)

/-- What is written as a document is read with the halves of pairs joined. -/
theorem parse_toJson_of_document (h : Denotes v j) (hv : ∀ l, v ≠ .other l) :
    ∃ t, toJson Kind.all v = .ok t ∧ Json.parse t = .ok j.paired := by
  have hdocument : (toDocument Kind.all v).map (fun j => (j.print : Json.Text)) = .ok j.print := by
    rw [toDocument_of_denotes h]
    rfl
  refine ⟨j.print, ?_, Json.parse_print h.normal h.floatFree⟩
  cases v with
  | other l => exact absurd rfl (hv l)
  | _ => exact hdocument

/-- A document in which halves of pairs are joined is read as another one. -/
theorem parse_toJson_ne {j' : Json} (h : Denotes v j) (hv : ∀ l, v ≠ .other l)
    (hjoined : j.paired = j') (hne : j' ≠ j) :
    ∃ t, toJson Kind.all v = .ok t ∧ Json.parse t = .ok j' ∧ Json.parse t ≠ .ok j := by
  obtain ⟨t, ht, hparse⟩ := parse_toJson_of_document h hv
  rw [hjoined] at hparse
  exact ⟨t, ht, hparse, fun hsame => hne (Except.ok.inj (hparse.symm.trans hsame))⟩

/-- A value is written, as a text that is read as the document it stands for, alone or inside of
other values. Only in a document that is written anew an upper half and a lower half right behind it
are read as one character; where there is neither, or a codec value alone, nothing is changed. -/
theorem parse_toJson (h : Denotes v j) : ∃ t, toJson Kind.all v = .ok t ∧
    (Json.parse t = .ok j ↔ j.Joined ∨ ∃ l, v = .other l) ∧
    ((∀ l, v ≠ .other l) → Json.parse t = .ok j.paired) := by
  by_cases hv : ∀ l, v ≠ .other l
  · obtain ⟨t, ht, hparse⟩ := parse_toJson_of_document h hv
    refine ⟨t, ht, ?_, fun _ => hparse⟩
    rw [hparse, Except.ok.injEq, Json.paired_eq_self_iff h.normal]
    exact (or_iff_left fun ⟨l, hl⟩ => hv l hl).symm
  · simp only [not_forall, not_not] at hv
    obtain ⟨l, rfl⟩ := hv
    obtain ⟨t, ht, hparse⟩ := exists_encodeIn?_of_denotes h
    refine ⟨t, by simp only [toJson, ht], iff_of_true hparse (.inr ⟨l, rfl⟩), fun hno => ?_⟩
    exact absurd rfl (hno l)

/-- An item and a date in a list in a table. -/
theorem parse_toJson_table :
    let item : DataBagItem := ⟨"a", "\x7b\"id\":\"a\",\"n\":[1]\x7d"⟩
    let date : Date.DateTime := ⟨⟨2030, 1, 1⟩, 10, 11, 12, 0, some 0⟩
    let document : Json := .object [("id", .text "a"), ("n", .list [.int 1])]
    ∃ t, toJson Kind.all (.table
        [(.text "seen", .list [.other (.item item), .other (.date date)]), (.text "by", .null)]) =
          .ok t ∧
      Json.parse t = .ok (.object
        [("seen", .list [document, .text "2030-01-01T10:11:12+00:00"]), ("by", .null)]) := by
  intro item date document
  have hraw : Json.parse item.raw = .ok document := by
    simp only [item, Json.parse, Json.Text.ofString, String.reduceToList]
    rfl
  have hfree : document.FloatFree := .object fun e he => by
    simp only [List.mem_cons, List.not_mem_nil, or_false] at he
    rcases he with rfl | rfl
    · exact .text _
    · exact .list fun j hj => List.mem_singleton.1 hj ▸ .int 1
  have hlist : Denotes (.list [.other (.item item), .other (.date date)])
      (.list [document, .text date.text]) := by
    refine @Denotes.list
      [(.other (.item item), document), (.other (.date date), .text date.text)] ?_
    simp only [List.forall_mem_cons, List.not_mem_nil, false_implies, implies_true, and_true]
    exact ⟨.item hraw hfree, .date date⟩
  have hdate : date.text = "2030-01-01T10:11:12+00:00" := by decide +kernel
  have htable := @Denotes.table
    [("seen", .list [.other (.item item), .other (.date date)], .list [document, .text date.text]),
      ("by", .null, .null)] (by decide +kernel) (by
    simp only [List.forall_mem_cons, List.not_mem_nil, false_implies, implies_true, and_true]
    exact ⟨hlist, .null⟩)
  have hjoined :
      (Json.object [("seen", .list [document, .text date.text]), ("by", .null)]).Joined := by
    refine .object ?_ ?_ <;> simp only [List.forall_mem_cons, List.not_mem_nil, false_implies,
      implies_true, and_true]
    · exact ⟨Json.Text.joined_ofString _, Json.Text.joined_ofString _⟩
    · refine ⟨.list ?_, .null⟩
      simp only [List.forall_mem_cons, List.not_mem_nil, false_implies, implies_true, and_true]
      exact ⟨Json.joined_of_parse hraw, .text (Json.Text.joined_ofString _)⟩
  obtain ⟨t, ht, hparse, -⟩ := parse_toJson htable
  rw [← hdate]
  exact ⟨t, ht, hparse.2 (.inl hjoined)⟩

/-- The halves of a pair in one text, alone, in a list and as a name, are read as one character. -/
theorem parse_toJson_pair :
    let halves : Json.Text := [.surrogate 0x03d, .surrogate 0x600]
    let whole : Json.Text := [.char '😀']
    (Denotes (.text halves) (.text halves) ∧ ∃ t, toJson Kind.all (.text halves) = .ok t ∧
      Json.parse t = .ok (.text whole) ∧ Json.parse t ≠ .ok (.text halves)) ∧
    (Denotes (.list [.text halves]) (.list [.text halves]) ∧
      ∃ t, toJson Kind.all (.list [.text halves]) = .ok t ∧
        Json.parse t = .ok (.list [.text whole]) ∧ Json.parse t ≠ .ok (.list [.text halves])) ∧
    Denotes (.table [(.text halves, .null)]) (.object [(halves, .null)]) ∧
      ∃ t, toJson Kind.all (.table [(.text halves, .null)]) = .ok t ∧
        Json.parse t = .ok (.object [(whole, .null)]) ∧
        Json.parse t ≠ .ok (.object [(halves, .null)]) := by
  intro halves whole
  have hpaired : halves.paired = whole := by decide
  have hne : whole ≠ halves := by decide
  have htext : Denotes (.text halves) (.text halves) := .text halves
  have hlist : Denotes (.list [.text halves]) (.list [.text halves]) :=
    @Denotes.list [(.text halves, .text halves)] (List.forall_mem_singleton.2 htext)
  have htable : Denotes (.table [(.text halves, .null)]) (.object [(halves, .null)]) :=
    @Denotes.table [(halves, .null, .null)] (List.nodup_singleton _)
      (List.forall_mem_singleton.2 .null)
  refine ⟨⟨htext, ?_⟩, ⟨hlist, ?_⟩, htable, ?_⟩
  · refine parse_toJson_ne htext (fun _ h => by cases h) ?_ (by simpa using hne)
    rw [Json.paired, hpaired]
  · refine parse_toJson_ne hlist (fun _ h => by cases h) ?_ (by simpa using hne)
    rw [Json.paired, Json.pairedItems, Json.pairedItems, Json.paired, hpaired]
  · refine parse_toJson_ne htable (fun _ h => by cases h) ?_ (by simpa using hne)
    simp only [Json.paired, Json.pairedEntries, hpaired]
    rfl

end RequestSigning.Document
