import RequestSigning.Proofs.Json.Documents

/-!
# Documents that are read back

Whatever is read is in normal form: whole numbers are short enough, and no name stands twice in an
object. A document in this form that has no floating point number is written as a text that is read
as the document with the halves of pairs in its texts and names joined. That is the document itself
where there is no pair to join, as in every document that is read from characters.
-/

namespace RequestSigning.Json

open Json.Text (ofChars)

variable {key : Text} {value v j : Json} {entries acc : List (Text × Json)} {items : List Json}
  {t : Text} {s : String}

/-! ## Entries of an object -/

theorem mem_putEntry {e : Text × Json} (h : e ∈ putEntry key value entries) :
    e = (key, value) ∨ e ∈ entries := by
  induction entries with
  | nil => exact .inl (List.mem_singleton.1 h)
  | cons entry rest ih =>
    obtain ⟨k, v⟩ := entry
    unfold putEntry at h
    split at h
    · next hk =>
      rcases List.mem_cons.1 h with rfl | h
      · exact .inl (hk ▸ rfl)
      · exact .inr (List.mem_cons_of_mem _ h)
    · rcases List.mem_cons.1 h with rfl | h
      · exact .inr List.mem_cons_self
      · exact (ih h).imp_right (List.mem_cons_of_mem _)

theorem putEntry_of_notMem (h : key ∉ entries.map Prod.fst) :
    putEntry key value entries = entries ++ [(key, value)] := by
  induction entries with
  | nil => rfl
  | cons entry rest ih =>
    rw [List.map_cons, List.mem_cons, not_or] at h
    rw [putEntry, if_neg (Ne.symm h.1), ih h.2, List.cons_append]

theorem length_putEntry_of_mem (value : Json) (h : key ∈ entries.map Prod.fst) :
    (putEntry key value entries).length = entries.length := by
  induction entries with
  | nil => cases h
  | cons entry rest ih =>
    obtain ⟨k, v⟩ := entry
    unfold putEntry
    split
    · rfl
    · next hk => exact congrArg (· + 1) (ih ((List.mem_cons.1 h).resolve_left (Ne.symm hk)))

theorem nodup_putEntry (h : (entries.map Prod.fst).Nodup) :
    ((putEntry key value entries).map Prod.fst).Nodup := by
  induction entries with
  | nil => exact List.nodup_singleton key
  | cons entry rest ih =>
    obtain ⟨k, v⟩ := entry
    rw [List.map_cons, List.nodup_cons] at h
    unfold putEntry
    split
    · exact List.nodup_cons.2 h
    · next hk =>
      refine List.nodup_cons.2 ⟨?_, ih h.2⟩
      intro hmem
      obtain ⟨e, he, rfl⟩ := List.mem_map.1 hmem
      rcases mem_putEntry he with rfl | he
      · exact hk rfl
      · exact h.1 (List.mem_map.2 ⟨e, he, rfl⟩)

/-- What entries put one after the other leave of a property of each of them. -/
theorem mem_foldl_putEntry {e : Text × Json}
    (h : e ∈ entries.foldl (fun acc e => putEntry e.1 e.2 acc) acc) : e ∈ acc ∨ e ∈ entries := by
  induction entries generalizing acc with
  | nil => exact .inl h
  | cons entry rest ih =>
    rcases ih h with hacc | hrest
    · rcases mem_putEntry hacc with rfl | hacc
      · exact .inr List.mem_cons_self
      · exact .inl hacc
    · exact .inr (List.mem_cons_of_mem _ hrest)

theorem nodup_foldl_putEntry (h : (acc.map Prod.fst).Nodup) :
    ((entries.foldl (fun acc e => putEntry e.1 e.2 acc) acc).map Prod.fst).Nodup := by
  induction entries generalizing acc with
  | nil => exact h
  | cons entry rest ih => exact ih (nodup_putEntry h)

theorem foldl_putEntry_of_nodup (h : ((acc ++ entries).map Prod.fst).Nodup) :
    entries.foldl (fun acc e => putEntry e.1 e.2 acc) acc = acc ++ entries := by
  induction entries generalizing acc with
  | nil => exact (List.append_nil acc).symm
  | cons entry rest ih =>
    have hsplit : acc ++ entry :: rest = acc ++ [entry] ++ rest := by
      rw [List.append_assoc, List.singleton_append]
    have hnew : entry.1 ∉ acc.map Prod.fst := by
      rw [List.map_append, List.map_cons] at h
      exact fun hmem => (List.nodup_append.1 h).2.2 _ hmem _ List.mem_cons_self rfl
    rw [hsplit] at h ⊢
    rw [List.foldl_cons, putEntry_of_notMem hnew, ih h]

theorem length_foldl_putEntry_le (entries acc : List (Text × Json)) :
    (entries.foldl (fun acc e => putEntry e.1 e.2 acc) acc).length ≤
      acc.length + entries.length := by
  induction entries generalizing acc with
  | nil => exact Nat.le_refl _
  | cons entry rest ih =>
    have hput : (putEntry entry.1 entry.2 acc).length ≤ acc.length + 1 := by
      by_cases hmem : entry.1 ∈ acc.map Prod.fst
      · exact (length_putEntry_of_mem entry.2 hmem).trans_le (Nat.le_succ _)
      · rw [putEntry_of_notMem hmem, List.length_append, List.length_singleton]
    have hrest := ih (putEntry entry.1 entry.2 acc)
    rw [List.foldl_cons, List.length_cons]
    omega

/-- Where no entry is lost, each was put at the end. -/
theorem foldl_putEntry_of_length
    (h : (entries.foldl (fun acc e => putEntry e.1 e.2 acc) acc).length =
      acc.length + entries.length) :
    entries.foldl (fun acc e => putEntry e.1 e.2 acc) acc = acc ++ entries := by
  induction entries generalizing acc with
  | nil => exact (List.append_nil acc).symm
  | cons entry rest ih =>
    rw [List.foldl_cons, List.length_cons] at h
    rw [List.foldl_cons]
    by_cases hmem : entry.1 ∈ acc.map Prod.fst
    · have hput := length_putEntry_of_mem entry.2 hmem
      have hle := length_foldl_putEntry_le rest (putEntry entry.1 entry.2 acc)
      omega
    · rw [putEntry_of_notMem hmem] at h ⊢
      rw [ih (by simpa [Nat.add_assoc, Nat.add_comm 1] using h), List.append_assoc,
        List.singleton_append]

/-- An object has as many entries as were written exactly when it has those entries. -/
theorem ofEntries_eq_object_iff {written : List (Text × Json)}
    (hlength : written.length = entries.length) (hkeys : (entries.map Prod.fst).Nodup) :
    ofEntries written = .object entries ↔ written = entries := by
  rw [ofEntries, object.injEq]
  constructor
  · intro h
    have hfold : written.foldl (fun acc e => putEntry e.1 e.2 acc) [] = [] ++ written :=
      foldl_putEntry_of_length (by rw [h, hlength, List.length_nil, Nat.zero_add])
    rwa [hfold, List.nil_append] at h
  · rintro rfl
    exact foldl_putEntry_of_nodup (List.nil_append written ▸ hkeys)

/-! ## Normal form -/

/-- A document as it may be read. -/
inductive Normal : Json → Prop
  | null : Normal .null
  | bool (b : Bool) : Normal (.bool b)
  | int {n : Int} : n.natAbs < 10 ^ maxDigits → Normal (.int n)
  | float (x : Float) : Normal (.float x)
  | text (t : Text) : Normal (.text t)
  | list {items : List Json} : (∀ item ∈ items, Normal item) → Normal (.list items)
  | object {entries : List (Text × Json)} : (entries.map Prod.fst).Nodup →
      (∀ e ∈ entries, Normal e.2) → Normal (.object entries)

theorem mem_ofEntries {e : Text × Json}
    (h : e ∈ entries.foldl (fun acc e => putEntry e.1 e.2 acc) []) : e ∈ entries :=
  (mem_foldl_putEntry h).resolve_left List.not_mem_nil

theorem normal_ofEntries (h : ∀ e ∈ entries, Normal e.2) : Normal (ofEntries entries) :=
  .object (nodup_foldl_putEntry List.nodup_nil) fun e he => h e (mem_ofEntries he)

theorem natAbs_signed (negative : Bool) (n : Nat) :
    (if negative then -(n : Int) else n).natAbs = n := by
  cases negative <;> simp

/-- What the words and numbers of documents stand for. -/
theorem Scalar.value_cases {p : List Char} (h : Scalar p v) :
    v = .null ∨ (∃ b, v = .bool b) ∨ (∃ n : Int, n.natAbs < 10 ^ maxDigits ∧ v = .int n) ∨
      ∃ x, v = .float x := by
  cases h with
  | word hword =>
    simp only [words, List.mem_cons, List.not_mem_nil, or_false, Prod.mk.injEq] at hword
    rcases hword with ⟨-, rfl⟩ | ⟨-, rfl⟩ | ⟨-, rfl⟩ | ⟨-, rfl⟩ | ⟨-, rfl⟩ | ⟨-, rfl⟩
    · exact .inl rfl
    · exact .inr (.inl ⟨_, rfl⟩)
    · exact .inr (.inl ⟨_, rfl⟩)
    all_goals exact .inr (.inr (.inr ⟨_, rfl⟩))
  | number hnumeral =>
    cases hnumeral with
    | int hwhole hlength =>
      refine .inr (.inr (.inl ⟨_, ?_, rfl⟩))
      rw [natAbs_signed]
      exact (digitsValue_lt hwhole.digits).trans_le (Nat.pow_le_pow_right (by decide) hlength)
    | float => exact .inr (.inr (.inr ⟨_, rfl⟩))

theorem Scalar.normal {p : List Char} (h : Scalar p v) : Normal v := by
  obtain rfl | ⟨b, rfl⟩ | ⟨n, hn, rfl⟩ | ⟨x, rfl⟩ := h.value_cases
  · exact .null
  · exact .bool b
  · exact .int hn
  · exact .float x

mutual

theorem Written.normal {p : Text} {v : Json} : Written p v → Normal v
  | .scalar hscalar => hscalar.normal
  | .text _ => .text _
  | .emptyList _ => .list (List.forall_mem_nil _)
  | .list _ hitems => .list hitems.normal
  | .emptyObject _ => .object .nil (List.forall_mem_nil _)
  | .object _ hmembers => normal_ofEntries hmembers.normal

theorem WrittenItems.normal {p : Text} {items : List Json} :
    WrittenItems p items → ∀ item ∈ items, Normal item
  | .last hitem _ => List.forall_mem_singleton.2 hitem.normal
  | .more hitem _ _ hitems => List.forall_mem_cons.2 ⟨hitem.normal, hitems.normal⟩

theorem WrittenMember.normal {p : Text} {member : Text × Json} :
    WrittenMember p member → Normal member.2
  | .mk _ _ _ hvalue => hvalue.normal

theorem WrittenMembers.normal {p : Text} {entries : List (Text × Json)} :
    WrittenMembers p entries → ∀ e ∈ entries, Normal e.2
  | .last hmember _ => List.forall_mem_singleton.2 hmember.normal
  | .more hmember _ _ hmembers => List.forall_mem_cons.2 ⟨hmember.normal, hmembers.normal⟩

end

theorem normal_of_parse (h : parse t = .ok j) : Normal j := by
  obtain ⟨_, _, _, _, _, _, hwritten⟩ := parse_eq_ok_iff.1 h
  exact hwritten.normal

/-! ## Halves of pairs -/

/-- A document in whose texts and names no upper half stands right before a lower half. -/
inductive Joined : Json → Prop
  | null : Joined .null
  | bool (b : Bool) : Joined (.bool b)
  | int (n : Int) : Joined (.int n)
  | float (x : Float) : Joined (.float x)
  | text {t : Text} : t.Joined → Joined (.text t)
  | list {items : List Json} : (∀ item ∈ items, Joined item) → Joined (.list items)
  | object {entries : List (Text × Json)} : (∀ e ∈ entries, e.1.Joined) →
      (∀ e ∈ entries, Joined e.2) → Joined (.object entries)

mutual

/-- The document with the halves of pairs in its texts and names joined. Of members that have one
name then, the last gives the value. -/
def paired : Json → Json
  | .text t => .text t.paired
  | .list items => .list (pairedItems items)
  | .object entries => ofEntries (pairedEntries entries)
  | j => j

def pairedItems : List Json → List Json
  | [] => []
  | item :: items => paired item :: pairedItems items

def pairedEntries : List (Text × Json) → List (Text × Json)
  | [] => []
  | (k, v) :: entries => (k.paired, paired v) :: pairedEntries entries

end

theorem pairedItems_eq_map (items : List Json) : pairedItems items = items.map paired := by
  induction items with
  | nil => rfl
  | cons item items ih => rw [pairedItems, ih, List.map_cons]

theorem pairedEntries_eq_map (entries : List (Text × Json)) :
    pairedEntries entries = entries.map fun e => (e.1.paired, paired e.2) := by
  induction entries with
  | nil => rfl
  | cons entry entries ih => rw [pairedEntries, ih, List.map_cons]

theorem map_eq_self_iff {α : Type} {f : α → α} {xs : List α} :
    xs.map f = xs ↔ ∀ x ∈ xs, f x = x := by
  conv_lhs => rhs; rw [← List.map_id xs]
  exact List.map_eq_map_iff

/-- Only documents without a pair to join stay as they are. -/
theorem paired_eq_self_iff (h : Normal j) : j.paired = j ↔ j.Joined := by
  induction h with
  | null => exact iff_of_true rfl .null
  | bool b => exact iff_of_true rfl (.bool b)
  | @int n _ => exact iff_of_true rfl (.int n)
  | float x => exact iff_of_true rfl (.float x)
  | text t =>
    rw [paired, Json.text.injEq, Text.paired_eq_self_iff]
    exact ⟨.text, fun h => by cases h; assumption⟩
  | @list items _ ih =>
    rw [paired, pairedItems_eq_map, Json.list.injEq, map_eq_self_iff]
    constructor
    · exact fun h => .list fun item hitem => (ih item hitem).1 (h item hitem)
    · rintro (_ | _ | _ | _ | _ | hitems) item hitem
      exact (ih item hitem).2 (hitems item hitem)
  | @object entries hkeys _ ih =>
    rw [paired, pairedEntries_eq_map, ofEntries_eq_object_iff (List.length_map _) hkeys,
      map_eq_self_iff]
    simp only [Prod.ext_iff, Text.paired_eq_self_iff]
    constructor
    · exact fun h => .object (fun e he => (h e he).1) fun e he => (ih e he).1 (h e he).2
    · rintro (_ | _ | _ | _ | _ | _ | ⟨hnames, hvalues⟩) e he
      exact ⟨hnames e he, (ih e he).2 (hvalues e he)⟩

theorem Scalar.joined {p : List Char} (h : Scalar p v) : Joined v := by
  obtain rfl | ⟨b, rfl⟩ | ⟨n, -, rfl⟩ | ⟨x, rfl⟩ := h.value_cases
  · exact .null
  · exact .bool b
  · exact .int n
  · exact .float x

mutual

theorem Written.joined {p : Text} {v : Json} :
    Written p v → (∀ s ∈ p, s.isSurrogate = false) → Joined v
  | .scalar hscalar, _ => hscalar.joined
  | .text hspells, hchars =>
    .text (joined_joinPairs (hspells.isRaw fun s hs => hchars s (by simp [hs])))
  | .emptyList _, _ => .list (List.forall_mem_nil _)
  | .list _ hitems, hchars => .list (hitems.joined fun s hs => hchars s (by simp [hs]))
  | .emptyObject _, _ => .object (List.forall_mem_nil _) (List.forall_mem_nil _)
  | .object _ hmembers, hchars =>
    have hentries := hmembers.joined fun s hs => hchars s (by simp [hs])
    .object (fun e he => (hentries e (mem_ofEntries he)).1)
      fun e he => (hentries e (mem_ofEntries he)).2

theorem WrittenItems.joined {p : Text} {items : List Json} :
    WrittenItems p items → (∀ s ∈ p, s.isSurrogate = false) → ∀ item ∈ items, Joined item
  | .last hitem _, hchars =>
    List.forall_mem_singleton.2 (hitem.joined fun s hs => hchars s (by simp [hs]))
  | .more hitem _ _ hitems, hchars => List.forall_mem_cons.2
    ⟨hitem.joined fun s hs => hchars s (by simp [hs]),
      hitems.joined fun s hs => hchars s (by simp [hs])⟩

theorem WrittenMember.joined {p : Text} {member : Text × Json} :
    WrittenMember p member → (∀ s ∈ p, s.isSurrogate = false) →
      member.1.Joined ∧ Joined member.2
  | .mk hspells _ _ hvalue, hchars =>
    ⟨joined_joinPairs (hspells.isRaw fun s hs => hchars s (by simp [hs])),
      hvalue.joined fun s hs => hchars s (by simp [hs])⟩

theorem WrittenMembers.joined {p : Text} {entries : List (Text × Json)} :
    WrittenMembers p entries → (∀ s ∈ p, s.isSurrogate = false) →
      ∀ e ∈ entries, e.1.Joined ∧ Joined e.2
  | .last hmember _, hchars =>
    List.forall_mem_singleton.2 (hmember.joined fun s hs => hchars s (by simp [hs]))
  | .more hmember _ _ hmembers, hchars => List.forall_mem_cons.2
    ⟨hmember.joined fun s hs => hchars s (by simp [hs]),
      hmembers.joined fun s hs => hchars s (by simp [hs])⟩

end

/-- A document that is read from characters has no pair left to join. -/
theorem joined_of_parse (h : parse s = .ok j) : j.Joined := by
  obtain ⟨before, p, after, hs, -, -, hwritten⟩ := parse_eq_ok_iff.1 h
  refine hwritten.joined fun x hx => ?_
  have hmem : x ∈ Text.ofString s := by
    rw [hs]
    exact List.mem_append_left _ (List.mem_append_right _ hx)
  obtain ⟨c, -, rfl⟩ := List.mem_map.1 hmem
  rfl

/-! ## Writing -/

/-- A document without a floating point number. -/
inductive FloatFree : Json → Prop
  | null : FloatFree .null
  | bool (b : Bool) : FloatFree (.bool b)
  | int (n : Int) : FloatFree (.int n)
  | text (t : Text) : FloatFree (.text t)
  | list {items : List Json} : (∀ item ∈ items, FloatFree item) → FloatFree (.list items)
  | object {entries : List (Text × Json)} : (∀ e ∈ entries, FloatFree e.2) →
      FloatFree (.object entries)

theorem writtenItems_printItems (hne : items ≠ [])
    (h : ∀ item ∈ items, Written (ofChars (printChars item)) item.paired) :
    WrittenItems (ofChars (printItems items ++ [']'])) (items.map paired) := by
  induction items with
  | nil => exact absurd rfl hne
  | cons item items ih =>
    obtain ⟨hitem, hrest⟩ := List.forall_mem_cons.1 h
    cases items with
    | nil => simpa [printItems] using WrittenItems.last hitem allBlank_nil
    | cons next items =>
      have hmore := ih (List.cons_ne_nil _ _) hrest
      simpa [printItems] using WrittenItems.more hitem allBlank_nil allBlank_space hmore

theorem writtenMember_printText (k : Text) (hv : Written (ofChars (printChars v)) v.paired) :
    WrittenMember (ofChars (printText k ++ ':' :: ' ' :: printChars v)) (k.paired, v.paired) := by
  obtain ⟨p, ps, hprint, hspells, hpaired⟩ := exists_spells_printText k
  rw [hprint, hpaired]
  simpa using WrittenMember.mk hspells allBlank_nil allBlank_space hv

theorem writtenMembers_printEntries (hne : entries ≠ [])
    (h : ∀ e ∈ entries, Written (ofChars (printChars e.2)) e.2.paired) :
    WrittenMembers (ofChars (printEntries entries ++ ['\x7d']))
      (entries.map fun e => (e.1.paired, paired e.2)) := by
  induction entries with
  | nil => exact absurd rfl hne
  | cons entry entries ih =>
    obtain ⟨k, v⟩ := entry
    obtain ⟨hv, hrest⟩ := List.forall_mem_cons.1 h
    have hmember := writtenMember_printText k hv
    cases entries with
    | nil => simpa [printEntries] using WrittenMembers.last hmember allBlank_nil
    | cons next entries =>
      have hmore := ih (List.cons_ne_nil _ _) hrest
      simpa [printEntries] using WrittenMembers.more hmember allBlank_nil allBlank_space hmore

theorem Normal.written (h : Normal j) (hfree : FloatFree j) :
    Written (ofChars (printChars j)) j.paired := by
  induction h with
  | null => exact .scalar (.word (by simp [words, printChars, paired]))
  | bool b => exact .scalar (.word (by cases b <;> simp [words, printChars, paired]))
  | int hn => exact .scalar (.number (numeral_intText hn))
  | float x => cases hfree
  | text t =>
    obtain ⟨p, ps, hprint, hspells, hpaired⟩ := exists_spells_printText t
    rw [printChars, hprint, paired, hpaired]
    simpa using Written.text hspells
  | @list items _ ih =>
    cases hfree with
    | list hitems =>
      rw [printChars, paired, pairedItems_eq_map]
      by_cases hne : items = []
      · subst hne
        exact .emptyList allBlank_nil
      · exact @Written.list [] _ _ allBlank_nil
          (writtenItems_printItems hne fun item hitem => ih item hitem (hitems item hitem))
  | @object entries _ _ ih =>
    cases hfree with
    | object hentries =>
      rw [printChars, paired, pairedEntries_eq_map]
      by_cases hne : entries = []
      · subst hne
        exact .emptyObject allBlank_nil
      · exact @Written.object [] _ _ allBlank_nil
          (writtenMembers_printEntries hne fun e he => ih e he (hentries e he))

/-- A document in normal form is written so that it is read again, with the halves in it joined. -/
theorem parse_print (h : Normal j) (hfree : FloatFree j) : parse j.print = .ok j.paired :=
  parse_eq_ok_iff.2 ⟨[], ofChars (printChars j), [], by simp [print, Text.ofString], allBlank_nil,
    allBlank_nil, h.written hfree⟩

end RequestSigning.Json
