import RequestSigning.Proofs.Header.Canonical

/-!
# The names in a canonical form

A canonical form has one pair for each name in lower case that starts as custom names do and that
some header has, in ascending order. So it is known by its names and by what is joined under each of
them.
-/

namespace RequestSigning.Header

/-- The names of the canonical form. -/
def customNames (m : Multimap) (start : String) : List String := (groups start m.entries).map (·.1)

/-- The folded values under a name on one line. -/
def joinedValue (m : Multimap) (name : String) : String :=
  " ".intercalate (foldedValues m.entries name)

variable {m m' : Multimap} {start : String}

theorem ascending_customNames (m : Multimap) (start : String) :
    (customNames m start).Pairwise (· < ·) :=
  List.pairwise_map.2 (ascending_groups start m.entries)

theorem foldedValues_eq_nil_iff {entries : List (String × String)} {name : String} :
    foldedValues entries name = [] ↔ ∀ e ∈ entries, Text.lower e.1 ≠ name := by
  refine ⟨fun h e he heq => ?_, foldedValues_eq_nil⟩
  have hmem : foldValue e.2 ∈ foldedValues entries name :=
    List.mem_map_of_mem (List.mem_filter.2 ⟨he, beq_iff_eq.2 heq⟩)
  rw [h] at hmem
  exact List.not_mem_nil hmem

theorem mem_customNames_iff {name : String} :
    name ∈ customNames m start ↔
      startsWith (Text.lower start) name = true ∧ ∃ e ∈ m.entries, Text.lower e.1 = name := by
  have hlookup : name ∈ customNames m start ↔ (groups start m.entries).lookup name ≠ none := by
    rw [Ne, List.lookup_eq_none_iff, customNames, List.mem_map]
    constructor
    · rintro ⟨g, hg, rfl⟩ hnone
      exact bne_iff_ne.1 (hnone g hg) rfl
    · intro h
      by_contra hno
      exact h fun g hg => bne_iff_ne.2 fun heq => hno ⟨g, hg, heq.symm⟩
  have hentry : foldedValues m.entries name ≠ [] ↔ ∃ e ∈ m.entries, Text.lower e.1 = name := by
    rw [Ne, foldedValues_eq_nil_iff]
    simp only [not_forall, not_not, exists_prop]
  rw [hlookup, lookup_groups, ← hentry]
  split
  · next h => simp [h]
  · next h => simpa using h

theorem lower_mem_customNames_iff {name : String} :
    Text.lower name ∈ customNames m start ↔
      startsWith (Text.lower start) (Text.lower name) = true ∧ m.getAll name ≠ [] := by
  rw [mem_customNames_iff, Ne, Multimap.getAll_eq_nil_iff]
  simp only [not_forall, not_not, exists_prop]

theorem canonicalize_eq_map (m : Multimap) (start : String) :
    canonicalize m start = (customNames m start).map fun name => (name, joinedValue m name) := by
  unfold canonicalize customNames
  rw [List.map_map]
  apply List.map_congr_left
  intro g hg
  have hmem : (g.1, " ".intercalate g.2) ∈ canonicalize m start := List.mem_map_of_mem hg
  exact Prod.ext rfl (of_mem_canonicalize hmem).2

theorem canonicalize_eq_nil_iff :
    canonicalize m start = [] ↔
      ∀ e ∈ m.entries, startsWith (Text.lower start) (Text.lower e.1) = false := by
  rw [canonicalize_eq_map, List.map_eq_nil_iff, List.eq_nil_iff_forall_not_mem]
  simp only [mem_customNames_iff]
  constructor
  · intro h e he
    exact Bool.eq_false_iff.2 fun hstart => h _ ⟨hstart, e, he, rfl⟩
  · rintro h name ⟨hstart, e, he, rfl⟩
    exact Bool.eq_false_iff.1 (h e he) hstart

theorem nodup_customNames (m : Multimap) (start : String) : (customNames m start).Nodup :=
  (ascending_customNames m start).imp String.ne_of_lt

/-- Ascending names are told apart by what is among them. -/
theorem customNames_eq {names : List String} (hnames : names.Pairwise (· < ·))
    (h : ∀ name, name ∈ customNames m start ↔ name ∈ names) : customNames m start = names := by
  have hperm := (List.perm_ext_iff_of_nodup (nodup_customNames m start)
    (hnames.imp String.ne_of_lt)).2 h
  exact hperm.eq_of_pairwise (fun _ _ _ _ hab hba => absurd hba (String.lt_asymm hab))
    (ascending_customNames m start) hnames

theorem joinedValue_lower (m : Multimap) (name : String) :
    joinedValue m (Text.lower name) = " ".intercalate ((m.getAll name).map foldValue) := by
  unfold joinedValue
  rw [foldedValues_lower]

theorem lineFeed_not_mem_joinedValue (m : Multimap) (name : String) :
    '\n' ∉ (joinedValue m name).toList := by
  unfold joinedValue
  rw [String.toList_intercalate]
  apply not_mem_intercalate (by decide)
  intro l hl
  obtain ⟨s, hs, rfl⟩ := List.mem_map.1 hl
  obtain ⟨e, _, rfl⟩ := List.mem_map.1 hs
  exact lineFeed_not_mem_foldValue e.2

/-- Texts stand in the order of their code points. -/
theorem codePoints_lt {a b : String} (h : a < b) :
    a.toList.map Char.toNat < b.toList.map Char.toNat :=
  List.map_lt (fun _ _ hc => hc) h

/-- The names of a canonical form strictly ascend by code point, so none stands twice; they are the
names in lower case that start as they should, and under each stand the folded values of all entries
of that name in their order, with one space between them. -/
theorem canonicalize_exact (m : Multimap) (start : String) :
    let names := (canonicalize m start).map (·.1)
    names.Pairwise (fun a b => a.toList.map Char.toNat < b.toList.map Char.toNat) ∧ names.Nodup ∧
    (∀ name, name ∈ names ↔ ∃ e ∈ m.entries, Text.lower e.1 = name ∧
      (Text.lower start).toList <+: (Text.lower e.1).toList) ∧
    canonicalize m start = names.map fun name =>
      (name, " ".intercalate
        ((m.entries.filter fun e => Text.lower e.1 = name).map fun e => foldValue e.2)) := by
  intro names
  have hnames : names = customNames m start := by
    change (canonicalize m start).map (·.1) = _
    rw [canonicalize_eq_map, List.map_map]
    exact List.map_id _
  rw [hnames]
  refine ⟨(ascending_customNames m start).imp codePoints_lt, nodup_customNames m start,
    fun name => ?_, canonicalize_eq_map m start⟩
  rw [mem_customNames_iff]
  constructor
  · rintro ⟨hstart, e, he, rfl⟩
    exact ⟨e, he, rfl, List.isPrefixOf_iff_prefix.1 hstart⟩
  · rintro ⟨e, he, rfl, hstart⟩
    exact ⟨List.isPrefixOf_iff_prefix.2 hstart, e, he, rfl⟩

/-! ## Removing a name -/

theorem customNames_remove (m : Multimap) (name : String) :
    customNames (m.remove name) start = (customNames m start).erase (Text.lower name) := by
  apply customNames_eq ((ascending_customNames m start).sublist List.erase_sublist)
  intro other
  rw [(nodup_customNames m start).mem_erase_iff, mem_customNames_iff, mem_customNames_iff]
  have hentries : ∀ e, e ∈ (m.remove name).entries ↔
      e ∈ m.entries ∧ Text.lower e.1 ≠ Text.lower name := by
    intro e
    unfold Multimap.remove
    rw [List.mem_filter, Bool.not_eq_true', Bool.eq_false_iff, Ne, sameName_iff]
  constructor
  · rintro ⟨hs, e, he, rfl⟩
    obtain ⟨hmem, hne⟩ := (hentries e).1 he
    exact ⟨hne, hs, e, hmem, rfl⟩
  · rintro ⟨hne, hs, e, he, rfl⟩
    exact ⟨hs, e, (hentries e).2 ⟨he, hne⟩, rfl⟩

theorem joinedValue_remove {name other : String} (h : sameName name other = false) :
    joinedValue (m.remove name) (Text.lower other) = joinedValue m (Text.lower other) := by
  rw [joinedValue_lower, joinedValue_lower, Multimap.getAll_remove, h]
  rfl

end RequestSigning.Header
