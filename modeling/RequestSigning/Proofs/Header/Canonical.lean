import Mathlib.Data.List.Induction
import RequestSigning.Header.Custom
import RequestSigning.Header.Multimap
import RequestSigning.Proofs.Header.Multimap

/-!
# The canonical form of custom headers

Grouping keeps names in ascending order and puts the folded values of a name together in the order
of their entries. An ascending list of groups is known by what it holds under every name, so the
canonical form depends on the values of each custom name only: neither the order of different names
nor their spelling counts, and other headers do not show.
-/

namespace RequestSigning.Header

/-- No line feed is left in a folded value. -/
theorem lineFeed_not_mem_dropBreaks (cs : List Char) : '\n' ∉ dropBreaks cs := by
  fun_induction dropBreaks cs with
  | case1 rest ih => exact ih
  | case2 rest ih => exact ih
  | case3 c rest _ hc ih =>
    rw [List.mem_cons, not_or]
    exact ⟨fun h => hc h.symm, ih⟩
  | case4 => exact List.not_mem_nil

theorem lineFeed_not_mem_foldValue (s : String) : '\n' ∉ (foldValue s).toList := by
  unfold foldValue foldChars
  rw [String.toList_ofList]
  exact lineFeed_not_mem_dropBreaks _

/-! ## Groups by name -/

/-- Groups stand in strictly ascending order of names. -/
def Ascending (gs : List (String × List String)) : Prop := gs.Pairwise fun g h => g.1 < h.1

theorem mem_insertGroup {name value : String} {gs : List (String × List String)}
    {g : String × List String} (h : g ∈ insertGroup name value gs) :
    g.1 = name ∨ ∃ g' ∈ gs, g'.1 = g.1 := by
  induction gs with
  | nil =>
    rw [insertGroup, List.mem_singleton] at h
    exact Or.inl (congrArg Prod.fst h)
  | cons first rest ih =>
    obtain ⟨n, vs⟩ := first
    unfold insertGroup at h
    split at h
    · next heq =>
      rcases List.mem_cons.1 h with rfl | hr
      · exact Or.inl heq
      · exact Or.inr ⟨g, List.mem_cons_of_mem _ hr, rfl⟩
    · split at h
      · rcases List.mem_cons.1 h with rfl | hr
        · exact Or.inl rfl
        · exact Or.inr ⟨g, hr, rfl⟩
      · rcases List.mem_cons.1 h with rfl | hr
        · exact Or.inr ⟨(n, vs), List.mem_cons_self, rfl⟩
        · rcases ih hr with hn | ⟨g', hg', hn⟩
          · exact Or.inl hn
          · exact Or.inr ⟨g', List.mem_cons_of_mem _ hg', hn⟩

theorem ascending_insertGroup (name value : String) {gs : List (String × List String)}
    (h : Ascending gs) : Ascending (insertGroup name value gs) := by
  induction gs with
  | nil => exact List.pairwise_singleton _ _
  | cons first rest ih =>
    obtain ⟨n, vs⟩ := first
    obtain ⟨hn, hrest⟩ := List.pairwise_cons.1 h
    unfold insertGroup
    split
    · exact List.pairwise_cons.2 ⟨hn, hrest⟩
    · next hne =>
      split
      · next hlt =>
        refine List.pairwise_cons.2 ⟨fun g hg => ?_, h⟩
        rcases List.mem_cons.1 hg with rfl | hr
        · exact hlt
        · exact String.lt_trans hlt (hn g hr)
      · next hge =>
        have hlt : n < name :=
          Std.lt_of_le_of_ne (String.not_lt.1 hge) hne
        refine List.pairwise_cons.2 ⟨fun g hg => ?_, ih hrest⟩
        rcases mem_insertGroup hg with heq | ⟨g', hg', heq⟩
        · exact heq ▸ hlt
        · exact heq ▸ hn g' hg'

theorem lookup_cons_eq_ite (n other : String) (vs : List String)
    (gs : List (String × List String)) :
    ((n, vs) :: gs).lookup other = if other = n then some vs else gs.lookup other := by
  rw [List.lookup_cons]
  by_cases h : other = n
  · rw [if_pos h, beq_iff_eq.2 h]
  · rw [if_neg h, beq_eq_false_iff_ne.2 h]

theorem lookup_eq_none_of_lt {name : String} {gs : List (String × List String)}
    (h : ∀ g ∈ gs, name < g.1) : gs.lookup name = none := by
  rw [List.lookup_eq_none_iff]
  intro g hg
  exact bne_iff_ne.2 (String.ne_of_lt (h g hg))

/-- Inserting a value changes what stands under its name, and nothing else. -/
theorem lookup_insertGroup (name value other : String) {gs : List (String × List String)}
    (h : Ascending gs) :
    (insertGroup name value gs).lookup other =
      if other = name then some ((gs.lookup name).getD [] ++ [value]) else gs.lookup other := by
  induction gs with
  | nil => rw [insertGroup, lookup_cons_eq_ite]; rfl
  | cons first rest ih =>
    obtain ⟨n, vs⟩ := first
    obtain ⟨hn, hrest⟩ := List.pairwise_cons.1 h
    unfold insertGroup
    split
    · next heq =>
      subst heq
      by_cases ho : other = n <;> simp [lookup_cons_eq_ite, ho]
    · next hne =>
      have hne' : ¬ name = n := fun e => hne e.symm
      split
      · next hlt =>
        have habsent : rest.lookup name = none :=
          lookup_eq_none_of_lt fun g hg => String.lt_trans hlt (hn g hg)
        by_cases ho : other = name <;> simp [lookup_cons_eq_ite, ho, hne', habsent]
      · rw [lookup_cons_eq_ite, lookup_cons_eq_ite, lookup_cons_eq_ite, ih hrest, if_neg hne']
        by_cases ho : other = n
        · rw [if_pos ho, if_pos ho, if_neg (ho ▸ hne)]
        · rw [if_neg ho, if_neg ho]

theorem Ascending.mem_iff_lookup {gs : List (String × List String)} (h : Ascending gs)
    (g : String × List String) : g ∈ gs ↔ gs.lookup g.1 = some g.2 := by
  induction gs with
  | nil => simp
  | cons first rest ih =>
    obtain ⟨n, vs⟩ := first
    obtain ⟨hn, hrest⟩ := List.pairwise_cons.1 h
    rw [List.mem_cons, lookup_cons_eq_ite, ih hrest]
    by_cases hg : g.1 = n
    · have habsent : rest.lookup g.1 = none := hg ▸ lookup_eq_none_of_lt hn
      rw [if_pos hg, habsent]
      constructor
      · rintro (rfl | he)
        · rfl
        · exact absurd he (by simp)
      · intro he
        exact Or.inl (Prod.ext hg (Option.some.inj he).symm)
    · rw [if_neg hg]
      exact ⟨fun he => he.resolve_left fun e => hg (congrArg Prod.fst e), Or.inr⟩

/-- Ascending groups with the same values under every name are the same groups. -/
theorem Ascending.ext {gs hs : List (String × List String)} (hg : Ascending gs) (hh : Ascending hs)
    (h : ∀ name, gs.lookup name = hs.lookup name) : gs = hs := by
  have hnodup : ∀ {l : List (String × List String)}, Ascending l → l.Nodup := fun hl =>
    List.Pairwise.imp (fun hlt he => String.ne_of_lt hlt (congrArg Prod.fst he)) hl
  have hperm : gs.Perm hs := by
    rw [List.perm_ext_iff_of_nodup (hnodup hg) (hnodup hh)]
    intro g
    rw [hg.mem_iff_lookup, hh.mem_iff_lookup, h]
  exact hperm.eq_of_pairwise (fun _ _ _ _ hab hba => absurd hba (String.lt_asymm hab)) hg hh

/-! ## What the groups hold -/

/-- The folded values of the entries whose name in lower case is this one, in their order. -/
def foldedValues (entries : List (String × String)) (name : String) : List String :=
  (entries.filter fun e => Text.lower e.1 == name).map fun e => foldValue e.2

theorem foldedValues_concat (entries : List (String × String)) (e : String × String)
    (name : String) :
    foldedValues (entries ++ [e]) name =
      foldedValues entries name ++ if Text.lower e.1 = name then [foldValue e.2] else [] := by
  unfold foldedValues
  rw [List.filter_append, List.map_append]
  congr 1
  by_cases h : Text.lower e.1 = name <;> simp [h]

theorem foldedValues_lower (m : Multimap) (name : String) :
    foldedValues m.entries (Text.lower name) = (m.getAll name).map foldValue := by
  unfold foldedValues Multimap.getAll
  rw [List.map_map]
  rfl

/-- One entry more: it is inserted if its name starts as it should. -/
theorem groups_concat (start : String) (entries : List (String × String)) (e : String × String) :
    groups start (entries ++ [e]) =
      if startsWith (Text.lower start) (Text.lower e.1) then
        insertGroup (Text.lower e.1) (foldValue e.2) (groups start entries)
      else groups start entries := by
  unfold groups
  rw [List.foldl_append]
  rfl

theorem ascending_groups (start : String) (entries : List (String × String)) :
    Ascending (groups start entries) := by
  induction entries using List.reverseRecOn with
  | nil => exact List.Pairwise.nil
  | append_singleton entries e ih =>
    rw [groups_concat]
    split
    · exact ascending_insertGroup _ _ ih
    · exact ih

/-- Under a name that starts as it should stand the folded values of its entries, if it has any. -/
theorem lookup_groups (start : String) (entries : List (String × String)) (name : String) :
    (groups start entries).lookup name =
      if startsWith (Text.lower start) name = true ∧ foldedValues entries name ≠ [] then
        some (foldedValues entries name)
      else none := by
  induction entries using List.reverseRecOn with
  | nil => simp [groups, foldedValues]
  | append_singleton entries e ih =>
    rw [groups_concat, foldedValues_concat]
    by_cases hs : startsWith (Text.lower start) (Text.lower e.1) = true
    · rw [if_pos hs, lookup_insertGroup _ _ _ (ascending_groups start entries)]
      by_cases hn : name = Text.lower e.1
      · subst hn
        rw [if_pos rfl, ih]
        by_cases hf : foldedValues entries (Text.lower e.1) = [] <;> simp [hs, hf]
      · have hn' : ¬ Text.lower e.1 = name := fun h => hn h.symm
        rw [if_neg hn, ih, if_neg hn', List.append_nil]
    · rw [if_neg hs, ih]
      by_cases hn : Text.lower e.1 = name
      · subst hn
        simp [hs]
      · rw [if_neg hn, List.append_nil]

theorem foldedValues_eq_nil {entries : List (String × String)} {name : String}
    (h : ∀ e ∈ entries, Text.lower e.1 ≠ name) : foldedValues entries name = [] := by
  unfold foldedValues
  rw [List.map_eq_nil_iff, List.filter_eq_nil_iff]
  exact fun e he hb => h e he (beq_iff_eq.1 hb)

/-! ## The canonical form -/

/-- The canonical form is determined by the values of the custom names. -/
theorem canonicalize_congr {m m' : Multimap} {start : String}
    (h : ∀ name, startsWith (Text.lower start) (Text.lower name) = true →
      m.getAll name = m'.getAll name) :
    canonicalize m start = canonicalize m' start := by
  unfold canonicalize
  congr 1
  apply (ascending_groups _ _).ext (ascending_groups _ _)
  intro name
  rw [lookup_groups, lookup_groups]
  by_cases hs : startsWith (Text.lower start) name = true
  · -- A name that no entry has stands in neither form; else it is the lower case of the name
    -- of an entry.
    have hvalues : foldedValues m.entries name = foldedValues m'.entries name := by
      by_cases he : ∃ e ∈ m.entries ++ m'.entries, Text.lower e.1 = name
      · obtain ⟨e, _, rfl⟩ := he
        rw [foldedValues_lower, foldedValues_lower, h e.1 hs]
      · have hnone : ∀ e ∈ m.entries ++ m'.entries, Text.lower e.1 ≠ name :=
          fun e hmem heq => he ⟨e, hmem, heq⟩
        rw [foldedValues_eq_nil fun e hm => hnone e (List.mem_append_left _ hm),
          foldedValues_eq_nil fun e hm => hnone e (List.mem_append_right _ hm)]
    rw [hvalues]
  · rw [if_neg fun hc => hs hc.1, if_neg fun hc => hs hc.1]

/-- Every pair comes from an entry whose name starts as it should, and its value is folded. -/
theorem of_mem_canonicalize {m : Multimap} {start : String} {p : String × String}
    (h : p ∈ canonicalize m start) :
    (∃ e ∈ m.entries, Text.lower e.1 = p.1 ∧ startsWith (Text.lower start) p.1 = true) ∧
      p.2 = " ".intercalate (foldedValues m.entries p.1) := by
  obtain ⟨g, hg, rfl⟩ := List.mem_map.1 h
  rw [(ascending_groups _ _).mem_iff_lookup, lookup_groups] at hg
  split at hg
  · next hc =>
    obtain ⟨hs, hne⟩ := hc
    refine ⟨?_, by rw [Option.some.inj hg]⟩
    by_contra hno
    exact hne (foldedValues_eq_nil fun e he heq => hno ⟨e, he, heq, hs⟩)
  · exact absurd hg (by simp)

theorem not_mem_intercalate {x : Char} {sep : List Char} {ls : List (List Char)} (hsep : x ∉ sep)
    (h : ∀ l ∈ ls, x ∉ l) : x ∉ sep.intercalate ls := by
  induction ls with
  | nil => exact List.not_mem_nil
  | cons l rest ih =>
    have hl := h l List.mem_cons_self
    cases rest with
    | nil => rwa [List.intercalate_singleton]
    | cons k rest =>
      rw [List.intercalate_cons_cons, List.mem_append, List.mem_append, not_or, not_or]
      exact ⟨⟨hl, hsep⟩, ih fun l' hl' => h l' (List.mem_cons_of_mem _ hl')⟩

end RequestSigning.Header
