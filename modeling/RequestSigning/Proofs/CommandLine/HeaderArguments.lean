import Mathlib.Data.List.Forall2
import RequestSigning.CommandLine.Invocation
import RequestSigning.Proofs.Header.Operations
import RequestSigning.Proofs.Text.Spans
import RequestSigning.Proofs.Text.Trimming

/-!
# Header arguments

An argument spells a header: the name stands before the first colon, the value behind it. Blanks
around the name and before the value belong to neither. Arguments are read one by one up to the
first that spells no header. What was read can be written as arguments again, without the blanks,
and is then read as the same headers.
-/

namespace RequestSigning.CommandLine

variable {s : String} {before behind : List Char} {header : String × String}

/-! ## One argument -/

/-- The parts of a text before and behind its first colon. -/
def SplitsAtColon (s : String) (before behind : List Char) : Prop :=
  s.toList = before ++ ':' :: behind ∧ ':' ∉ before

/-- The argument spells this header: before its first colon stands the name between blanks, behind
it the value that follows the blanks there. -/
def SpellsHeader (s : String) (header : String × String) : Prop :=
  ∃ before behind, SplitsAtColon s before behind ∧ header.1 ≠ "" ∧
    Text.BetweenBlanks before header.1.toList ∧ Text.FollowsBlanks behind header.2.toList

/-- The argument has no colon, or nothing but blanks before the first one. -/
def LacksName (s : String) : Prop :=
  ':' ∉ s.toList ∨ ∃ before behind, SplitsAtColon s before behind ∧ before.all Text.isBlank = true

/-- A header written as an argument. -/
def headerArgument (header : String × String) : String := header.1 ++ ":" ++ header.2

theorem splitsAtColon_or (s : String) :
    ':' ∉ s.toList ∨ ∃ before behind, SplitsAtColon s before behind := by
  by_cases hcolon : ':' ∈ s.toList
  · exact Or.inr (List.eq_append_cons_of_mem hcolon)
  · exact Or.inl hcolon

theorem headerOfArgument?_of_not_mem (h : ':' ∉ s.toList) : headerOfArgument? s = none := by
  have hall : s.toList.takeWhile (· ≠ ':') = s.toList :=
    List.takeWhile_eq_self_iff.2 fun c hc => decide_eq_true fun heq => h (heq ▸ hc)
  unfold headerOfArgument?
  rw [hall]
  simp

theorem headerOfArgument?_of_splits (h : SplitsAtColon s before behind) :
    headerOfArgument? s = if before.all Text.isBlank then none else
      some (String.ofList (Text.trimChars before), String.ofList (Text.trimStartChars behind)) := by
  obtain ⟨hs, hcolon⟩ := h
  have hname : s.toList.takeWhile (· ≠ ':') = before := by
    rw [hs]
    exact Text.takeWhile_append_stop (fun c hc => decide_eq_true fun heq => hcolon (heq ▸ hc))
      (by simp)
  have hshorter : before.length < s.toList.length := by
    rw [hs, List.length_append, List.length_cons]
    omega
  have hvalue : s.toList.drop (before.length + 1) = behind := by
    rw [hs, ← List.drop_drop, List.drop_left]
    rfl
  unfold headerOfArgument?
  rw [hname]
  dsimp only
  rw [hvalue]
  cases before.all Text.isBlank <;> simp [hshorter]

theorem headerOfArgument?_eq_none_iff : headerOfArgument? s = none ↔ LacksName s := by
  constructor
  · intro h
    rcases splitsAtColon_or s with hcolon | ⟨before, behind, hsplit⟩
    · exact Or.inl hcolon
    · refine Or.inr ⟨before, behind, hsplit, ?_⟩
      by_contra hblank
      rw [headerOfArgument?_of_splits hsplit, if_neg hblank] at h
      cases h
  · rintro (hcolon | ⟨before, behind, hsplit, hblank⟩)
    · exact headerOfArgument?_of_not_mem hcolon
    · rw [headerOfArgument?_of_splits hsplit, if_pos hblank]

instance : DecidablePred LacksName := fun _ => decidable_of_iff _ headerOfArgument?_eq_none_iff

theorem headerOfArgument?_eq_some_iff :
    headerOfArgument? s = some header ↔ SpellsHeader s header := by
  constructor
  · intro h
    rcases splitsAtColon_or s with hcolon | ⟨before, behind, hsplit⟩
    · rw [headerOfArgument?_of_not_mem hcolon] at h
      cases h
    · rw [headerOfArgument?_of_splits hsplit] at h
      split at h
      · cases h
      next hblank =>
        obtain rfl := Option.some.inj h
        refine ⟨before, behind, hsplit, ?_, ?_, ?_⟩
        · exact fun hempty => hblank (Text.trimChars_eq_nil_iff.1
            (String.ofList_eq_empty_iff.1 hempty))
        · rw [String.toList_ofList]
          exact Text.betweenBlanks_trimChars before
        · rw [String.toList_ofList]
          exact Text.followsBlanks_trimStartChars behind
  · rintro ⟨before, behind, hsplit, hne, hname, hvalue⟩
    have hcore : Text.trimChars before = header.1.toList := Text.trimChars_eq_iff.2 hname
    have hblank : ¬ before.all Text.isBlank = true := fun hblank =>
      hne (String.toList_eq_nil_iff.1 (hcore ▸ Text.trimChars_eq_nil_iff.2 hblank))
    rw [headerOfArgument?_of_splits hsplit, if_neg hblank, hcore,
      Text.trimStartChars_eq_iff.2 hvalue]
    simp only [String.ofList_toList]

/-- A header that is spelled is spelled without blanks too. -/
theorem spellsHeader_headerArgument (h : SpellsHeader s header) :
    SpellsHeader (headerArgument header) header := by
  obtain ⟨before, behind, ⟨-, hcolon⟩, hne, hname, hvalue⟩ := h
  have hsplit : (headerArgument header).toList = header.1.toList ++ ':' :: header.2.toList := by
    rw [headerArgument, String.toList_append, String.toList_append, List.append_assoc]
    rfl
  -- The name is a part of what stood before the first colon, so the colon behind it is the first
  -- again.
  have hfirst : ':' ∉ header.1.toList := fun hmem => hcolon (hname.subset hmem)
  exact ⟨header.1.toList, header.2.toList, ⟨hsplit, hfirst⟩, hne, hname.self, hvalue.self⟩

/-! ## All arguments -/

variable {m m' : Header.Multimap} {arguments : List String} {cause : Invalid}

/-- The headers that the arguments spell are added in their order. -/
theorem addHeaders_eq_ok_iff : addHeaders m arguments = .ok m' ↔
    ∃ headers, List.Forall₂ SpellsHeader arguments headers ∧ m'.entries = m.entries ++ headers := by
  induction arguments generalizing m with
  | nil =>
    rw [addHeaders, Except.ok.injEq]
    constructor
    · rintro rfl
      exact ⟨[], .nil, (List.append_nil _).symm⟩
    · rintro ⟨headers, hspelled, hentries⟩
      obtain rfl := List.forall₂_nil_left_iff.1 hspelled
      rw [List.append_nil] at hentries
      exact (congrArg Header.Multimap.mk hentries).symm
  | cons s rest ih =>
    rw [addHeaders]
    constructor
    · intro h
      split at h
      next name value hheader =>
        obtain ⟨headers, hspelled, hentries⟩ := ih.1 h
        have hspells : SpellsHeader s (name, value) := headerOfArgument?_eq_some_iff.1 hheader
        exact ⟨(name, value) :: headers, .cons hspells hspelled,
          hentries.trans (List.append_cons ..).symm⟩
      next => cases h
    · rintro ⟨_, hspelled, hentries⟩
      obtain ⟨header, headers, hspells, hrest, rfl⟩ := List.forall₂_cons_left_iff.1 hspelled
      rw [headerOfArgument?_eq_some_iff.2 hspells]
      exact ih.2 ⟨headers, hrest, hentries.trans (List.append_cons ..)⟩

/-- The first argument that spells no header is told. -/
theorem addHeaders_eq_error_iff : addHeaders m arguments = .error cause ↔
    ∃ s, arguments.find? (LacksName ·) = some s ∧ cause = .headerArgument s := by
  induction arguments generalizing m with
  | nil => simp [addHeaders]
  | cons s rest ih =>
    rw [addHeaders, List.find?_cons]
    cases hheader : headerOfArgument? s with
    | none =>
      rw [decide_eq_true (headerOfArgument?_eq_none_iff.1 hheader)]
      simp [eq_comm]
    | some header =>
      have hspells : ¬ LacksName s := by simp [← headerOfArgument?_eq_none_iff, hheader]
      rw [decide_eq_false hspells]
      exact ih

theorem headersOf_eq_ok_iff :
    headersOf arguments = .ok m ↔ List.Forall₂ SpellsHeader arguments m.entries := by
  rw [headersOf, addHeaders_eq_ok_iff]
  constructor
  · rintro ⟨headers, hspelled, hentries⟩
    exact hentries ▸ hspelled
  · exact fun hspelled => ⟨m.entries, hspelled, rfl⟩

theorem exists_headersOf_eq_error_iff :
    (∃ cause, headersOf arguments = .error cause) ↔ ∃ s ∈ arguments, LacksName s := by
  constructor
  · rintro ⟨cause, h⟩
    obtain ⟨s, hfirst, -⟩ := addHeaders_eq_error_iff.1 h
    exact ⟨s, List.mem_of_find?_eq_some hfirst, by simpa using List.find?_some hfirst⟩
  · rintro ⟨s, hs, hlacks⟩
    have hsome : (arguments.find? (LacksName ·)).isSome = true :=
      List.find?_isSome.2 ⟨s, hs, decide_eq_true hlacks⟩
    obtain ⟨first, hfirst⟩ := Option.isSome_iff_exists.1 hsome
    exact ⟨_, addHeaders_eq_error_iff.2 ⟨first, hfirst, rfl⟩⟩

variable {headers : List (String × String)}

theorem filterMap_headerOfArgument? (h : List.Forall₂ SpellsHeader arguments headers) :
    arguments.filterMap headerOfArgument? = headers := by
  induction h with
  | nil => rfl
  | cons hheader _ ih => rw [List.filterMap_cons_some (headerOfArgument?_eq_some_iff.2 hheader), ih]

theorem exists_spellsHeader (h : List.Forall₂ SpellsHeader arguments headers) :
    ∀ header ∈ headers, ∃ s, SpellsHeader s header := by
  induction h with
  | nil => exact fun _ hmem => absurd hmem List.not_mem_nil
  | cons hheader _ ih => exact List.forall_mem_cons.2 ⟨⟨_, hheader⟩, ih⟩

theorem named_of_headersOf (h : headersOf arguments = .ok m) : m.Named := fun header hmem =>
  let ⟨_, _, _, _, hne, _⟩ := exists_spellsHeader (headersOf_eq_ok_iff.1 h) header hmem
  hne

/-- Headers that were read are read again as they are. -/
theorem headersOf_headerArgument (h : headersOf arguments = .ok m) :
    headersOf (m.entries.map headerArgument) = .ok m := by
  rw [headersOf_eq_ok_iff, List.forall₂_map_left_iff, List.forall₂_same]
  intro header hmem
  obtain ⟨s, hspells⟩ := exists_spellsHeader (headersOf_eq_ok_iff.1 h) header hmem
  exact spellsHeader_headerArgument hspells

/-- Header arguments are refused exactly if one of them has no name before a colon. Else every
argument gives the header that it spells, in order; each of them is one that a multimap takes, and
written as arguments they are read as the same multimap. -/
theorem headers_read_as_spelled (arguments : List String) :
    ((∃ cause, headersOf arguments = .error cause) ↔ ∃ s ∈ arguments, LacksName s) ∧
      (∀ m, headersOf arguments = .ok m ↔ List.Forall₂ SpellsHeader arguments m.entries) ∧
      ∀ m, headersOf arguments = .ok m →
        m.copy = .ok m ∧ headersOf (m.entries.map headerArgument) = .ok m := by
  refine ⟨exists_headersOf_eq_error_iff, fun m => headersOf_eq_ok_iff, fun m h => ⟨?_, ?_⟩⟩
  · exact Header.Multimap.copy_eq (named_of_headersOf h)
  · exact headersOf_headerArgument h

/-- Blanks around a name, colons and blanks in a value, and an empty value. -/
theorem headers_read_as_spelled_over_colons :
    headersOf ["\tX-Emc-Meta :  a:b ", "range:"] = .ok ⟨[("X-Emc-Meta", "a:b "), ("range", "")]⟩ ∧
      headersOf ["X-Emc-Meta:a:b ", "range:"] = .ok ⟨[("X-Emc-Meta", "a:b "), ("range", "")]⟩ ∧
      ∃ cause, headersOf ["range:", " :a"] = .error cause := by
  have hread : headersOf ["\tX-Emc-Meta :  a:b ", "range:"] =
      .ok ⟨[("X-Emc-Meta", "a:b "), ("range", "")]⟩ := by decide +kernel
  have hlacks : LacksName " :a" := by decide +kernel
  refine ⟨hread, ((headers_read_as_spelled _).2.2 _ hread).2, ?_⟩
  exact (headers_read_as_spelled _).1.2 ⟨" :a", by simp, hlacks⟩

end RequestSigning.CommandLine
