import Mathlib.Data.List.Chain
import Mathlib.Data.List.SplitBy
import RequestSigning.Proofs.Header.Canonical
import RequestSigning.Proofs.Text.LineFeeds

/-!
# Folded values, line by line

A value is folded in two passes, first its spaces and then its breaks. Neither pass looks across a
break, so a folded value is made of its lines: each but the last without a carriage return at its
end, and each with half of the spaces of every run. A break with a carriage return counts as much as
one without.
-/

namespace RequestSigning.Header

/-- A run of spaces is cut to half of it, rounded up; runs of other characters stay. -/
def halvedRun (run : List Char) : List Char :=
  if run.head? = some ' ' then List.replicate ((run.length + 1) / 2) ' ' else run

/-- A text with its runs halved, a run being as many equal characters as stand in a row. -/
def halveRuns (cs : List Char) : List Char := (cs.splitBy (· == ·)).flatMap halvedRun

/-- A line without a carriage return at its end. -/
def withoutReturn (line : List Char) : List Char :=
  if line.getLast? = some '\r' then line.dropLast else line

/-- A pair that begins neither within a text nor across its end does not begin with its first
character. -/
theorem head?_append_ne_of_pair {c first second : Char} {rest b : List Char}
    (hwithin : ∀ tail, c = first → rest = second :: tail → False)
    (hacross : (c :: rest).getLast? = some first → b.head? ≠ some second) (hc : c = first) :
    (rest ++ b).head? ≠ some second := by
  intro hhead
  subst hc
  cases rest with
  | nil => exact hacross rfl hhead
  | cons d tail =>
    obtain rfl : d = second := Option.some.inj hhead
    exact hwithin tail rfl rfl

/-! ## Spaces -/

theorem halveSpaces_cons {c : Char} {rest : List Char} (h : c = ' ' → rest.head? ≠ some ' ') :
    halveSpaces (c :: rest) = c :: halveSpaces rest := by
  rw [halveSpaces]
  rintro tail rfl rfl
  exact h rfl rfl

/-- Texts are halved one by one unless a pair of spaces lies across their ends. -/
theorem halveSpaces_append {a b : List Char} (h : a.getLast? = some ' ' → b.head? ≠ some ' ') :
    halveSpaces (a ++ b) = halveSpaces a ++ halveSpaces b := by
  fun_induction halveSpaces a with
  | case1 rest ih =>
    rw [List.cons_append, List.cons_append, halveSpaces, List.cons_append, ih]
    exact fun hlast => h (List.mem_getLast?_cons (List.mem_getLast?_cons hlast))
  | case2 c rest hpair ih =>
    rw [List.cons_append, halveSpaces_cons (head?_append_ne_of_pair hpair h), List.cons_append, ih]
    exact fun hlast => h (List.mem_getLast?_cons hlast)
  | case3 => rfl

theorem halveSpaces_replicate (n : Nat) :
    halveSpaces (List.replicate n ' ') = List.replicate ((n + 1) / 2) ' ' := by
  induction n using Nat.twoStepInduction with
  | zero => rfl
  | one => rfl
  | more n ih _ =>
    have hhalf : (n + 2 + 1) / 2 = (n + 1) / 2 + 1 := by omega
    rw [List.replicate_succ, List.replicate_succ, halveSpaces, ih, hhalf, List.replicate_succ]

theorem halveSpaces_of_not_mem {cs : List Char} (h : ' ' ∉ cs) : halveSpaces cs = cs := by
  induction cs with
  | nil => rfl
  | cons c rest ih =>
    rw [List.mem_cons, not_or] at h
    rw [halveSpaces_cons fun hc => absurd hc.symm h.1, ih h.2]

theorem halveSpaces_run {run : List Char} (h : run.IsChain (· = ·)) :
    halveSpaces run = halvedRun run := by
  cases run with
  | nil => rfl
  | cons c rest =>
    have hrun := List.isChain_eq_iff_eq_replicate.1 h c rfl
    unfold halvedRun
    rw [List.head?_cons]
    split
    · next hc =>
      obtain rfl : c = ' ' := Option.some.inj hc
      rw [hrun, halveSpaces_replicate, List.length_replicate]
    · next hc =>
      apply halveSpaces_of_not_mem
      rw [hrun]
      exact fun hmem => hc (congrArg some (List.eq_of_mem_replicate hmem).symm)

theorem halveSpaces_flatten {runs : List (List Char)} (hrun : ∀ run ∈ runs, run.IsChain (· = ·))
    (hends : runs.IsChain fun a b => ∃ ha hb, (a.getLast ha == b.head hb) = false) :
    halveSpaces runs.flatten = runs.flatMap halvedRun := by
  induction runs with
  | nil => rfl
  | cons run rest ih =>
    have hmeet : run.getLast? = some ' ' → rest.flatten.head? ≠ some ' ' := by
      intro hlast
      cases rest with
      | nil => exact fun hhead => absurd hhead (by simp)
      | cons next later =>
        obtain ⟨hrun', hnext, hne⟩ := (List.isChain_cons_cons.1 hends).1
        rw [List.getLast?_eq_some_getLast hrun', Option.some.injEq] at hlast
        rw [List.flatten_cons, List.head?_append_of_ne_nil _ hnext, List.head?_eq_some_head hnext,
          Ne, Option.some.injEq]
        exact fun hhead => beq_eq_false_iff_ne.1 hne (hlast.trans hhead.symm)
    rw [List.flatten_cons, halveSpaces_append hmeet, halveSpaces_run (hrun run List.mem_cons_self),
      ih (fun r hr => hrun r (List.mem_cons_of_mem _ hr)) hends.tail, List.flatMap_cons]

/-- Halving pairs of spaces from left to right halves the runs. -/
theorem halveSpaces_eq_halveRuns (cs : List Char) : halveSpaces cs = halveRuns cs := by
  unfold halveRuns
  rw [← halveSpaces_flatten _ (List.isChain_getLast_head_splitBy _ cs), List.flatten_splitBy]
  intro run hrun
  exact (List.isChain_of_mem_splitBy hrun).imp fun _ _ heq => beq_iff_eq.1 heq

theorem getLast?_halveSpaces (cs : List Char) : (halveSpaces cs).getLast? = cs.getLast? := by
  fun_induction halveSpaces cs with
  | case1 rest ih => rw [List.getLast?_cons, ih, List.getLast?_cons_cons, List.getLast?_cons]
  | case2 c rest _ ih => rw [List.getLast?_cons, ih, List.getLast?_cons]
  | case3 => rfl

theorem mem_of_mem_halveSpaces {c : Char} {cs : List Char} (h : c ∈ halveSpaces cs) : c ∈ cs := by
  fun_induction halveSpaces cs with
  | case1 rest ih =>
    rcases List.mem_cons.1 h with rfl | hrest
    · exact List.mem_cons_self
    · exact List.mem_cons_of_mem _ (List.mem_cons_of_mem _ (ih hrest))
  | case2 d rest _ ih =>
    rcases List.mem_cons.1 h with rfl | hrest
    · exact List.mem_cons_self
    · exact List.mem_cons_of_mem _ (ih hrest)
  | case3 => exact h

/-! ## Breaks -/

theorem dropBreaks_cons {c : Char} {rest : List Char} (hc : c ≠ '\n')
    (h : c = '\r' → rest.head? ≠ some '\n') : dropBreaks (c :: rest) = c :: dropBreaks rest := by
  rw [dropBreaks]
  · rintro tail rfl rfl
    exact h rfl rfl
  · exact hc

/-- Breaks are dropped from texts one by one unless a break lies across their ends. -/
theorem dropBreaks_append {a b : List Char} (h : a.getLast? = some '\r' → b.head? ≠ some '\n') :
    dropBreaks (a ++ b) = dropBreaks a ++ dropBreaks b := by
  fun_induction dropBreaks a with
  | case1 rest ih =>
    rw [List.cons_append, List.cons_append, dropBreaks, ih]
    exact fun hlast => h (List.mem_getLast?_cons (List.mem_getLast?_cons hlast))
  | case2 rest ih =>
    rw [List.cons_append, dropBreaks, ih]
    exact fun hlast => h (List.mem_getLast?_cons hlast)
  | case3 c rest hpair hc ih =>
    rw [List.cons_append, dropBreaks_cons hc (head?_append_ne_of_pair hpair h), List.cons_append,
      ih]
    exact fun hlast => h (List.mem_getLast?_cons hlast)
  | case4 => rfl

theorem dropBreaks_of_not_mem {cs : List Char} (h : '\n' ∉ cs) : dropBreaks cs = cs := by
  induction cs with
  | nil => rfl
  | cons c rest ih =>
    rw [List.mem_cons, not_or] at h
    rw [dropBreaks_cons (Ne.symm h.1) fun _ hhead => h.2 (List.mem_of_head? hhead), ih h.2]

theorem dropBreaks_break (a b : List Char) :
    dropBreaks (a ++ '\n' :: b) = dropBreaks (withoutReturn a) ++ dropBreaks b := by
  unfold withoutReturn
  split
  · next hlast =>
    obtain ⟨line, rfl⟩ := List.getLast?_eq_some_iff.1 hlast
    rw [List.append_assoc, List.singleton_append, List.dropLast_concat,
      dropBreaks_append fun _ => by simp, dropBreaks]
  · next hlast => rw [dropBreaks_append fun h => absurd h hlast, dropBreaks]

/-! ## Lines -/

theorem not_mem_withoutReturn {c : Char} {line : List Char} (h : c ∉ line) :
    c ∉ withoutReturn line := by
  unfold withoutReturn
  split
  · exact fun hmem => h ((List.dropLast_sublist line).mem hmem)
  · exact h

theorem withoutReturn_concat (line : List Char) : withoutReturn (line ++ ['\r']) = line := by
  unfold withoutReturn
  rw [if_pos List.getLast?_concat, List.dropLast_concat]

theorem withoutReturn_halveSpaces (line : List Char) :
    withoutReturn (halveSpaces line) = halveSpaces (withoutReturn line) := by
  unfold withoutReturn
  rw [getLast?_halveSpaces]
  split
  · next hlast =>
    obtain ⟨rest, rfl⟩ := List.getLast?_eq_some_iff.1 hlast
    have hreturn : halveSpaces ['\r'] = ['\r'] := rfl
    rw [halveSpaces_append fun _ => by decide, hreturn, List.dropLast_concat, List.dropLast_concat]
  · rfl

/-- What stands before a break is folded by itself, without a carriage return at its end. -/
theorem foldChars_break (a b : List Char) :
    foldChars (a ++ '\n' :: b) = foldChars (withoutReturn a) ++ foldChars b := by
  unfold foldChars
  rw [halveSpaces_append fun _ => by simp, halveSpaces_cons fun h => absurd h (by decide),
    dropBreaks_break, withoutReturn_halveSpaces]

theorem foldChars_line {line : List Char} (h : '\n' ∉ line) : foldChars line = halveRuns line := by
  unfold foldChars
  rw [dropBreaks_of_not_mem fun hmem => h (mem_of_mem_halveSpaces hmem), halveSpaces_eq_halveRuns]

theorem foldChars_lines {lines : List (List Char)} {last : List Char}
    (h : ∀ line ∈ lines ++ [last], '\n' ∉ line) :
    foldChars (['\n'].intercalate (lines ++ [last])) =
      (lines.map withoutReturn ++ [last]).flatMap halveRuns := by
  induction lines with
  | nil =>
    rw [List.nil_append, List.intercalate_singleton, foldChars_line (h last List.mem_cons_self)]
    exact (List.flatMap_singleton _ _).symm
  | cons line rest ih =>
    have hline : '\n' ∉ line := h line List.mem_cons_self
    have hrest : ∀ l ∈ rest ++ [last], '\n' ∉ l := fun l hl => h l (List.mem_cons_of_mem _ hl)
    obtain ⟨next, later, hnext⟩ := List.exists_cons_of_ne_nil (List.concat_ne_nil last rest)
    rw [List.cons_append, hnext, List.intercalate_cons_cons, ← hnext, List.append_assoc,
      List.singleton_append, foldChars_break, foldChars_line (not_mem_withoutReturn hline),
      ih hrest]
    rfl

/-- Breaks behind these pieces count the same with a carriage return and without. -/
theorem foldChars_breaks {pieces : List (List Char)} (h : ∀ p ∈ pieces, p.getLast? ≠ some '\r')
    (last : List Char) :
    foldChars (pieces.flatMap (· ++ ['\r', '\n']) ++ last) =
      foldChars (pieces.flatMap (· ++ ['\n']) ++ last) := by
  induction pieces with
  | nil => rfl
  | cons p rest ih =>
    have hp : withoutReturn p = p := if_neg (h p List.mem_cons_self)
    have hbare := foldChars_break p (rest.flatMap (· ++ ['\n']) ++ last)
    have hreturn := foldChars_break (p ++ ['\r']) (rest.flatMap (· ++ ['\r', '\n']) ++ last)
    rw [hp, ← ih fun q hq => h q (List.mem_cons_of_mem _ hq)] at hbare
    rw [withoutReturn_concat] at hreturn
    simpa using hreturn.trans hbare.symm

/-- A folded value has no line feed. It is its lines one after the other, each that has a break
behind it without a carriage return at its end, and all with their runs of spaces halved. So it is
the same whether the breaks behind some pieces, none with a carriage return at its end, have one
themselves or not. -/
theorem foldValue_line_by_line (value : String) :
    '\n' ∉ (foldValue value).toList ∧
    (∃ lines last, value.toList.splitOn '\n' = lines ++ [last] ∧
      (foldValue value).toList = (lines.map withoutReturn ++ [last]).flatMap halveRuns) ∧
    ∀ (pieces : List String) (last : String), (∀ p ∈ pieces, p.toList.getLast? ≠ some '\r') →
      foldValue (String.join (pieces.map (· ++ "\r\n")) ++ last) =
        foldValue (String.join (pieces.map (· ++ "\n")) ++ last) := by
  refine ⟨lineFeed_not_mem_foldValue value, ?_, fun pieces last h => ?_⟩
  · obtain ⟨lines, last, hsplit⟩ : ∃ lines last, value.toList.splitOn '\n' = lines ++ [last] := by
      have hne : value.toList.splitOn '\n' ≠ [] := by
        rw [List.splitOn_eq_splitOnP]
        exact List.splitOnP_ne_nil _ _
      exact ⟨_, _, (List.dropLast_append_getLast hne).symm⟩
    refine ⟨lines, last, hsplit, ?_⟩
    have hvalue : ['\n'].intercalate (lines ++ [last]) = value.toList :=
      hsplit ▸ List.intercalate_splitOn '\n'
    unfold foldValue
    rw [String.toList_ofList, ← hvalue]
    exact foldChars_lines fun line hline => Text.not_mem_of_mem_splitOn (hsplit ▸ hline)
  · have hjoin : ∀ b : String, (String.join (pieces.map (· ++ b)) ++ last).toList =
        (pieces.map String.toList).flatMap (· ++ b.toList) ++ last.toList := by
      intro b
      rw [String.toList_append, String.toList_join, List.flatMap_map, List.flatMap_map]
      simp only [String.toList_append]
    unfold foldValue
    rw [hjoin, hjoin]
    exact congrArg String.ofList (foldChars_breaks (List.forall_mem_map.2 h) last.toList)

/-- Breaks behind an odd run of spaces and behind an empty piece, and carriage returns that are
kept. -/
theorem foldValue_line_by_line_breaks :
    let pieces := ["a\r   ", "", "\r b  c"]
    (∀ p ∈ pieces, p.toList.getLast? ≠ some '\r') ∧
      foldValue (String.join (pieces.map (· ++ "\r\n")) ++ " d\r") =
        foldValue (String.join (pieces.map (· ++ "\n")) ++ " d\r") := by
  intro pieces
  have h : ∀ p ∈ pieces, p.toList.getLast? ≠ some '\r' := by decide
  exact ⟨h, (foldValue_line_by_line "").2.2 pieces " d\r" h⟩

example : foldValue "a\r   \r\n\n\r b  c\r\r\n d\r" = "a\r  \r b c\r d\r" := by decide +kernel

end RequestSigning.Header
