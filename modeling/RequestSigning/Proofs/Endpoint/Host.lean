import RequestSigning.Proofs.Endpoint.Query
import RequestSigning.Proofs.Text.Lowering

/-!
# Endpoints with and without a host

An absolute path behind a scheme and a host is the path of the whole, whatever it holds. On its own
it is its path as well, unless it starts with two slashes once tabs and line breaks are gone: then
what stands up to the next slash is read as a host, and the path is shorter than what was written.
-/

namespace RequestSigning.Endpoint

open Text (takeWhile_append_cons dropWhile_append_cons)

/-! ## Plain characters -/

theorem visible_of_isSchemeChar {c : Char} (h : isSchemeChar c = true) :
    0x20 < c.toNat ∧ c.toNat < 0x80 := by
  unfold isSchemeChar Char.isAlphanum Char.isAlpha Char.isUpper Char.isLower Char.isDigit at h
  simp only [Bool.or_eq_true, Bool.and_eq_true, decide_eq_true_eq, ge_iff_le,
    UInt32.le_iff_toNat_le] at h
  rcases h with ((halnum | rfl) | rfl) | rfl
  · change ((65 ≤ c.toNat ∧ c.toNat ≤ 90) ∨ (97 ≤ c.toNat ∧ c.toNat ≤ 122)) ∨
      (48 ≤ c.toNat ∧ c.toNat ≤ 57) at halnum
    omega
  all_goals decide

theorem ne_of_isSchemeChar {c x : Char} (h : isSchemeChar c = true) (hx : isSchemeChar x = false) :
    c ≠ x := by
  rintro rfl
  rw [h] at hx
  cases hx

theorem withoutBreaks_append (cs cs' : List Char) :
    withoutBreaks (cs ++ cs') = withoutBreaks cs ++ withoutBreaks cs' := List.filter_append ..

theorem withoutBreaks_eq_self {cs : List Char} (h : ∀ c ∈ cs, 0x20 < c.toNat) :
    withoutBreaks cs = cs := by
  unfold withoutBreaks
  rw [List.filter_eq_self]
  intro c hc
  have hlt := h c hc
  have hne : ∀ x : Char, x.toNat ≤ 0x20 → c ≠ x := by
    rintro x hx rfl
    exact absurd hlt (Nat.not_lt.2 hx)
  simp [hne '\t' (by decide), hne '\r' (by decide), hne '\n' (by decide)]

/-- Before a character that is no control and no space nothing is dropped at the start. -/
theorem clean_cons {c : Char} (hc : 0x20 < c.toNat) (cs : List Char) :
    clean (c :: cs) = withoutBreaks (c :: cs) := by
  rw [clean_eq, List.dropWhile_cons_of_neg]
  rw [decide_eq_true_eq]
  exact Nat.not_le.2 hc

theorem beforeQuery_eq_self {cs : List Char} (hquery : '?' ∉ cs) (hfragment : '#' ∉ cs) :
    beforeQuery cs = cs := by
  unfold beforeQuery
  rw [List.takeWhile_eq_self_iff.2 (decide_ne_of_not_mem hfragment),
    List.takeWhile_eq_self_iff.2 (decide_ne_of_not_mem hquery)]

theorem not_mem_withoutBreaks {x : Char} {cs : List Char} (h : x ∉ cs) : x ∉ withoutBreaks cs :=
  fun hx => h (List.filter_sublist.mem hx)

/-! ## The parts of an endpoint -/

theorem checkBrackets_of_not_mem {netloc : List Char} (hopen : '[' ∉ netloc)
    (hclose : ']' ∉ netloc) :
    checkBrackets netloc = .ok () := by
  unfold checkBrackets
  simp [hopen, hclose]

theorem checkStable_of_ascii {netloc : List Char} (h : ∀ c ∈ netloc, c.toNat < 0x80) :
    checkStable netloc = .ok () := by
  have hunstable : ∀ n ∈ unstableChars, 0x80 ≤ n := by decide
  unfold checkStable
  rw [if_neg]
  rw [List.any_eq_true]
  rintro ⟨c, hc, hmem⟩
  exact absurd (h c hc) (Nat.not_lt.2 (hunstable c.toNat (List.contains_iff_mem.1 hmem)))

/-- A host of letters, digits and the marks of a scheme passes all checks. -/
theorem pathChars_of_split {cs netloc rest : List Char}
    (hsplit : splitHost (afterScheme (clean cs)) = (netloc, rest))
    (hplain : ∀ c ∈ netloc, isSchemeChar c = true) : pathChars cs = .ok (beforeQuery rest) := by
  have hnot : ∀ x, isSchemeChar x = false → x ∉ netloc := fun x hx hmem =>
    ne_of_isSchemeChar (hplain x hmem) hx rfl
  unfold pathChars
  rw [hsplit]
  dsimp only
  rw [checkBrackets_of_not_mem (hnot '[' (by decide)) (hnot ']' (by decide)),
    checkStable_of_ascii fun c hc => (visible_of_isSchemeChar (hplain c hc)).2]

theorem isSchemeChar_of_isScheme {scheme : List Char} (h : isScheme scheme = true) :
    ∀ c ∈ scheme, isSchemeChar c = true :=
  List.all_eq_true.1 (Bool.and_eq_true_iff.1 h).2

theorem clean_of_scheme {scheme : List Char} (h : isScheme scheme = true) (rest : List Char) :
    clean (scheme ++ rest) = scheme ++ withoutBreaks rest := by
  have hvisible : ∀ c ∈ scheme, 0x20 < c.toNat := fun c hc =>
    (visible_of_isSchemeChar (isSchemeChar_of_isScheme h c hc)).1
  have hkept := withoutBreaks_append scheme rest
  rw [withoutBreaks_eq_self hvisible] at hkept
  cases scheme with
  | nil => cases h
  | cons c scheme =>
    rw [← hkept]
    exact clean_cons (hvisible c List.mem_cons_self) _

theorem withoutBreaks_of_host {host : List Char} (h : ∀ c ∈ host, isSchemeChar c = true)
    (rest : List Char) :
    withoutBreaks (':' :: '/' :: '/' :: (host ++ rest)) =
      ':' :: '/' :: '/' :: (host ++ withoutBreaks rest) := by
  have hmarks : withoutBreaks [':', '/', '/'] = [':', '/', '/'] := by decide
  have hhost : withoutBreaks host = host :=
    withoutBreaks_eq_self fun c hc => (visible_of_isSchemeChar (h c hc)).1
  change withoutBreaks ([':', '/', '/'] ++ (host ++ rest)) = [':', '/', '/'] ++
    (host ++ withoutBreaks rest)
  rw [withoutBreaks_append, withoutBreaks_append, hmarks, hhost]

/-- A host ends where the path behind it starts. -/
theorem splitHost_of_host {host : List Char} (h : ∀ c ∈ host, isSchemeChar c = true)
    (rest : List Char) : splitHost ('/' :: '/' :: (host ++ '/' :: rest)) = (host, '/' :: rest) := by
  have hinside : ∀ c ∈ host, (!endsHost c) = true := by
    intro c hc
    have hne := fun x => ne_of_isSchemeChar (x := x) (h c hc)
    simp [endsHost, hne '/' (by decide), hne '?' (by decide), hne '#' (by decide)]
  rw [splitHost_of_slashes, takeWhile_append_cons (by decide), dropWhile_append_cons (by decide),
    List.takeWhile_eq_self_iff.2 hinside, List.dropWhile_eq_nil_iff.2 hinside, List.nil_append]

/-! ## Absolute paths -/

variable {p : List Char}

theorem withoutBreaks_of_slash (h : p.head? = some '/') :
    ∃ rest, withoutBreaks p = '/' :: rest ∧ clean p = '/' :: rest := by
  obtain ⟨rest, rfl⟩ := List.head?_eq_some_iff.1 h
  have hkept : withoutBreaks ('/' :: rest) = '/' :: withoutBreaks rest :=
    List.filter_cons_of_pos (by decide)
  exact ⟨withoutBreaks rest, hkept, (clean_cons (by decide) rest).trans hkept⟩

/-- The path behind a scheme and a host is kept but for tabs and line breaks. -/
theorem pathChars_of_host {scheme host : List Char} (hscheme : isScheme scheme = true)
    (hhost : ∀ c ∈ host, isSchemeChar c = true) (hslash : p.head? = some '/') (hquery : '?' ∉ p)
    (hfragment : '#' ∉ p) :
    pathChars (scheme ++ ':' :: '/' :: '/' :: (host ++ p)) = .ok (withoutBreaks p) := by
  have hcolon : ':' ∉ scheme := fun hmem =>
    ne_of_isSchemeChar (isSchemeChar_of_isScheme hscheme _ hmem) (by decide) rfl
  have hsplit : splitHost (afterScheme (clean (scheme ++ ':' :: '/' :: '/' :: (host ++ p)))) =
      (host, withoutBreaks p) := by
    rw [clean_of_scheme hscheme, withoutBreaks_of_host hhost, afterScheme_of_colon hcolon,
      if_pos hscheme]
    obtain ⟨rest, hrest, -⟩ := withoutBreaks_of_slash hslash
    rw [hrest, splitHost_of_host hhost]
  rw [pathChars_of_split hsplit hhost,
    beforeQuery_eq_self (not_mem_withoutBreaks hquery) (not_mem_withoutBreaks hfragment)]

/-- An absolute path has no scheme. -/
theorem afterScheme_clean_of_slash (h : p.head? = some '/') :
    afterScheme (clean p) = withoutBreaks p := by
  obtain ⟨rest, hrest, hclean⟩ := withoutBreaks_of_slash h
  rw [hrest, hclean]
  by_cases hcolon : ':' ∈ '/' :: rest
  · obtain ⟨front, back, hsplit, hno⟩ := List.eq_append_cons_of_mem hcolon
    rw [hsplit]
    apply afterScheme_of_not_isScheme hno
    cases front with
    | nil => rfl
    | cons c front =>
      obtain rfl : '/' = c := (List.cons.inj hsplit).1
      exact isScheme_eq_false List.mem_cons_self (by decide)
  · exact afterScheme_of_no_colon hcolon

/-- Without two slashes at its start an absolute path is kept but for tabs and line breaks. -/
theorem pathChars_of_no_slashes (hslash : p.head? = some '/') (hquery : '?' ∉ p)
    (hfragment : '#' ∉ p) (hno : ¬ ['/', '/'] <+: withoutBreaks p) :
    pathChars p = .ok (withoutBreaks p) := by
  have hsplit : splitHost (afterScheme (clean p)) = ([], withoutBreaks p) := by
    rw [afterScheme_clean_of_slash hslash, splitHost_of_no_slashes hno]
  rw [pathChars_of_split hsplit fun c hc => absurd hc List.not_mem_nil,
    beforeQuery_eq_self (not_mem_withoutBreaks hquery) (not_mem_withoutBreaks hfragment)]

/-- With two slashes at its start an absolute path loses them and the host behind them, if that is
one. -/
theorem withoutBreaks_eq_of_slashes (hslash : p.head? = some '/') (hquery : '?' ∉ p)
    (hfragment : '#' ∉ p) (hslashes : ['/', '/'] <+: withoutBreaks p) {path : List Char}
    (h : pathChars p = .ok path) : ∃ host, withoutBreaks p = '/' :: '/' :: host ++ path := by
  obtain ⟨rest, hrest⟩ := hslashes
  have hsplit : splitHost (afterScheme (clean p)) =
      (rest.takeWhile (!endsHost ·), rest.dropWhile (!endsHost ·)) := by
    rw [afterScheme_clean_of_slash hslash, ← hrest]
    exact splitHost_of_slashes rest
  have hpath : path = rest.dropWhile (!endsHost ·) := by
    have hmem : ∀ x, x ∉ p → x ∉ rest.dropWhile (!endsHost ·) := by
      intro x hx hdrop
      apply not_mem_withoutBreaks hx
      rw [← hrest]
      exact List.mem_append_right _ ((List.dropWhile_sublist _).mem hdrop)
    unfold pathChars at h
    rw [hsplit] at h
    dsimp only at h
    rw [beforeQuery_eq_self (hmem '?' hquery) (hmem '#' hfragment)] at h
    split at h
    · cases h
    · split at h
      · cases h
      · exact (Except.ok.inj h).symm
  refine ⟨rest.takeWhile (!endsHost ·), ?_⟩
  rw [hpath, List.cons_append, List.cons_append, List.takeWhile_append_dropWhile]
  exact hrest.symm

/-! ## Paths as texts -/

theorem path_of_host {scheme host p : String} (hscheme : isScheme scheme.toList = true)
    (hhost : ∀ c ∈ host.toList, isSchemeChar c = true) (hslash : p.toList.head? = some '/')
    (hquery : '?' ∉ p.toList) (hfragment : '#' ∉ p.toList) :
    path (scheme ++ "://" ++ host ++ p) = .ok (String.ofList (withoutBreaks p.toList)) := by
  have hchars : (scheme ++ "://" ++ host ++ p).toList =
      scheme.toList ++ ':' :: '/' :: '/' :: (host.toList ++ p.toList) := by
    simp
  unfold path
  rw [hchars, pathChars_of_host hscheme hhost hslash hquery hfragment]
  rfl

theorem path_of_no_slashes {p : String} (hslash : p.toList.head? = some '/')
    (hquery : '?' ∉ p.toList) (hfragment : '#' ∉ p.toList)
    (hno : ¬ ['/', '/'] <+: withoutBreaks p.toList) :
    path p = .ok (String.ofList (withoutBreaks p.toList)) := by
  unfold path
  rw [pathChars_of_no_slashes hslash hquery hfragment hno]
  rfl

/-- A host that is read out of an absolute path is missing in its path, in lower case as well. -/
theorem lower_ne_of_slashes {p path : String} (hslash : p.toList.head? = some '/')
    (hquery : '?' ∉ p.toList) (hfragment : '#' ∉ p.toList)
    (hslashes : ['/', '/'] <+: withoutBreaks p.toList) (h : Endpoint.path p = .ok path) :
    Text.lower (String.ofList (withoutBreaks p.toList)) ≠ Text.lower path := by
  unfold Endpoint.path at h
  cases hchars : pathChars p.toList with
  | error e =>
    rw [hchars] at h
    cases h
  | ok rest =>
    rw [hchars] at h
    obtain rfl := Except.ok.inj h
    obtain ⟨host, hhost⟩ := withoutBreaks_eq_of_slashes hslash hquery hfragment hslashes hchars
    intro hlower
    have hlength := congrArg (fun s : String => s.toList.length) hlower
    have htwo : (Text.lowerChars ['/', '/']).length = 2 := by decide
    have hsplit : '/' :: '/' :: host ++ rest = ['/', '/'] ++ (host ++ rest) := rfl
    simp only [Text.toList_lower, String.toList_ofList, hhost, hsplit,
      Text.length_lowerChars_append] at hlength
    omega

end RequestSigning.Endpoint
