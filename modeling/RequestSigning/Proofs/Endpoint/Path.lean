import RequestSigning.Endpoint.Path

/-!
# Characters of a path

A path is made of characters of its endpoint, and tabs and line breaks are gone before anything is
split off.
-/

namespace RequestSigning.Endpoint

theorem lineFeed_not_mem_clean (cs : List Char) : '\n' ∉ clean cs := by
  unfold clean
  rw [List.mem_filter]
  rintro ⟨_, h⟩
  exact absurd h (by decide)

theorem mem_of_mem_afterScheme {c : Char} {cs : List Char} (h : c ∈ afterScheme cs) : c ∈ cs := by
  unfold afterScheme at h
  split at h
  · exact h
  · next rest heq =>
    dsimp only at h
    split at h
    · have hdrop : c ∈ cs.dropWhile (· ≠ ':') := heq ▸ List.mem_cons_of_mem _ h
      exact (List.dropWhile_sublist _).mem hdrop
    · exact h

theorem mem_of_mem_splitHost {c : Char} {cs : List Char} (h : c ∈ (splitHost cs).2) : c ∈ cs := by
  unfold splitHost at h
  split at h
  · next rest =>
    exact List.mem_cons_of_mem _ (List.mem_cons_of_mem _ ((List.dropWhile_sublist _).mem h))
  · exact h

theorem mem_of_mem_beforeQuery {c : Char} {cs : List Char} (h : c ∈ beforeQuery cs) : c ∈ cs :=
  (List.takeWhile_sublist _).mem ((List.takeWhile_sublist _).mem h)

theorem mem_clean_of_mem_pathChars {cs path : List Char} (h : pathChars cs = .ok path) {c : Char}
    (hc : c ∈ path) : c ∈ clean cs := by
  unfold pathChars at h
  dsimp only at h
  split at h
  · cases h
  · split at h
    · cases h
    · obtain rfl := Except.ok.inj h
      exact mem_of_mem_afterScheme (mem_of_mem_splitHost (mem_of_mem_beforeQuery hc))

/-- A path has no line feed, whatever the endpoint. -/
theorem lineFeed_not_mem_path {endpoint p : String} (h : path endpoint = .ok p) :
    '\n' ∉ p.toList := by
  unfold path at h
  cases hp : pathChars endpoint.toList with
  | error e =>
    rw [hp] at h
    cases h
  | ok cs =>
    rw [hp] at h
    obtain rfl := Except.ok.inj h
    rw [String.toList_ofList]
    exact fun hc => lineFeed_not_mem_clean _ (mem_clean_of_mem_pathChars hp hc)

end RequestSigning.Endpoint
