import RequestSigning.Proofs.Request.LineFeeds

/-!
# The string to sign can be read back in one way only

In a request whose single-line parts are on one line and whose custom names hold no colon, no line
of the string to sign has a line feed of its own. Splitting at line feeds then gives the lines back,
and the first colon of a custom header's line ends its name.
-/

namespace RequestSigning

theorem Method.name_injective {m m' : Method} (h : m.name = m'.name) : m = m' := by
  have hm := Method.ofName?_name m
  rw [h, Method.ofName?_name] at hm
  exact (Option.some.inj hm).symm

namespace Request

/-- Content type, echoed value, date and custom names hold no line feed, and custom names no colon.
Custom values and the endpoint are not restricted. -/
structure OneLine (r : Request) : Prop where
  contentType : ∀ s, r.contentType = .text s → '\n' ∉ s.toList
  range : ∀ v, r.headers.getFirst? Header.range = some v → '\n' ∉ v.toList
  date : ∀ v, r.headers.getFirst? Header.date = some v → '\n' ∉ v.toList
  names : ∀ e ∈ r.headers.entries,
    Header.startsWith Header.customStart (Text.lower e.1) = true →
      '\n' ∉ (Text.lower e.1).toList ∧ ':' ∉ (Text.lower e.1).toList

/-! ## No line has a line feed -/

theorem OneLine.contentTypeLine {r : Request} (w : r.OneLine) :
    '\n' ∉ r.contentTypeLine.toList := by
  unfold Request.contentTypeLine
  cases h : r.contentType with
  | text s => exact w.contentType s h
  | _ => exact List.not_mem_nil

theorem OneLine.rangeLine {r : Request} (w : r.OneLine) : '\n' ∉ r.rangeLine.toList := by
  unfold Request.rangeLine
  apply Text.not_mem_lower (by decide)
  cases h : r.headers.getFirst? Header.range with
  | none => exact List.not_mem_nil
  | some v => exact w.range v h

theorem OneLine.custom {r : Request} (w : r.OneLine) {p : String × String}
    (hp : p ∈ Header.canonicalize r.headers Header.customStart) :
    '\n' ∉ p.1.toList ∧ ':' ∉ p.1.toList := by
  obtain ⟨⟨e, he, hname, hstart⟩, _⟩ := Header.of_mem_canonicalize hp
  rw [← hname]
  exact w.names e he (hname ▸ hstart)

theorem OneLine.lines {r : Request} (w : r.OneLine) {date path : String}
    (hdate : r.headers.getFirst? Header.date = some date) (hpath : r.path = .ok path) :
    ∀ l ∈ r.lines date path, '\n' ∉ l.toList := by
  refine (forall_lineFeed_not_mem_lines_iff hpath).2
    ⟨w.contentTypeLine, w.rangeLine, w.date date hdate, fun name hname => ?_⟩
  obtain ⟨hstart, e, he, rfl⟩ := Header.mem_customNames_iff.1 hname
  exact (w.names e he hstart).1

/-! ## Reading back -/

/-- Texts without line feeds between line feeds are told apart. -/
theorem intercalate_injective {ls ks : List String} (hls : ls ≠ []) (hks : ks ≠ [])
    (hl : ∀ l ∈ ls, '\n' ∉ l.toList) (hk : ∀ k ∈ ks, '\n' ∉ k.toList)
    (h : "\n".intercalate ls = "\n".intercalate ks) : ls = ks :=
  calc
    ls = Text.linesOf ("\n".intercalate ls) := ((Text.linesOf_intercalate_iff hls).2 hl).symm
    _ = Text.linesOf ("\n".intercalate ks) := congrArg Text.linesOf h
    _ = ks := (Text.linesOf_intercalate_iff hks).2 hk

/-- The first colon of a line ends the name. -/
theorem split_pairLine {p : String × String} (hp : ':' ∉ p.1.toList) :
    (pairLine p).toList.takeWhile (· ≠ ':') = p.1.toList ∧
      (pairLine p).toList.dropWhile (· ≠ ':') = ':' :: p.2.toList := by
  have hall : ∀ c ∈ p.1.toList, decide (c ≠ ':') = true :=
    fun c hc => decide_eq_true fun he => hp (he ▸ hc)
  have hline : (pairLine p).toList = p.1.toList ++ ':' :: p.2.toList := by
    unfold pairLine
    rw [String.toList_append, String.toList_append, List.append_assoc]
    rfl
  rw [hline, List.takeWhile_append_of_pos hall, List.dropWhile_append_of_pos hall]
  simp

theorem pairLine_injective {p q : String × String} (hp : ':' ∉ p.1.toList) (hq : ':' ∉ q.1.toList)
    (h : pairLine p = pairLine q) : p = q := by
  obtain ⟨hpname, hpvalue⟩ := split_pairLine hp
  obtain ⟨hqname, hqvalue⟩ := split_pairLine hq
  rw [h, hqname] at hpname
  rw [h, hqvalue] at hpvalue
  exact Prod.ext (String.toList_inj.1 hpname.symm)
    (String.toList_inj.1 (List.cons.inj hpvalue).2.symm)

theorem map_pairLine_injective {ps qs : List (String × String)} (hp : ∀ p ∈ ps, ':' ∉ p.1.toList)
    (hq : ∀ q ∈ qs, ':' ∉ q.1.toList) (h : ps.map pairLine = qs.map pairLine) : ps = qs := by
  induction ps generalizing qs with
  | nil =>
    cases qs with
    | nil => rfl
    | cons q qs => cases h
  | cons p ps ih =>
    cases qs with
    | nil => cases h
    | cons q qs =>
      rw [List.forall_mem_cons] at hp hq
      obtain ⟨hfirst, hrest⟩ := List.cons.inj h
      rw [pairLine_injective hp.1 hq.1 hfirst, ih hp.2 hq.2 hrest]

/-- Requests with one string to sign agree in everything that is signed. -/
theorem components_eq_of_stringToSign_eq {r₁ r₂ : Request} {text : String} (w₁ : r₁.OneLine)
    (w₂ : r₂.OneLine) (h₁ : r₁.stringToSign = .ok text) (h₂ : r₂.stringToSign = .ok text) :
    r₁.method = r₂.method ∧ r₁.contentTypeLine = r₂.contentTypeLine ∧ r₁.rangeLine = r₂.rangeLine ∧
      r₁.headers.getFirst? Header.date = r₂.headers.getFirst? Header.date ∧
      (∃ p₁ p₂, r₁.path = .ok p₁ ∧ r₂.path = .ok p₂ ∧ Text.lower p₁ = Text.lower p₂) ∧
      Header.canonicalize r₁.headers Header.customStart =
        Header.canonicalize r₂.headers Header.customStart := by
  obtain ⟨_, date₁, path₁, hdate₁, _, hpath₁, htext₁⟩ := stringToSign_eq_ok_iff.1 h₁
  obtain ⟨_, date₂, path₂, hdate₂, _, hpath₂, htext₂⟩ := stringToSign_eq_ok_iff.1 h₂
  have hlines : r₁.lines date₁ path₁ = r₂.lines date₂ path₂ :=
    intercalate_injective (List.cons_ne_nil _ _) (List.cons_ne_nil _ _) (w₁.lines hdate₁ hpath₁)
      (w₂.lines hdate₂ hpath₂) (htext₁.symm.trans htext₂)
  unfold lines at hlines
  simp only [List.cons.injEq] at hlines
  obtain ⟨hmethod, htype, hrange, hdate, hpath, hcustom⟩ := hlines
  refine ⟨Method.name_injective hmethod, htype, hrange, ?_, ⟨path₁, path₂, hpath₁, hpath₂, hpath⟩,
    ?_⟩
  · rw [hdate₁, hdate₂, hdate]
  · exact map_pairLine_injective (fun p hp => (w₁.custom hp).2) (fun p hp => (w₂.custom hp).2)
      hcustom

/-- Spelling, order, breaks in custom values and the rest of the endpoint are what may differ. -/
theorem components_eq_of_respelled :
    let r₁ : Request := ⟨.get, .text "http://h/Path", ⟨[("Range", "BYTES=0-1"), ("Date", "now"),
      ("X-EMC-B", "1"), ("x-emc-a", "x\r\n  y")]⟩, none⟩
    let r₂ : Request := ⟨.get, .text "/path?q", ⟨[("x-emc-a", "x y"), ("x-emc-b", "1"),
      ("range", "bytes=0-1"), ("date", "now"), ("Date", "then")]⟩, some ⟨.text ""⟩⟩
    r₁.stringToSign = .ok "GET\n\nbytes=0-1\nnow\n/path\nx-emc-a:x y\nx-emc-b:1" ∧
      r₁.rangeLine = r₂.rangeLine ∧ Header.canonicalize r₁.headers Header.customStart =
        Header.canonicalize r₂.headers Header.customStart := by
  intro r₁ r₂
  have h₁ : r₁.stringToSign = .ok "GET\n\nbytes=0-1\nnow\n/path\nx-emc-a:x y\nx-emc-b:1" :=
    stringToSign_eq_ok_iff.2
      ⟨fun h => (by cases h), "now", "/Path", rfl, by decide, rfl, by decide +kernel⟩
  have h₂ : r₂.stringToSign = .ok "GET\n\nbytes=0-1\nnow\n/path\nx-emc-a:x y\nx-emc-b:1" :=
    stringToSign_eq_ok_iff.2
      ⟨fun _ => ⟨"", rfl⟩, "now", "/path", rfl, by decide, rfl, by decide +kernel⟩
  have w₁ : r₁.OneLine := by
    refine ⟨fun s hs => (by cases hs), fun v hv => ?_, fun v hv => ?_, by decide⟩
    · obtain rfl : "BYTES=0-1" = v := Option.some.inj hv
      decide
    · obtain rfl : "now" = v := Option.some.inj hv
      decide
  have w₂ : r₂.OneLine := by
    refine ⟨fun s hs => ?_, fun v hv => ?_, fun v hv => ?_, by decide⟩
    · cases hs
      decide
    · obtain rfl : "bytes=0-1" = v := Option.some.inj hv
      decide
    · obtain rfl : "now" = v := Option.some.inj hv
      decide
  obtain ⟨_, _, hrange, _, _, hcustom⟩ := components_eq_of_stringToSign_eq w₁ w₂ h₁ h₂
  exact ⟨h₁, hrange, hcustom⟩

end Request

end RequestSigning
