import RequestSigning.Proofs.Endpoint.Host
import RequestSigning.Proofs.Request.Agreement
import RequestSigning.Proofs.Request.Recording

/-!
# Requests at different endpoints

Of an endpoint nothing but its path is signed, in lower case. So requests that differ in their
endpoints only have one string to sign, or fail alike, where their paths are the same: a query or
fragment makes no difference. A host in front of an absolute path makes none either, as long as the
path does not look as if it had a host of its own.
-/

namespace RequestSigning.Request

/-- The request with another endpoint. -/
def withEndpoint (r : Request) (endpoint : String) : Request :=
  { r with endpoint := .text endpoint }

variable {r : Request} {e e' : String}

/-- A request is made at any endpoint as it is made at the root. -/
theorem make_text (he : e ≠ "") (method : Value) (headers : HeadersGiven)
    (payload : Option Payload) :
    make method (.text e) headers payload =
      (make method (.text "/") headers payload).map (·.withEndpoint e) := by
  have hgiven : (Data.text e : Value).isGiven = true := bne_iff_ne.2 he
  have hroot : (Data.text "/" : Value).isGiven = true := by decide
  unfold make
  rw [hgiven, hroot]
  cases Method.ofAnyCase? method.shown with
  | none => rfl
  | some m => cases readHeaders headers <;> rfl

theorem path_of_endpoint (h : r.endpoint = .text e) :
    r.path = (Endpoint.path e).mapError fun fault => .invalid (.endpoint fault) := by
  unfold path
  rw [h]
  dsimp only
  cases Endpoint.path e <;> rfl

theorem path_withEndpoint_eq_ok_iff {path : String} :
    (r.withEndpoint e).path = .ok path ↔ Endpoint.path e = .ok path := by
  rw [path_of_endpoint rfl]
  cases Endpoint.path e <;> simp [Except.mapError]

theorem stringToSign_withEndpoint_congr
    (h : (Endpoint.path e).map Text.lower = (Endpoint.path e').map Text.lower) :
    (r.withEndpoint e).stringToSign = (r.withEndpoint e').stringToSign := by
  have hmap : ∀ e, (r.withEndpoint e).path.map Text.lower =
      ((Endpoint.path e).map Text.lower).mapError fun fault => .invalid (.endpoint fault) := by
    intro e
    rw [path_of_endpoint rfl]
    cases Endpoint.path e <;> rfl
  have hpath : (r.withEndpoint e).path.map Text.lower =
      (r.withEndpoint e').path.map Text.lower := by
    rw [hmap, hmap, h]
  exact stringToSign_congr ⟨rfl, rfl, hpath, rfl, fun _ => rfl, fun _ _ _ => rfl⟩

/-- The line of the path can be told from the whole text when the other lines are known. -/
theorem lower_eq_of_intercalate_eq {date path path' : String}
    (h : "\n".intercalate (r.lines date path) = "\n".intercalate (r.lines date path')) :
    Text.lower path = Text.lower path' := by
  have hne : ∀ path, r.lines date path ≠ [] := fun _ => List.cons_ne_nil _ _
  have hends := (String.append_left_inj "\n").2 h
  rw [intercalate_append_end (hne path), intercalate_append_end (hne path')] at hends
  simpa only [lines, List.map_cons, String.join_cons, String.append_right_inj,
    String.append_left_inj]
    using hends

/-- Where there is anything to sign, an endpoint is signed as another one exactly if that has a path
too, the same in lower case. -/
theorem stringToSign_withEndpoint_eq_iff (hcontent : r.HasTextContentType) (hdate : r.HasDate)
    {path : String} (hpath : Endpoint.path e = .ok path) :
    (r.withEndpoint e).stringToSign = (r.withEndpoint e').stringToSign ↔
      ∃ path', Endpoint.path e' = .ok path' ∧ Text.lower path = Text.lower path' := by
  obtain ⟨date, hfirst, hne⟩ := hasDate_iff.1 hdate
  have htext : (r.withEndpoint e).stringToSign = .ok ("\n".intercalate (r.lines date path)) :=
    stringToSign_eq_ok_iff.2
      ⟨hcontent, date, path, hfirst, hne, path_withEndpoint_eq_ok_iff.2 hpath, rfl⟩
  constructor
  · intro h
    obtain ⟨-, date', path', hfirst', -, hpath', hlines⟩ := stringToSign_eq_ok_iff.1 (h ▸ htext)
    obtain rfl : date = date' := Option.some.inj (hfirst.symm.trans hfirst')
    exact ⟨path', path_withEndpoint_eq_ok_iff.1 hpath', lower_eq_of_intercalate_eq (r := r) hlines⟩
  · rintro ⟨path', hpath', hlower⟩
    apply stringToSign_withEndpoint_congr
    rw [hpath, hpath']
    exact congrArg Except.ok hlower

/-- A request whose content type cannot be read, or that has no date, is refused before its endpoint
is looked at. -/
theorem stringToSign_withEndpoint_of_unready (h : ¬ (r.HasTextContentType ∧ r.HasDate)) :
    (r.withEndpoint e).stringToSign = (r.withEndpoint e').stringToSign := by
  by_cases hcontent : r.HasTextContentType
  · have hdate : ¬ r.HasDate := fun hdate => h ⟨hcontent, hdate⟩
    rw [stringToSign_of_not_hasDate (r := r.withEndpoint e) hcontent hdate,
      stringToSign_of_not_hasDate (r := r.withEndpoint e') hcontent hdate]
  · have hsegments : ∀ e, (r.withEndpoint e).contentTypeSegment = r.contentTypeSegment :=
      fun _ => rfl
    unfold stringToSign
    rw [hsegments, hsegments]
    cases hsegment : r.contentTypeSegment with
    | error _ => rfl
    | ok _ => exact absurd (contentTypeSegment_eq_ok_iff.1 hsegment).1 hcontent

theorem bind_stringToSign_eq_ok {made : Except Error Request} {text : String} (hmade : made = .ok r)
    (htext : r.stringToSign = .ok text) : (made >>= stringToSign) = .ok text := by
  rw [hmade]
  exact htext

/-! ## Query and fragment -/

/-- A mark that ends the path, and all that stands behind it, has no part in what is signed or in
what is wrong with the endpoint. -/
theorem query_not_signed (he : e ≠ "") {d : Char} (hd : d = '?' ∨ d = '#') (q : String)
    (method : Value) (headers : HeadersGiven) (payload : Option Payload) :
    (make method (.text (e ++ String.singleton d ++ q)) headers payload >>= stringToSign) =
      (make method (.text e) headers payload >>= stringToSign) := by
  have hpath : Endpoint.path (e ++ String.singleton d ++ q) = Endpoint.path e := by
    have hchars : (e ++ String.singleton d ++ q).toList = e.toList ++ d :: q.toList := by
      simp
    unfold Endpoint.path
    rw [hchars, Endpoint.pathChars_append_mark hd]
  have hlong : e ++ String.singleton d ++ q ≠ "" := by
    simp
  rw [make_text hlong, make_text he]
  cases make method (.text "/") headers payload with
  | error _ => rfl
  | ok r => exact stringToSign_withEndpoint_congr (congrArg _ hpath)

/-- A query that looks like a scheme, a host and an open bracket, behind a host in brackets. -/
theorem query_not_signed_behind_brackets :
    let e := "http://[::1]:80/A"
    let headers : HeadersGiven := .multimap ⟨[("Date", "d")]⟩
    e ≠ "" ∧ ('?' = '?' ∨ '?' = '#') ∧
      (make (.text "get") (.text (e ++ String.singleton '?' ++ "b://[c#\t?")) headers none >>=
        stringToSign) =
        (make (.text "get") (.text e) headers none >>= stringToSign) ∧
      (make (.text "get") (.text e) headers none >>= stringToSign) = .ok "GET\n\n\nd\n/a" := by
  intro e headers
  have he : e ≠ "" := by decide
  let r : Request := ⟨.get, .text e, ⟨[("Date", "d")]⟩, none⟩
  have hmake : make (.text "get") (.text e) headers none = .ok r := by rfl
  have htext : r.stringToSign = .ok "GET\n\n\nd\n/a" :=
    stringToSign_eq_ok_iff.2
      ⟨fun h => absurd h (by decide), "d", "/A", rfl,
       by decide, by decide +kernel, by decide +kernel⟩
  exact ⟨he, Or.inl rfl, query_not_signed he (Or.inl rfl) _ _ _ _,
    bind_stringToSign_eq_ok hmake htext⟩

/-! ## Absolute paths and URLs -/

/-- An absolute path behind a scheme and a host is signed as it is written, without tabs and line
breaks. On its own it is signed alike exactly if, so written, it does not start with two slashes,
and otherwise never when there is anything to sign. -/
theorem url_signed_as_path_iff {scheme host p : String}
    (hscheme : scheme = "http" ∨ scheme = "https")
    (hhost : ∀ c ∈ host.toList, c.isAlphanum = true ∨ c = '.' ∨ c = '-')
    (hslash : p.toList.head? = some '/') (hquery : '?' ∉ p.toList) (hfragment : '#' ∉ p.toList)
    (method : Value) (headers : HeadersGiven) (payload : Option Payload) :
    Endpoint.path (scheme ++ "://" ++ host ++ p) =
      .ok (String.ofList (Endpoint.withoutBreaks p.toList)) ∧
    ((make method (.text (scheme ++ "://" ++ host ++ p)) headers payload >>= stringToSign) =
        (make method (.text p) headers payload >>= stringToSign) ↔
      ∀ r, make method (.text p) headers payload = .ok r → r.HasTextContentType → r.HasDate →
        ¬ ['/', '/'] <+: Endpoint.withoutBreaks p.toList) := by
  have hscheme' : Endpoint.isScheme scheme.toList = true := by
    rcases hscheme with rfl | rfl <;> decide
  have hhost' : ∀ c ∈ host.toList, Endpoint.isSchemeChar c = true := by
    intro c hc
    unfold Endpoint.isSchemeChar
    rcases hhost c hc with h | rfl | rfl
    · simp [h]
    all_goals decide
  have hurl := Endpoint.path_of_host hscheme' hhost' hslash hquery hfragment
  refine ⟨hurl, ?_⟩
  have hlong : scheme ++ "://" ++ host ++ p ≠ "" := by
    simp
  have hp : p ≠ "" := by
    rintro rfl
    cases hslash
  rw [make_text hlong, make_text hp]
  cases make method (.text "/") headers payload with
  | error _ => exact iff_of_true rfl fun r hr => by cases hr
  | ok r =>
    have hmade : (∀ r', (Except.ok (r.withEndpoint p) : Except Error Request) = .ok r' →
        r'.HasTextContentType → r'.HasDate → ¬ ['/', '/'] <+: Endpoint.withoutBreaks p.toList) ↔
        (r.HasTextContentType ∧ r.HasDate → ¬ ['/', '/'] <+: Endpoint.withoutBreaks p.toList) := by
      constructor
      · exact fun h hready => h _ rfl hready.1 hready.2
      · rintro h r' hr hcontent hdate
        obtain rfl := Except.ok.inj hr
        exact h ⟨hcontent, hdate⟩
    refine Iff.trans ?_ hmade.symm
    change (r.withEndpoint _).stringToSign = (r.withEndpoint p).stringToSign ↔ _
    by_cases hready : r.HasTextContentType ∧ r.HasDate
    · rw [stringToSign_withEndpoint_eq_iff hready.1 hready.2 hurl, imp_iff_right hready]
      constructor
      · rintro ⟨path, hpath, hlower⟩ hslashes
        exact Endpoint.lower_ne_of_slashes hslash hquery hfragment hslashes hpath hlower
      · exact fun hno => ⟨_, Endpoint.path_of_no_slashes hslash hquery hfragment hno, rfl⟩
    · exact iff_of_true (stringToSign_withEndpoint_of_unready hready) fun h => absurd h hready

/-- Empty segments further on, an open bracket, a colon and a tab make no difference. -/
theorem url_signed_as_path_iff_over_empty_segment :
    let p := "/A//[b:c\t/%2F"
    let headers : HeadersGiven := .multimap ⟨[("Date", "d")]⟩
    (make (.text "GET") (.text ("https" ++ "://" ++ "a-1.B" ++ p)) headers none >>= stringToSign) =
        (make (.text "GET") (.text p) headers none >>= stringToSign) ∧
      (make (.text "GET") (.text p) headers none >>= stringToSign) =
        .ok "GET\n\n\nd\n/a//[b:c/%2f" := by
  intro p headers
  let r : Request := ⟨.get, .text p, ⟨[("Date", "d")]⟩, none⟩
  have hmake : make (.text "GET") (.text p) headers none = .ok r := by rfl
  have hpath : r.path = .ok "/A//[b:c/%2F" := by decide +kernel
  have htext : r.stringToSign = .ok "GET\n\n\nd\n/a//[b:c/%2f" :=
    stringToSign_eq_ok_iff.2
      ⟨fun h => absurd h (by decide), "d", _, rfl, by decide, hpath, by decide +kernel⟩
  have hno : ¬ ['/', '/'] <+: Endpoint.withoutBreaks p.toList := by decide
  have hhost : ∀ c ∈ "a-1.B".toList, c.isAlphanum = true ∨ c = '.' ∨ c = '-' := by simp
  have hslash : p.toList.head? = some '/' := by decide
  obtain ⟨-, hiff⟩ := url_signed_as_path_iff (Or.inr rfl) hhost hslash (by decide) (by decide)
    (.text "GET") headers none
  exact ⟨hiff.2 fun _ _ _ _ => hno, bind_stringToSign_eq_ok hmake htext⟩

/-- An absolute path that starts with an empty segment is signed without its first two segments. -/
theorem url_not_signed_as_path_over_slashes :
    let p := "//a/b"
    let headers : HeadersGiven := .multimap ⟨[("Date", "d")]⟩
    (make (.text "GET") (.text ("http" ++ "://" ++ "h" ++ p)) headers none >>= stringToSign) =
        .ok "GET\n\n\nd\n//a/b" ∧
      (make (.text "GET") (.text p) headers none >>= stringToSign) = .ok "GET\n\n\nd\n/b" ∧
      "GET\n\n\nd\n//a/b" ≠ "GET\n\n\nd\n/b" := by
  intro p headers
  let atUrl : Request := ⟨.get, .text ("http" ++ "://" ++ "h" ++ p), ⟨[("Date", "d")]⟩, none⟩
  let atPath : Request := ⟨.get, .text p, ⟨[("Date", "d")]⟩, none⟩
  have hurl : atUrl.stringToSign = .ok "GET\n\n\nd\n//a/b" :=
    stringToSign_eq_ok_iff.2
      ⟨fun h => absurd h (by decide), "d", "//a/b", rfl,
       by decide, by decide +kernel, by decide +kernel⟩
  have hpath : atPath.stringToSign = .ok "GET\n\n\nd\n/b" :=
    stringToSign_eq_ok_iff.2
      ⟨fun h => absurd h (by decide), "d", "/b", rfl,
       by decide, by decide +kernel, by decide +kernel⟩
  exact ⟨bind_stringToSign_eq_ok (by rfl) hurl, bind_stringToSign_eq_ok (by rfl) hpath, by decide⟩

end RequestSigning.Request
