import RequestSigning.Proofs.Json.Grammar

/-!
# Reading by the grammar

The reader of documents in steps: elements behind one another, members, values by their first
character. Whatever it takes is written by the grammar, and where it breaks off to count digits
stands a whole number with too many.
-/

namespace RequestSigning.Json

variable {α : Type} {fuel count : Nat} {s close : Symbol} {a : α} {as : List α}
  {bs left p rest t : Text} {v : Json} {first : Reading α} {more : Text → Reading (List α)}
  {stop : Stop}

theorem map_eq_ok_iff {β : Type} {r : Reading α} {f : α × Text → β × Text} {read : β × Text} :
    r.map f = .ok read ↔ ∃ a left, r = .ok (a, left) ∧ f (a, left) = read := by
  cases r <;> simp [Except.map, Prod.ext_iff]

theorem map_eq_error_iff {β : Type} {r : Reading α} {f : α × Text → β × Text} :
    r.map f = .error stop ↔ r = .error stop := by
  cases r <;> simp [Except.map]

/-! ## Elements behind one another -/

/-- A list or object from one of its elements on: behind it comes the end, or a comma and more
elements. -/
def readSeries (close : Symbol) (first : Reading α) (more : Text → Reading (List α)) :
    Reading (List α) :=
  match first with
  | .error e => .error e
  | .ok (a, left) =>
    match skipBlanks left with
    | [] => .error (.fault .expectingComma 0)
    | s :: rest =>
      if s = close then .ok ([a], rest)
      else if s = .char ',' then (more (skipBlanks rest)).map fun (as, rest) => (a :: as, rest)
      else .error (.fault .expectingComma (rest.length + 1))

theorem readSeries_last (hbs : AllBlank bs) (hclose : isBlank close = false) :
    readSeries close (.ok (a, bs ++ close :: rest)) more = .ok ([a], rest) := by
  simp only [readSeries, skipBlanks_of_stop hbs hclose, if_true]

theorem readSeries_more (hbs : AllBlank bs) (hclose : close ≠ .char ',') :
    readSeries close (.ok (a, bs ++ .char ',' :: rest)) more =
      (more (skipBlanks rest)).map fun (as, rest) => (a :: as, rest) := by
  simp only [readSeries, skipBlanks_of_stop (s := .char ',') hbs rfl, if_neg hclose.symm, if_true]

/-- What comes behind an element: the end, a comma and more elements, or neither. -/
theorem readSeries_cases (close : Symbol) (a : α) (left : Text) (more : Text → Reading (List α)) :
    (∃ bs rest, AllBlank bs ∧ left = bs ++ close :: rest ∧
      readSeries close (.ok (a, left)) more = .ok ([a], rest)) ∨
    (∃ bs bs' left', AllBlank bs ∧ AllBlank bs' ∧ left = bs ++ .char ',' :: bs' ++ left' ∧
      readSeries close (.ok (a, left)) more =
        (more left').map fun (as, rest) => (a :: as, rest)) ∨
    ∃ remaining,
      readSeries close (.ok (a, left)) more = .error (.fault .expectingComma remaining) := by
  obtain ⟨bs, hbs, hleft⟩ := exists_blanks left
  unfold readSeries
  dsimp only
  cases hskip : skipBlanks left with
  | nil => exact .inr (.inr ⟨_, rfl⟩)
  | cons s behind =>
    rw [hskip] at hleft
    dsimp only
    by_cases hclose : s = close
    · subst hclose
      exact .inl ⟨bs, behind, hbs, hleft, if_pos rfl⟩
    by_cases hcomma : s = .char ','
    · subst hcomma
      obtain ⟨bs', hbs', hbehind⟩ := exists_blanks behind
      refine .inr (.inl ⟨bs, bs', _, hbs, hbs', ?_, by rw [if_neg hclose, if_pos rfl]⟩)
      rw [hleft, List.append_assoc, List.cons_append, ← hbehind]
    · exact .inr (.inr ⟨_, by rw [if_neg hclose, if_neg hcomma]⟩)

/-- The value of a member, behind its name. -/
def readNamed (fuel : Nat) (name t : Text) : Reading (Text × Json) :=
  match skipBlanks t with
  | [] => .error (.fault .expectingColon 0)
  | s :: rest =>
    if s = .char ':' then
      (readValue fuel (skipBlanks rest)).map fun (value, rest) => ((name, value), rest)
    else .error (.fault .expectingColon (rest.length + 1))

theorem readNamed_colon {name : Text} (h : skipBlanks t = .char ':' :: rest) :
    readNamed fuel name t =
      (readValue fuel (skipBlanks rest)).map fun (value, rest) => ((name, value), rest) := by
  simp only [readNamed, h, if_true]

theorem readNamed_of_ne {name : Text} (h : ∀ rest, skipBlanks t ≠ .char ':' :: rest) :
    readNamed fuel name t = .error (.fault .expectingColon (skipBlanks t).length) := by
  unfold readNamed
  cases hskip : skipBlanks t with
  | nil => rfl
  | cons s rest =>
    refine if_neg ?_
    rintro rfl
    exact h rest hskip

/-- A member of an object, from its name on. -/
def readMember (fuel : Nat) (t : Text) : Reading (Text × Json) :=
  match t with
  | .char '"' :: rest =>
    match readString rest with
    | .error e => .error e
    | .ok (name, rest) => readNamed fuel name rest
  | _ => .error (.fault .expectingName t.length)

theorem readMember_name (fuel : Nat) (t : Text) : readMember fuel (.char '"' :: t) =
    match readString t with
    | .error e => .error e
    | .ok (name, rest) => readNamed fuel name rest := rfl

theorem readItems_succ (fuel : Nat) (t : Text) :
    readItems (fuel + 1) t = readSeries (.char ']') (readValue fuel t) (readItems fuel) := by
  rw [readItems]
  cases readValue fuel t with
  | error e => rfl
  | ok read =>
    obtain ⟨item, left⟩ := read
    dsimp only [readSeries]
    cases skipBlanks left with
    | nil => rfl
    | cons s left =>
      by_cases hclose : s = .char ']'
      · subst hclose
        rfl
      by_cases hcomma : s = .char ','
      · subst hcomma
        rfl
      · simp [hclose, hcomma]

theorem readMembers_succ (fuel : Nat) (t : Text) :
    readMembers (fuel + 1) t = readSeries (.char '\x7d') (readMember fuel t)
      (readMembers fuel) := by
  rw [readMembers.eq_def]
  dsimp only
  split
  · next rest =>
    rw [readMember_name]
    cases readString rest with
    | error e => rfl
    | ok read =>
      obtain ⟨name, behind⟩ := read
      dsimp only
      split
      · next left hcolon =>
        rw [readNamed_colon hcolon]
        cases readValue fuel (skipBlanks left) with
        | error e => rfl
        | ok read =>
          obtain ⟨value, left⟩ := read
          dsimp only [Except.map, readSeries]
          cases skipBlanks left with
          | nil => rfl
          | cons s left =>
            by_cases hclose : s = .char '\x7d'
            · subst hclose
              rfl
            by_cases hcomma : s = .char ','
            · subst hcomma
              rfl
            · simp [hclose, hcomma]
      · next hcolon =>
        rw [readNamed_of_ne hcolon]
        rfl
  · next hquote =>
    rw [readMember]
    · rfl
    · exact hquote

/-! ## Values by their first character -/

/-- A list or object behind its opening bracket. -/
def readEnclosed (close : Symbol) (empty : Json) (f : List α → Json)
    (more : Text → Reading (List α)) (t : Text) : Reading Json :=
  match skipBlanks t with
  | [] => (more []).map fun (as, rest) => (f as, rest)
  | s :: rest =>
    if s = close then .ok (empty, rest)
    else (more (s :: rest)).map fun (as, rest) => (f as, rest)

theorem readEnclosed_empty {empty : Json} {f : List α → Json} (hbs : AllBlank bs)
    (hclose : isBlank close = false) :
    readEnclosed close empty f more (bs ++ close :: rest) = .ok (empty, rest) := by
  simp only [readEnclosed, skipBlanks_of_stop hbs hclose, if_true]

theorem readEnclosed_full {empty : Json} {f : List α → Json} (hbs : AllBlank bs)
    (hs : isBlank s = false) (hclose : s ≠ close) (hmore : more (s :: t) = .ok (as, rest)) :
    readEnclosed close empty f more (bs ++ s :: t) = .ok (f as, rest) := by
  simp only [readEnclosed, skipBlanks_of_stop hbs hs, if_neg hclose, hmore, Except.map]

theorem readValue_text (fuel : Nat) (t : Text) :
    readValue (fuel + 1) (.char '"' :: t) =
      (readString t).map fun (t, rest) => (.text t, rest) := by
  rw [readValue]
  rfl

theorem readValue_list (fuel : Nat) (t : Text) : readValue (fuel + 1) (.char '[' :: t) =
    readEnclosed (.char ']') (.list []) .list (readItems fuel) t := by
  rw [readValue, readEnclosed, if_neg (by decide), if_pos rfl]
  cases skipBlanks t with
  | nil => rfl
  | cons s rest =>
    by_cases hs : s = .char ']'
    · subst hs
      rfl
    · simp [hs]

theorem readValue_object (fuel : Nat) (t : Text) : readValue (fuel + 1) (.char '\x7b' :: t) =
    readEnclosed (.char '\x7d') (.object []) ofEntries (readMembers fuel) t := by
  rw [readValue, readEnclosed, if_neg (by decide), if_neg (by decide), if_pos rfl]
  cases skipBlanks t with
  | nil => rfl
  | cons s rest =>
    by_cases hs : s = .char '\x7d'
    · subst hs
      rfl
    · simp [hs]

theorem readValue_scalar (fuel : Nat) (htext : s ≠ .char '"') (hlist : s ≠ .char '[')
    (hobject : s ≠ .char '\x7b') : readValue (fuel + 1) (s :: t) = readScalar (s :: t) := by
  rw [readValue, if_neg htext, if_neg hlist, if_neg hobject]

/-! ## What is read is written -/

/-- What a reader takes is written in one way, and where it breaks off to count digits stands what
is described in another. -/
structure Sound (read : Text → Reading α) (Writes : Text → α → Prop)
    (Breaks : Nat → Text → Prop) : Prop where
  takes : ∀ {t a rest}, read t = .ok (a, rest) → ∃ p, t = p ++ rest ∧ Writes p a
  counts : ∀ {t count}, read t = .error (.tooManyDigits count) → Breaks count t

theorem Sound.series {read : Text → Reading α} {WritesOne : Text → α → Prop}
    {Writes : Text → List α → Prop} {BreaksOne Breaks : Nat → Text → Prop}
    (hread : Sound read WritesOne BreaksOne) (hmore : Sound more Writes Breaks)
    (last : ∀ {p bs a}, WritesOne p a → AllBlank bs → Writes (p ++ bs ++ [close]) [a])
    (step : ∀ {p bs₁ bs₂ q a as}, WritesOne p a → AllBlank bs₁ → AllBlank bs₂ → Writes q as →
      Writes (p ++ bs₁ ++ .char ',' :: bs₂ ++ q) (a :: as))
    (breakOne : ∀ {count t}, BreaksOne count t → Breaks count t)
    (breakStep : ∀ {count p bs₁ bs₂ t a}, WritesOne p a → AllBlank bs₁ → AllBlank bs₂ →
      Breaks count t → Breaks count (p ++ bs₁ ++ .char ',' :: bs₂ ++ t)) :
    Sound (fun t => readSeries close (read t) more) Writes Breaks where
  takes {t as rest} h := by
    cases hfirst : read t with
    | error e =>
      rw [hfirst] at h
      cases h
    | ok one =>
      obtain ⟨a, left⟩ := one
      rw [hfirst] at h
      obtain ⟨p, hp, hone⟩ := hread.takes hfirst
      rcases readSeries_cases close a left more with ⟨bs, rest', hbs, hleft, hend⟩ |
        ⟨bs, bs', left', hbs, hbs', hleft, hmap⟩ | ⟨_, hfault⟩
      · cases h.symm.trans hend
        exact ⟨_, by simp [hp, hleft], last hone hbs⟩
      · obtain ⟨as', rest', hall, heq⟩ := map_eq_ok_iff.1 (hmap.symm.trans h)
        cases heq
        obtain ⟨q, hq, hwrites⟩ := hmore.takes hall
        exact ⟨_, by simp [hp, hleft, hq], step hone hbs hbs' hwrites⟩
      · cases h.symm.trans hfault
  counts {t count} h := by
    cases hfirst : read t with
    | error e =>
      rw [hfirst] at h
      cases h
      exact breakOne (hread.counts hfirst)
    | ok one =>
      obtain ⟨a, left⟩ := one
      rw [hfirst] at h
      obtain ⟨p, hp, hone⟩ := hread.takes hfirst
      rcases readSeries_cases close a left more with ⟨bs, rest', hbs, hleft, hend⟩ |
        ⟨bs, bs', left', hbs, hbs', hleft, hmap⟩ | ⟨_, hfault⟩
      · cases h.symm.trans hend
      · have hcounts := hmore.counts (map_eq_error_iff.1 (hmap.symm.trans h))
        simpa [hp, hleft] using breakStep hone hbs hbs' hcounts
      · cases h.symm.trans hfault

/-- Behind the name of a member come a colon and a value, with blanks around the colon. -/
theorem eq_of_readMember {r : Reading (Text × Json)} (h : readMember fuel t = r)
    (hr : ∀ fault remaining, r ≠ .error (.fault fault remaining)) :
    ∃ p ps bs₁ bs₂ left, t = .char '"' :: p ++ .char '"' :: bs₁ ++ .char ':' :: bs₂ ++ left ∧
      Spells p ps ∧ AllBlank bs₁ ∧ AllBlank bs₂ ∧
      r = (readValue fuel left).map fun (value, rest) => ((joinPairs ps, value), rest) := by
  unfold readMember at h
  split at h
  · next behind =>
    cases hname : readString behind with
    | error e =>
      rw [hname] at h
      cases e with
      | fault fault remaining => exact absurd h.symm (hr _ _)
      | tooManyDigits count => exact absurd hname readString_ne_tooManyDigits
    | ok read =>
      obtain ⟨name, left⟩ := read
      rw [hname] at h
      obtain ⟨p, ps, rfl, hspells, rfl⟩ := readString_eq_ok_iff.1 hname
      obtain ⟨bs₁, hbs₁, hleft⟩ := exists_blanks left
      dsimp only at h
      by_cases hcolon : ∃ value, skipBlanks left = .char ':' :: value
      · obtain ⟨value, hcolon⟩ := hcolon
        obtain ⟨bs₂, hbs₂, hvalue⟩ := exists_blanks value
        rw [readNamed_colon hcolon] at h
        refine ⟨p, ps, bs₁, bs₂, _, ?_, hspells, hbs₁, hbs₂, h.symm⟩
        rw [hleft, hcolon]
        simp [← hvalue]
      · rw [readNamed_of_ne (not_exists.1 hcolon)] at h
        exact absurd h.symm (hr _ _)
  · exact absurd h.symm (hr _ _)

theorem sound_readMember (h : Sound (readValue fuel) Written Overlong) :
    Sound (readMember fuel) WrittenMember OverlongMember where
  takes hread := by
    obtain ⟨p, ps, bs₁, bs₂, left, rfl, hspells, hbs₁, hbs₂, hvalue⟩ :=
      eq_of_readMember hread (fun _ _ h => by cases h)
    obtain ⟨v, rest, hvalue, heq⟩ := map_eq_ok_iff.1 hvalue.symm
    cases heq
    obtain ⟨q, rfl, hwritten⟩ := h.takes hvalue
    exact ⟨_, (List.append_assoc _ _ _).symm, .mk hspells hbs₁ hbs₂ hwritten⟩
  counts hread := by
    obtain ⟨p, ps, bs₁, bs₂, left, rfl, hspells, hbs₁, hbs₂, hvalue⟩ :=
      eq_of_readMember hread (fun _ _ h => by cases h)
    exact .mk hspells hbs₁ hbs₂ (h.counts (map_eq_error_iff.1 hvalue.symm))

theorem Sound.enclosed {bracket : Symbol} {empty : Json} {f : List α → Json}
    {Writes : Text → List α → Prop} {Breaks : Nat → Text → Prop} (hmore : Sound more Writes Breaks)
    (hempty : ∀ {bs}, AllBlank bs → Written (bracket :: bs ++ [close]) empty)
    (hfull : ∀ {bs p as}, AllBlank bs → Writes p as → Written (bracket :: bs ++ p) (f as))
    (hbreak : ∀ {count bs t}, AllBlank bs → Breaks count t →
      Overlong count (bracket :: bs ++ t)) :
    Sound (readEnclosed close empty f more) (fun p v => Written (bracket :: p) v)
      fun count t => Overlong count (bracket :: t) where
  takes {t v rest} h := by
    obtain ⟨bs, hbs, ht⟩ := exists_blanks t
    have htakes : ∀ {left}, left = skipBlanks t →
        (more left).map (fun (as, rest) => (f as, rest)) = .ok (v, rest) →
        ∃ p, t = p ++ rest ∧ Written (bracket :: p) v := by
      intro left hleft hread
      obtain ⟨as, left', hmap, heq⟩ := map_eq_ok_iff.1 hread
      cases heq
      obtain ⟨p, hp, hwrites⟩ := hmore.takes hmap
      exact ⟨bs ++ p, by rw [ht, ← hleft, hp, List.append_assoc], hfull hbs hwrites⟩
    unfold readEnclosed at h
    split at h
    · next hskip => exact htakes hskip.symm h
    · next s left hskip =>
      split at h
      · next hs =>
        cases h
        exact ⟨bs ++ [close], by rw [ht, hskip, hs, List.append_assoc]; rfl, hempty hbs⟩
      · exact htakes hskip.symm h
  counts {t count} h := by
    obtain ⟨bs, hbs, ht⟩ := exists_blanks t
    unfold readEnclosed at h
    rw [ht]
    split at h
    · next hskip => exact hskip ▸ hbreak hbs (hmore.counts (map_eq_error_iff.1 h))
    · next s left hskip =>
      split at h
      · cases h
      · exact hskip ▸ hbreak hbs (hmore.counts (map_eq_error_iff.1 h))

theorem sound_readScalar : Sound readScalar Written Overlong where
  takes {t v rest} h := by
    rcases readScalar_cases t with ⟨_, _, hread⟩ | ⟨p, v', rest', ht, hscalar, hread⟩ | ⟨_, hlong⟩
    · rw [hread] at h
      cases h
    · rw [hread] at h
      cases h
      exact ⟨_, ht, .scalar hscalar⟩
    · rw [readScalar_of_longWhole hlong] at h
      cases h
  counts {t count} h := by
    rcases readScalar_cases t with ⟨_, _, hread⟩ | ⟨p, v', rest', ht, hscalar, hread⟩ | ⟨_, hlong⟩
    · rw [hread] at h
      cases h
    · rw [hread] at h
      cases h
    · rw [readScalar_of_longWhole hlong] at h
      cases h
      exact .number hlong

theorem sound_readString :
    Sound (fun t => (readString t).map fun (t, rest) => (Json.text t, rest))
      (fun p v => Written (.char '"' :: p) v) fun count t => Overlong count (.char '"' :: t) where
  takes h := by
    obtain ⟨u, left, hread, heq⟩ := map_eq_ok_iff.1 h
    cases heq
    obtain ⟨p, ps, rfl, hspells, rfl⟩ := readString_eq_ok_iff.1 hread
    exact ⟨p ++ [Symbol.char '"'], by rw [List.append_assoc]; rfl, .text hspells⟩
  counts h := absurd (map_eq_error_iff.1 h) readString_ne_tooManyDigits

/-- Behind a first character that decides which reader goes on. -/
theorem Sound.cons {read read' : Text → Reading α} {Writes : Text → α → Prop}
    {Breaks : Nat → Text → Prop}
    (h : Sound read (fun p a => Writes (s :: p) a) fun count t => Breaks count (s :: t))
    (hread : read' (s :: t) = read t) :
    (∀ {a rest}, read' (s :: t) = .ok (a, rest) → ∃ p, s :: t = p ++ rest ∧ Writes p a) ∧
      ∀ {count}, read' (s :: t) = .error (.tooManyDigits count) → Breaks count (s :: t) := by
  refine ⟨fun hok => ?_, fun herror => h.counts (hread ▸ herror)⟩
  obtain ⟨p, rfl, hwrites⟩ := h.takes (hread ▸ hok)
  exact ⟨s :: p, rfl, hwrites⟩

theorem sound_readValue_succ (hitems : Sound (readItems fuel) WrittenItems OverlongItems)
    (hmembers : Sound (readMembers fuel) WrittenMembers OverlongMembers) :
    Sound (readValue (fuel + 1)) Written Overlong := by
  have hcons : ∀ s t,
      (∀ {v rest}, readValue (fuel + 1) (s :: t) = .ok (v, rest) →
        ∃ p, s :: t = p ++ rest ∧ Written p v) ∧
      ∀ {count}, readValue (fuel + 1) (s :: t) = .error (.tooManyDigits count) →
        Overlong count (s :: t) := by
    intro s t
    by_cases htext : s = .char '"'
    · subst htext
      exact sound_readString.cons (readValue_text fuel t)
    by_cases hlist : s = .char '['
    · subst hlist
      exact (hitems.enclosed .emptyList .list .list).cons (readValue_list fuel t)
    by_cases hobject : s = .char '\x7b'
    · subst hobject
      exact (hmembers.enclosed .emptyObject .object .object).cons (readValue_object fuel t)
    · rw [readValue_scalar fuel htext hlist hobject]
      exact ⟨sound_readScalar.takes, sound_readScalar.counts⟩
  constructor
  · intro t v rest h
    cases t with
    | nil => cases h
    | cons s t => exact (hcons s t).1 h
  · intro t count h
    cases t with
    | nil => cases h
    | cons s t => exact (hcons s t).2 h

theorem sound_read (fuel : Nat) : Sound (readValue fuel) Written Overlong ∧
    Sound (readItems fuel) WrittenItems OverlongItems ∧
    Sound (readMembers fuel) WrittenMembers OverlongMembers := by
  induction fuel with
  | zero =>
    exact ⟨⟨fun h => (by cases h), fun h => (by cases h)⟩,
      ⟨fun h => (by cases h), fun h => (by cases h)⟩,
      ⟨fun h => (by cases h), fun h => (by cases h)⟩⟩
  | succ fuel ih =>
    obtain ⟨hvalue, hitems, hmembers⟩ := ih
    refine ⟨sound_readValue_succ hitems hmembers, ?_, ?_⟩
    · rw [funext (readItems_succ fuel)]
      exact hvalue.series hitems .last .more .first .more
    · rw [funext (readMembers_succ fuel)]
      exact (sound_readMember hvalue).series hmembers .last .more .first .more

end RequestSigning.Json
