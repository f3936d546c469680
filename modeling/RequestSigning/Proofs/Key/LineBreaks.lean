import RequestSigning.Proofs.Document.Loading
import RequestSigning.Proofs.Document.Writing

/-!
# Line breaks of key material

In the text of a key a line break is a line feed, or a backslash with an `n` behind it. Which of the
two stands where does not matter: the key is sought in the text with line feeds, from wherever the
text comes.
-/

namespace RequestSigning.Key

open Json (Symbol)

/-! ## Texts without escapes -/

/-- The two symbols that stand for a line feed. -/
def lineEscape : Json.Text := [.char '\\', .char 'n']

variable {t : Json.Text}

theorem unescape_cons {s : Symbol} (h : s ≠ .char '\\') (rest : Json.Text) :
    unescape (s :: rest) = s :: unescape rest := by
  rw [unescape]
  rintro _ rfl
  exact absurd rfl h

/-- Nothing that was not there before comes first. -/
theorem head?_of_head?_unescape {s : Symbol} (h : (unescape t).head? = some s)
    (hs : s ≠ .char '\n') :
    t.head? = some s := by
  unfold unescape at h
  split at h
  · exact absurd (Option.some.inj h).symm hs
  · exact h
  · exact h

/-- An unescaped text has no escapes. -/
theorem not_infix_unescape (t : Json.Text) : ¬ lineEscape <:+: unescape t := by
  fun_induction unescape t with
  | case1 rest ih =>
    rw [List.infix_cons_iff, not_or]
    refine ⟨fun h => ?_, ih⟩
    exact absurd (List.cons_prefix_cons.1 h).1 (by decide)
  | case2 s rest hescape ih =>
    rw [List.infix_cons_iff, not_or]
    refine ⟨fun h => ?_, ih⟩
    obtain ⟨rfl, tail, htail⟩ := List.cons_prefix_cons.1 h
    have hhead : rest.head? = some (.char 'n') :=
      head?_of_head?_unescape (by rw [← htail]; rfl) (by decide)
    obtain ⟨rest', rfl⟩ := List.head?_eq_some_iff.1 hhead
    exact hescape rest' rfl rfl
  | case3 => exact fun h => absurd (List.eq_nil_of_infix_nil h) (List.cons_ne_nil _ _)

theorem unescape_eq_self (h : ¬ lineEscape <:+: t) : unescape t = t := by
  fun_induction unescape t with
  | case1 rest ih => exact absurd (List.prefix_append lineEscape rest).isInfix h
  | case2 s rest hescape ih => rw [ih fun h' => h (List.infix_cons h')]
  | case3 => rfl

/-! ## Texts with some line breaks escaped -/

/-- The second text is the first with some of its line feeds written as escapes. -/
inductive EscapesBreaks : List Char → List Char → Prop
  | nil : EscapesBreaks [] []
  | keep {cs escaped : List Char} (c : Char) : EscapesBreaks cs escaped →
    EscapesBreaks (c :: cs) (c :: escaped)
  | escape {cs escaped : List Char} : EscapesBreaks cs escaped →
      EscapesBreaks ('\n' :: cs) ('\\' :: 'n' :: escaped)

variable {cs escaped : List Char}

theorem EscapesBreaks.append_left (before : List Char) (h : EscapesBreaks cs escaped) :
    EscapesBreaks (before ++ cs) (before ++ escaped) := by
  induction before with
  | nil => exact h
  | cons c before ih => exact .keep c ih

theorem EscapesBreaks.refl (cs : List Char) : EscapesBreaks cs cs := by
  simpa only [List.append_nil] using EscapesBreaks.nil.append_left cs

theorem unescape_of_escapesBreaks (h : EscapesBreaks cs escaped) (hbackslash : '\\' ∉ cs) :
    unescape (escaped.map .char) = cs.map .char := by
  induction h with
  | nil => rfl
  | @keep cs escaped c h ih =>
    obtain ⟨hc, hcs⟩ := not_or.1 (List.mem_cons.not.1 hbackslash)
    rw [List.map_cons, unescape_cons fun heq => hc (Symbol.char.inj heq).symm, ih hcs]
    rfl
  | @escape cs escaped h ih =>
    rw [List.map_cons, List.map_cons, unescape,
      ih fun hmem => hbackslash (List.mem_cons_of_mem _ hmem)]
    rfl

/-- What is not blank stays, whatever is escaped. -/
theorem EscapesBreaks.not_all_isBlank (h : EscapesBreaks cs escaped)
    (hblank : cs.all Text.isBlank = false) :
    escaped.all Text.isBlank = false := by
  induction h with
  | nil => exact hblank
  | keep c h ih =>
    rw [List.all_cons, Bool.and_eq_false_iff] at hblank ⊢
    exact hblank.imp_right ih
  | escape h ih => rfl

/-! ## What the key is sought in -/

theorem asciiChars_map_char (hascii : ∀ c ∈ cs, c.toNat < 0x80) :
    asciiChars (cs.map .char) = .ok cs := by
  have hdrop : (cs.map Symbol.char).dropWhile isAsciiSymbol = [] := by
    rw [List.dropWhile_eq_nil_iff]
    exact List.forall_mem_map.2 fun c hc => decide_eq_true (hascii c hc)
  rw [asciiChars, Unencodable.find?, hdrop]
  dsimp only
  rw [List.filterMap_map]
  exact congrArg Except.ok List.filterMap_some

/-- However its line breaks are written, the key is sought in the text with line feeds. -/
theorem blockText_of_escapesBreaks (h : EscapesBreaks cs escaped)
    (hascii : ∀ c ∈ cs, c.toNat < 0x80) (hbackslash : '\\' ∉ cs)
    (hblank : cs.all Text.isBlank = false) : blockText (escaped.map .char) = .ok cs := by
  have hescaped : (escaped.map Symbol.char).all Symbol.isBlank = false := by
    rw [List.all_map]
    exact h.not_all_isBlank hblank
  rw [blockText, hescaped, unescape_of_escapesBreaks h hbackslash, asciiChars_map_char hascii]
  rfl

/-- What is read from the characters that a key is sought in. -/
def loadChars (kind : KeyKind) (cs : List Char) : Except KeyMaterialError Material :=
  match read? kind cs with
  | some m => .ok m
  | none => .error (.unreadable kind)

theorem load_of_blockText (kind : KeyKind) (h : blockText t = .ok cs) :
    load kind t = loadChars kind cs := by
  rw [load, h]
  rfl

/-- A document that is a text is read as the key in this text. -/
theorem ofJson_of_text {s : String} (kind : KeyKind) (h : Json.parse s = .ok (.text t)) :
    Document.ofJson Document.Kind.all (.text s) (some (.key kind)) =
      ((load kind t).map .material).mapError .keyMaterial := by
  have hmem : Document.Kind.all.contains (.key kind) = true := by cases kind <;> rfl
  rw [Document.ofJson, hmem, if_pos rfl, Document.decode, Document.readText_eq_ok_iff.2 h]
  dsimp only
  cases load kind t with
  | ok m => rfl
  | error e => rfl

/-- A text with escapes for some of its line feeds is read as the text itself, on its own and in a
document, for every kind of key: both times the key is sought in the same characters. And no text
has anything left to unescape once it is unescaped. -/
theorem line_breaks_alike :
    (∀ t escaped : String, EscapesBreaks t.toList escaped.toList →
      (∀ c ∈ t.toList, c.toNat < 0x80) →
      '\\' ∉ t.toList → Text.allBlank t = false → ∀ text ∈ [t, escaped],
        blockText (.ofString text) = .ok t.toList ∧
        ∀ kind, load kind (.ofString text) = loadChars kind t.toList ∧
          Document.ofJson Document.Kind.all (.text (Json.text (.ofString text)).print)
            (some (.key kind)) =
            ((loadChars kind t.toList).map .material).mapError .keyMaterial) ∧
      ∀ u, unescape (unescape u) = unescape u ∧ ¬ lineEscape <:+: unescape u := by
  refine ⟨fun t escaped h hascii hbackslash hblank text htext => ?_, fun u => ?_⟩
  · have hbreaks : EscapesBreaks t.toList text.toList := by
      rcases List.mem_pair.1 htext with rfl | rfl
      · exact .refl _
      · exact h
    have hblock : blockText (.ofString text) = .ok t.toList :=
      blockText_of_escapesBreaks hbreaks hascii hbackslash hblank
    refine ⟨hblock, fun kind => ⟨load_of_blockText kind hblock, ?_⟩⟩
    rw [ofJson_of_text kind (Document.parse_print_text text), load_of_blockText kind hblock]
  · exact ⟨unescape_eq_self (not_infix_unescape u), not_infix_unescape u⟩

/-- A public key with two of its three line breaks escaped. -/
theorem line_breaks_alike_of_public_key :
    let first := "-----BEGIN PUBLIC KEY-----"
    let data := "MCowBQYDK2VwAyEAAAECAwQFBgcICQoLDA0ODxAREhMUFRYXGBkaGxwdHh8="
    let last := "-----END PUBLIC KEY-----"
    let t := first ++ "\n" ++ data ++ "\n" ++ last ++ "\n"
    let escaped := first ++ "\\n" ++ data ++ "\n" ++ last ++ "\\n"
    EscapesBreaks t.toList escaped.toList ∧ (∀ c ∈ t.toList, c.toNat < 0x80) ∧ '\\' ∉ t.toList ∧
      Text.allBlank t = false ∧
      load .publicKey (.ofString escaped) =
        .ok (.publicKey (.raw .ed25519 ((List.range 32).map UInt8.ofNat))) := by
  intro first data last t escaped
  have hbreaks : EscapesBreaks t.toList escaped.toList := by
    simp only [t, escaped, String.toList_append, List.append_assoc]
    refine .append_left first.toList (.escape (.append_left data.toList (.keep '\n' ?_)))
    exact .append_left last.toList (.escape .nil)
  have hall : t.toList.all (fun c => c.toNat < 0x80) = true := by decide +kernel
  have hascii : ∀ c ∈ t.toList, c.toNat < 0x80 :=
    fun c hc => of_decide_eq_true (List.all_eq_true.1 hall c hc)
  have hbackslash : '\\' ∉ t.toList := by decide +kernel
  have hblank : Text.allBlank t = false := by decide +kernel
  have hload :=
    (line_breaks_alike.1 t escaped hbreaks hascii hbackslash hblank escaped (by simp)).2 .publicKey
  refine ⟨hbreaks, hascii, hbackslash, hblank, hload.1.trans ?_⟩
  have hread : read? .publicKey t.toList =
      some (.publicKey (.raw .ed25519 ((List.range 32).map UInt8.ofNat))) := by decide +kernel
  rw [loadChars, hread]

end RequestSigning.Key
