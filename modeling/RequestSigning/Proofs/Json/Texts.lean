import Mathlib.Data.List.Chain
import RequestSigning.Json.Parser
import RequestSigning.Json.Printer

/-!
# Texts between quotes

What may stand between the quotes of a text, and which pieces it spells. The reader accepts exactly
the spellings, and joins the halves of pairs that are written as escapes afterwards. The printer
writes every half as an escape, so that a text is read back with its halves joined.
-/

namespace RequestSigning.Json

open Json.Text (ofChars)

/-- The pieces that the symbols between quotes spell, before halves of pairs are joined. -/
inductive Spells : Text → List Piece → Prop
  | nil : Spells [] []
  | plain {s : Symbol} {t : Text} {ps : List Piece} : 0x20 ≤ s.code → s ≠ .char '"' →
      s ≠ .char '\\' → Spells t ps → Spells (s :: t) (.symbol s :: ps)
  | short {e : Symbol} {c : Char} {t : Text} {ps : List Piece} : shortEscape? e = some c →
      Spells t ps → Spells (.char '\\' :: e :: t) (.symbol (.char c) :: ps)
  | unit {a b c d : Symbol} {n : Nat} {t : Text} {ps : List Piece} : unit? a b c d = some n →
      Spells t ps → Spells (.char '\\' :: .char 'u' :: a :: b :: c :: d :: t) (.ofUnit n :: ps)

theorem Spells.append {t u : Text} {ps qs : List Piece} (h : Spells t ps) (h' : Spells u qs) :
    Spells (t ++ u) (ps ++ qs) := by
  induction h with
  | nil => exact h'
  | plain hs hquote hescape _ ih => exact .plain hs hquote hescape ih
  | short he _ ih => exact .short he ih
  | unit hn _ ih => exact .unit hn ih

/-! ## Reading -/

variable {opening : Nat} {s e : Symbol} {t rest : Text} {p : Piece} {ps : List Piece}

theorem consPiece_eq_ok_iff {r : Reading (List Piece)} :
    consPiece p r = .ok (ps, rest) ↔ ∃ qs, r = .ok (qs, rest) ∧ ps = p :: qs := by
  cases r with
  | error e => simp [consPiece, Except.map]
  | ok read =>
    obtain ⟨qs, left⟩ := read
    constructor
    · intro h
      cases h
      exact ⟨qs, rfl, rfl⟩
    · rintro ⟨_, h, rfl⟩
      cases h
      rfl

theorem readPieces_quote : readPieces opening (.char '"' :: rest) = .ok ([], rest) := by
  rw [readPieces.eq_def]
  rfl

theorem readPieces_plain (hs : 0x20 ≤ s.code) (hquote : s ≠ .char '"') (hescape : s ≠ .char '\\') :
    readPieces opening (s :: rest) = consPiece (.symbol s) (readPieces opening rest) := by
  rw [readPieces.eq_def]
  simp only [if_neg hquote, if_neg hescape, if_neg (Nat.not_lt.2 hs)]

theorem readPieces_short {c : Char} (he : shortEscape? e = some c) :
    readPieces opening (.char '\\' :: e :: rest) =
      consPiece (.symbol (.char c)) (readPieces opening rest) := by
  have hu : e ≠ .char 'u' := by
    rintro rfl
    cases he
  rw [readPieces.eq_def]
  simp only [Symbol.char.injEq, Char.reduceEq, if_true, if_false, if_neg hu, he]

theorem readPieces_unit {a b c d : Symbol} {n : Nat} (hn : unit? a b c d = some n)
    (hrest : rest ≠ []) :
    readPieces opening (.char '\\' :: .char 'u' :: a :: b :: c :: d :: rest) =
      consPiece (.ofUnit n) (readPieces opening rest) := by
  obtain ⟨c, cs, rfl⟩ := List.exists_cons_of_ne_nil hrest
  rw [readPieces.eq_def]
  simp only [Symbol.char.injEq, Char.reduceEq, if_true, if_false, hn]

theorem readPieces_of_spells (h : Spells t ps) :
    readPieces opening (t ++ .char '"' :: rest) = .ok (ps, rest) := by
  induction h with
  | nil => exact readPieces_quote
  | plain hs hquote hescape _ ih => exact (readPieces_plain hs hquote hescape).trans (ih ▸ rfl)
  | short he _ ih => exact (readPieces_short he).trans (ih ▸ rfl)
  | @unit _ _ _ _ _ t _ hn _ ih =>
    have hrest : t ++ .char '"' :: rest ≠ [] := by simp
    exact (readPieces_unit hn hrest).trans (ih ▸ rfl)

theorem exists_spells_of_readPieces (h : readPieces opening t = .ok (ps, rest)) :
    ∃ p, t = p ++ .char '"' :: rest ∧ Spells p ps := by
  fun_induction readPieces opening t generalizing ps with
  | case2 left =>
    cases h
    exact ⟨[], rfl, .nil⟩
  | case4 a b c d n s t hn _ ih =>
    obtain ⟨qs, hqs, rfl⟩ := consPiece_eq_ok_iff.1 h
    obtain ⟨p, hp, hspells⟩ := ih hqs
    exact ⟨.char '\\' :: .char 'u' :: a :: b :: c :: d :: p, by rw [hp]; rfl, .unit hn hspells⟩
  | case7 e t _ c he _ ih =>
    obtain ⟨qs, hqs, rfl⟩ := consPiece_eq_ok_iff.1 h
    obtain ⟨p, rfl, hspells⟩ := ih hqs
    exact ⟨.char '\\' :: e :: p, rfl, .short he hspells⟩
  | case10 s t hquote hescape hs ih =>
    obtain ⟨qs, hqs, rfl⟩ := consPiece_eq_ok_iff.1 h
    obtain ⟨p, rfl, hspells⟩ := ih hqs
    exact ⟨s :: p, rfl, .plain (Nat.le_of_not_lt hs) hquote hescape hspells⟩
  | _ => cases h

theorem readString_eq_ok_iff {text : Text} : readString t = .ok (text, rest) ↔
    ∃ p ps, t = p ++ .char '"' :: rest ∧ Spells p ps ∧ text = joinPairs ps := by
  constructor
  · intro h
    unfold readString at h
    cases hread : readPieces (t.length + 1) t with
    | error e => simp [hread, Except.map] at h
    | ok read =>
      obtain ⟨ps, left⟩ := read
      rw [hread] at h
      cases h
      obtain ⟨p, hp, hspells⟩ := exists_spells_of_readPieces hread
      exact ⟨p, ps, hp, hspells, rfl⟩
  · rintro ⟨p, ps, rfl, hspells, rfl⟩
    rw [readString, readPieces_of_spells hspells]
    rfl

theorem consPiece_eq_error_iff {r : Reading (List Piece)} {stop : Stop} :
    consPiece p r = .error stop ↔ r = .error stop := by
  cases r <;> simp [consPiece, Except.map]

/-- Digits are not counted between quotes. -/
theorem readPieces_ne_tooManyDigits {count : Nat} :
    readPieces opening t ≠ .error (.tooManyDigits count) := by
  intro h
  fun_induction readPieces opening t with
  | case4 _ _ _ _ _ _ _ _ _ ih => exact ih (consPiece_eq_error_iff.1 h)
  | case7 _ _ _ _ _ _ ih => exact ih (consPiece_eq_error_iff.1 h)
  | case10 _ _ _ _ _ ih => exact ih (consPiece_eq_error_iff.1 h)
  | _ => cases h

theorem readString_ne_tooManyDigits {count : Nat} :
    readString t ≠ .error (.tooManyDigits count) := by
  intro h
  unfold readString at h
  cases hread : readPieces (t.length + 1) t with
  | error stop =>
    rw [hread] at h
    cases h
    exact readPieces_ne_tooManyDigits hread
  | ok read =>
    rw [hread] at h
    cases h

/-! ## Halves of pairs -/

theorem joinPairs_cons (h : ∀ q ∈ ps.head?, (p.isHigh && q.isLow) = false) :
    joinPairs (p :: ps) = p.toSymbol :: joinPairs ps := by
  cases ps with
  | nil => rfl
  | cons q ps => rw [joinPairs, h q rfl, if_neg Bool.false_ne_true]

theorem joinPairs_symbol : joinPairs (.symbol s :: ps) = s :: joinPairs ps :=
  joinPairs_cons fun _ _ => rfl

theorem length_joinPairs_le (ps : List Piece) : (joinPairs ps).length ≤ ps.length := by
  fun_induction joinPairs ps with
  | case1 => exact Nat.le_refl _
  | case2 => exact Nat.le_refl _
  | case3 p q ps _ ih => exact Nat.succ_le_succ (Nat.le_succ_of_le ih)
  | case4 p q ps _ ih => exact Nat.succ_le_succ ih

/-- The piece of a symbol that is written as an escape if it is half of a pair. -/
def Symbol.piece : Symbol → Piece
  | char c => .symbol (.char c)
  | surrogate offset => .half offset

@[simp] theorem Symbol.toSymbol_piece (s : Symbol) : s.piece.toSymbol = s := by cases s <;> rfl

@[simp] theorem Symbol.isHigh_piece (s : Symbol) : s.piece.isHigh = s.isHigh := by cases s <;> rfl

@[simp] theorem Symbol.isLow_piece (s : Symbol) : s.piece.isLow = s.isLow := by cases s <;> rfl

namespace Text

/-- The text with each upper half and a lower half right behind it as one character. -/
def paired (t : Text) : Text := joinPairs (t.map Symbol.piece)

/-- No upper half stands right before a lower half. -/
def Joined (t : Text) : Prop := t.IsChain fun s u => (s.isHigh && u.isLow) = false

theorem paired_cons (h : ∀ u ∈ t.head?, (s.isHigh && u.isLow) = false) :
    paired (s :: t) = s :: paired t := by
  rw [paired, List.map_cons, joinPairs_cons, Symbol.toSymbol_piece]
  · rfl
  · intro q hq
    rw [List.head?_map] at hq
    obtain ⟨u, hu, rfl⟩ := Option.map_eq_some_iff.1 hq
    rw [Symbol.isHigh_piece, Symbol.isLow_piece, h u hu]

theorem paired_of_pair {u : Symbol} (h : (s.isHigh && u.isLow) = true) :
    paired (s :: u :: t) = .char (pairChar s u) :: paired t := by
  simp only [paired, List.map_cons, joinPairs, Symbol.isHigh_piece, Symbol.isLow_piece, h, if_true,
    Symbol.toSymbol_piece]

theorem length_paired_le (t : Text) : t.paired.length ≤ t.length :=
  (length_joinPairs_le _).trans_eq (List.length_map _)

/-- Only texts without a pair to join stay as they are. -/
theorem paired_eq_self_iff : t.paired = t ↔ t.Joined := by
  induction t with
  | nil => exact iff_of_true rfl .nil
  | cons s t ih =>
    by_cases hpair : ∀ u ∈ t.head?, (s.isHigh && u.isLow) = false
    · rw [paired_cons hpair, List.cons_inj_right, ih, Joined, Joined, List.isChain_cons,
        and_iff_right]
      exact hpair
    · simp only [not_forall, Bool.not_eq_false] at hpair
      obtain ⟨u, hu, hpair⟩ := hpair
      obtain ⟨t, rfl⟩ := List.head?_eq_some_iff.1 (Option.mem_def.1 hu)
      refine iff_of_false (fun h => ?_) fun h => ?_
      · have hlength := congrArg List.length h
        have hle := length_paired_le t
        rw [paired_of_pair hpair, List.length_cons, List.length_cons, List.length_cons] at hlength
        omega
      · exact absurd hpair (Bool.not_eq_true _ ▸ (List.isChain_cons_cons.1 h).1)

theorem joined_ofString (s : String) : (ofString s).Joined := by
  refine (List.isChain_map _).2 (List.Pairwise.isChain ?_)
  exact List.pairwise_of_forall fun _ _ => rfl

end Text

/-- Whether a half pair stands here that is not written as an escape. -/
def Piece.isRaw : Piece → Bool
  | symbol s => s.isSurrogate
  | half _ => false

theorem isLow_head?_joinPairs (hraw : ∀ q ∈ ps, q.isRaw = false)
    (h : ∀ q ∈ ps.head?, (p.isHigh && q.isLow) = false) :
    ∀ u ∈ (joinPairs ps).head?, (p.isHigh && u.isLow) = false := by
  have hlow : ∀ q ∈ ps, q.toSymbol.isLow = q.isLow := by
    intro q hq
    match q, hraw q hq with
    | .symbol (.char _), _ => rfl
    | .half _, _ => rfl
  fun_cases joinPairs ps with
  | case1 => exact fun _ hu => by cases hu
  | case2 q =>
    rintro _ ⟨⟩
    rw [hlow q List.mem_cons_self]
    exact h q rfl
  | case3 =>
    rintro _ ⟨⟩
    exact Bool.and_false _
  | case4 q =>
    rintro _ ⟨⟩
    rw [hlow q List.mem_cons_self]
    exact h q rfl

/-- No pair is left where every half was written as an escape. -/
theorem joined_joinPairs (h : ∀ q ∈ ps, q.isRaw = false) : (joinPairs ps).Joined := by
  have hhigh : ∀ q ∈ ps, q.toSymbol.isHigh = q.isHigh := by
    intro q hq
    match q, h q hq with
    | .symbol (.char _), _ => rfl
    | .half _, _ => rfl
  fun_induction joinPairs ps with
  | case1 => exact .nil
  | case2 p => exact .singleton p.toSymbol
  | case3 p q ps _ ih =>
    refine (ih (fun q hq => h q ?_) fun q hq => hhigh q ?_).cons fun _ _ => rfl
    all_goals exact List.mem_cons_of_mem _ (List.mem_cons_of_mem _ hq)
  | case4 p q ps hpair ih =>
    have hrest := fun q hq => h q (List.mem_cons_of_mem _ hq)
    refine (ih hrest fun q hq => hhigh q (List.mem_cons_of_mem _ hq)).cons ?_
    rw [hhigh p List.mem_cons_self]
    refine isLow_head?_joinPairs hrest ?_
    rintro _ ⟨⟩
    exact Bool.not_eq_true _ ▸ hpair

theorem isRaw_ofUnit (n : Nat) : (Piece.ofUnit n).isRaw = false := by
  unfold Piece.ofUnit
  split <;> rfl

theorem Spells.isRaw (h : Spells t ps) (hchars : ∀ s ∈ t, s.isSurrogate = false) :
    ∀ p ∈ ps, p.isRaw = false := by
  induction h with
  | nil => exact List.forall_mem_nil _
  | plain _ _ _ _ ih =>
    obtain ⟨hs, hrest⟩ := List.forall_mem_cons.1 hchars
    exact List.forall_mem_cons.2 ⟨hs, ih hrest⟩
  | short _ _ ih =>
    exact List.forall_mem_cons.2 ⟨rfl, ih fun s hs => hchars s (by simp [hs])⟩
  | unit _ _ ih =>
    exact List.forall_mem_cons.2 ⟨isRaw_ofUnit _, ih fun s hs => hchars s (by simp [hs])⟩

/-! ## Writing -/

/-- The pieces that a symbol is written with. -/
def Symbol.pieces : Symbol → List Piece
  | char c =>
    if c.toNat < 0x10000 then [.symbol (.char c)]
    else [.ofUnit (0xd800 + (c.toNat - 0x10000) / 0x400),
      .ofUnit (0xdc00 + (c.toNat - 0x10000) % 0x400)]
  | surrogate offset => [.half offset]

theorem hexValue?_hexDigit : ∀ d < 16, hexValue? (.char (Text.hexDigit d)) = some d := by decide

theorem spells_unitEscape {n : Nat} (h : n < 0x10000) :
    Spells (ofChars (unitEscape n)) [.ofUnit n] := by
  have hunit : unit? (.char (Text.hexDigit (n / 16 / 16 / 16 % 16)))
      (.char (Text.hexDigit (n / 16 / 16 % 16))) (.char (Text.hexDigit (n / 16 % 16)))
      (.char (Text.hexDigit (n % 16))) = some n := by
    simp only [unit?, hexValue?_hexDigit _ (Nat.mod_lt _ (by decide)), Option.bind_eq_bind,
      Option.bind_some, Option.some.injEq]
    omega
  exact .unit hunit .nil

theorem toNat_bounds (c : Char) : c.toNat < 0xd800 ∨ 0xdfff < c.toNat ∧ c.toNat < 0x110000 :=
  c.valid

theorem ofUnit_toNat (c : Char) : Piece.ofUnit c.toNat = .symbol (.char c) := by
  have hvalid : ¬ (0xd800 ≤ c.toNat ∧ c.toNat < 0xe000) := by
    have := toNat_bounds c
    omega
  rw [Piece.ofUnit, dif_neg hvalid, Char.ofNat_toNat]

theorem ofUnit_of_half {n : Nat} (h : 0xd800 ≤ n ∧ n < 0xe000) :
    Piece.ofUnit n = .half ⟨n - 0xd800, Nat.sub_lt_left_of_lt_add h.1 h.2⟩ := dif_pos h

theorem ofUnit_add (offset : Fin 0x800) : Piece.ofUnit (0xd800 + offset.val) = .half offset := by
  rw [ofUnit_of_half (by omega), Piece.half.injEq, Fin.ext_iff]
  exact Nat.add_sub_cancel_left _ _

theorem code_ofUnit {n : Nat} (h : 0xd800 ≤ n ∧ n < 0xe000) :
    (Piece.ofUnit n).toSymbol.code = n := by
  rw [ofUnit_of_half h]
  exact Nat.add_sub_cancel' h.1

theorem isHigh_ofUnit {n : Nat} (h : 0xd800 ≤ n ∧ n < 0xe000) :
    (Piece.ofUnit n).isHigh = decide (n < 0xdc00) := by
  rw [ofUnit_of_half h, Piece.isHigh, decide_eq_decide]
  dsimp only
  omega

theorem isLow_ofUnit {n : Nat} (h : 0xd800 ≤ n ∧ n < 0xe000) :
    (Piece.ofUnit n).isLow = decide (0xdc00 ≤ n) := by
  rw [ofUnit_of_half h, Piece.isLow, decide_eq_decide]
  dsimp only
  omega

theorem pieces_of_lt {c : Char} (h : c.toNat < 0x10000) :
    (Symbol.char c).pieces = [.symbol (.char c)] := if_pos h

theorem pieces_of_le {c : Char} (h : 0x10000 ≤ c.toNat) : (Symbol.char c).pieces =
    [.ofUnit (0xd800 + (c.toNat - 0x10000) / 0x400),
      .ofUnit (0xdc00 + (c.toNat - 0x10000) % 0x400)] :=
  if_neg (Nat.not_lt.2 h)

theorem spells_escapeSymbol_of_short : ∀ c ∈ ['"', '\\', '\n', '\r', '\t', '\x0c', '\x08'],
    Spells (ofChars (escapeSymbol (.char c))) (Symbol.char c).pieces := by
  simp only [List.forall_mem_cons, List.not_mem_nil, false_implies, forall_const, and_true]
  exact ⟨.short rfl .nil, .short rfl .nil, .short rfl .nil, .short rfl .nil, .short rfl .nil,
    .short rfl .nil, .short rfl .nil⟩

theorem spells_escapeSymbol (s : Symbol) : Spells (ofChars (escapeSymbol s)) s.pieces := by
  cases s with
  | surrogate offset =>
    have hunit := spells_unitEscape (n := 0xd800 + offset.val) (by omega)
    rwa [ofUnit_add] at hunit
  | char c =>
    have hbounds := toNat_bounds c
    by_cases hshort : c ∈ ['"', '\\', '\n', '\r', '\t', '\x0c', '\x08']
    · exact spells_escapeSymbol_of_short c hshort
    · simp only [List.mem_cons, List.not_mem_nil, or_false, not_or] at hshort
      obtain ⟨hquote, hescape, hn, hr, ht, hf, hb⟩ := hshort
      simp only [escapeSymbol, Symbol.pieces, if_neg hquote, if_neg hescape, if_neg hn, if_neg hr,
        if_neg ht, if_neg hf, if_neg hb]
      split
      · next h =>
        simp only [Bool.and_eq_true, decide_eq_true_eq] at h
        rw [if_pos (by omega)]
        exact .plain h.1 (by simpa using hquote) (by simpa using hescape) .nil
      split
      · next h => exact ofUnit_toNat c ▸ spells_unitEscape h
      · next h =>
        rw [Text.ofChars_append]
        exact (spells_unitEscape (by omega)).append (spells_unitEscape (by omega))

/-- The halves of a character are joined again, whatever stands behind them. -/
theorem joinPairs_pieces_char (c : Char) (ps : List Piece) :
    joinPairs ((Symbol.char c).pieces ++ ps) = .char c :: joinPairs ps := by
  have hbounds := toNat_bounds c
  by_cases hc : c.toNat < 0x10000
  · rw [pieces_of_lt hc]
    exact joinPairs_symbol
  · have hsum : 0x10000 + (0xd800 + (c.toNat - 0x10000) / 0x400 - 0xd800) * 0x400 +
        (0xdc00 + (c.toNat - 0x10000) % 0x400 - 0xdc00) = c.toNat := by omega
    rw [pieces_of_le (Nat.le_of_not_lt hc), List.cons_append, List.cons_append, List.nil_append,
      joinPairs, if_pos, pairChar, code_ofUnit (by omega), code_ofUnit (by omega), hsum,
      Char.ofNat_toNat]
    rw [isHigh_ofUnit (by omega), isLow_ofUnit (by omega), Bool.and_eq_true, decide_eq_true_eq,
      decide_eq_true_eq]
    omega

theorem isLow_head?_pieces (s : Symbol) : ∀ p ∈ s.pieces.head?, p.isLow = s.isLow := by
  cases s with
  | surrogate offset =>
    rintro _ ⟨⟩
    rfl
  | char c =>
    have hbounds := toNat_bounds c
    by_cases hc : c.toNat < 0x10000
    · rw [pieces_of_lt hc]
      rintro _ ⟨⟩
      rfl
    · rw [pieces_of_le (Nat.le_of_not_lt hc)]
      rintro _ ⟨⟩
      rw [isLow_ofUnit (by omega), Symbol.isLow, decide_eq_false_iff_not]
      omega

theorem pieces_ne_nil (s : Symbol) : s.pieces ≠ [] := by
  unfold Symbol.pieces
  split
  · split <;> exact List.cons_ne_nil _ _
  · exact List.cons_ne_nil _ _

theorem isLow_head?_flatMap_pieces (h : ∀ u ∈ t.head?, (s.isHigh && u.isLow) = false) :
    ∀ q ∈ (t.flatMap Symbol.pieces).head?, (s.isHigh && q.isLow) = false := by
  cases t with
  | nil => exact fun _ hq => by cases hq
  | cons u t =>
    rw [List.flatMap_cons, List.head?_append_of_ne_nil _ (pieces_ne_nil u)]
    intro q hq
    rw [isLow_head?_pieces u q hq]
    exact h u rfl

/-- What a text is written with is read as the text with its halves joined. -/
theorem joinPairs_flatMap_pieces : ∀ t : Text, joinPairs (t.flatMap Symbol.pieces) = t.paired
  | [] => rfl
  | .char c :: t => by
    rw [List.flatMap_cons, joinPairs_pieces_char, joinPairs_flatMap_pieces t]
    exact (Text.paired_cons fun _ _ => rfl).symm
  | .surrogate high :: t => by
    by_cases hpair : ∀ u ∈ t.head?, ((Symbol.surrogate high).isHigh && u.isLow) = false
    · rw [Text.paired_cons hpair, ← joinPairs_flatMap_pieces t]
      exact joinPairs_cons (p := .half high) (isLow_head?_flatMap_pieces hpair)
    · simp only [not_forall, Bool.not_eq_false] at hpair
      obtain ⟨u, hu, hpair⟩ := hpair
      obtain ⟨t, rfl⟩ := List.head?_eq_some_iff.1 (Option.mem_def.1 hu)
      cases u with
      | char c => cases (Bool.and_false _).symm.trans hpair
      | surrogate low =>
        rw [Text.paired_of_pair hpair, ← joinPairs_flatMap_pieces t]
        exact if_pos hpair

/-- A text is written as a spelling of itself with its halves joined. -/
theorem exists_spells_printText (t : Text) :
    ∃ p ps, printText t = '"' :: p ++ ['"'] ∧ Spells (ofChars p) ps ∧ t.paired = joinPairs ps := by
  refine ⟨t.flatMap escapeSymbol, t.flatMap Symbol.pieces, rfl, ?_,
    (joinPairs_flatMap_pieces t).symm⟩
  induction t with
  | nil => exact .nil
  | cons s t ih =>
    rw [List.flatMap_cons, Text.ofChars_append, List.flatMap_cons]
    exact (spells_escapeSymbol s).append ih

end RequestSigning.Json
