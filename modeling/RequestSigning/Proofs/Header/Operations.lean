import Mathlib.Data.List.Induction
import Mathlib.Logic.Function.Basic
import RequestSigning.Proofs.Header.Firsts

/-!
# Operations on multimaps

A multimap is a list, but what it shows is a map: under every name in lower case a list of values.
Each operation is one change of this map, so is every run of them, and the list only adds in which
order the entries stand and how their names are spelled.
-/

namespace RequestSigning.Header

/-- The entry of a name and a value, if both are accepted. -/
def pair? (name value : Value) : Option (String × String) :=
  match name, value with
  | .text n, .text v => if n = "" then none else some (n, v)
  | _, _ => none

theorem pair?_eq_some_iff {name value : Value} {e : String × String} :
    pair? name value = some e ↔ name = .text e.1 ∧ e.1 ≠ "" ∧ value = .text e.2 := by
  obtain ⟨n, v⟩ := e
  cases name <;> cases value <;> simp [pair?]
  grind

/-- The entries of these values under one name, up to the first that is refused. -/
def accepted (name : Value) : List Value → List (String × String)
  | [] => []
  | v :: vs =>
    match pair? name v with
    | some e => e :: accepted name vs
    | none => []

/-- What a mapping holds under a name: a text is one value, anything else a row of values. -/
def row? : Value → Option (List Value)
  | .text v => some [.text v]
  | value => value.elements?

/-- The entries of a mapping, if all its values are accepted. -/
def mappingEntries? : List (Value × Value) → Option (List (String × String))
  | [] => some []
  | (name, value) :: rest => do
    let values ← row? value
    let behind ← mappingEntries? rest
    if (accepted name values).length = values.length then some (accepted name values ++ behind)
    else none

theorem of_mem_accepted {name : Value} {values : List Value} {e : String × String}
    (h : e ∈ accepted name values) : name = .text e.1 ∧ e.1 ≠ "" := by
  induction values with
  | nil => exact absurd h List.not_mem_nil
  | cons v vs ih =>
    unfold accepted at h
    cases hv : pair? name v with
    | none => simp [hv] at h
    | some e' =>
      rw [hv] at h
      rcases List.mem_cons.1 h with rfl | hrest
      · obtain ⟨hname, hne, -⟩ := pair?_eq_some_iff.1 hv
        exact ⟨hname, hne⟩
      · exact ih hrest

theorem map_name_accepted (name : String) (values : List Value) :
    ((accepted (.text name) values).map (·.2)).map (name, ·) = accepted (.text name) values := by
  rw [List.map_map]
  conv_rhs => rw [← List.map_id (accepted (.text name) values)]
  refine List.map_congr_left fun e he => ?_
  obtain rfl := Data.text.inj (of_mem_accepted he).1
  rfl

/-- What is accepted are the first values. -/
theorem accepted_initial (name : Value) (values : List Value) :
    ((accepted name values).map (·.2)).map .text <+: values := by
  induction values with
  | nil => exact List.nil_prefix
  | cons v vs ih =>
    unfold accepted
    cases hv : pair? name v with
    | none => exact List.nil_prefix
    | some e =>
      obtain ⟨-, -, rfl⟩ := pair?_eq_some_iff.1 hv
      exact List.cons_prefix_cons.2 ⟨rfl, ih⟩

theorem accepted_texts {name : String} (hn : name ≠ "") (texts : List String) :
    (accepted (.text name) (texts.map .text)).map (·.2) = texts := by
  induction texts with
  | nil => rfl
  | cons v vs ih => simp [accepted, pair?, hn, ih]

namespace Multimap

variable (m : Multimap)

theorem add_of_pair?_eq_some {name value : Value} {e : String × String}
    (h : pair? name value = some e) :
    m.add name value = .ok (m.push e.1 e.2) := by
  obtain ⟨rfl, hn, rfl⟩ := pair?_eq_some_iff.1 h
  exact m.add_text hn e.2

/-- Refusing depends on the parts only. -/
theorem add_of_pair?_eq_none {name value : Value} (h : pair? name value = none) :
    ∃ e, ∀ m : Multimap, m.add name value = .error e := by
  cases name with
  | text n =>
    by_cases hn : n = ""
    · exact ⟨.emptyName, fun m => hn ▸ m.add_empty value⟩
    · have hv : value.text? = none := by
        cases value with
        | text v => simp [pair?, hn] at h
        | _ => rfl
      exact ⟨.valueNotText n, fun m => m.add_of_text?_eq_none hn hv⟩
  | _ => exact ⟨.emptyName, fun _ => rfl⟩

theorem add_eq_error_congr (m' : Multimap) {name value : Value} {err : Error}
    (h : m.add name value = .error err) : m'.add name value = .error err := by
  cases hpair : pair? name value with
  | some e => simp [m.add_of_pair?_eq_some hpair] at h
  | none =>
    obtain ⟨err', herr⟩ := add_of_pair?_eq_none hpair
    rw [← h, herr, herr]

/-! ## Rows of values -/

/-- Adding stops at the first value that is refused, with its error; what comes before it stays. -/
theorem addAll_cases (name : Value) (values : List Value) :
    ((accepted name values).length = values.length ∧
      m.addAll name values = (⟨m.entries ++ accepted name values⟩, none)) ∨
    ∃ bad err, values[(accepted name values).length]? = some bad ∧ m.add name bad = .error err ∧
      m.addAll name values = (⟨m.entries ++ accepted name values⟩, some err) := by
  induction values generalizing m with
  | nil => exact Or.inl ⟨rfl, by simp [addAll, accepted]⟩
  | cons v vs ih =>
    unfold addAll accepted
    cases h : pair? name v with
    | some e =>
      have hentries : (m.push e.1 e.2).entries ++ accepted name vs =
          m.entries ++ e :: accepted name vs := by
        simp [push]
      simp only [m.add_of_pair?_eq_some h, ← hentries]
      rcases ih (m.push e.1 e.2) with ⟨hlength, hadded⟩ | ⟨bad, err, hbad, hadd, hadded⟩
      · exact Or.inl ⟨by simp [hlength], hadded⟩
      · refine Or.inr ⟨bad, err, by simpa using hbad, ?_, hadded⟩
        exact (m.push e.1 e.2).add_eq_error_congr m hadd
    | none =>
      obtain ⟨err, herr⟩ := add_of_pair?_eq_none h
      exact Or.inr ⟨v, err, rfl, herr m, by simp [herr m]⟩

theorem addAll_fst (name : Value) (values : List Value) :
    (m.addAll name values).1 = ⟨m.entries ++ accepted name values⟩ := by
  rcases m.addAll_cases name values with ⟨-, hadded⟩ | ⟨bad, err, -, -, hadded⟩
  all_goals rw [hadded]

/-! ## Mappings -/

theorem addMapping_cons (name value : Value) (rest : List (Value × Value)) :
    m.addMapping ((name, value) :: rest) =
      match row? value with
      | none => .error .wrongKind
      | some values =>
        match m.addAll name values with
        | (m', none) => m'.addMapping rest
        | (_, some e) => .error (.invalid (.header e)) := by
  cases value with
  | text v =>
    simp only [addMapping, row?, addAll]
    cases m.add name (.text v) <;> rfl
  | _ => rfl

theorem addMapping_eq_ok_iff {m m' : Multimap} {entries : List (Value × Value)} :
    m.addMapping entries = .ok m' ↔
      ∃ es, mappingEntries? entries = some es ∧ m' = ⟨m.entries ++ es⟩ := by
  induction entries generalizing m with
  | nil => simp [addMapping, mappingEntries?, eq_comm]
  | cons first rest ih =>
    obtain ⟨name, value⟩ := first
    rw [addMapping_cons]
    unfold mappingEntries?
    cases row? value with
    | none => simp
    | some values =>
      rcases m.addAll_cases name values with ⟨hlength, hadded⟩ | ⟨bad, err, hbad, -, hadded⟩
      · simp only [hadded]
        rw [ih]
        cases mappingEntries? rest <;> simp [hlength]
      · have hshort : (accepted name values).length < values.length :=
          (List.getElem?_eq_some_iff.1 hbad).1
        simp only [hadded]
        cases mappingEntries? rest <;> simp [Nat.ne_of_lt hshort]

theorem ofMapping_eq_ok_iff {m : Multimap} {entries : List (Value × Value)} :
    ofMapping entries = .ok m ↔ mappingEntries? entries = some m.entries := by
  unfold ofMapping
  rw [addMapping_eq_ok_iff]
  obtain ⟨es⟩ := m
  simp [empty]

/-! ## Every header has a name -/

theorem Named.append {m : Multimap} (h : m.Named) {es : List (String × String)}
    (hes : ∀ e ∈ es, e.1 ≠ "") : Named ⟨m.entries ++ es⟩ := by
  intro e he
  exact (List.mem_append.1 he).elim (h e) (hes e)

theorem named_of_mappingEntries? {entries : List (Value × Value)} {es : List (String × String)}
    (h : mappingEntries? entries = some es) : Named ⟨es⟩ := by
  induction entries generalizing es with
  | nil => simp_all [mappingEntries?, Named]
  | cons first rest ih =>
    obtain ⟨name, value⟩ := first
    simp only [mappingEntries?, Option.bind_eq_bind, Option.bind_eq_some_iff] at h
    obtain ⟨values, -, behind, hbehind, h⟩ := h
    split at h
    · obtain rfl := Option.some.inj h
      intro e he
      exact (List.mem_append.1 he).elim (fun ha => (of_mem_accepted ha).2) (ih hbehind e)
    · cases h

theorem addEntries_texts (entries : List (String × String)) (h : ∀ e ∈ entries, e.1 ≠ "") :
    m.addEntries (entries.map fun e => (.text e.1, .text e.2)) = .ok ⟨m.entries ++ entries⟩ := by
  induction entries generalizing m with
  | nil => simp [addEntries]
  | cons e rest ih =>
    obtain ⟨hname, hrest⟩ := List.forall_mem_cons.1 h
    rw [List.map_cons, addEntries, add_text _ hname]
    change (m.push e.1 e.2).addEntries _ = _
    rw [ih _ hrest]
    simp [push]

/-- Nothing that is in a multimap is refused when it is added again. -/
theorem copy_eq {m : Multimap} (h : m.Named) : m.copy = .ok m :=
  addEntries_texts empty m.entries h

/-! ## Runs -/

/-- What changes a multimap or puts another one in its place. -/
inductive Operation
  | add (name value : Value)
  | replace (name : String) (values : List Value)
  | remove (name : String)
  | copy
  | ofMapping (entries : List (Value × Value))

/-- The multimap at hand after an operation; where nothing is made, it is the one before. -/
def after : Operation → Multimap
  | .add name value => (m.add name value).toOption.getD m
  | .replace name values => (m.replaceAll name values).1
  | .remove name => m.remove name
  | .copy => m.copy.toOption.getD m
  | .ofMapping entries => (ofMapping entries).toOption.getD m

/-- The multimap that operations lead to. -/
def reached (operations : List Operation) : Multimap := operations.foldl after empty

theorem after_add (name value : Value) :
    m.after (.add name value) = ((pair? name value).map fun e => m.push e.1 e.2).getD m := by
  unfold after
  cases h : pair? name value with
  | some e => simp [m.add_of_pair?_eq_some h, Except.toOption]
  | none =>
    obtain ⟨err, herr⟩ := add_of_pair?_eq_none h
    simp [herr m, Except.toOption]

theorem after_replace (name : String) (vs : List Value) :
    m.after (.replace name vs) = ⟨(m.remove name).entries ++ accepted (.text name) vs⟩ :=
  (m.remove name).addAll_fst (.text name) vs

theorem after_ofMapping (entries : List (Value × Value)) :
    m.after (.ofMapping entries) = ((mappingEntries? entries).map Multimap.mk).getD m := by
  unfold after
  dsimp only
  cases h : mappingEntries? entries with
  | some es => simp [(ofMapping_eq_ok_iff (m := ⟨es⟩)).2 h, Except.toOption]
  | none =>
    cases hread : ofMapping entries with
    | ok m' => simp [ofMapping_eq_ok_iff, h] at hread
    | error e => rfl

theorem after_copy {m : Multimap} (h : m.Named) : m.after .copy = m := by
  unfold after
  dsimp only
  rw [copy_eq h]
  rfl

theorem Named.after {m : Multimap} (h : m.Named) (op : Operation) : (m.after op).Named := by
  cases op with
  | add name value =>
    rw [after_add]
    cases hpair : pair? name value with
    | some e => exact h.push (pair?_eq_some_iff.1 hpair).2.1 e.2
    | none => exact h
  | replace name vs =>
    rw [after_replace]
    exact (h.remove name).append fun _ he => (of_mem_accepted he).2
  | remove name => exact h.remove name
  | copy =>
    rw [after_copy h]
    exact h
  | ofMapping entries =>
    rw [after_ofMapping]
    cases hes : mappingEntries? entries with
    | some es => exact named_of_mappingEntries? hes
    | none => exact h

theorem named_reached (operations : List Operation) : (reached operations).Named :=
  List.foldlRecOn operations Multimap.after (fun _ he => absurd he List.not_mem_nil)
    fun _ h op _ => h.after op

/-! ## The map that a multimap shows -/

/-- The values of the entries whose name in lower case is this key. -/
def values (key : String) : List String :=
  (m.entries.filter fun e => Text.lower e.1 == key).map (·.2)

theorem getAll_eq_values (name : String) : m.getAll name = m.values (Text.lower name) := rfl

/-- What an operation does to a map from names in lower case to rows of values. -/
def Operation.change (shown : String → List String) : Operation → String → List String
  | .add name value =>
    match pair? name value with
    | some e => Function.update shown (Text.lower e.1) (shown (Text.lower e.1) ++ [e.2])
    | none => shown
  | .replace name values =>
    Function.update shown (Text.lower name) ((accepted (.text name) values).map (·.2))
  | .remove name => Function.update shown (Text.lower name) []
  | .copy => shown
  | .ofMapping entries =>
    match mappingEntries? entries with
    | some es => Multimap.values ⟨es⟩
    | none => shown

/-- The map after operations, without any multimap. -/
def shown (operations : List Operation) : String → List String :=
  operations.foldl Operation.change fun _ => []

theorem values_append {name : String} {es : List (String × String)} (h : ∀ e ∈ es, e.1 = name) :
    values ⟨m.entries ++ es⟩ =
      Function.update m.values (Text.lower name) (m.values (Text.lower name) ++ es.map (·.2)) := by
  funext key
  unfold values
  rw [List.filter_append, List.map_append]
  by_cases hkey : key = Text.lower name
  · subst hkey
    have hall : es.filter (fun e => Text.lower e.1 == Text.lower name) = es := by
      rw [List.filter_eq_self]
      intro e he
      rw [h e he, beq_self_eq_true]
    rw [Function.update_self, hall]
  · have hnone : es.filter (fun e => Text.lower e.1 == key) = [] := by
      rw [List.filter_eq_nil_iff]
      intro e he hsame
      exact hkey (by rw [← beq_iff_eq.1 hsame, h e he])
    rw [Function.update_of_ne hkey, hnone, List.map_nil, List.append_nil]

theorem values_remove (name : String) :
    (m.remove name).values = Function.update m.values (Text.lower name) [] := by
  funext key
  unfold values remove
  rw [List.filter_filter]
  by_cases hkey : key = Text.lower name
  · subst hkey
    rw [Function.update_self, List.filter_eq_nil_iff.2, List.map_nil]
    simp [sameName]
  · rw [Function.update_of_ne hkey]
    congr 2
    funext e
    by_cases he : Text.lower e.1 = key
    · simp [sameName, he, hkey]
    · simp [he]

theorem values_replaceAll (name : String) (vs : List Value) :
    (m.replaceAll name vs).1.values =
      Function.update m.values (Text.lower name) ((accepted (.text name) vs).map (·.2)) := by
  have hname : ∀ e ∈ accepted (.text name) vs, e.1 = name := fun e he =>
    (Data.text.inj (of_mem_accepted he).1).symm
  unfold replaceAll
  rw [addAll_fst, values_append _ hname, values_remove]
  simp

/-- One operation changes the map of a multimap as it changes every map. -/
theorem values_after {m : Multimap} (h : m.Named) (op : Operation) :
    (m.after op).values = op.change m.values := by
  cases op with
  | add name value =>
    rw [after_add]
    dsimp only [Operation.change]
    cases pair? name value with
    | some e =>
      have hname : ∀ d ∈ [e], d.1 = e.1 := by simp
      exact m.values_append hname
    | none => rfl
  | replace name vs => exact m.values_replaceAll name vs
  | remove name => exact m.values_remove name
  | copy => exact congrArg values (after_copy h)
  | ofMapping entries =>
    rw [after_ofMapping]
    dsimp only [Operation.change]
    cases mappingEntries? entries <;> rfl

theorem values_reached (operations : List Operation) :
    (reached operations).values = shown operations := by
  induction operations using List.reverseRecOn with
  | nil => rfl
  | append_singleton operations op ih =>
    unfold reached shown
    rw [List.foldl_append, List.foldl_append]
    exact (values_after (named_reached operations) op).trans (congrArg op.change ih)

/-! ## The operations one by one -/

theorem getAll_replaceAll (name : String) (vs : List Value) (other : String) :
    (m.replaceAll name vs).1.getAll other =
      if Text.lower name = Text.lower other then (accepted (.text name) vs).map (·.2)
      else m.getAll other := by
  rw [getAll_eq_values, values_replaceAll, Function.update_apply]
  simp only [eq_comm, getAll_eq_values]

/-- Replacing succeeds exactly if all values are accepted. -/
theorem replaceAll_snd_eq_none_iff (name : String) (vs : List Value) :
    (m.replaceAll name vs).2 = none ↔ vs = ((accepted (.text name) vs).map (·.2)).map .text := by
  unfold replaceAll
  rcases (m.remove name).addAll_cases (.text name) vs with
    ⟨hlength, hadded⟩ | ⟨bad, err, hbad, -, hadded⟩
  · rw [hadded]
    refine ⟨fun _ => ?_, fun _ => rfl⟩
    exact ((accepted_initial (.text name) vs).eq_of_length (by simpa using hlength)).symm
  · have hshort : (accepted (.text name) vs).length < vs.length :=
      (List.getElem?_eq_some_iff.1 hbad).1
    rw [hadded]
    refine ⟨fun hnone => absurd hnone (Option.some_ne_none err), fun hvs => ?_⟩
    have hlength : vs.length = (accepted (.text name) vs).length := by
      simpa using congrArg List.length hvs
    omega

/-- If replacing is refused, it is for the value behind those that are accepted. -/
theorem replaceAll_snd_eq_some {name : String} {vs : List Value} {err : Error}
    (h : (m.replaceAll name vs).2 = some err) :
    ∃ bad, vs[(accepted (.text name) vs).length]? = some bad ∧
      m.add (.text name) bad = .error err := by
  unfold replaceAll at h
  rcases (m.remove name).addAll_cases (.text name) vs with
    ⟨-, hadded⟩ | ⟨bad, err', hbad, hadd, hadded⟩
  · simp [hadded] at h
  · obtain rfl : err' = err := by simpa [hadded] using h
    exact ⟨bad, hbad, (m.remove name).add_eq_error_congr m hadd⟩

/-- Whatever a replacement is asked for with, what it leaves is left by operations: by none without
a name, by a removal if there is no row of values. -/
theorem replaceGiven_reached (operations : List Operation) (name values : Value) :
    ∃ more, ((reached operations).replaceGiven name values).2 = reached (operations ++ more) := by
  unfold reached
  simp only [List.foldl_append]
  generalize operations.foldl after empty = m
  unfold replaceGiven
  cases needName name with
  | error e => exact ⟨[], rfl⟩
  | ok n =>
    dsimp only
    cases values.elements? with
    | none => exact ⟨[.remove n], rfl⟩
    | some vs =>
      refine ⟨[.replace n vs], ?_⟩
      change _ = (m.replaceAll n vs).1
      dsimp only
      rcases m.replaceAll n vs with ⟨left, _ | e⟩ <;> rfl

/-- A map from names in lower case to rows of values, held as a list of entries. -/
structure ActsAsMap : Prop where
  lowered : ∀ a b, Text.lower a = Text.lower b → m.getAll a = m.getAll b
  added : ∀ name value, name ≠ "" →
    ∃ m', m.add (.text name) (.text value) = .ok m' ∧ m'.entries = m.entries ++ [(name, value)] ∧
      ∀ other, m'.getAll other =
        if Text.lower name = Text.lower other then m.getAll other ++ [value] else m.getAll other
  /-- Anything but a text under a name that is a text and not empty is refused, and nothing
  changes. -/
  refused : ∀ name value, (¬ ∃ n v, n ≠ "" ∧ name = .text n ∧ value = .text v) →
    (∃ e, m.add name value = .error e) ∧ m.after (.add name value) = m
  /-- The values stand at the end, as many as come before the first that is refused. -/
  replaced : ∀ name vs, ∃ texts : List String, texts.map .text <+: vs ∧
    (m.replaceAll name vs).1.entries =
      (m.entries.filter fun e => Text.lower e.1 ≠ Text.lower name) ++ texts.map (name, ·) ∧
    (∀ other, (m.replaceAll name vs).1.getAll other =
      if Text.lower name = Text.lower other then texts else m.getAll other) ∧
    ((m.replaceAll name vs).2 = none ↔ vs = texts.map .text) ∧
    (∀ given : List String, name ≠ "" → vs = given.map .text → texts = given) ∧
    ∀ e, (m.replaceAll name vs).2 = some e →
      ∃ bad, vs[texts.length]? = some bad ∧ m.add (.text name) bad = .error e
  removed : ∀ name,
    (m.remove name).entries = (m.entries.filter fun e => Text.lower e.1 ≠ Text.lower name) ∧
    ∀ other, (m.remove name).getAll other =
      if Text.lower name = Text.lower other then [] else m.getAll other
  copied : m.copy = .ok m
  first : ∀ name, m.getFirst? name = (m.getAll name).head?
  contained : ∀ name, m.contains name = true ↔ m.getAll name ≠ []
  /-- A plain mapping has every name once, in the order in which the names are first seen. -/
  names_once : m.firsts.map (fun e => Text.lower e.1) =
    (m.entries.map fun e => Text.lower e.1).eraseDups
  first_entries : ∀ e ∈ m.firsts,
    m.entries.find? (fun d => Text.lower d.1 == Text.lower e.1) = some e

theorem actsAsMap_of_named {m : Multimap} (h : m.Named) : m.ActsAsMap where
  lowered a b hab := m.getAll_congr_name (sameName_iff.2 hab)
  added name value hn := by
    refine ⟨_, m.add_text hn value, rfl, fun other => ?_⟩
    rw [getAll_push]
    simp only [sameName_iff]
  refused name value hparts := by
    have hnone : pair? name value = none := by
      cases hpair : pair? name value with
      | none => rfl
      | some e =>
        obtain ⟨hname, hn, hvalue⟩ := pair?_eq_some_iff.1 hpair
        exact absurd ⟨e.1, e.2, hn, hname, hvalue⟩ hparts
    obtain ⟨e, he⟩ := add_of_pair?_eq_none hnone
    refine ⟨⟨e, he m⟩, ?_⟩
    rw [after_add, hnone]
    rfl
  replaced name vs := by
    refine ⟨(accepted (.text name) vs).map (·.2), accepted_initial (.text name) vs, ?_,
      m.getAll_replaceAll name vs, m.replaceAll_snd_eq_none_iff name vs, ?_, ?_⟩
    · rw [map_name_accepted, ← entries_remove]
      exact congrArg entries ((m.remove name).addAll_fst (.text name) vs)
    · rintro given hn rfl
      exact accepted_texts hn given
    · intro e he
      simpa using m.replaceAll_snd_eq_some he
  removed name := by
    refine ⟨m.entries_remove name, fun other => ?_⟩
    rw [getAll_remove]
    simp only [sameName_iff]
  copied := copy_eq h
  first := m.getFirst?_eq_head?
  contained := m.contains_iff
  names_once := m.lower_firsts
  first_entries _ he := m.find?_of_mem_firsts he

/-- Operations lead to a multimap that acts as a map, and the map is the one that they make by
themselves. -/
theorem reached_acts_as_map (operations : List Operation) :
    (reached operations).ActsAsMap ∧
      ∀ name, (reached operations).getAll name = shown operations (Text.lower name) := by
  refine ⟨actsAsMap_of_named (named_reached operations), fun name => ?_⟩
  rw [getAll_eq_values, values_reached]

example : (reached [.add (.text "A") (.text "1"), .add (.text "b") (.text "2"),
    .add (.text "") .null, .replace "a" [.text "x", .null, .text "y"], .copy]).entries =
    [("b", "2"), ("a", "x")] := by
  decide +kernel

end Multimap

end RequestSigning.Header
