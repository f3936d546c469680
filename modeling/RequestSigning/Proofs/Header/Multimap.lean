import RequestSigning.Header.Multimap

/-!
# Multimaps through their values

What removing, adding and setting do to the values of every name. Two multimaps with the same values
under every name differ in order and spelling only.
-/

namespace RequestSigning.Header

@[simp] theorem sameName_self (name : String) : sameName name name = true := by simp [sameName]

theorem sameName_iff {a b : String} : sameName a b = true ↔ Text.lower a = Text.lower b := by
  simp [sameName]

theorem sameName_comm (a b : String) : sameName a b = sameName b a := by
  rw [Bool.eq_iff_iff, sameName_iff, sameName_iff]
  exact eq_comm

theorem sameName_congr_left {a b : String} (h : sameName a b = true) (c : String) :
    sameName a c = sameName b c := by
  unfold sameName
  rw [sameName_iff.1 h]

@[simp] theorem lower_uid : Text.lower uid = "x-emc-uid" := rfl

@[simp] theorem lower_signature : Text.lower signature = "x-emc-signature" := rfl

@[simp] theorem lower_date : Text.lower date = "date" := rfl

@[simp] theorem lower_range : Text.lower range = "range" := rfl

@[simp] theorem lower_contentType : Text.lower contentType = "content-type" := rfl

@[simp] theorem lower_customStart : Text.lower customStart = customStart := rfl

namespace Multimap

variable (m : Multimap)

theorem getAll_congr_name {a b : String} (h : sameName a b = true) : m.getAll a = m.getAll b := by
  unfold getAll
  congr 2
  funext e
  rw [sameName_comm e.1 a, sameName_comm e.1 b, sameName_congr_left h]

theorem getFirst?_congr {m m' : Multimap} {a b : String} (h : m.getAll a = m'.getAll b) :
    m.getFirst? a = m'.getFirst? b := by
  rw [getFirst?_eq_head?, getFirst?_eq_head?, h]

theorem contains_iff (name : String) : m.contains name = true ↔ m.getAll name ≠ [] := by
  unfold contains
  rw [getFirst?_eq_head?]
  cases m.getAll name <;> simp

theorem getAll_cons (e : String × String) (entries : List (String × String)) (name : String) :
    getAll ⟨e :: entries⟩ name =
      if sameName e.1 name then e.2 :: getAll ⟨entries⟩ name else getAll ⟨entries⟩ name := by
  unfold getAll
  rw [List.filter_cons]
  by_cases h : sameName e.1 name = true <;> simp [h]

theorem entries_remove (name : String) : (m.remove name).entries =
    m.entries.filter fun e => Text.lower e.1 ≠ Text.lower name := by
  change m.entries.filter _ = _
  congr 1
  funext e
  by_cases he : Text.lower e.1 = Text.lower name <;> simp [sameName, he]

theorem getAll_remove (name other : String) :
    (m.remove name).getAll other = if sameName name other then [] else m.getAll other := by
  unfold remove getAll
  rw [List.filter_filter]
  by_cases h : sameName name other = true
  · rw [if_pos h, List.filter_eq_nil_iff.2, List.map_nil]
    intro e _
    simp [sameName_comm e.1, sameName_congr_left h]
  · rw [if_neg h]
    congr 2
    funext e
    by_cases he : sameName e.1 other = true
    · have hn : sameName e.1 name = false := by
        rw [sameName_congr_left he, sameName_comm]
        exact Bool.eq_false_iff.2 h
      simp [he, hn]
    · simp [he]

theorem getAll_remove_push (name value other : String) :
    ((m.remove name).push name value).getAll other =
      if sameName name other then [value] else m.getAll other := by
  rw [getAll_push, getAll_remove]
  by_cases h : sameName name other = true <;> simp [h]

theorem remove_push (n value name : String) :
    (m.push n value).remove name =
      if sameName n name then m.remove name else (m.remove name).push n value := by
  unfold push remove
  rw [List.filter_append]
  by_cases h : sameName n name = true <;> simp [h]

theorem remove_push_self (name value : String) :
    (m.push name value).remove name = m.remove name := by
  rw [remove_push, if_pos (sameName_self name)]

theorem remove_comm (a b : String) : (m.remove a).remove b = (m.remove b).remove a := by
  unfold remove
  rw [List.filter_filter, List.filter_filter]
  congr 2
  funext e
  rw [Bool.and_comm]

theorem getAll_eq_nil_iff {m : Multimap} {name : String} :
    m.getAll name = [] ↔ ∀ e ∈ m.entries, Text.lower e.1 ≠ Text.lower name := by
  unfold getAll
  simp only [List.map_eq_nil_iff, List.filter_eq_nil_iff, sameName_iff, Ne]

theorem remove_eq_self {name : String} (h : m.getAll name = []) : m.remove name = m := by
  have hnone : ∀ e ∈ m.entries, sameName e.1 name = false := fun e he =>
    Bool.eq_false_iff.2 fun hsame => getAll_eq_nil_iff.1 h e he (sameName_iff.1 hsame)
  unfold remove
  congr 1
  apply List.filter_eq_self.2
  intro e he
  simp [hnone e he]

theorem add_empty (value : Value) : m.add (.text "") value = .error .emptyName := rfl

/-- Under a name that is not empty a text is added. -/
theorem add_text {name : String} (hn : name ≠ "") (value : String) :
    m.add (.text name) (.text value) = .ok (m.push name value) := by
  unfold add
  exact if_neg hn

/-- Nothing but a text is. -/
theorem add_of_text?_eq_none {name : String} (hn : name ≠ "") {value : Value}
    (hv : value.text? = none) : m.add (.text name) value = .error (.valueNotText name) := by
  unfold add
  cases value with
  | text s => cases hv
  | _ => exact if_neg hn

theorem set_text {name : String} (hn : name ≠ "") (value : String) :
    m.set name (.text value) = .ok ((m.remove name).push name value) :=
  (m.remove name).add_text hn value

theorem set_of_text?_eq_none {name : String} (hn : name ≠ "") {value : Value}
    (hv : value.text? = none) : m.set name value = .error (.valueNotText name) :=
  (m.remove name).add_of_text?_eq_none hn hv

end Multimap

end RequestSigning.Header
