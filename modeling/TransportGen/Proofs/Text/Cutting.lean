import TransportGen.TypeText

/-!
# Texts cut at a pattern

* `trim_eq_self`: a text without blanks at its ends is not trimmed.
* `append_cons_eq_append_cons_iff`: the two ways to cut a text at one separator.
* `splitFirst_append`, `splitAt?_append`: a text is cut where a pattern stands first, and
  `exists_of_splitFirst` nowhere else.
* `lastSegment_append`: the last name of a path.
-/

namespace TransportGen

/-! ## Blanks at the ends -/

theorem dropWhile_eq_self {s : List Char} (h : ∀ c ∈ s.head?, Text.isBlank c = false) :
    s.dropWhile Text.isBlank = s := by
  cases s with
  | nil => rfl
  | cons c s =>
    have hc : ¬Text.isBlank c = true := by
      rw [h c rfl]
      exact Bool.false_ne_true
    rw [List.dropWhile_cons_of_neg hc]

theorem trim_eq_self {s : List Char} (hfirst : ∀ c ∈ s.head?, Text.isBlank c = false)
    (hlast : ∀ c ∈ s.getLast?, Text.isBlank c = false) : Text.trim s = s := by
  have hend : s.reverse.dropWhile Text.isBlank = s.reverse := by
    apply dropWhile_eq_self
    rw [List.head?_reverse]
    exact hlast
  rw [Text.trim, Text.trimStart, dropWhile_eq_self hfirst, Text.trimEnd, hend, List.reverse_reverse]

theorem trim_of_forall_not {s : List Char} (h : ∀ c ∈ s, Text.isBlank c = false) :
    Text.trim s = s := by
  apply trim_eq_self
  · intro c hc
    exact h c (List.mem_of_head? hc)
  · intro c hc
    exact h c (List.mem_of_getLast? hc)

theorem trim_blank_cons {c : Char} (hc : Text.isBlank c = true) (s : List Char) :
    Text.trim (c :: s) = Text.trim s := by
  rw [Text.trim, Text.trimStart, List.dropWhile_cons_of_pos hc]
  rfl

theorem trimStart_cons {c : Char} (hc : Text.isBlank c = false) (s : List Char) :
    Text.trimStart (c :: s) = c :: s := by
  apply dropWhile_eq_self
  rintro d ⟨⟩
  exact hc

/-- The blanks at the end of a text come after its last other character. -/
theorem trimEnd_append_cons {c : Char} (hc : Text.isBlank c = false) (a s : List Char) :
    Text.trimEnd (a ++ c :: s) = a ++ c :: Text.trimEnd s := by
  have hkeep : (c :: a.reverse).dropWhile Text.isBlank = c :: a.reverse := by
    apply dropWhile_eq_self
    rintro d ⟨⟩
    exact hc
  have hreverse : (a ++ c :: s).reverse = s.reverse ++ c :: a.reverse := by simp
  rw [Text.trimEnd, hreverse, List.dropWhile_append, hkeep, Text.trimEnd]
  split
  · rename_i hempty
    rw [List.isEmpty_iff.1 hempty]
    simp
  · simp

/-! ## Cutting -/

/-- The two sides are cut at one separator, or one of them at an earlier one than the other. -/
theorem append_cons_eq_append_cons_iff {α : Type} {c : α} {a b s t : List α} :
    a ++ c :: s = b ++ c :: t ↔ (a = b ∧ s = t) ∨
      (∃ mid, b = a ++ c :: mid ∧ s = mid ++ c :: t) ∨
      ∃ mid, a = b ++ c :: mid ∧ t = mid ++ c :: s := by
  constructor
  · intro h
    rcases List.append_eq_append_iff.1 h with ⟨mid, hb, hs⟩ | ⟨mid, ha, ht⟩
    · cases mid with
      | nil =>
        rw [List.append_nil] at hb
        exact Or.inl ⟨hb.symm, (List.cons.inj hs).2⟩
      | cons d mid =>
        obtain ⟨rfl, hrest⟩ := List.cons.inj hs
        exact Or.inr (Or.inl ⟨mid, hb, hrest⟩)
    · cases mid with
      | nil =>
        rw [List.append_nil] at ha
        exact Or.inl ⟨ha, (List.cons.inj ht).2.symm⟩
      | cons d mid =>
        obtain ⟨rfl, hrest⟩ := List.cons.inj ht
        exact Or.inr (Or.inr ⟨mid, ha, hrest⟩)
  · rintro (⟨rfl, rfl⟩ | ⟨mid, rfl, rfl⟩ | ⟨mid, rfl, rfl⟩)
    · rfl
    · rw [List.append_assoc, List.cons_append]
    · rw [List.append_assoc, List.cons_append]

/-- Texts without a separator end where it stands first. -/
theorem append_cons_inj {α : Type} {c : α} {a b s t : List α} (ha : c ∉ a) (hb : c ∉ b)
    (h : a ++ c :: s = b ++ c :: t) : a = b ∧ s = t := by
  rcases append_cons_eq_append_cons_iff.1 h with heq | ⟨mid, rfl, -⟩ | ⟨mid, rfl, -⟩
  · exact heq
  · exact absurd (List.mem_append_right a List.mem_cons_self) hb
  · exact absurd (List.mem_append_right b List.mem_cons_self) ha

theorem splitFirst_append {p : Char → Bool} {c : Char} {a : List Char}
    (ha : ∀ d ∈ a, p d = false) (hc : p c = true) (b : List Char) :
    Text.splitFirst p (a ++ c :: b) = some (a, b) := by
  induction a with
  | nil => rw [List.nil_append, Text.splitFirst, if_pos hc]
  | cons d a ih =>
    rw [List.forall_mem_cons] at ha
    have hd : ¬p d = true := by
      rw [ha.1]
      exact Bool.false_ne_true
    rw [List.cons_append, Text.splitFirst, if_neg hd, ih ha.2]
    rfl

/-- Where a text is cut, there is a character to cut at and none before it. -/
theorem exists_of_splitFirst {p : Char → Bool} {s a b : List Char}
    (h : Text.splitFirst p s = some (a, b)) :
    ∃ c, p c = true ∧ s = a ++ c :: b ∧ ∀ d ∈ a, p d = false := by
  induction s generalizing a with
  | nil => cases h
  | cons c s ih =>
    rw [Text.splitFirst] at h
    split at h
    · rename_i hc
      cases h
      exact ⟨c, hc, rfl, List.forall_mem_nil _⟩
    · rename_i hc
      obtain ⟨⟨before, after⟩, hsplit, heq⟩ := Option.map_eq_some_iff.1 h
      cases heq
      obtain ⟨d, hd, rfl, hbefore⟩ := ih hsplit
      exact ⟨d, hd, rfl, List.forall_mem_cons.2 ⟨Bool.eq_false_iff.2 hc, hbefore⟩⟩

theorem splitFirst_of_forall_not {p : Char → Bool} {s : List Char} (h : ∀ c ∈ s, p c = false) :
    Text.splitFirst p s = none := by
  rw [Option.eq_none_iff_forall_ne_some]
  rintro ⟨a, b⟩ hsplit
  obtain ⟨c, hc, rfl, -⟩ := exists_of_splitFirst hsplit
  rw [h c (List.mem_append_right a List.mem_cons_self)] at hc
  exact Bool.noConfusion hc

theorem forall_not_of_splitFirst {p : Char → Bool} {s : List Char}
    (h : Text.splitFirst p s = none) : ∀ c ∈ s, p c = false := by
  induction s with
  | nil => exact List.forall_mem_nil _
  | cons c s ih =>
    rw [Text.splitFirst] at h
    split at h
    · cases h
    · rename_i hc
      exact List.forall_mem_cons.2 ⟨Bool.eq_false_iff.2 hc, ih (Option.map_eq_none_iff.1 h)⟩

theorem splitAt?_append {c : Char} {pattern a : List Char} (h : c ∉ a) (b : List Char) :
    Text.splitAt? (c :: pattern) (a ++ (c :: pattern ++ b)) = some (a, b) := by
  induction a with
  | nil =>
    have hstart : Text.stripStart? (c :: pattern) (c :: (pattern ++ b)) = some b :=
      Text.stripStart?_eq_some_iff.2 rfl
    simp only [List.nil_append, List.cons_append, Text.splitAt?, hstart]
  | cons x a ih =>
    rw [List.mem_cons, not_or] at h
    have hstart : Text.stripStart? (c :: pattern) (x :: (a ++ (c :: pattern ++ b))) = none := by
      rw [Text.stripStart?, if_neg h.1]
    rw [List.cons_append, Text.splitAt?, hstart]
    simp only [ih h.2, Option.map_some]

theorem splitAt?_of_not_mem {c : Char} {pattern s : List Char} (h : c ∉ s) :
    Text.splitAt? (c :: pattern) s = none := by
  induction s with
  | nil => rfl
  | cons x s ih =>
    rw [List.mem_cons, not_or] at h
    have hstart : Text.stripStart? (c :: pattern) (x :: s) = none := by
      rw [Text.stripStart?, if_neg h.1]
    rw [Text.splitAt?, hstart]
    simp only [ih h.2, Option.map_none]

/-! ## Paths -/

theorem lastSegment_append (owner : String) {name : String} (h : ':' ∉ name.toList) :
    lastSegment (owner ++ "::" ++ name) = name := by
  have hpattern : "::".toList.reverse = [':', ':'] := by decide
  have hpath : (owner ++ "::" ++ name).toList.reverse =
      name.toList.reverse ++ ([':', ':'] ++ owner.toList.reverse) := by simp
  have hsplit : Text.splitLast? "::".toList (owner ++ "::" ++ name).toList =
      some (owner.toList, name.toList) := by
    rw [Text.splitLast?, hpattern, hpath, splitAt?_append (by simpa using h)]
    simp
  rw [lastSegment, hsplit]
  exact String.ofList_toList

theorem lastSegment_eq_self {name : String} (h : ':' ∉ name.toList) : lastSegment name = name := by
  have hpattern : "::".toList.reverse = [':', ':'] := by decide
  have hsplit : Text.splitLast? "::".toList name.toList = none := by
    rw [Text.splitLast?, hpattern, splitAt?_of_not_mem (by simpa using h)]
    rfl
  rw [lastSegment, hsplit]

end TransportGen
