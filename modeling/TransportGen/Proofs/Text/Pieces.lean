import TransportGen.Text.Blank

/-!
# Cutting texts at separators

`Text.pieces` is the splitting of lists at the elements that satisfy a test, so the laws of the
standard library hold for it (`pieces_eq_splitOnP`).
-/

namespace TransportGen.Text

theorem pieces_eq_splitOnP (p : Char → Bool) (s : List Char) : pieces p s = s.splitOnP p := by
  induction s with
  | nil => rfl
  | cons c s ih =>
    rw [pieces, List.splitOnP_cons_eq_if_modifyHead, ih]
    cases h : s.splitOnP p with
    | nil => exact absurd h (List.splitOnP_ne_nil p s)
    | cons w ws => rfl

theorem pieces_append_cons {p : Char → Bool} {c : Char} (hc : p c = true) (s t : List Char) :
    pieces p (s ++ c :: t) = pieces p s ++ pieces p t := by
  simp only [pieces_eq_splitOnP, List.splitOnP_append_cons s t hc]

theorem pieces_of_forall_not {p : Char → Bool} {s : List Char} (h : ∀ c ∈ s, p c = false) :
    pieces p s = [s] := by
  rw [pieces_eq_splitOnP]
  exact List.splitOnP_eq_singleton h

theorem pieces_of_not_mem {c : Char} {s : List Char} (h : c ∉ s) : pieces (· == c) s = [s] :=
  pieces_of_forall_not fun _ hd => beq_eq_false_iff_ne.2 (ne_of_mem_of_not_mem hd h)

theorem pieces_append_of_forall_not {p : Char → Bool} {a : List Char} (h : ∀ c ∈ a, p c = false)
    (s : List Char) : pieces p (a ++ s) = (pieces p s).modifyHead (a ++ ·) := by
  induction a with
  | nil => cases hs : pieces p s <;> simp [hs]
  | cons c a ih =>
    rw [List.forall_mem_cons] at h
    rw [List.cons_append, pieces_eq_splitOnP, List.splitOnP_cons_eq_if_modifyHead,
      ← pieces_eq_splitOnP, ih h.2, if_neg (by simp [h.1]), List.modifyHead_modifyHead]
    rfl

theorem forall_not_of_mem_pieces {p : Char → Bool} {s piece : List Char} (h : piece ∈ pieces p s) :
    ∀ c ∈ piece, p c = false := by
  induction s generalizing piece with
  | nil =>
    rw [pieces, List.mem_singleton] at h
    rw [h]
    exact List.forall_mem_nil _
  | cons c s ih =>
    rw [pieces] at h
    split at h
    · rcases List.mem_cons.1 h with rfl | h
      · exact List.forall_mem_nil _
      · exact ih h
    · rename_i hc
      have hc : p c = false := Bool.eq_false_iff.2 hc
      split at h
      · rw [List.mem_singleton] at h
        rw [h]
        exact List.forall_mem_singleton.2 hc
      · rename_i w ws hpieces
        rcases List.mem_cons.1 h with rfl | h
        · exact List.forall_mem_cons.2 ⟨hc, ih (hpieces ▸ List.mem_cons_self)⟩
        · exact ih (hpieces ▸ List.mem_cons_of_mem w h)

/-- The pieces of a text, with the separator between them, are the text. -/
theorem intercalate_pieces (c : Char) (s : List Char) : [c].intercalate (pieces (· == c) s) = s := by
  rw [pieces_eq_splitOnP]
  exact List.intercalate_splitOn c

theorem intercalate_append {c : Char} {xs ys : List (List Char)} (hxs : xs ≠ []) (hys : ys ≠ []) :
    [c].intercalate (xs ++ ys) = [c].intercalate xs ++ c :: [c].intercalate ys := by
  induction xs with
  | nil => exact absurd rfl hxs
  | cons x xs ih =>
    by_cases hnil : xs = []
    · subst hnil
      rw [List.singleton_append, List.intercalate_cons_of_ne_nil hys, List.intercalate_singleton]
      simp
    · have hne : xs ++ ys ≠ [] := List.append_ne_nil_of_left_ne_nil hnil ys
      rw [List.cons_append, List.intercalate_cons_of_ne_nil hne, ih hnil,
        List.intercalate_cons_of_ne_nil hnil]
      simp

/-- Texts without a separator are the pieces of the text that they make with it. -/
theorem pieces_intercalate {c : Char} {texts : List (List Char)} (h : ∀ text ∈ texts, c ∉ text)
    (hne : texts ≠ []) : pieces (· == c) ([c].intercalate texts) = texts := by
  rw [pieces_eq_splitOnP]
  exact List.splitOn_intercalate c h hne

end TransportGen.Text
