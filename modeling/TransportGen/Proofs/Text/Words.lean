import Mathlib.Data.List.DropRight
import TransportGen.Proofs.Text.Cutting
import TransportGen.Proofs.Text.Pieces

/-!
# Blanks around texts, and words

Blanks at the ends of a text change neither what `Text.trim` leaves of it (`trim_between`) nor its
words (`words_trim`). Blanks between two texts part their words (`words_append_cons`).
-/

namespace TransportGen

theorem isBlank_space : ∀ c ∈ [' '], Text.isBlank c = true := List.all_eq_true.1 (by decide)

/-! ## Trimming -/

section Trim

variable {b s : List Char}

theorem trim_blank_append (hb : ∀ c ∈ b, Text.isBlank c = true) (s : List Char) :
    Text.trim (b ++ s) = Text.trim s := by
  rw [Text.trim, Text.trimStart, List.dropWhile_append_of_pos hb, Text.trim, Text.trimStart]

theorem trim_append_blank (hb : ∀ c ∈ b, Text.isBlank c = true) (s : List Char) :
    Text.trim (s ++ b) = Text.trim s := by
  have hend : ∀ t, Text.trimEnd (t ++ b) = Text.trimEnd t := by
    intro t
    have hreverse : ∀ c ∈ b.reverse, Text.isBlank c = true := by simpa using hb
    rw [Text.trimEnd, List.reverse_append, List.dropWhile_append_of_pos hreverse, Text.trimEnd]
  simp only [Text.trim, Text.trimStart, List.dropWhile_append]
  split
  · rename_i hempty
    rw [List.dropWhile_eq_nil_iff.2 hb, List.isEmpty_iff.1 hempty]
  · exact hend _

/-- Blanks around a text are taken off. -/
theorem trim_between {b' : List Char} (hb : ∀ c ∈ b, Text.isBlank c = true)
    (hb' : ∀ c ∈ b', Text.isBlank c = true) (s : List Char) :
    Text.trim (b ++ s ++ b') = Text.trim s := by
  rw [trim_append_blank hb', trim_blank_append hb]

/-- A text is the trimmed text with blanks around it. -/
theorem exists_blanks_trim (s : List Char) : ∃ b b' : List Char,
    (∀ c ∈ b, Text.isBlank c = true) ∧ (∀ c ∈ b', Text.isBlank c = true) ∧
      s = b ++ Text.trim s ++ b' := by
  have hend : Text.trim s ++ (Text.trimStart s).rtakeWhile Text.isBlank = Text.trimStart s :=
    List.rdropWhile_append_rtakeWhile
  refine ⟨s.takeWhile Text.isBlank, (Text.trimStart s).rtakeWhile Text.isBlank,
    fun c => List.mem_takeWhile_imp, fun c => List.mem_rtakeWhile_imp, ?_⟩
  rw [List.append_assoc, hend]
  exact List.takeWhile_append_dropWhile.symm

/-- A trimmed text does not begin with a blank. -/
theorem isBlank_head?_trim : ∀ c ∈ (Text.trim s).head?, Text.isBlank c = false := by
  intro c hc
  obtain ⟨rest, hrest⟩ : Text.trim s <+: Text.trimStart s := List.rdropWhile_prefix _ _
  have hhead : (s.dropWhile Text.isBlank).head? = some c := by
    rw [← Text.trimStart, ← hrest, List.head?_append, hc, Option.some_or]
  have hnot := List.head?_dropWhile_not Text.isBlank s
  rw [hhead] at hnot
  exact hnot

/-- A trimmed text does not end with a blank. -/
theorem isBlank_getLast?_trim : ∀ c ∈ (Text.trim s).getLast?, Text.isBlank c = false := by
  intro c hc
  have hnot := List.head?_dropWhile_not Text.isBlank (Text.trimStart s).reverse
  rw [Text.trim, Text.trimEnd, List.getLast?_reverse] at hc
  rw [hc] at hnot
  exact hnot

/-- A text from a first word to the end of a trimmed text has no blanks to take off. -/
theorem trim_word_append {word rest : List Char} (hne : word ≠ [])
    (hword : ∀ c ∈ word, Text.isBlank c = false) (hrest : Text.trim rest = rest) (hrest_ne : rest ≠ [])
    (middle : List Char) : Text.trim (word ++ middle ++ rest) = word ++ middle ++ rest := by
  apply trim_eq_self
  · intro c hc
    rw [List.append_assoc, List.head?_append_of_ne_nil _ hne] at hc
    exact hword c (List.mem_of_head? hc)
  · intro c hc
    rw [List.getLast?_append_of_ne_nil _ hrest_ne, ← hrest] at hc
    exact isBlank_getLast?_trim c hc

end Trim

/-! ## Words -/

section Words

variable {b s : List Char}

theorem words_append_cons {c : Char} (hc : Text.isBlank c = true) (s t : List Char) :
    Text.words (s ++ c :: t) = Text.words s ++ Text.words t := by
  rw [Text.words, Text.fields, Text.pieces_append_cons hc, List.filter_append]
  rfl

theorem words_of_blank (hb : ∀ c ∈ b, Text.isBlank c = true) : Text.words b = [] := by
  induction b with
  | nil => rfl
  | cons c b ih =>
    rw [List.forall_mem_cons] at hb
    exact (words_append_cons hb.1 [] b).trans (ih hb.2)

theorem words_blank_append (hb : ∀ c ∈ b, Text.isBlank c = true) (s : List Char) :
    Text.words (b ++ s) = Text.words s := by
  induction b with
  | nil => rfl
  | cons c b ih =>
    rw [List.forall_mem_cons] at hb
    exact (words_append_cons hb.1 [] (b ++ s)).trans (ih hb.2)

theorem words_append_blank (hb : ∀ c ∈ b, Text.isBlank c = true) (s : List Char) :
    Text.words (s ++ b) = Text.words s := by
  cases b with
  | nil => rw [List.append_nil]
  | cons c b =>
    rw [List.forall_mem_cons] at hb
    rw [words_append_cons hb.1, words_of_blank hb.2, List.append_nil]

theorem words_trim (s : List Char) : Text.words (Text.trim s) = Text.words s := by
  obtain ⟨b, b', hb, hb', hs⟩ := exists_blanks_trim s
  conv => rhs; rw [hs]
  rw [words_append_blank hb', words_blank_append hb]

theorem words_of_forall_not (hne : s ≠ []) (hs : ∀ c ∈ s, Text.isBlank c = false) :
    Text.words s = [s] := by
  rw [Text.words, Text.fields, Text.pieces_of_forall_not hs]
  simp [hne]

end Words

end TransportGen
