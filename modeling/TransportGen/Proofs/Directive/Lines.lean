import TransportGen.Directive.Basic
import TransportGen.Proofs.Text.Words

/-!
# Directives and the words of their lines

A directive is read from the words behind the marker: the first of them is its keyword, but for a
family and the case of letters, and the others are those of its argument
(`Directive.words_of_parse`).
-/

namespace TransportGen

/-- The word that is cut off a trimmed text is its first, and the rest has the others. -/
theorem words_eq_cons {s : List Char} (h : Text.trim s ≠ []) :
    Text.words s = (splitKeyword (Text.trim s)).1 :: Text.words (splitKeyword (Text.trim s)).2 := by
  have hhead := isBlank_head?_trim (s := s)
  rw [← words_trim s, splitKeyword]
  generalize Text.trim s = text at h hhead ⊢
  cases hsplit : Text.splitFirst Text.isBlank text with
  | none => exact words_of_forall_not h (forall_not_of_splitFirst hsplit)
  | some parts =>
    obtain ⟨word, rest⟩ := parts
    obtain ⟨c, hc, rfl, hword⟩ := exists_of_splitFirst hsplit
    have hne : word ≠ [] := by
      rintro rfl
      rw [hhead c rfl] at hc
      cases hc
    rw [words_append_cons hc, words_of_forall_not hne hword, List.singleton_append, words_trim]

/-- **Directives are made of words.** -/
theorem Directive.words_of_parse {marker line : String} {d : Directive}
    (h : Directive.parse marker line = some d) :
    ∃ word, d.keyword = String.ofList (Text.lowerAscii (stripFamily word)) ∧
      markedWords marker line =
        some (String.ofList word :: (Text.words d.argument.toList).map String.ofList) := by
  rw [markedWords]
  rw [Directive.parse] at h
  split at h
  · cases h
  · cases h
  · rename_i text hne htext
    obtain ⟨rest, hrest, rfl⟩ := Option.map_eq_some_iff.1 htext
    cases h
    have hwords := words_eq_cons hne
    refine ⟨(splitKeyword (Text.trim rest)).1, rfl, ?_⟩
    rw [hrest, Option.map_some, hwords, List.map_cons, String.toList_ofList]
    rfl

end TransportGen
