import TransportGen.Proofs.Directive.Lines

/-!
# Marked lines

A marked line is read twice, once as a directive and once as a list of words. The two readers agree
(`MarkedLines`): there is a directive where there are words, and it is made of them. A marker with
nothing behind it gives no words, but the line is marked all the same.

* `afterMarker?_eq_some_iff`: what follows the marker.
* `markedWords_eq_nil_iff`, `exists_parse_iff`: lines without words, and lines with a directive.
* `isMarked_eq_true_iff`: doc comments whose first line with text is marked.
-/

namespace TransportGen

/-! ## Texts without words -/

theorem words_eq_nil_iff {s : List Char} :
    Text.words s = [] ↔ ∀ c ∈ s, Text.isBlank c = true := by
  constructor
  · intro hwords
    obtain ⟨b, b', hb, hb', hs⟩ := exists_blanks_trim s
    have htrim : Text.trim s = [] := by
      by_contra hne
      rw [words_eq_cons hne] at hwords
      cases hwords
    rw [hs, htrim, List.append_nil, List.forall_mem_append]
    exact ⟨hb, hb'⟩
  · exact words_of_blank

/-- A text has words exactly if something is left of it when it is trimmed. -/
theorem words_ne_nil_iff {s : List Char} : Text.words s ≠ [] ↔ Text.trim s ≠ [] := by
  constructor
  · intro hwords htrim
    rw [← words_trim, htrim] at hwords
    exact hwords rfl
  · intro htrim
    rw [words_eq_cons htrim]
    exact List.cons_ne_nil _ _

/-! ## Behind the marker -/

/-- The marker stands at the start of a line, and the line ends there or goes on with a blank. -/
theorem afterMarker?_eq_some_iff {marker line rest : List Char} :
    afterMarker? marker line = some rest ↔
      Text.trimStart line = marker ++ rest ∧ ∀ c ∈ rest.head?, Text.isBlank c = true := by
  have hfilter : afterMarker? marker line =
      (Text.stripStart? marker (Text.trimStart line)).filter fun rest =>
        rest.head?.all Text.isBlank := by
    rw [afterMarker?]
    split
    · rename_i hstrip
      rw [hstrip]
      rfl
    · rename_i c rest hstrip
      rw [hstrip]
      rfl
    · rename_i hstrip
      rw [hstrip]
      rfl
  rw [hfilter, Option.filter_eq_some_iff, Text.stripStart?_eq_some_iff, Option.all_eq_true]
  exact and_congr_left' eq_comm

theorem markedWords_eq_some_iff {marker line : String} {ws : List String} :
    markedWords marker line = some ws ↔ ∃ rest,
      afterMarker? marker.toList line.toList = some rest ∧
        (Text.words rest).map String.ofList = ws :=
  Option.map_eq_some_iff

/-- **Bare markers.** There are no words exactly if the line is the marker with blanks around it. -/
theorem markedWords_eq_nil_iff {marker line : String}
    (hmarker : ∀ c ∈ marker.toList.head?, Text.isBlank c = false) :
    markedWords marker line = some [] ↔ ∃ b b' : List Char,
      (∀ c ∈ b, Text.isBlank c = true) ∧ (∀ c ∈ b', Text.isBlank c = true) ∧
        line.toList = b ++ marker.toList ++ b' := by
  simp only [markedWords_eq_some_iff, afterMarker?_eq_some_iff, List.map_eq_nil_iff,
    words_eq_nil_iff]
  constructor
  · rintro ⟨rest, ⟨hline, -⟩, hrest⟩
    refine ⟨line.toList.takeWhile Text.isBlank, rest, fun c => List.mem_takeWhile_imp, hrest, ?_⟩
    rw [List.append_assoc, ← hline]
    exact List.takeWhile_append_dropWhile.symm
  · rintro ⟨b, b', hb, hb', hline⟩
    rw [hline, Text.trimStart, List.append_assoc, List.dropWhile_append_of_pos hb]
    cases hchars : marker.toList with
    | nil =>
      -- Without a marker the blanks on both sides are all there is, and all are taken off.
      refine ⟨[], ⟨List.dropWhile_eq_nil_iff.2 hb', ?_⟩, List.forall_mem_nil _⟩
      intro c hc
      cases hc
    | cons c others =>
      rw [hchars] at hmarker
      refine ⟨b', ⟨trimStart_cons (hmarker c rfl) _, ?_⟩, hb'⟩
      intro c hc
      exact hb' c (List.mem_of_head? hc)

/-! ## Directives -/

/-- **Directives.** There is one exactly if there are words. -/
theorem exists_parse_iff {marker line : String} :
    (∃ d, Directive.parse marker line = some d) ↔
      ∃ w ws, markedWords marker line = some (w :: ws) := by
  constructor
  · rintro ⟨d, hparse⟩
    obtain ⟨word, -, hwords⟩ := Directive.words_of_parse hparse
    exact ⟨_, _, hwords⟩
  · rintro ⟨w, ws, hwords⟩
    obtain ⟨rest, hrest, hmap⟩ := markedWords_eq_some_iff.1 hwords
    have htrim : Text.trim rest ≠ [] := by
      apply words_ne_nil_iff.1
      intro hnil
      rw [hnil] at hmap
      cases hmap
    obtain ⟨c, others, hc⟩ := List.exists_cons_of_ne_nil htrim
    rw [Directive.parse, hrest, Option.map_some, hc]
    exact ⟨_, rfl⟩

/-- A line with words behind the marker is not blank. -/
theorem isBlankLine_of_words {marker line w : String} {ws : List String}
    (h : markedWords marker line = some (w :: ws)) : isBlankLine line = false := by
  rw [Bool.eq_false_iff]
  intro hblank
  obtain ⟨rest, hrest, hmap⟩ := markedWords_eq_some_iff.1 h
  obtain ⟨hline, -⟩ := afterMarker?_eq_some_iff.1 hrest
  rw [Text.trimStart, List.dropWhile_eq_nil_iff.2 (List.all_eq_true.1 hblank), eq_comm,
    List.append_eq_nil_iff] at hline
  rw [hline.2] at hmap
  cases hmap

/-! ## Doc comments -/

/-- **Doc comments.** One is marked by its first line that is not blank. -/
theorem isMarked_eq_true_iff {marker : String} {lines : List String} :
    isMarked marker lines = true ↔ ∃ before line after, lines = before ++ line :: after ∧
      (∀ blank ∈ before, isBlankLine blank = true) ∧ isBlankLine line = false ∧
        ∃ ws, markedWords marker line = some ws := by
  have hfind : ∀ line, lines.find? (! isBlankLine ·) = some line ↔ isBlankLine line = false ∧
      ∃ before after, lines = before ++ line :: after ∧
        ∀ blank ∈ before, isBlankLine blank = true := by
    intro line
    rw [List.find?_eq_some_iff_append]
    simp
  constructor
  · intro h
    rw [isMarked] at h
    split at h
    · rename_i line hline
      obtain ⟨htext, before, after, hlines, hbefore⟩ := (hfind line).1 hline
      exact ⟨before, line, after, hlines, hbefore, htext, Option.isSome_iff_exists.1 h⟩
    · cases h
  · rintro ⟨before, line, after, hlines, hbefore, htext, hwords⟩
    rw [isMarked, (hfind line).2 ⟨htext, before, after, hlines, hbefore⟩]
    exact Option.isSome_iff_exists.2 hwords

/-! ## Both readers -/

/-- Directives and the words of marked lines agree. -/
structure MarkedLines (marker : String) : Prop where
  /-- There is a directive exactly if there are words. -/
  parse_iff : ∀ line, (∃ d, Directive.parse marker line = some d) ↔
    ∃ w ws, markedWords marker line = some (w :: ws)
  /-- The first word is the keyword, with its family and in any case, and the others are those of
  the argument. -/
  words_eq : ∀ line d w ws, Directive.parse marker line = some d →
    markedWords marker line = some (w :: ws) →
    d.keyword = String.ofList (Text.lowerAscii (stripFamily w.toList)) ∧
      (Text.words d.argument.toList).map String.ofList = ws
  /-- There are no words exactly if the line is the marker with blanks around it. -/
  bare_iff : ∀ line, markedWords marker line = some [] ↔ ∃ b b' : List Char,
    (∀ c ∈ b, Text.isBlank c = true) ∧ (∀ c ∈ b', Text.isBlank c = true) ∧
      line.toList = b ++ marker.toList ++ b'
  /-- A doc comment is marked exactly if its first line that is not blank is. -/
  isMarked_iff : ∀ lines, isMarked marker lines = true ↔ ∃ before line after,
    lines = before ++ line :: after ∧ (∀ blank ∈ before, isBlankLine blank = true) ∧
      isBlankLine line = false ∧ ∃ ws, markedWords marker line = some ws
  /-- A directive marks a doc comment that begins with it, blank lines apart. -/
  isMarked_of_parse : ∀ before line after d, (∀ blank ∈ before, isBlankLine blank = true) →
    Directive.parse marker line = some d → isMarked marker (before ++ line :: after) = true

/-- **The readers of marked lines agree.** With a marker that does not begin with a blank, a line
holds a directive exactly if there are words behind the marker, and these are its keyword and the
words of its argument. What marks a method is the same. -/
theorem marked_lines_agree {marker : String}
    (hmarker : ∀ c ∈ marker.toList.head?, Text.isBlank c = false) : MarkedLines marker where
  parse_iff _ := exists_parse_iff
  words_eq := by
    intro line d w ws hparse hwords
    obtain ⟨word, hkeyword, hmarked⟩ := Directive.words_of_parse hparse
    rw [hwords] at hmarked
    cases hmarked
    rw [String.toList_ofList]
    exact ⟨hkeyword, rfl⟩
  bare_iff _ := markedWords_eq_nil_iff hmarker
  isMarked_iff _ := isMarked_eq_true_iff
  isMarked_of_parse := by
    intro before line after d hbefore hparse
    obtain ⟨w, ws, hwords⟩ := exists_parse_iff.1 ⟨d, hparse⟩
    exact isMarked_eq_true_iff.2
      ⟨before, line, after, rfl, hbefore, isBlankLine_of_words hwords, _, hwords⟩

/-- A marker alone, and a directive behind blank lines with blanks of different kinds. -/
theorem marked_lines_agree_gtg :
    markedWords "@gtg" " \t@gtg\u3000" = some [] ∧ isMarked "@gtg" ["", " \t@gtg\u3000"] = true ∧
      ∃ d, Directive.parse "@gtg" " @gtg\u3000Swagger-Title\tA  B " = some d ∧
        d.keyword = "swagger-title" ∧
        (Text.words d.argument.toList).map String.ofList = ["A", "B"] ∧
        isMarked "@gtg" ["", " ", " @gtg\u3000Swagger-Title\tA  B ", "text"] = true := by
  have hhead : "@gtg".toList.head? = some '@' := by decide
  have hagree : MarkedLines "@gtg" := by
    apply marked_lines_agree
    rw [hhead]
    rintro c ⟨⟩
    decide
  have hbare : markedWords "@gtg" " \t@gtg\u3000" = some [] :=
    (hagree.bare_iff _).2
      ⟨[' ', '\t'], ['\u3000'], List.all_eq_true.1 (by decide), List.all_eq_true.1 (by decide),
        by decide⟩
  have hmarked : isMarked "@gtg" ["", " \t@gtg\u3000"] = true :=
    (hagree.isMarked_iff _).2 ⟨[""], _, [], rfl, by decide, by decide, _, hbare⟩
  have hwords : markedWords "@gtg" " @gtg\u3000Swagger-Title\tA  B " =
      some ["Swagger-Title", "A", "B"] := by
    decide +kernel
  obtain ⟨d, hparse⟩ := (hagree.parse_iff _).2 ⟨_, _, hwords⟩
  obtain ⟨hkeyword, hargument⟩ := hagree.words_eq _ d _ _ hparse hwords
  have hkept : String.ofList (Text.lowerAscii (stripFamily "Swagger-Title".toList)) =
      "swagger-title" := by
    decide +kernel
  exact ⟨hbare, hmarked, d, hparse, hkeyword.trans hkept, hargument,
    hagree.isMarked_of_parse ["", " "] _ ["text"] d (by decide) hparse⟩

end TransportGen
