import TransportGen.Proofs.Text.Words

/-!
# Lines of a text

The trimmed lines of a text that are not empty: how a line ends does not matter to them, and neither
do blanks at the ends of the text (`trimmedLines_between`). What is replaced in a text is found behind
a character that the rest of the text lacks (`replace_append`, `replace_append_old`).
-/

namespace TransportGen

/-! ## Trimmed lines -/

/-- The lines of a text, trimmed, without the empty ones. -/
def trimmedLines (s : List Char) : List (List Char) :=
  ((Text.lines s).map Text.trim).filter (! ·.isEmpty)

/-- A carriage return before the end of a line is trimmed off. -/
theorem trim_stripEnd? (line : List Char) :
    Text.trim ((Text.stripEnd? ['\r'] line).getD line) = Text.trim line := by
  cases hstrip : Text.stripEnd? ['\r'] line with
  | none => rfl
  | some rest =>
    have hblank : ∀ c ∈ ['\r'], Text.isBlank c = true := List.all_eq_true.1 (by decide)
    rw [← Text.stripEnd?_eq_some_iff.1 hstrip, Option.getD_some, trim_append_blank hblank]

/-- Lines that are trimmed are the trimmed pieces between line feeds. -/
theorem trimmedLines_eq_pieces (s : List Char) : trimmedLines s =
    ((Text.pieces (· == '\n') s).map Text.trim).filter (! ·.isEmpty) := by
  have hfrom : ∀ line : List Char, '\n' ∉ line →
      ((Text.linesFrom line s).map Text.trim).filter (! ·.isEmpty) =
        ((Text.pieces (· == '\n') (line.reverse ++ s)).map Text.trim).filter (! ·.isEmpty) := by
    induction s with
    | nil =>
      intro line hline
      rw [List.append_nil, Text.pieces_of_not_mem (by simpa using hline), Text.linesFrom]
      split
      · rename_i hempty
        rw [List.isEmpty_iff.1 hempty]
        rfl
      · rfl
    | cons c s ih =>
      intro line hline
      rw [Text.linesFrom]
      split
      · rename_i hc
        subst hc
        rw [Text.pieces_append_cons rfl, Text.pieces_of_not_mem (by simpa using hline),
          Text.consLine, List.map_cons, trim_stripEnd?, List.singleton_append, List.map_cons,
          List.filter_cons, List.filter_cons, ih [] List.not_mem_nil]
        rfl
      · rename_i hc
        rw [ih (c :: line) (by simpa [Ne.symm hc] using hline)]
        simp
  exact hfrom [] List.not_mem_nil

theorem trimmedLines_of_not_mem {line : List Char} (h : '\n' ∉ line) :
    trimmedLines line = [Text.trim line].filter (! ·.isEmpty) := by
  rw [trimmedLines_eq_pieces, Text.pieces_of_not_mem h]
  rfl

theorem trimmedLines_append_lineFeed (s t : List Char) :
    trimmedLines (s ++ '\n' :: t) = trimmedLines s ++ trimmedLines t := by
  simp only [trimmedLines_eq_pieces, Text.pieces_append_cons (p := (· == '\n')) (c := '\n') rfl,
    List.map_append, List.filter_append]

section Blank

variable {b : List Char}

theorem trimmedLines_blank_append (hb : ∀ c ∈ b, Text.isBlank c = true) (s : List Char) :
    trimmedLines (b ++ s) = trimmedLines s := by
  induction b with
  | nil => rfl
  | cons c b ih =>
    rw [List.forall_mem_cons] at hb
    rw [← ih hb.2, List.cons_append]
    by_cases hc : c = '\n'
    · subst hc
      exact trimmedLines_append_lineFeed [] (b ++ s)
    · have hhead := Text.pieces_append_of_forall_not (p := (· == '\n')) (a := [c]) (by simpa using hc)
        (b ++ s)
      rw [List.singleton_append] at hhead
      rw [trimmedLines_eq_pieces, trimmedLines_eq_pieces, hhead]
      cases Text.pieces (· == '\n') (b ++ s) with
      | nil => rfl
      | cons line lines =>
        rw [List.modifyHead_cons, List.map_cons, List.singleton_append, trim_blank_cons hb.1]
        rfl

theorem trimmedLines_of_blank (hb : ∀ c ∈ b, Text.isBlank c = true) : trimmedLines b = [] := by
  rw [← List.append_nil b, trimmedLines_blank_append hb]
  rfl

/-- Blanks around a line, which may be line feeds too, do not count. -/
theorem trimmedLines_between {b' line : List Char} (hb : ∀ c ∈ b, Text.isBlank c = true)
    (hb' : ∀ c ∈ b', Text.isBlank c = true) (hline : '\n' ∉ line) :
    trimmedLines (b ++ line ++ b') = trimmedLines line := by
  have hend : ∀ u : List Char, '\n' ∉ u → (∀ c ∈ u, Text.isBlank c = true) →
      trimmedLines (line ++ u) = trimmedLines line := by
    intro u hu hblank
    rw [trimmedLines_of_not_mem (by simp [hline, hu]), trimmedLines_of_not_mem hline,
      trim_append_blank hblank]
  rw [List.append_assoc, trimmedLines_blank_append hb]
  cases hsplit : Text.splitFirst (· == '\n') b' with
  | none =>
    exact hend b' (fun hmem => Bool.noConfusion (forall_not_of_splitFirst hsplit _ hmem)) hb'
  | some parts =>
    obtain ⟨c, hc, hcut, hbefore⟩ := exists_of_splitFirst hsplit
    obtain rfl : c = '\n' := beq_iff_eq.1 hc
    rw [hcut] at hb' ⊢
    rw [List.forall_mem_append, List.forall_mem_cons] at hb'
    rw [← List.append_assoc, trimmedLines_append_lineFeed, trimmedLines_of_blank hb'.2.2,
      List.append_nil]
    exact hend parts.1 (fun hmem => Bool.noConfusion (hbefore _ hmem)) hb'.1

end Blank

/-! ## Replacing -/

section Replace

variable {c : Char} {old new : List Char}

theorem replaceFrom_append (old new skipped s : List Char) :
    Text.replaceFrom old new skipped.length (skipped ++ s) = Text.replaceFrom old new 0 s := by
  induction skipped with
  | nil => rfl
  | cons c skipped ih => exact ih

theorem replace_append {a : List Char} (h : c ∉ a) (s : List Char) :
    Text.replace (c :: old) new (a ++ s) = a ++ Text.replace (c :: old) new s := by
  induction a with
  | nil => rfl
  | cons d a ih =>
    rw [List.mem_cons, not_or] at h
    have hd : ¬(c :: old).isPrefixOf (d :: (a ++ s)) = true := by simp [h.1]
    rw [List.cons_append, Text.replace, Text.replaceFrom, if_neg hd, ← Text.replace, ih h.2]
    rfl

theorem replace_old_append (s : List Char) : Text.replace (c :: old) new (c :: old ++ s) =
    new ++ Text.replace (c :: old) new s := by
  have hprefix : (c :: old).isPrefixOf (c :: (old ++ s)) = true := by
    rw [← List.cons_append]
    exact List.isPrefixOf_iff_prefix.2 (List.prefix_append _ _)
  rw [List.cons_append, Text.replace, Text.replaceFrom, if_pos hprefix, List.length_cons,
    Nat.add_sub_cancel, replaceFrom_append]
  rfl

end Replace

end TransportGen
