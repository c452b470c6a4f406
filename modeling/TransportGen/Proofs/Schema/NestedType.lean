import TransportGen.Proofs.Schema.Brackets

/-!
# Types of references, slices and arrays

`NestedType` has the types that are made of names by references, slices and arrays.

* `stripReference_reference`: of the references before a type one is taken off.
* `schemaAt_endsPath`: behind references a path is found all the same.
* `exists_cut`: the first semicolon stands inside the brackets of the innermost array.
-/

namespace TransportGen

/-! ## Types of references and brackets -/

/-- A name as it may stand at the end of a path. -/
abbrev TypeName := { name : String // IsIdentifier name.toList }

/-- How a reference is marked. -/
structure ReferenceMark where
  lifetime : Option Identifier
  isMutable : Bool

/-- The mark as text: `&` and perhaps a lifetime and `mut`. -/
def ReferenceMark.text (mark : ReferenceMark) : List Char :=
  '&' :: ((mark.lifetime.map fun name => lifetimeText name ++ [' ']).getD [] ++
    if mark.isMutable then "mut ".toList else [])

/-- A type made of references, slices and arrays. -/
inductive NestedType where
  /-- A name, which may follow a path. -/
  | named (path : List Identifier) (name : TypeName)
  /-- `&T`, `&'a T`, `&mut T` and `&'a mut T` -/
  | reference (mark : ReferenceMark) (referent : NestedType)
  /-- `[T]` -/
  | slice (item : NestedType)
  /-- `[T; N]`, with any text for the length -/
  | array (item : NestedType) (length : List Char)

namespace NestedType

/-- The type as text. -/
def text : NestedType → List Char
  | named path name => pathText path ++ name.1.toList
  | reference mark referent => mark.text ++ referent.text
  | slice item => bracketText item.text
  | array item length => bracketText (item.text ++ ';' :: ' ' :: length)

/-- A function from texts to schemas describes the type and the types in it level by level: a
reference like what it refers to, and an array, or a slice not of bytes, by its item. -/
def DescribesLevels (schema : List Char → JsonValue) : NestedType → Prop
  | named _ _ => True
  | reference mark referent =>
    schema (reference mark referent).text = schema referent.text ∧ referent.DescribesLevels schema
  | slice item =>
    ((slice item).text ≠ "[u8]".toList →
      schema (slice item).text = arraySchema (schema item.text)) ∧ item.DescribesLevels schema
  | array item length =>
    schema (array item length).text = arraySchema (schema item.text) ∧ item.DescribesLevels schema

/-- There is no array in the type. -/
def ArrayFree : NestedType → Prop
  | named _ _ => True
  | reference _ referent => referent.ArrayFree
  | slice item => item.ArrayFree
  | array _ _ => False

/-- The type is a name after a path, perhaps behind references. -/
def EndsPath : NestedType → Prop
  | named path _ => path ≠ []
  | reference _ referent => referent.EndsPath
  | _ => False

/-- The type is a reference. -/
def IsReference : NestedType → Prop
  | reference _ _ => True
  | _ => False

/-- The text is cut where the type is: no array stands inside brackets, and no reference follows a
reference, unless only a path follows the references. -/
def IsReadable : NestedType → Prop
  | named _ _ => True
  | reference _ referent => (referent.IsReference → referent.EndsPath) ∧ referent.IsReadable
  | slice item => item.ArrayFree ∧ item.IsReadable
  | array item _ => item.ArrayFree ∧ item.IsReadable

/-- The number of slices and arrays inside each other. -/
def brackets : NestedType → Nat
  | named _ _ => 0
  | reference _ referent => referent.brackets
  | slice item => item.brackets + 1
  | array item _ => item.brackets + 1

/-! ## Their texts -/

theorem of_mem_named {path : List Identifier} {name : TypeName} {c : Char}
    (h : c ∈ (named path name).text) : isIdentifierChar c = true ∨ c = ':' :=
  of_mem_head path name.2 h

theorem exists_cons (t : NestedType) : ∃ c rest, t.text = c :: rest ∧
    (c = '&' ∨ c = '[' ∨ isIdentifierChar c = true ∨ c = ':') := by
  cases t with
  | named path name =>
    have hne : (named path name).text ≠ [] := fun hnil => name.2.1 (List.append_eq_nil_iff.1 hnil).2
    obtain ⟨c, rest, hrest⟩ := List.exists_cons_of_ne_nil hne
    have hmem : c ∈ (named path name).text := by
      rw [hrest]
      exact List.mem_cons_self
    exact ⟨c, rest, hrest, Or.inr (Or.inr (of_mem_named hmem))⟩
  | reference mark referent => exact ⟨'&', _, rfl, Or.inl rfl⟩
  | slice item => exact ⟨'[', _, rfl, Or.inr (Or.inl rfl)⟩
  | array item length => exact ⟨'[', _, rfl, Or.inr (Or.inl rfl)⟩

theorem of_mem_getLast? (t : NestedType) :
    ∀ c ∈ t.text.getLast?, isIdentifierChar c = true ∨ c = ':' ∨ c = ']' := by
  induction t with
  | named path name =>
    intro c hc
    rcases of_mem_named (List.mem_of_getLast? hc) with h | h
    · exact Or.inl h
    · exact Or.inr (Or.inl h)
  | reference mark referent ih =>
    intro c hc
    obtain ⟨d, rest, hrest, -⟩ := referent.exists_cons
    apply ih
    rw [hrest]
    rwa [text, hrest, List.getLast?_append_cons] at hc
  | slice item =>
    intro c hc
    rw [text, bracketText, ← List.cons_append, List.getLast?_concat, Option.mem_some_iff] at hc
    exact Or.inr (Or.inr hc.symm)
  | array item length =>
    intro c hc
    rw [text, bracketText, ← List.cons_append, List.getLast?_concat, Option.mem_some_iff] at hc
    exact Or.inr (Or.inr hc.symm)

theorem trim_text (t : NestedType) : Text.trim t.text = t.text := by
  apply trim_eq_self
  · intro c hc
    obtain ⟨d, rest, hrest, hd⟩ := t.exists_cons
    rw [hrest, List.head?_cons, Option.mem_some_iff] at hc
    subst hc
    rcases hd with rfl | rfl | hd
    · decide
    · decide
    · exact (of_isIdentifierChar hd).1
  · intro c hc
    rcases t.of_mem_getLast? c hc with h | rfl | rfl
    · exact isBlank_isIdentifierChar h
    · decide
    · decide

/-! ## Taking off a reference -/

/-- A referent without the word `mut`. -/
def withoutMut (rest : List Char) : List Char :=
  Text.trim ((Text.stripStart? "mut ".toList rest).getD rest)

theorem referent_eq_withoutMut {rest : List Char} (h : rest.head? ≠ some '\'') :
    referent rest = withoutMut rest := by
  unfold referent
  split
  · exact absurd rfl h
  · rfl

theorem referent_lifetime (name : Identifier) (rest : List Char) :
    referent (lifetimeText name ++ ' ' :: rest) = withoutMut rest := by
  have hblank : ∀ c ∈ name.1, (c == ' ') = false := by
    intro c hc
    rw [beq_eq_false_iff_ne]
    rintro rfl
    exact absurd (isBlank_isIdentifierChar (name.2.2 ' ' hc)) (by decide)
  have hsplit : Text.splitFirst (· == ' ') (name.1 ++ ' ' :: rest) = some (name.1, rest) :=
    splitFirst_append hblank rfl rest
  rw [lifetimeText, List.cons_append, referent]
  simp only [hsplit]
  rfl

theorem withoutMut_text (t : NestedType) : withoutMut t.text = t.text := by
  have hnone : Text.stripStart? "mut ".toList t.text = none := by
    rw [Option.eq_none_iff_forall_ne_some]
    intro rest hrest
    rw [Text.stripStart?_eq_some_iff] at hrest
    cases t with
    | named path name =>
      -- There is no blank in a path.
      have hblank : ' ' ∈ (named path name).text := by
        rw [← hrest]
        exact List.mem_append_left _ (by decide)
      rcases of_mem_named hblank with h | h
      · exact absurd (isBlank_isIdentifierChar h) (by decide)
      · exact absurd h (by decide)
    | reference mark referent => exact absurd (List.cons.inj hrest).1 (by decide)
    | slice item => exact absurd (List.cons.inj hrest).1 (by decide)
    | array item length => exact absurd (List.cons.inj hrest).1 (by decide)
  rw [withoutMut, hnone]
  exact t.trim_text

theorem stripReference_reference (mark : ReferenceMark) (t : NestedType) :
    stripReference (mark.text ++ t.text) = t.text := by
  have htrim : Text.trim (mark.text ++ t.text) = mark.text ++ t.text :=
    (reference mark t).trim_text
  obtain ⟨lifetime, isMutable⟩ := mark
  have hmut : withoutMut ((if isMutable then "mut ".toList else []) ++ t.text) = t.text := by
    cases isMutable with
    | false => exact t.withoutMut_text
    | true =>
      have hstart : Text.stripStart? "mut ".toList ("mut ".toList ++ t.text) = some t.text :=
        Text.stripStart?_eq_some_iff.2 rfl
      rw [if_pos rfl, withoutMut, hstart]
      exact t.trim_text
  rw [stripReference, htrim]
  cases lifetime with
  | none =>
    have hhead : ((if isMutable then "mut ".toList else []) ++ t.text).head? ≠ some '\'' := by
      cases isMutable with
      | true => exact (by decide : some 'm' ≠ some '\'')
      | false =>
        obtain ⟨c, rest, hrest, hc⟩ := t.exists_cons
        have hreserved : c ≠ '\'' := by
          rintro rfl
          exact absurd hc (by decide)
        rw [hrest]
        exact fun heq => hreserved (Option.some.inj heq)
    exact (referent_eq_withoutMut hhead).trans hmut
  | some name =>
    have hrest : (lifetimeText name ++ [' ']) ++ (if isMutable then "mut ".toList else []) ++ t.text =
        lifetimeText name ++ ' ' :: ((if isMutable then "mut ".toList else []) ++ t.text) := by simp
    exact (congrArg referent hrest).trans ((referent_lifetime name _).trans hmut)

theorem stripReference_text {t : NestedType} (h : ¬t.IsReference) :
    stripReference t.text = t.text := by
  rw [stripReference, t.trim_text]
  split
  · rename_i referent hreference
    cases t with
    | named path name =>
      have hmem : '&' ∈ (named path name).text := by
        rw [hreference]
        exact List.mem_cons_self
      exact absurd (of_mem_named hmem) (by decide)
    | reference mark referent => exact (h trivial).elim
    | slice item => exact absurd (List.cons.inj hreference).1 (by decide)
    | array item length => exact absurd (List.cons.inj hreference).1 (by decide)
  · rfl

/-- One reference does not show. -/
theorem schemaAt_reference (index : TypeIndex) (depth : Nat) (mark : ReferenceMark) {t : NestedType}
    (h : ¬t.IsReference) :
    schemaAt index depth (reference mark t).text = schemaAt index depth t.text := by
  apply schemaAt_of_stripReference
  rw [text, stripReference_reference, stripReference_text h]

/-! ## References to references -/

section Named

variable {index : TypeIndex} {depth : Nat}

theorem namedSchema_congr {a b : List Char}
    (h : lastSegment (String.ofList a) = lastSegment (String.ofList b)) :
    namedSchema index depth a = namedSchema index depth b := by
  rw [namedSchema, h, namedSchema]

/-- A type that is read as a name has the schema of that name. -/
theorem schemaAt_of_bare {type bare : List Char} (hbare : stripReference type = bare)
    (hname : String.ofList bare ∉ builtinNames) (hform : TypeForm.of bare = .named) :
    schemaAt index depth type = namedSchema index depth bare := by
  subst hbare
  rw [schemaAt_eq (builtinSchema?_eq_none_iff.2 hname), hform, TypeForm.schema]

theorem of_text {t : NestedType} (h : t.brackets = 0 ∨ t.IsReference) :
    TypeForm.of t.text = .named := by
  apply of_eq_named
  · obtain ⟨c, rest, hrest, hc⟩ := t.exists_cons
    cases t with
    | named path name =>
      intro hstart
      exact absurd (of_mem_named (List.mem_of_head? hstart)) (by decide)
    | reference mark referent => exact (by decide : some '&' ≠ some '[')
    | slice item => rcases h with h | h <;> cases h
    | array item length => rcases h with h | h <;> cases h
  · intro hend
    exact absurd (t.of_mem_getLast? '>' hend) (by decide)

theorem not_builtin_reference (mark : ReferenceMark) (t : NestedType) :
    String.ofList (reference mark t).text ∉ builtinNames := by
  have hnames : ∀ text ∈ builtinNames, text.toList.head? ≠ some '&' := by decide
  intro hmem
  apply hnames _ hmem
  rw [String.toList_ofList]
  rfl

/-- A reference to a reference is looked up as a name. -/
theorem schemaAt_reference_reference (mark mark' : ReferenceMark) (t : NestedType) :
    schemaAt index depth (reference mark (reference mark' t)).text =
      namedSchema index depth (reference mark' t).text :=
  schemaAt_of_bare (stripReference_reference mark (reference mark' t)) (not_builtin_reference _ _)
    (of_text (Or.inr trivial))

/-- Only the last name of a path is looked up, so what stands before the path does not matter. -/
theorem lastSegment_append_text {t : NestedType} (h : t.EndsPath) (before : List Char) :
    lastSegment (String.ofList (before ++ t.text)) = lastSegment (String.ofList t.text) := by
  induction t generalizing before with
  | named path name =>
    rw [text, lastSegment_head path name.2]
    cases path using List.reverseRecOn with
    | nil => exact (h rfl).elim
    | append_singleton path step =>
      have htext : String.ofList (before ++ (pathText (path ++ [step]) ++ name.1.toList)) =
          String.ofList (before ++ pathText path ++ step.1) ++ "::" ++ name.1 := by
        rw [← String.toList_inj]
        simp [pathText]
      rw [htext, lastSegment_append _ name.2.colon]
  | reference mark referent ih =>
    rw [text, ← List.append_assoc, ih h, ih h]
  | slice item => exact h.elim
  | array item length => exact h.elim

theorem mem_of_endsPath {t : NestedType} (h : t.EndsPath) : ':' ∈ t.text := by
  induction t with
  | named path name =>
    obtain ⟨step, path, rfl⟩ := List.exists_cons_of_ne_nil h
    simp [text, pathText]
  | reference mark referent ih => exact List.mem_append_right _ (ih h)
  | slice item => exact h.elim
  | array item length => exact h.elim

theorem brackets_of_endsPath {t : NestedType} (h : t.EndsPath) : t.brackets = 0 := by
  induction t with
  | named path name => rfl
  | reference mark referent ih => exact ih h
  | slice item => exact h.elim
  | array item length => exact h.elim

/-- What ends a path is looked up as a name, behind any number of references. -/
theorem schemaAt_endsPath {t : NestedType} (h : t.EndsPath) :
    schemaAt index depth t.text = namedSchema index depth t.text := by
  -- No type that is built in has a path.
  have hbuiltin : ∀ t : NestedType, t.EndsPath → String.ofList t.text ∉ builtinNames := by
    have hnames : ∀ text ∈ builtinNames, ':' ∉ text.toList := by decide
    intro t ht hmem
    apply hnames _ hmem
    rw [String.toList_ofList]
    exact mem_of_endsPath ht
  cases t with
  | named path name =>
    have hbare : stripReference (named path name).text = (named path name).text :=
      stripReference_text (t := named path name) not_false
    exact schemaAt_of_bare hbare (hbuiltin _ h) (of_text (Or.inl rfl))
  | reference mark referent =>
    have hschema : schemaAt index depth (mark.text ++ referent.text) =
        namedSchema index depth referent.text :=
      schemaAt_of_bare (stripReference_reference mark referent) (hbuiltin referent h)
        (of_text (Or.inl (brackets_of_endsPath h)))
    rw [text, hschema]
    exact namedSchema_congr (lastSegment_append_text (t := referent) h mark.text).symm
  | slice item => exact h.elim
  | array item length => exact h.elim

end Named

/-! ## Where the text is cut -/

section Cuts

variable {t : NestedType} {c : Char}

theorem of_mem_mark {mark : ReferenceMark} (h : c ∈ mark.text) :
    isIdentifierChar c = true ∨ c ∈ ['&', '\'', ' '] := by
  obtain ⟨lifetime, isMutable⟩ := mark
  rcases List.mem_cons.1 h with rfl | h
  · exact Or.inr (by decide)
  rcases List.mem_append.1 h with h | h
  · cases lifetime with
    | none => exact absurd h List.not_mem_nil
    | some name =>
      rcases List.mem_append.1 h with h | h
      · rcases List.mem_cons.1 h with rfl | h
        · exact Or.inr (by decide)
        · exact Or.inl (name.2.2 c h)
      · rw [List.mem_singleton.1 h]
        exact Or.inr (by decide)
  · cases isMutable with
    | false => exact absurd h List.not_mem_nil
    | true =>
      have hword : ("mut ".toList.all fun c => isIdentifierChar c || c == ' ') = true := by decide
      have hc := List.all_eq_true.1 hword c h
      rw [Bool.or_eq_true, beq_iff_eq] at hc
      refine hc.imp_right ?_
      rintro rfl
      decide

theorem of_mem_bracketText {s : List Char} (h : c ∈ bracketText s) : c ∈ s ∨ c ∈ ['[', ']'] := by
  rcases List.mem_cons.1 h with rfl | h
  · exact Or.inr (by decide)
  rcases List.mem_append.1 h with h | h
  · exact Or.inl h
  · rw [List.mem_singleton.1 h]
    exact Or.inr (by decide)

theorem of_mem_text (h : t.ArrayFree) (hc : c ∈ t.text) :
    isIdentifierChar c = true ∨ c ∈ [':', '&', '\'', ' ', '[', ']'] := by
  have hother : ∀ {d : Char}, d ∈ ['&', '\'', ' '] ∨ d ∈ ['[', ']'] →
      d ∈ [':', '&', '\'', ' ', '[', ']'] := by
    simp only [List.mem_cons, List.not_mem_nil, or_false]
    tauto
  induction t with
  | named path name =>
    rcases of_mem_named hc with hc | rfl
    · exact Or.inl hc
    · exact Or.inr (by decide)
  | reference mark referent ih =>
    rcases List.mem_append.1 hc with hc | hc
    · exact (of_mem_mark hc).imp_right fun h => hother (Or.inl h)
    · exact ih h hc
  | slice item ih =>
    rcases of_mem_bracketText hc with hc | hc
    · exact ih h hc
    · exact Or.inr (hother (Or.inr hc))
  | array item length ih => exact h.elim

theorem not_mem_of_arrayFree (h : t.ArrayFree) : ';' ∉ t.text ∧ '<' ∉ t.text :=
  ⟨fun hmem => absurd (of_mem_text h hmem) (by decide),
    fun hmem => absurd (of_mem_text h hmem) (by decide)⟩

theorem mem_of_not_arrayFree (h : ¬t.ArrayFree) : ';' ∈ t.text := by
  induction t with
  | named path name => exact (h trivial).elim
  | reference mark referent ih => exact List.mem_append_right _ (ih h)
  | slice item ih => exact List.mem_cons_of_mem _ (List.mem_append_left _ (ih h))
  | array item length ih =>
    exact List.mem_cons_of_mem _ (List.mem_append_left _ (List.mem_append_right _ List.mem_cons_self))

theorem count_mark (mark : ReferenceMark) : mark.text.count ']' = 0 := by
  rw [List.count_eq_zero]
  intro hmem
  exact absurd (of_mem_mark hmem) (by decide)

/-- Each slice and each array ends with a bracket of its own. -/
theorem brackets_le_count (t : NestedType) : t.brackets ≤ t.text.count ']' := by
  induction t with
  | named path name => exact Nat.zero_le _
  | reference mark referent ih =>
    rw [text, List.count_append, count_mark, Nat.zero_add]
    exact ih
  | slice item ih =>
    rw [text, count_bracketText]
    exact Nat.succ_le_succ ih
  | array item length ih =>
    rw [text, count_bracketText, List.count_append]
    exact Nat.succ_le_succ (Nat.le_add_right_of_le ih)

theorem count_of_arrayFree (h : t.ArrayFree) : t.text.count ']' = t.brackets := by
  induction t with
  | named path name =>
    rw [brackets, List.count_eq_zero]
    intro hmem
    exact absurd (of_mem_named hmem) (by decide)
  | reference mark referent ih =>
    rw [text, List.count_append, count_mark, Nat.zero_add]
    exact ih h
  | slice item ih => rw [text, count_bracketText, ih h, brackets]
  | array item length ih => exact h.elim

/-- Before the first semicolon of an array, one of the closing brackets is missing. -/
theorem exists_cut (hreadable : t.IsReadable) (h : ¬t.ArrayFree) :
    ∃ a b, t.text = a ++ ';' :: b ∧ ';' ∉ a ∧ '<' ∉ a ∧ a.count ']' < t.brackets := by
  induction t with
  | named path name => exact (h trivial).elim
  | reference mark referent ih =>
    obtain ⟨a, b, htext, hsemicolon, hopen, hcount⟩ := ih hreadable.2 h
    refine ⟨mark.text ++ a, b, ?_, ?_, ?_, ?_⟩
    · rw [text, htext, List.append_assoc]
    · rw [List.mem_append, not_or]
      exact ⟨fun hmem => absurd (of_mem_mark hmem) (by decide), hsemicolon⟩
    · rw [List.mem_append, not_or]
      exact ⟨fun hmem => absurd (of_mem_mark hmem) (by decide), hopen⟩
    · rw [List.count_append, count_mark, Nat.zero_add]
      exact hcount
  | slice item ih => exact (h hreadable.1).elim
  | array item length ih =>
    obtain ⟨hsemicolon, hopen⟩ := not_mem_of_arrayFree hreadable.1
    refine ⟨'[' :: item.text, (' ' :: length) ++ [']'], ?_, ?_, ?_, ?_⟩
    · simp [text, bracketText]
    · exact List.not_mem_cons_of_ne_of_not_mem (by decide) hsemicolon
    · exact List.not_mem_cons_of_ne_of_not_mem (by decide) hopen
    · rw [List.count_cons_of_ne (by decide), count_of_arrayFree hreadable.1]
      exact Nat.lt_succ_self _

end Cuts

end NestedType

end TransportGen
