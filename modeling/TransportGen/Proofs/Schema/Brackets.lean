import Mathlib.Data.List.Basic
import TransportGen.Proofs.Schema.Calls

/-!
# Brackets in types and arrays in schemas

What stands between brackets is the item up to the first semicolon (`sliceInner?_semicolon`), and it is
described as an array (`schemaAt_bracketText`). Without generic types a schema says no more arrays
inside each other than its type has closing brackets (`le_count_of_isNested`).
-/

namespace TransportGen

/-! ## Parts of texts -/

theorem trim_sublist (s : List Char) : (Text.trim s).Sublist s := by
  have hend : (Text.trim s).Sublist (Text.trimStart s) := by
    have hreverse := (List.dropWhile_sublist Text.isBlank (l := (Text.trimStart s).reverse)).reverse
    rwa [List.reverse_reverse] at hreverse
  exact hend.trans (List.dropWhile_sublist _)

theorem referent_sublist (rest : List Char) : (referent rest).Sublist rest := by
  have hmut : ∀ s : List Char, s.Sublist rest →
      (Text.trim ((Text.stripStart? "mut ".toList s).getD s)).Sublist rest := by
    intro s hs
    refine (trim_sublist _).trans (List.Sublist.trans ?_ hs)
    cases h : Text.stripStart? "mut ".toList s with
    | none => exact List.Sublist.refl s
    | some type =>
      rw [← Text.stripStart?_eq_some_iff.1 h]
      exact List.sublist_append_right _ _
  unfold referent
  apply hmut
  split
  · split
    · rename_i hsplit
      obtain ⟨c, -, rfl, -⟩ := exists_of_splitFirst hsplit
      exact ((List.sublist_cons_self _ _).trans (List.sublist_append_right _ _)).cons _
    · exact List.sublist_cons_self _ _
  · exact List.Sublist.refl _

theorem stripReference_sublist (type : List Char) : (stripReference type).Sublist type := by
  rw [stripReference]
  split
  · rename_i rest hrest
    exact (referent_sublist rest).trans (((List.sublist_cons_self _ _)).trans
      (hrest ▸ trim_sublist type))
  · exact trim_sublist type

/-! ## Brackets -/

section Brackets

variable {s a : List Char}

/-- Brackets stand around the text. -/
def bracketText (s : List Char) : List Char := '[' :: (s ++ [']'])

theorem sliceInner?_eq (s : List Char) : sliceInner? (bracketText s) =
    match Text.splitFirst (· == ';') s with
    | some (item, _) => some (Text.trim item)
    | none => some (Text.trim s) := by
  have hstart : Text.stripStart? ['['] (bracketText s) = some (s ++ [']']) :=
    Text.stripStart?_eq_some_iff.2 rfl
  have hend : Text.stripEnd? [']'] (s ++ [']']) = some s := Text.stripEnd?_eq_some_iff.2 rfl
  rw [sliceInner?, hstart]
  simp only [Option.bind_eq_bind, Option.bind_some, hend]
  rfl

/-- The item of a slice or an array stands between its brackets. -/
theorem exists_of_sliceInner? {type item : List Char} (h : sliceInner? type = some item) :
    ∃ s, type = bracketText s ∧ item.Sublist s := by
  have hbrackets : ∃ s, type = bracketText s := by
    simp only [sliceInner?, Option.bind_eq_bind, Option.bind_eq_some_iff,
      Text.stripStart?_eq_some_iff, Text.stripEnd?_eq_some_iff] at h
    obtain ⟨rest, rfl, s, rfl, -⟩ := h
    exact ⟨s, rfl⟩
  obtain ⟨s, rfl⟩ := hbrackets
  refine ⟨s, rfl, ?_⟩
  rw [sliceInner?_eq] at h
  split at h
  · rename_i a b hsplit
    obtain ⟨c, -, rfl, -⟩ := exists_of_splitFirst hsplit
    rw [← Option.some.inj h]
    exact (trim_sublist a).trans (List.sublist_append_left _ _)
  · rw [← Option.some.inj h]
    exact trim_sublist s

theorem beq_semicolon (h : ';' ∉ s) : ∀ c ∈ s, (c == ';') = false := by
  intro c hc
  rw [beq_eq_false_iff_ne]
  rintro rfl
  exact h hc

/-- Without a semicolon the whole text is the item. -/
theorem sliceInner?_of_not_mem (h : ';' ∉ s) : sliceInner? (bracketText s) = some (Text.trim s) := by
  rw [sliceInner?_eq, splitFirst_of_forall_not (beq_semicolon h)]

/-- The item ends at the first semicolon. -/
theorem sliceInner?_semicolon (h : ';' ∉ a) (b : List Char) :
    sliceInner? (bracketText (a ++ ';' :: b)) = some (Text.trim a) := by
  rw [sliceInner?_eq, splitFirst_append (beq_semicolon h) rfl]

theorem trim_bracketText (s : List Char) : Text.trim (bracketText s) = bracketText s := by
  apply trim_eq_self
  · rintro c ⟨⟩
    decide
  · intro c hc
    rw [bracketText, ← List.cons_append, List.getLast?_concat, Option.mem_some_iff] at hc
    rw [← hc]
    decide

theorem stripReference_bracketText (s : List Char) :
    stripReference (bracketText s) = bracketText s := by
  rw [stripReference, trim_bracketText]
  rfl

/-- Brackets are described as an array, unless they are those of a byte string. -/
theorem schemaAt_bracketText {item : List Char} (index : TypeIndex) (depth : Nat)
    (hne : bracketText s ≠ "[u8]".toList) (h : sliceInner? (bracketText s) = some item) :
    schemaAt index depth (bracketText s) = arraySchema (schemaAt index depth item) := by
  have hbuiltin : builtinSchema? (String.ofList (stripReference (bracketText s))) = none := by
    have hnames : ∀ text ∈ builtinNames, text.toList.head? = some '[' → text = "[u8]" := by decide
    rw [stripReference_bracketText, builtinSchema?_eq_none_iff]
    intro hmem
    have hbytes := hnames _ hmem (by rw [String.toList_ofList]; rfl)
    rw [← hbytes, String.toList_ofList] at hne
    exact hne rfl
  have hform : TypeForm.of (bracketText s) = .sequence item := by rw [TypeForm.of, h]
  rw [schemaAt_eq hbuiltin, stripReference_bracketText, hform, TypeForm.schema]

theorem bracketText_ne_bytes (h : ';' ∈ s) : bracketText s ≠ "[u8]".toList := by
  intro heq
  have hmem : ';' ∈ bracketText s := List.mem_cons_of_mem _ (List.mem_append_left _ h)
  rw [heq] at hmem
  exact absurd hmem (by decide)

/-- What begins with no bracket and ends with no angle bracket is read as a name. -/
theorem of_eq_named (hstart : s.head? ≠ some '[') (hend : s.getLast? ≠ some '>') :
    TypeForm.of s = .named := by
  have hslice : sliceInner? s = none := by
    rw [Option.eq_none_iff_forall_ne_some]
    intro item hitem
    obtain ⟨body, rfl, -⟩ := exists_of_sliceInner? hitem
    exact hstart rfl
  have hsplit : splitGeneric? s = none := by
    rw [Option.eq_none_iff_forall_ne_some]
    rintro ⟨name, arguments⟩ hgeneric
    obtain ⟨body, rfl, -⟩ := splitGeneric?_eq_some_iff.1 hgeneric
    rw [← List.cons_append, ← List.append_assoc, List.getLast?_concat] at hend
    exact hend rfl
  rw [TypeForm.of, hslice, hsplit]

end Brackets

/-! ## Arrays in schemas -/

/-- By the schema at least `n` arrays are inside each other, the innermost perhaps one of bytes. -/
def IsNested : Nat → JsonValue → Prop
  | 0, _ => True
  | n + 1, schema =>
    (n = 0 ∧ schema = formatSchema "string" "byte") ∨
      ∃ items, schema = arraySchema items ∧ IsNested n items

section Arrays

variable {index : TypeIndex} {depth n : Nat}

theorem field?_arraySchema (items : JsonValue) :
    (arraySchema items).field? "items" = some items := by
  rw [arraySchema, field?_ofFields, Table.get?_ofList]
  rfl

theorem field?_formatSchema (type format : String) :
    (formatSchema type format).field? "format" = some (.string format) := by
  rw [formatSchema, field?_ofFields, Table.get?_ofList]
  rfl

theorem items_formatSchema (type format : String) :
    (formatSchema type format).field? "items" = none :=
  field?_ofFields_eq_none.2 (by simp)

theorem arraySchema_inj {a b : JsonValue} (h : arraySchema a = arraySchema b) : a = b := by
  have hitems := field?_arraySchema a
  rw [h, field?_arraySchema, Option.some.injEq] at hitems
  exact hitems.symm

theorem arraySchema_ne_formatSchema (items : JsonValue) (type format : String) :
    arraySchema items ≠ formatSchema type format := by
  intro heq
  have hitems := field?_arraySchema items
  rw [heq, items_formatSchema] at hitems
  exact Option.some_ne_none items hitems.symm

theorem isNested_arraySchema {items : JsonValue} :
    IsNested (n + 1) (arraySchema items) ↔ IsNested n items := by
  constructor
  · rintro (⟨-, hbytes⟩ | ⟨other, hother, h⟩)
    · exact (arraySchema_ne_formatSchema _ _ _ hbytes).elim
    · rw [arraySchema_inj hother]
      exact h
  · intro h
    exact Or.inr ⟨items, rfl, h⟩

theorem isNested_formatSchema {type format : String}
    (h : IsNested (n + 1) (formatSchema type format)) : n = 0 ∧ format = "byte" := by
  rcases h with ⟨rfl, hbytes⟩ | ⟨items, hitems, -⟩
  · have hformat := field?_formatSchema type format
    rw [hbytes, field?_formatSchema, Option.some.injEq, JsonValue.string.injEq] at hformat
    exact ⟨rfl, hformat.symm⟩
  · exact (arraySchema_ne_formatSchema _ _ _ hitems.symm).elim

/-- A schema without the keywords of arrays and formats says no arrays. -/
theorem not_isNested_ofFields {fields : List (String × JsonValue)}
    (hitems : "items" ∉ fields.map Prod.fst) (hformat : "format" ∉ fields.map Prod.fst) :
    ¬IsNested (n + 1) (.ofFields fields) := by
  rintro (⟨-, hbytes⟩ | ⟨items, harray, -⟩)
  · have hnone := field?_ofFields_eq_none.2 hformat
    rw [hbytes, field?_formatSchema] at hnone
    exact Option.some_ne_none _ hnone
  · have hnone := field?_ofFields_eq_none.2 hitems
    rw [harray, field?_arraySchema] at hnone
    exact Option.some_ne_none _ hnone

theorem not_isNested_bareSchema (type : String) : ¬IsNested (n + 1) (bareSchema type) := by
  apply not_isNested_ofFields <;> simp

theorem not_isNested_anySchema : ¬IsNested (n + 1) anySchema := by
  have hempty : anySchema = .ofFields [] := rfl
  rw [hempty]
  exact not_isNested_ofFields List.not_mem_nil List.not_mem_nil

theorem not_isNested_namedSchema (bare : List Char) :
    ¬IsNested (n + 1) (namedSchema index depth bare) := by
  unfold namedSchema
  split
  · rename_i fields hshape
    split
    · apply not_isNested_ofFields <;> split <;> simp
    · exact not_isNested_bareSchema _
  · split
    · apply not_isNested_ofFields <;> simp
    · exact not_isNested_bareSchema _
  · exact not_isNested_bareSchema _

/-- Only byte strings are built in as arrays. -/
theorem eq_bytes_of_isNested {text : String} {schema : JsonValue}
    (h : builtinSchema? text = some schema) (hn : IsNested (n + 1) schema) :
    n = 0 ∧ (text = "Vec<u8>" ∨ text = "[u8]") := by
  unfold builtinSchema? at h
  split_ifs at h with hstring hbool hint hlong hfloat hdouble hbytes hunit <;>
    rw [← Option.some.inj h] at hn
  all_goals first
    | exact (not_isNested_bareSchema _ hn).elim
    | exact (not_isNested_anySchema hn).elim
    | exact absurd (isNested_formatSchema hn).2 (by decide)
    | exact ⟨(isNested_formatSchema hn).1, by simpa using hbytes⟩

theorem splitGeneric?_of_not_mem {s : List Char} (h : '<' ∉ s) : splitGeneric? s = none := by
  rw [Option.eq_none_iff_forall_ne_some]
  rintro ⟨name, arguments⟩ hgeneric
  obtain ⟨body, rfl, -⟩ := splitGeneric?_eq_some_iff.1 hgeneric
  exact h (List.mem_append_right _ List.mem_cons_self)

theorem count_bracketText (s : List Char) : (bracketText s).count ']' = s.count ']' + 1 := by
  rw [bracketText, List.count_cons_of_ne (by decide), List.count_append]
  rfl

/-- Each array takes a closing bracket of the text, unless there are generic types. -/
theorem le_count_of_isNested {s : List Char} (hopen : '<' ∉ s)
    (h : IsNested n (schemaAt index depth s)) : n ≤ s.count ']' := by
  induction s using inner_induction generalizing n with
  | step s ih =>
    cases n with
    | zero => exact Nat.zero_le _
    | succ n =>
      have hbare := stripReference_sublist s
      have hopen' : '<' ∉ stripReference s := fun hmem => hopen (hbare.subset hmem)
      refine Nat.le_trans ?_ (hbare.count_le ']')
      cases hbuiltin : builtinSchema? (String.ofList (stripReference s)) with
      | some schema =>
        rw [schemaAt_builtin hbuiltin] at h
        obtain ⟨rfl, htext⟩ := eq_bytes_of_isNested hbuiltin h
        simp only [← String.toList_inj, String.toList_ofList] at htext
        rcases htext with htext | htext
        · rw [htext] at hopen'
          exact absurd (by decide) hopen'
        · rw [htext]
          decide
      | none =>
        rw [schemaAt_eq hbuiltin] at h
        cases hslice : sliceInner? (stripReference s) with
        | some item =>
          have hform : TypeForm.of (stripReference s) = .sequence item := by
            rw [TypeForm.of, hslice]
          obtain ⟨body, hbody, hitem⟩ := exists_of_sliceInner? hslice
          rw [hform, TypeForm.schema, isNested_arraySchema] at h
          have hopenItem : '<' ∉ item := by
            intro hmem
            apply hopen'
            rw [hbody]
            exact List.mem_cons_of_mem _ (List.mem_append_left _ (hitem.subset hmem))
          rw [hbody, count_bracketText]
          apply Nat.succ_le_succ
          exact Nat.le_trans (ih item (by rw [hform]; rfl) hopenItem h) (hitem.count_le ']')
        | none =>
          have hform : TypeForm.of (stripReference s) = .named := by
            rw [TypeForm.of, hslice, splitGeneric?_of_not_mem hopen']
          rw [hform] at h
          exact (not_isNested_namedSchema _ h).elim

end Arrays

end TransportGen
