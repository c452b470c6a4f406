import Mathlib.Data.Bool.AllAny
import Mathlib.Data.Set.Function
import TransportGen.Name
import TransportGen.Proofs.Text.Pieces

/-!
# Spellings of a name and back

The name of a type such as `ItemService` consists of words that begin with a capital, and the name
of a module such as `item_service` of words with underscores between them. Where each word goes on
with lower-case letters or digits, the two conversions undo each other (`snakeCase_flatten`,
`pascalCase_intercalate`).

* `snakeFrom_word`: what becomes of one word, whatever stands behind it.
* `snakeCase_snakeCase`, `filter_snakeFrom`: texts of ASCII in general, where a word may also be an
  acronym and underscores may stand anywhere.
* `case_conversions`: all of it for whole names.
-/

namespace TransportGen

/-! ## Letters of ASCII -/

/-- The character is one of ASCII. -/
def IsAscii (c : Char) : Prop := c.toNat < 0x80

instance (c : Char) : Decidable (IsAscii c) := inferInstanceAs (Decidable (c.toNat < 0x80))

/-- The character may stand in a word behind its first letter: a lower-case letter or a digit. -/
def IsInner (c : Char) : Prop := c.isLower = true ∨ c.isDigit = true

instance (c : Char) : Decidable (IsInner c) :=
  inferInstanceAs (Decidable (c.isLower = true ∨ c.isDigit = true))

section Ascii

variable {c : Char}

theorem isUpper_of_isAscii (h : IsAscii c) : Text.isUpper c = c.isUpper := if_pos h

theorem isLower_of_isAscii (h : IsAscii c) : Text.isLower c = c.isLower := if_pos h

theorem toLower_of_isAscii (h : IsAscii c) : Text.toLower c = [c.toLower] := if_pos h

theorem toUpper_of_isAscii (h : IsAscii c) : Text.toUpper c = [c.toUpper] := if_pos h

theorem isAscii_of_isUpper (h : c.isUpper = true) : IsAscii c := by
  have hrange : c.val ≥ 'A'.val ∧ c.val ≤ 'Z'.val := of_decide_eq_true h
  have hle : c.toNat ≤ 90 := UInt32.le_iff_toNat_le.1 hrange.2
  exact hle.trans_lt (by decide)

theorem isAscii_of_isLower (h : c.isLower = true) : IsAscii c := by
  have hlast : c.val ≤ 'z'.val := of_decide_eq_true (Bool.and_eq_true_iff.1 h).2
  have hle : c.toNat ≤ 122 := UInt32.le_iff_toNat_le.1 hlast
  exact hle.trans_lt (by decide)

theorem IsInner.isAscii (h : IsInner c) : IsAscii c := by
  rcases h with hlower | hdigit
  · exact isAscii_of_isLower hlower
  · exact (Char.isDigit_iff_toNat.1 hdigit).2.trans_lt (by decide)

/-- Letters of ASCII come in pairs, and digits have no case. -/
theorem ascii_letters (h : IsAscii c) :
    (c.isUpper = true → c.toLower.toUpper = c ∧ c.toUpper = c ∧ c.toLower.isLower = true) ∧
      (c.isLower = true → c.toUpper.toLower = c ∧ c.toUpper.isUpper = true ∧ c.isUpper = false) ∧
      (c.isDigit = true → c.isUpper = false) := by
  have hcode : c.toNat < 0x80 := h
  rw [← Char.ofNat_toNat c]
  generalize c.toNat = n at hcode ⊢
  revert n
  decide +kernel

theorem toUpper_toLower (h : c.isUpper = true) : c.toLower.toUpper = c :=
  ((ascii_letters (isAscii_of_isUpper h)).1 h).1

theorem toUpper_of_isUpper (h : c.isUpper = true) : c.toUpper = c :=
  ((ascii_letters (isAscii_of_isUpper h)).1 h).2.1

theorem isLower_toLower (h : c.isUpper = true) : c.toLower.isLower = true :=
  ((ascii_letters (isAscii_of_isUpper h)).1 h).2.2

theorem toLower_toUpper (h : c.isLower = true) : c.toUpper.toLower = c :=
  ((ascii_letters (isAscii_of_isLower h)).2.1 h).1

theorem isUpper_toUpper (h : c.isLower = true) : c.toUpper.isUpper = true :=
  ((ascii_letters (isAscii_of_isLower h)).2.1 h).2.1

theorem isUpper_of_isLower (h : c.isLower = true) : c.isUpper = false :=
  ((ascii_letters (isAscii_of_isLower h)).2.1 h).2.2

theorem IsInner.isUpper (h : IsInner c) : c.isUpper = false := by
  have hdigit := (ascii_letters h.isAscii).2.2
  rcases h with h | h
  · exact isUpper_of_isLower h
  · exact hdigit h

theorem toLower_of_isUpper_eq_false (h : c.isUpper = false) : c.toLower = c :=
  dif_neg (of_decide_eq_false h)

theorem IsInner.toLower (h : IsInner c) : c.toLower = c := toLower_of_isUpper_eq_false h.isUpper

theorem isUpper_toLower (c : Char) : c.toLower.isUpper = false := by
  cases h : c.isUpper with
  | true => exact isUpper_of_isLower (isLower_toLower h)
  | false => rwa [toLower_of_isUpper_eq_false h]

theorem isAscii_toLower (h : IsAscii c) : IsAscii c.toLower := by
  cases hupper : c.isUpper with
  | true => exact isAscii_of_isLower (isLower_toLower hupper)
  | false => rwa [toLower_of_isUpper_eq_false hupper]

end Ascii

/-! ## Words -/

/-- A word of a name: a first letter of the case that `isFirst` tests, and behind it one or more
lower-case letters or digits. -/
inductive IsNameWord (isFirst : Char → Bool) : List Char → Prop where
  | cons {c : Char} {inner : List Char} (first : isFirst c = true) (ne_nil : inner ≠ [])
      (forall_inner : ∀ d ∈ inner, IsInner d) : IsNameWord isFirst (c :: inner)

theorem IsNameWord.isAscii {isFirst : Char → Bool} {word : List Char}
    (hascii : ∀ {c}, isFirst c = true → IsAscii c) (h : IsNameWord isFirst word) :
    ∀ c ∈ word, IsAscii c := by
  cases h with
  | cons hfirst _ hinner =>
    exact List.forall_mem_cons.2 ⟨hascii hfirst, fun d hd => (hinner d hd).isAscii⟩

theorem IsNameWord.not_mem_underscore {isFirst : Char → Bool} {word : List Char}
    (hfirst_ne : isFirst '_' = false) (h : IsNameWord isFirst word) : '_' ∉ word := by
  cases h with
  | cons hfirst _ hinner =>
    rw [List.mem_cons, not_or]
    constructor
    · rintro rfl
      exact absurd hfirst (Bool.eq_false_iff.1 hfirst_ne)
    · intro hmem
      exact absurd (hinner _ hmem) (by decide)

theorem lowerAscii_cons (c : Char) (s : List Char) :
    Text.lowerAscii (c :: s) = c.toLower :: Text.lowerAscii s := rfl

theorem lowerAscii_of_inner {s : List Char} (h : ∀ d ∈ s, IsInner d) : Text.lowerAscii s = s :=
  (List.map_congr_left fun d hd => (h d hd).toLower).trans (List.map_id s)

/-! ## From types to modules -/

theorem snakeFrom_append_of_inner {inner : List Char} (h : ∀ d ∈ inner, IsInner d)
    (previous : Option Char) (s : List Char) :
    snakeFrom previous (inner ++ s) = inner ++ snakeFrom (inner.getLast?.or previous) s := by
  induction inner generalizing previous with
  | nil => rfl
  | cons d inner ih =>
    rw [List.forall_mem_cons] at h
    rw [List.cons_append, snakeFrom, isUpper_of_isAscii h.1.isAscii, h.1.isUpper, ih h.2,
      List.getLast?_cons]
    cases inner.getLast? <;> rfl

theorem snakeFrom_word {word : List Char} (h : IsNameWord Char.isUpper word)
    (previous : Option Char) (s : List Char) :
    ∃ next last, IsInner last ∧ snakeFrom previous (word ++ s) =
      (if isWordStart previous next then ['_'] else []) ++ Text.lowerAscii word ++
        snakeFrom (some last) s := by
  cases h with
  | @cons c inner hfirst hne hinner =>
    have hascii := isAscii_of_isUpper hfirst
    refine ⟨(inner ++ s).head?, inner.getLast hne, hinner _ (List.getLast_mem hne), ?_⟩
    rw [List.cons_append, snakeFrom, isUpper_of_isAscii hascii, if_pos hfirst,
      toLower_of_isAscii hascii, snakeFrom_append_of_inner hinner,
      List.getLast?_eq_some_getLast hne, Option.some_or, lowerAscii_cons,
      lowerAscii_of_inner hinner]
    simp

theorem isWordStart_of_inner {c : Char} (h : IsInner c) (next : Option Char) :
    isWordStart (some c) next = true := by
  have hstart : (Text.isLower c || c.isDigit) = true := by
    rw [isLower_of_isAscii h.isAscii, Bool.or_eq_true]
    exact h
  rw [isWordStart, if_pos hstart]

/-- Behind another word each word begins with an underscore. -/
theorem snakeFrom_flatten {words : List (List Char)}
    (h : ∀ word ∈ words, IsNameWord Char.isUpper word) {last : Char} (hlast : IsInner last) :
    snakeFrom (some last) words.flatten =
      words.flatMap fun word => '_' :: Text.lowerAscii word := by
  induction words generalizing last with
  | nil => rfl
  | cons word rest ih =>
    rw [List.forall_mem_cons] at h
    obtain ⟨next, last', hlast', hword⟩ := snakeFrom_word h.1 (some last) rest.flatten
    rw [List.flatten_cons, hword, isWordStart_of_inner hlast, ih h.2 hlast', List.flatMap_cons]
    rfl

theorem intercalate_cons {α : Type} (x : α) (word : List α) (rest : List (List α)) :
    [x].intercalate (word :: rest) = word ++ rest.flatMap (x :: ·) := by
  induction rest generalizing word with
  | nil => simp
  | cons next rest ih =>
    rw [List.intercalate_cons_cons, ih, List.flatMap_cons]
    simp

/-- **From a type to a module.** The words in lower case, with underscores between them. -/
theorem snakeCase_flatten {words : List (List Char)}
    (h : ∀ word ∈ words, IsNameWord Char.isUpper word) :
    snakeCase (String.ofList words.flatten) =
      String.ofList (['_'].intercalate (words.map Text.lowerAscii)) := by
  rw [snakeCase, String.toList_ofList]
  cases words with
  | nil => rfl
  | cons word rest =>
    rw [List.forall_mem_cons] at h
    obtain ⟨next, last, hlast, hword⟩ := snakeFrom_word h.1 none rest.flatten
    rw [List.flatten_cons, hword, snakeFrom_flatten h.2 hlast, List.map_cons, intercalate_cons,
      List.flatMap_map]
    rfl

/-! ## From modules to types -/

/-- **From a module to a type.** The words with their first letters in upper case. -/
theorem pascalCase_intercalate {words : List (List Char)} (hne : words ≠ [])
    (h : ∀ word ∈ words, IsNameWord Char.isLower word) :
    pascalCase (String.ofList (['_'].intercalate words)) =
      String.ofList (words.flatMap capitalize) := by
  have hfields : Text.fields (· == '_') (['_'].intercalate words) = words := by
    rw [Text.fields, Text.pieces_intercalate (fun word hword =>
      (h word hword).not_mem_underscore (by decide)) hne, List.filter_eq_self]
    intro word hword
    cases h word hword
    rfl
  rw [pascalCase, String.toList_ofList, hfields]

/-- A word in lower case gets its capital back. -/
theorem capitalize_lowerAscii {word : List Char} (h : IsNameWord Char.isUpper word) :
    capitalize (Text.lowerAscii word) = word := by
  cases h with
  | cons hfirst _ hinner =>
    have hascii := isAscii_toLower (isAscii_of_isUpper hfirst)
    rw [lowerAscii_cons, capitalize, toUpper_of_isAscii hascii, toUpper_toLower hfirst,
      lowerAscii_of_inner hinner]
    rfl

theorem lowerAscii_capitalize {word : List Char} (h : IsNameWord Char.isLower word) :
    Text.lowerAscii (capitalize word) = word ∧ IsNameWord Char.isUpper (capitalize word) := by
  cases h with
  | @cons c inner hfirst hne hinner =>
    have hcapital : capitalize (c :: inner) = c.toUpper :: inner := by
      rw [capitalize, toUpper_of_isAscii (isAscii_of_isLower hfirst)]
      rfl
    rw [hcapital, lowerAscii_cons, toLower_toUpper hfirst, lowerAscii_of_inner hinner]
    exact ⟨rfl, .cons (isUpper_toUpper hfirst) hne hinner⟩

theorem IsNameWord.lowerAscii {word : List Char} (h : IsNameWord Char.isUpper word) :
    IsNameWord Char.isLower (Text.lowerAscii word) := by
  cases h with
  | cons hfirst hne hinner =>
    rw [lowerAscii_cons, lowerAscii_of_inner hinner]
    exact .cons (isLower_toLower hfirst) hne hinner

/-! ## Any text of ASCII -/

section Texts

variable {s : List Char}

theorem snakeFrom_of_not_upper (h : ∀ c ∈ s, Text.isUpper c = false) (previous : Option Char) :
    snakeFrom previous s = s := by
  induction s generalizing previous with
  | nil => rfl
  | cons c s ih =>
    rw [List.forall_mem_cons] at h
    rw [snakeFrom, h.1, ih h.2]
    rfl

/-- One character of ASCII: itself in lower case, and an underscore before it at most. -/
theorem snakeFrom_cons {c : Char} (hc : IsAscii c) (previous : Option Char) (s : List Char) :
    ∃ sep, (sep = [] ∨ sep = ['_']) ∧
      snakeFrom previous (c :: s) = sep ++ c.toLower :: snakeFrom (some c) s := by
  rw [snakeFrom, isUpper_of_isAscii hc]
  by_cases hupper : c.isUpper = true
  · rw [if_pos hupper, toLower_of_isAscii hc]
    split
    · exact ⟨['_'], Or.inr rfl, rfl⟩
    · exact ⟨[], Or.inl rfl, rfl⟩
  · rw [if_neg hupper, toLower_of_isUpper_eq_false (Bool.eq_false_iff.2 hupper)]
    exact ⟨[], Or.inl rfl, rfl⟩

theorem not_isUpper_snakeFrom (h : ∀ c ∈ s, IsAscii c) (previous : Option Char) :
    ∀ c ∈ snakeFrom previous s, Text.isUpper c = false := by
  induction s generalizing previous with
  | nil => exact List.forall_mem_nil _
  | cons c s ih =>
    rw [List.forall_mem_cons] at h
    obtain ⟨sep, hsep, hcons⟩ := snakeFrom_cons h.1 previous s
    have hsep : ∀ d ∈ sep, Text.isUpper d = false := by
      rcases hsep with rfl | rfl
      · exact List.forall_mem_nil _
      · exact List.forall_mem_singleton.2 (by decide)
    have hlower : Text.isUpper c.toLower = false :=
      (isUpper_of_isAscii (isAscii_toLower h.1)).trans (isUpper_toLower _)
    rw [hcons, List.forall_mem_append, List.forall_mem_cons]
    exact ⟨hsep, hlower, ih h.2 (some c)⟩

/-- A text without underscores is kept, but for case. -/
theorem filter_snakeFrom (h : ∀ c ∈ s, IsAscii c) (previous : Option Char) :
    (snakeFrom previous s).filter (· ≠ '_') = (Text.lowerAscii s).filter (· ≠ '_') := by
  induction s generalizing previous with
  | nil => rfl
  | cons c s ih =>
    rw [List.forall_mem_cons] at h
    obtain ⟨sep, hsep, hcons⟩ := snakeFrom_cons h.1 previous s
    have hsep : sep.filter (· ≠ '_') = [] := by
      rcases hsep with rfl | rfl <;> rfl
    rw [hcons, List.filter_append, hsep, List.nil_append, lowerAscii_cons, List.filter_cons,
      List.filter_cons, ih h.2]

end Texts

theorem snakeCase_snakeCase {name : String} (h : ∀ c ∈ name.toList, IsAscii c) :
    snakeCase (snakeCase name) = snakeCase name := by
  rw [snakeCase, snakeCase, String.toList_ofList,
    snakeFrom_of_not_upper (not_isUpper_snakeFrom h none)]

/-! ## Whole names -/

/-- The name of a type: words one after another, each of which begins with a capital. -/
def IsTypeName (name : String) : Prop :=
  ∃ words, words ≠ [] ∧ (∀ word ∈ words, IsNameWord Char.isUpper word) ∧
    name = String.ofList words.flatten

/-- The name of a module: words in lower case with an underscore between any two. -/
def IsModuleName (name : String) : Prop :=
  ∃ words, words ≠ [] ∧ (∀ word ∈ words, IsNameWord Char.isLower word) ∧
    name = String.ofList (['_'].intercalate words)

/-- From a type to a module and back. -/
theorem pascalCase_lowerAscii {words : List (List Char)} (hne : words ≠ [])
    (h : ∀ word ∈ words, IsNameWord Char.isUpper word) :
    pascalCase (String.ofList (['_'].intercalate (words.map Text.lowerAscii))) =
      String.ofList words.flatten := by
  have hlower : ∀ word ∈ words.map Text.lowerAscii, IsNameWord Char.isLower word :=
    List.forall_mem_map.2 fun word hword => (h word hword).lowerAscii
  have hback : (words.map Text.lowerAscii).map capitalize = words := by
    rw [List.map_map]
    exact (List.map_congr_left fun word hword => capitalize_lowerAscii (h word hword)).trans
      (List.map_id words)
  rw [pascalCase_intercalate (mt List.map_eq_nil_iff.1 hne) hlower, List.flatMap_def, hback]

/-- From a module to a type and back. -/
theorem snakeCase_capitalize {words : List (List Char)}
    (h : ∀ word ∈ words, IsNameWord Char.isLower word) :
    snakeCase (String.ofList (words.flatMap capitalize)) =
      String.ofList (['_'].intercalate words) := by
  have hcapital : ∀ word ∈ words.map capitalize, IsNameWord Char.isUpper word :=
    List.forall_mem_map.2 fun word hword => (lowerAscii_capitalize (h word hword)).2
  have hback : (words.map capitalize).map Text.lowerAscii = words := by
    rw [List.map_map]
    exact (List.map_congr_left fun word hword => (lowerAscii_capitalize (h word hword)).1).trans
      (List.map_id words)
  rw [List.flatMap_def, snakeCase_flatten hcapital, hback]

/-- The name of a type is left as it is where one is asked for. -/
theorem IsTypeName.pascalCase_eq {name : String} (h : IsTypeName name) :
    pascalCase name = name := by
  obtain ⟨words, hne, hwords, rfl⟩ := h
  have hpieces : Text.pieces (· == '_') words.flatten = [words.flatten] := by
    apply Text.pieces_of_not_mem
    rw [List.mem_flatten]
    rintro ⟨word, hword, hmem⟩
    exact (hwords word hword).not_mem_underscore (by decide) hmem
  obtain ⟨word, rest, rfl⟩ := List.exists_cons_of_ne_nil hne
  cases hwords word List.mem_cons_self with
  | cons hfirst _ _ =>
    rw [pascalCase, String.toList_ofList, Text.fields, hpieces]
    simp [capitalize, toUpper_of_isAscii (isAscii_of_isUpper hfirst), toUpper_of_isUpper hfirst]

/-- The name of a module is left as it is where one is asked for. -/
theorem IsModuleName.snakeCase_eq {name : String} (h : IsModuleName name) :
    snakeCase name = name := by
  obtain ⟨words, hne, hwords, rfl⟩ := h
  rw [← snakeCase_capitalize hwords]
  apply snakeCase_snakeCase
  rw [String.toList_ofList, List.forall_mem_flatMap]
  intro word hword
  exact (lowerAscii_capitalize (hwords word hword)).2.isAscii isAscii_of_isUpper

theorem IsTypeName.pascalCase_snakeCase {name : String} (h : IsTypeName name) :
    pascalCase (snakeCase name) = name := by
  obtain ⟨words, hne, hwords, rfl⟩ := h
  rw [snakeCase_flatten hwords, pascalCase_lowerAscii hne hwords]

theorem IsModuleName.snakeCase_pascalCase {name : String} (h : IsModuleName name) :
    snakeCase (pascalCase name) = name := by
  obtain ⟨words, hne, hwords, rfl⟩ := h
  rw [pascalCase_intercalate hne hwords, snakeCase_capitalize hwords]

/-- **Names survive the conversions.** The words of a type's name, each a capital with lower-case
letters or digits behind it, are written in lower case with underscores between them, and that is
turned back into the name of the type; the name of a module comes back in the same way. So neither
conversion takes two such names for one. Any text of ASCII is converted to a module's name once and
for all, and keeps all its characters but underscores and case. -/
theorem case_conversions :
    (∀ words : List (List Char), words ≠ [] → (∀ word ∈ words, IsNameWord Char.isUpper word) →
      snakeCase (String.ofList words.flatten) =
          String.ofList (['_'].intercalate (words.map Text.lowerAscii)) ∧
        pascalCase (String.ofList (['_'].intercalate (words.map Text.lowerAscii))) =
          String.ofList words.flatten) ∧
    (∀ name, IsModuleName name → snakeCase (pascalCase name) = name) ∧
    (Set.InjOn snakeCase {name | IsTypeName name} ∧ Set.InjOn pascalCase {name | IsTypeName name} ∧
      Set.InjOn snakeCase {name | IsModuleName name} ∧
      Set.InjOn pascalCase {name | IsModuleName name}) ∧
    ∀ name : String, (∀ c ∈ name.toList, IsAscii c) →
      snakeCase (snakeCase name) = snakeCase name ∧
        (snakeCase name).toList.filter (· ≠ '_') =
          (Text.lowerAscii name.toList).filter (· ≠ '_') := by
  refine ⟨?_, ?_, ⟨?_, ?_, ?_, ?_⟩, ?_⟩
  · intro words hne hwords
    exact ⟨snakeCase_flatten hwords, pascalCase_lowerAscii hne hwords⟩
  · intro name hname
    exact hname.snakeCase_pascalCase
  · have hleft : Set.LeftInvOn pascalCase snakeCase {name | IsTypeName name} :=
      fun _ hname => IsTypeName.pascalCase_snakeCase hname
    exact hleft.injOn
  · intro name hname other hother heq
    rwa [IsTypeName.pascalCase_eq hname, IsTypeName.pascalCase_eq hother] at heq
  · intro name hname other hother heq
    rwa [IsModuleName.snakeCase_eq hname, IsModuleName.snakeCase_eq hother] at heq
  · have hleft : Set.LeftInvOn snakeCase pascalCase {name | IsModuleName name} :=
      fun _ hname => IsModuleName.snakeCase_pascalCase hname
    exact hleft.injOn
  · intro name hascii
    refine ⟨snakeCase_snakeCase hascii, ?_⟩
    rw [snakeCase, String.toList_ofList]
    exact filter_snakeFrom hascii none

/-- Words that end in a digit, and an acronym after an underscore. -/
theorem case_conversions_itemV2 :
    snakeCase "ItemV2Http1" = "item_v2_http1" ∧ pascalCase "item_v2_http1" = "ItemV2Http1" ∧
      snakeCase (pascalCase "item_v2_http1") = "item_v2_http1" ∧
      snakeCase (snakeCase "my_HTTPApi") = snakeCase "my_HTTPApi" ∧
      (snakeCase "my_HTTPApi").toList.filter (· ≠ '_') =
        ['m', 'y', 'h', 't', 't', 'p', 'a', 'p', 'i'] := by
  obtain ⟨htypes, hmodules, -, htexts⟩ := case_conversions
  have hwords : ∀ word ∈ [['I', 't', 'e', 'm'], ['V', '2'], ['H', 't', 't', 'p', '1']],
      IsNameWord Char.isUpper word := by
    simp only [List.forall_mem_cons]
    refine ⟨?_, ?_, ?_, List.forall_mem_nil _⟩
    all_goals exact .cons (by decide) (by decide) (List.all_iff_forall_prop.1 (by decide))
  have hmodule : IsModuleName "item_v2_http1" := by
    refine ⟨[['i', 't', 'e', 'm'], ['v', '2'], ['h', 't', 't', 'p', '1']], by decide, ?_, rfl⟩
    simp only [List.forall_mem_cons]
    refine ⟨?_, ?_, ?_, List.forall_mem_nil _⟩
    all_goals exact .cons (by decide) (by decide) (List.all_iff_forall_prop.1 (by decide))
  have hascii : ∀ c ∈ "my_HTTPApi".toList, IsAscii c :=
    List.all_iff_forall_prop.1 (by decide +kernel)
  obtain ⟨hsnake, hpascal⟩ := htypes _ (by decide) hwords
  obtain ⟨htwice, hletters⟩ := htexts _ hascii
  exact ⟨hsnake, hpascal, hmodules _ hmodule, htwice, hletters⟩

end TransportGen
