import TransportGen.Proofs.Directive.Chain
import TransportGen.Proofs.Directive.Lines

/-!
# How keywords are spelled

A keyword is read without regard to the case of its ASCII letters, and the name of a family before
it is dropped. The name of a family counts only if it is spelled in lower case, for it is cut off
before case is dropped: otherwise no link takes the directive (`keyword_spellings_iff`).

* `Spacing.parse_line`: what is read from a marker, a word and an argument, whatever the blanks.
* `stripFamily_append`, `stripFamily_of_ne`: which name of a family is cut off.
-/

namespace TransportGen

/-! ## Letter case -/

/-- The texts differ at most in the case of ASCII letters. -/
def SameLetters (a b : String) : Prop := Text.lowerAscii a.toList = Text.lowerAscii b.toList

/-- A text that is not empty and has no blanks. -/
structure IsWord (text : String) : Prop where
  ne_nil : text.toList ≠ []
  not_blank : ∀ c ∈ text.toList, Text.isBlank c = false

instance : DecidablePred IsWord := fun text =>
  decidable_of_iff (text.toList ≠ [] ∧ (text.toList.all fun c => Text.isBlank c = false) = true) (by
    simp only [List.all_eq_true, decide_eq_true_eq]
    exact ⟨fun ⟨hne, hblank⟩ => ⟨hne, hblank⟩, fun h => ⟨h.ne_nil, h.not_blank⟩⟩)

theorem IsWord.append {a b : String} (ha : IsWord a) (hb : IsWord b) : IsWord (a ++ b) := by
  constructor
  · rw [String.toList_append]
    exact List.append_ne_nil_of_left_ne_nil ha.ne_nil _
  · rw [String.toList_append]
    intro c hc
    exact (List.mem_append.1 hc).elim (ha.not_blank c) (hb.not_blank c)

theorem lowerAscii_append (a b : List Char) :
    Text.lowerAscii (a ++ b) = Text.lowerAscii a ++ Text.lowerAscii b :=
  List.map_append

theorem toNat_toLower (c : Char) :
    c.toLower.toNat = if 65 ≤ c.toNat ∧ c.toNat ≤ 90 then c.toNat + 32 else c.toNat := by
  have hupper : (c.val ≥ 'A'.val ∧ c.val ≤ 'Z'.val) ↔ 65 ≤ c.toNat ∧ c.toNat ≤ 90 := Iff.rfl
  delta Char.toLower
  split
  · rename_i h
    rw [if_pos (hupper.1 h)]
    have hval : (c.val + ('a'.val - 'A'.val)).toNat = (c.toNat + 32) % 2 ^ 32 :=
      UInt32.toNat_add _ _
    have hlt : c.toNat + 32 < 2 ^ 32 := by
      have := (hupper.1 h).2
      omega
    exact hval.trans (Nat.mod_eq_of_lt hlt)
  · rename_i h
    rw [if_neg (mt hupper.2 h)]

theorem isBlank_toLower (c : Char) : Text.isBlank c.toLower = Text.isBlank c := by
  rw [Bool.eq_iff_iff]
  simp only [Text.isBlank, toNat_toLower, Bool.or_eq_true, Bool.and_eq_true, decide_eq_true_eq,
    beq_iff_eq]
  split <;> omega

theorem SameLetters.isWord {a b : String} (h : SameLetters a b) (hb : IsWord b) : IsWord a := by
  constructor
  · intro hnil
    rw [SameLetters, hnil] at h
    exact hb.ne_nil (List.map_eq_nil_iff.1 h.symm)
  · intro c hc
    have hmem : c.toLower ∈ Text.lowerAscii b.toList := h ▸ List.mem_map_of_mem hc
    obtain ⟨d, hd, heq⟩ := List.mem_map.1 hmem
    rw [← isBlank_toLower, ← heq, isBlank_toLower]
    exact hb.not_blank d hd

/-! ## Lines that hold a directive -/

/-- The blanks of a line that holds a directive: at its ends, and behind marker and keyword. -/
structure Spacing where
  front : List Char
  behindMarker : List Char
  behindKeyword : List Char
  back : List Char
  isBlank_front : ∀ c ∈ front, Text.isBlank c = true
  isBlank_behindMarker : ∀ c ∈ behindMarker, Text.isBlank c = true
  isBlank_behindKeyword : ∀ c ∈ behindKeyword, Text.isBlank c = true
  isBlank_back : ∀ c ∈ back, Text.isBlank c = true
  behindMarker_ne_nil : behindMarker ≠ []

/-- A keyword and its argument with the blanks behind the keyword. -/
def Spacing.content (s : Spacing) (keyword argument : String) : List Char :=
  keyword.toList ++ s.behindKeyword ++ argument.toList

/-- The line of a marker, a keyword and an argument. -/
def Spacing.line (s : Spacing) (marker keyword argument : String) : String :=
  String.ofList (s.front ++ (marker.toList ++
    (s.behindMarker ++ s.content keyword argument ++ s.back)))

/-- Blanks stand between keyword and argument, unless there is no argument. -/
def Spacing.Separates (s : Spacing) (argument : String) : Prop :=
  argument = "" ∨ s.behindKeyword ≠ []

section Line

variable {s : Spacing} {marker keyword argument : String}

theorem Spacing.afterMarker?_line (hmarker : IsWord marker) :
    afterMarker? marker.toList (s.line marker keyword argument).toList =
      some (s.behindMarker ++ s.content keyword argument ++ s.back) := by
  have hhead : ∀ rest, Text.trimStart (marker.toList ++ rest) = marker.toList ++ rest := by
    intro rest
    obtain ⟨c, others, hc⟩ := List.exists_cons_of_ne_nil hmarker.ne_nil
    rw [hc]
    exact trimStart_cons (hmarker.not_blank c (hc ▸ List.mem_cons_self)) _
  obtain ⟨c, others, hc⟩ := List.exists_cons_of_ne_nil s.behindMarker_ne_nil
  have hblank : Text.isBlank c = true := s.isBlank_behindMarker c (hc ▸ List.mem_cons_self)
  rw [afterMarker?, line, String.toList_ofList, Text.trimStart,
    List.dropWhile_append_of_pos s.isBlank_front, ← Text.trimStart, hhead,
    Text.stripStart?_eq_some_iff.2 rfl, hc]
  exact if_pos hblank

/-- Keyword and argument are cut apart. -/
theorem Spacing.splitKeyword_content (hkeyword : IsWord keyword)
    (hargument : Text.trim argument.toList = argument.toList) (hs : s.Separates argument) :
    splitKeyword (Text.trim (s.content keyword argument)) = (keyword.toList, argument.toList) := by
  rw [content]
  by_cases hempty : argument = ""
  · subst hempty
    rw [String.toList_empty, List.append_nil, trim_append_blank s.isBlank_behindKeyword,
      trim_of_forall_not hkeyword.not_blank, splitKeyword,
      splitFirst_of_forall_not hkeyword.not_blank]
  · obtain ⟨c, rest, hc⟩ := List.exists_cons_of_ne_nil (hs.resolve_left hempty)
    have hblank := s.isBlank_behindKeyword
    rw [hc, List.forall_mem_cons] at hblank
    have hne : argument.toList ≠ [] := fun hnil => hempty (String.toList_eq_nil_iff.1 hnil)
    rw [trim_word_append hkeyword.ne_nil hkeyword.not_blank hargument hne, hc, List.append_assoc,
      List.cons_append, splitKeyword, splitFirst_append hkeyword.not_blank hblank.1]
    simp only [trim_blank_append hblank.2, hargument]

/-- **Reading a line.** -/
theorem Spacing.parse_line (hmarker : IsWord marker) (hkeyword : IsWord keyword)
    (hargument : Text.trim argument.toList = argument.toList) (hs : s.Separates argument) :
    ∃ d, Directive.parse marker (s.line marker keyword argument) = some d ∧
      d.keyword = String.ofList (Text.lowerAscii (stripFamily keyword.toList)) ∧
      d.argument = argument ∧ d.scope = Scope.ofKeyword d.keyword := by
  have hsplit := splitKeyword_content (s := s) hkeyword hargument hs
  have htrim : Text.trim (s.behindMarker ++ s.content keyword argument ++ s.back) =
      Text.trim (s.content keyword argument) := trim_between s.isBlank_behindMarker s.isBlank_back _
  rw [Directive.parse, afterMarker?_line hmarker, Option.map_some, htrim]
  generalize Text.trim (s.content keyword argument) = text at hsplit
  split
  · contradiction
  · rename_i hnil
    cases hnil
    exact absurd (congrArg Prod.fst hsplit).symm hkeyword.ne_nil
  · rename_i heq
    cases heq
    rw [hsplit]
    exact ⟨_, rfl, rfl, String.ofList_toList, rfl⟩

end Line

/-! ## Families -/

/-- The word begins with the name of a family, in any case. -/
def BeginsWithFamily (word : String) : Prop :=
  ∃ family ∈ keywordFamilies, family.toList <+: Text.lowerAscii word.toList

theorem lowerAscii_family :
    ∀ family ∈ keywordFamilies, Text.lowerAscii family.toList = family.toList := by
  decide

theorem isWord_family : ∀ family ∈ keywordFamilies, IsWord family := by
  decide

/-- The names of families begin with different letters. -/
theorem family_eq_of_append {family other : String} (hfamily : family ∈ keywordFamilies)
    (hother : other ∈ keywordFamilies) {word rest : List Char}
    (h : other.toList ++ rest = family.toList ++ word) : other = family := by
  have hapart : ∀ family ∈ keywordFamilies, ∀ other ∈ keywordFamilies,
      other.toList.take 1 = family.toList.take 1 → other = family := by
    decide
  have hne : ∀ family ∈ keywordFamilies, 1 ≤ family.toList.length := by decide
  refine hapart family hfamily other hother ?_
  rw [← List.take_append_of_le_length (hne other hother), h,
    List.take_append_of_le_length (hne family hfamily)]

theorem stripFamily_eq_self {word : List Char}
    (h : ∀ family ∈ keywordFamilies, ¬family.toList <+: word) : stripFamily word = word := by
  have hnone : (keywordFamilies.findSome? fun family =>
      Text.stripStart? family.toList word) = none := by
    rw [List.findSome?_eq_none_iff]
    intro family hfamily
    rw [Option.eq_none_iff_forall_ne_some]
    intro rest hrest
    exact h family hfamily ⟨rest, Text.stripStart?_eq_some_iff.1 hrest⟩
  rw [stripFamily, hnone]

/-- The name of a family in lower case is cut off. -/
theorem stripFamily_append {family : String} (hfamily : family ∈ keywordFamilies)
    {word : List Char} (hne : word ≠ []) : stripFamily (family.toList ++ word) = word := by
  have hfind : (keywordFamilies.findSome? fun other =>
      Text.stripStart? other.toList (family.toList ++ word)) = some word := by
    cases hfound : keywordFamilies.findSome? fun other =>
        Text.stripStart? other.toList (family.toList ++ word) with
    | none =>
      have hnone := List.findSome?_eq_none_iff.1 hfound family hfamily
      rw [Text.stripStart?_eq_some_iff.2 rfl] at hnone
      cases hnone
    | some rest =>
      obtain ⟨other, hother, hstrip⟩ := List.exists_of_findSome?_eq_some hfound
      have happend := Text.stripStart?_eq_some_iff.1 hstrip
      rw [family_eq_of_append hfamily hother happend] at happend
      rw [List.append_cancel_left happend]
  rw [stripFamily, hfind]
  exact if_neg (by simpa using hne)

theorem SameLetters.not_beginsWithFamily {a b : String} (h : SameLetters a b)
    (hb : ¬BeginsWithFamily b) : ¬BeginsWithFamily a := by
  rw [BeginsWithFamily, h]
  exact hb

theorem stripFamily_of_not_beginsWithFamily {word : String} (h : ¬BeginsWithFamily word) :
    stripFamily word.toList = word.toList := by
  apply stripFamily_eq_self
  intro family hfamily hprefix
  refine h ⟨family, hfamily, ?_⟩
  rw [← lowerAscii_family family hfamily]
  exact hprefix.map _

/-- The name of a family is not cut off unless it is in lower case. -/
theorem stripFamily_of_ne {family given : String} (hfamily : family ∈ keywordFamilies)
    (hgiven : SameLetters given family) (hne : given ≠ family) (word : List Char) :
    stripFamily (given.toList ++ word) = given.toList ++ word := by
  apply stripFamily_eq_self
  rintro other hother ⟨rest, hrest⟩
  have hlower := congrArg Text.lowerAscii hrest
  rw [lowerAscii_append, lowerAscii_append, hgiven, lowerAscii_family other hother,
    lowerAscii_family family hfamily] at hlower
  have heq := family_eq_of_append hfamily hother hlower
  subst heq
  have hlength : other.toList.length = given.toList.length := by
    have hletters := congrArg List.length hgiven
    rw [Text.lowerAscii, Text.lowerAscii, List.length_map, List.length_map] at hletters
    exact hletters.symm
  exact hne (String.toList_inj.1 (List.append_inj_left hrest hlength)).symm

/-! ## What a chain does with a directive -/

variable {α : Type}

/-- What is left is the same, but for the line that an error quotes. -/
structure Outcome.Alike (a b : Outcome α) : Prop where
  state : a.state = b.state
  result : a.result.mapError DirectiveError.problem = b.result.mapError DirectiveError.problem

theorem Link.applyItems_alike (link : Link α) (line line' : String) (state : α)
    (items : List String) :
    (link.applyItems line state items).Alike (link.applyItems line' state items) := by
  induction items generalizing state with
  | nil => exact ⟨rfl, rfl⟩
  | cons item rest ih =>
    rw [applyItems, applyItems]
    cases link.update item with
    | error problem => exact ⟨rfl, rfl⟩
    | ok change => exact ih (change state)

theorem Link.apply_alike (link : Link α) {d d' : Directive} (hkeyword : d.keyword = d'.keyword)
    (hargument : d.argument = d'.argument) (state : α) :
    (link.apply d state).Alike (link.apply d' state) := by
  rw [apply, apply, ← hkeyword, ← hargument]
  split
  · exact ⟨rfl, rfl⟩
  · split
    · exact ⟨rfl, rfl⟩
    · exact link.applyItems_alike d.line d'.line state _

/-- **Feeding.** A chain looks at nothing but keyword and argument. -/
theorem feed_alike {d d' : Directive} (hkeyword : d.keyword = d'.keyword)
    (hargument : d.argument = d'.argument) (state : α) (chain : List (Link α)) :
    (feed d state chain).Alike (feed d' state chain) := by
  induction chain generalizing state with
  | nil => exact ⟨rfl, rfl⟩
  | cons link rest ih =>
    have happly := link.apply_alike hkeyword hargument state
    rw [feed, feed]
    generalize link.apply d state = a at happly
    generalize link.apply d' state = b at happly
    obtain ⟨a, result⟩ := a
    obtain ⟨b, result'⟩ := b
    obtain ⟨rfl, hresult⟩ := happly
    cases result with
    | error e =>
      cases result' with
      | error e' => exact ⟨rfl, hresult⟩
      | ok taken => cases hresult
    | ok taken =>
      cases result' with
      | error e' => cases hresult
      | ok taken' =>
        cases hresult
        cases taken with
        | false => exact ih a
        | true => exact ⟨rfl, rfl⟩

theorem feed_of_forall_ne {d : Directive} {chain : List (Link α)}
    (h : ∀ link ∈ chain, link.keyword ≠ d.keyword) (state : α) :
    feed d state chain = ⟨state, .ok false⟩ := by
  induction chain with
  | nil => rfl
  | cons link rest ih =>
    rw [List.forall_mem_cons] at h
    have hpass : link.apply d state = ⟨state, .ok false⟩ := if_pos (Ne.symm h.1)
    rw [feed, hpass]
    exact ih h.2

/-- Two directives say the same, and both chains do the same with them. -/
structure Directive.ReadAlike (d d' : Directive) : Prop where
  keyword : d.keyword = d'.keyword
  argument : d.argument = d'.argument
  scope : d.scope = d'.scope
  method : ∀ state, (feed d state methodChain).Alike (feed d' state methodChain)
  document : ∀ state, (feed d state documentChain).Alike (feed d' state documentChain)

/-- Both chains drop the directive. -/
structure Directive.Dropped (d : Directive) : Prop where
  method : ∀ state, feed d state methodChain = ⟨state, .ok false⟩
  document : ∀ state, feed d state documentChain = ⟨state, .ok false⟩

/-- A keyword that begins with the name of a family is known to no link. -/
theorem Directive.dropped_of_family {d : Directive} {family : String}
    (hfamily : family ∈ keywordFamilies) (h : family.toList <+: d.keyword.toList) : d.Dropped := by
  have hmethod : ∀ link ∈ methodChain, ∀ family ∈ keywordFamilies,
      ¬family.toList <+: link.keyword.toList := by
    simp only [methodChain, documentLinks, List.cons_append, List.nil_append, List.forall_mem_cons]
    decide +kernel
  have hdocument : ∀ link ∈ documentChain, ∀ family ∈ keywordFamilies,
      ¬family.toList <+: link.keyword.toList := by
    simp only [documentChain, documentLinks, List.forall_mem_cons]
    decide +kernel
  constructor
  · exact feed_of_forall_ne fun link hlink hkey => hmethod link hlink family hfamily (hkey ▸ h)
  · exact feed_of_forall_ne fun link hlink hkey => hdocument link hlink family hfamily (hkey ▸ h)

/-- **How keywords are spelled.** A line with a keyword, in any case, gives the keyword in lower
case. The keyword may stand behind the name of a family, which makes no difference exactly if the
name is in lower case; otherwise the directive is dropped. -/
theorem keyword_spellings_iff {marker keyword spelling spelling' family given argument : String}
    {s t : Spacing} (hmarker : IsWord marker) (hkeyword : IsWord keyword)
    (hbare : ¬BeginsWithFamily keyword) (hspelling : SameLetters spelling keyword)
    (hspelling' : SameLetters spelling' keyword) (hfamily : family ∈ keywordFamilies)
    (hgiven : SameLetters given family)
    (hargument : Text.trim argument.toList = argument.toList) (hs : s.Separates argument)
    (ht : t.Separates argument) :
    ∃ d d', Directive.parse marker (s.line marker spelling argument) = some d ∧
      Directive.parse marker (t.line marker (given ++ spelling') argument) = some d' ∧
      d.keyword = String.ofList (Text.lowerAscii keyword.toList) ∧ d.argument = argument ∧
      d.scope = Scope.ofKeyword d.keyword ∧ (d.ReadAlike d' ↔ given = family) ∧
      (given ≠ family → d'.Dropped) := by
  have hword : IsWord (given ++ spelling') :=
    (hgiven.isWord (isWord_family family hfamily)).append (hspelling'.isWord hkeyword)
  obtain ⟨d, hd, hkey, harg, hscope⟩ :=
    s.parse_line hmarker (hspelling.isWord hkeyword) hargument hs
  obtain ⟨d', hd', hkey', harg', hscope'⟩ := t.parse_line hmarker hword hargument ht
  rw [stripFamily_of_not_beginsWithFamily (hspelling.not_beginsWithFamily hbare), hspelling] at hkey
  rw [String.toList_append] at hkey'
  refine ⟨d, d', hd, hd', hkey, harg, hscope, ?_⟩
  by_cases hlower : given = family
  · subst hlower
    rw [stripFamily_append hfamily (hspelling'.isWord hkeyword).ne_nil, hspelling'] at hkey'
    have hsame : d.keyword = d'.keyword := hkey.trans hkey'.symm
    have harguments : d.argument = d'.argument := harg.trans harg'.symm
    refine ⟨iff_of_true ⟨hsame, harguments, ?_, fun state => feed_alike hsame harguments state _,
      fun state => feed_alike hsame harguments state _⟩ rfl, fun hne => (hne rfl).elim⟩
    rw [hscope, hscope', hsame]
  · rw [stripFamily_of_ne hfamily hgiven hlower, lowerAscii_append, hgiven, hspelling',
      lowerAscii_family family hfamily] at hkey'
    refine ⟨iff_of_false ?_ hlower, fun _ => Directive.dropped_of_family hfamily ?_⟩
    · intro halike
      have hsame := String.ofList_injective (hkey.symm.trans (halike.keyword.trans hkey'))
      exact hbare ⟨family, hfamily, _, hsame.symm⟩
    · rw [hkey', String.toList_ofList]
      exact List.prefix_append _ _

/-- One blank behind the marker and one behind the keyword. -/
def narrowSpacing : Spacing where
  front := []
  behindMarker := [' ']
  behindKeyword := [' ']
  back := []
  isBlank_front := List.forall_mem_nil _
  isBlank_behindMarker := isBlank_space
  isBlank_behindKeyword := isBlank_space
  isBlank_back := List.forall_mem_nil _
  behindMarker_ne_nil := List.cons_ne_nil _ _

/-- Blanks of different kinds, in all places. -/
def wideSpacing : Spacing where
  front := ['\t']
  behindMarker := [' ', '\u3000']
  behindKeyword := [' ', '\t', ' ']
  back := [' ']
  isBlank_front := List.all_eq_true.1 (by decide)
  isBlank_behindMarker := List.all_eq_true.1 (by decide)
  isBlank_behindKeyword := List.all_eq_true.1 (by decide)
  isBlank_back := isBlank_space
  behindMarker_ne_nil := List.cons_ne_nil _ _

/-- Case and blanks do not count, nor does a family in lower case. -/
theorem keyword_spellings_title :
    ∃ d d', Directive.parse "@gtg" "@gtg Title Items API" = some d ∧
      Directive.parse "@gtg" "\t@gtg \u3000swagger-tITLE \t Items API " = some d' ∧
      d.keyword = "title" ∧ d.argument = "Items API" ∧ d.ReadAlike d' := by
  have hmarker : IsWord "@gtg" := by decide
  have hkeyword : IsWord "title" := by decide
  have hbare : ¬BeginsWithFamily "title" := by
    unfold BeginsWithFamily
    decide
  have hspelling : SameLetters "Title" "title" ∧ SameLetters "tITLE" "title" := by
    unfold SameLetters
    decide
  have hfamily : "swagger-" ∈ keywordFamilies := by decide
  have hargument : Text.trim "Items API".toList = "Items API".toList := by decide
  have hnarrow : narrowSpacing.Separates "Items API" := Or.inr (by decide)
  have hwide : wideSpacing.Separates "Items API" := Or.inr (by decide)
  obtain ⟨d, d', hd, hd', hlower, htext, -, halike, -⟩ := keyword_spellings_iff hmarker hkeyword
    hbare hspelling.1 hspelling.2 hfamily rfl hargument hnarrow hwide
  exact ⟨d, d', hd, hd', hlower, htext, halike.2 rfl⟩

/-- **A family in upper case.** The keyword behind it is read in any case, and the directive is
dropped all the same. -/
theorem title_dropped_upperCase :
    SameLetters "Swagger-" "swagger-" ∧
      DocumentDirectives.parse "@gtg" ["@gtg Title Items API"] =
        .ok { title := some "Items API" } ∧
      DocumentDirectives.parse "@gtg" ["@gtg swagger-Title Items API"] =
        .ok { title := some "Items API" } ∧
      DocumentDirectives.parse "@gtg" ["@gtg Swagger-Title Items API"] = .ok {} := by
  refine ⟨?_, ?_, ?_, ?_⟩
  · unfold SameLetters
    decide
  · decide +kernel
  · decide +kernel
  · decide +kernel

end TransportGen
