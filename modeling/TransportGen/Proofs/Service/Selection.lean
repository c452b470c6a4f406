import Mathlib.Data.Set.List
import TransportGen.Proofs.Directive.Lines
import TransportGen.Proofs.Directive.Order
import TransportGen.Service.Processor

/-!
# Selecting processors

The marked lines of a trait's doc comment whose first word is a kind of processor select processors,
and all other marked lines hold directives. Neither of the two readers looks at the lines of the
other (`processors_selected`).

* `selectProcessors_eq_ok_iff`: what is selected, from the words of the selection lines.
* `lineReading_of_isSelection`: what a selection line says to the document chain.
-/

namespace TransportGen

variable {marker : String} {lines : List String}

/-! ## Kinds and their words -/

namespace Processor

theorem ofName?_eq_some_iff {word : String} {kind : Processor} :
    ofName? word = some kind ↔ kind.name = word := by
  constructor
  · intro h
    simpa using List.find?_some h
  · rintro rfl
    cases kind <;> rfl

theorem name_injective : Function.Injective name := by
  intro a b h
  have ha : ofName? a.name = some a := ofName?_eq_some_iff.2 rfl
  rw [h, ofName?_eq_some_iff.2 rfl] at ha
  exact (Option.some.inj ha).symm

/-- Whether the kind serves or sends requests. -/
theorem needsErrors_iff {kind : Processor} :
    kind.needsErrors = true ↔ kind = .httpServer ∨ kind.isClient = true := by
  simp [needsErrors]

end Processor

/-- Words are read if and only if each of them is a kind, and then the kinds are theirs. -/
theorem processorsOf_eq_ok_iff {words : List String} {kinds : List Processor} :
    processorsOf words = .ok kinds ↔ kinds.map Processor.name = words := by
  induction words generalizing kinds with
  | nil => simp [processorsOf, eq_comm]
  | cons word rest ih =>
    rw [processorsOf]
    cases hword : Processor.ofName? word with
    | none =>
      constructor
      · rintro ⟨⟩
      · intro h
        obtain ⟨kind, _, -, hkind, -⟩ := List.map_eq_cons_iff.1 h
        rw [Processor.ofName?_eq_some_iff.2 hkind] at hword
        cases hword
    | some kind =>
      simp only [map_eq_ok, ih]
      rw [Processor.ofName?_eq_some_iff] at hword
      constructor
      · rintro ⟨others, rfl, rfl⟩
        rw [List.map_cons, hword]
      · intro h
        obtain ⟨first, others, rfl, hfirst, hothers⟩ := List.map_eq_cons_iff.1 h
        rw [Processor.name_injective (hword.trans hfirst.symm)]
        exact ⟨others, hothers, rfl⟩

/-! ## Selection lines -/

/-- A line that selects processors: it is marked, and its first word is a kind. -/
def IsSelection (marker line : String) : Prop :=
  ∃ (kind : Processor) (rest : List String), markedWords marker line = some (kind.name :: rest)

/-- A word on a line that selects processors. -/
def IsSelected (marker : String) (lines : List String) (word : String) : Prop :=
  ∃ line ∈ lines, IsSelection marker line ∧ ∃ words, markedWords marker line = some words ∧
    word ∈ words

theorem selectionWords?_eq_some_iff {line : String} {words : List String} :
    selectionWords? marker line = some words ↔
      IsSelection marker line ∧ markedWords marker line = some words := by
  unfold selectionWords?
  split
  · rename_i first rest hwords
    rw [hwords]
    constructor
    · intro h
      split at h
      · rename_i hkind
        obtain ⟨kind, hkind⟩ := Option.isSome_iff_exists.1 hkind
        rw [Processor.ofName?_eq_some_iff.1 hkind |>.symm] at hwords
        exact ⟨⟨kind, rest, hwords⟩, h⟩
      · cases h
    · rintro ⟨⟨kind, others, hline⟩, h⟩
      rw [hwords] at hline
      cases hline
      rwa [if_pos (by rw [Processor.ofName?_eq_some_iff.2 rfl]; rfl)]
  · rename_i hnot
    constructor
    · rintro ⟨⟩
    · rintro ⟨⟨kind, rest, hline⟩, -⟩
      exact (hnot _ _ hline).elim

theorem isSelection_iff {line : String} :
    IsSelection marker line ↔ (selectionWords? marker line).isSome = true := by
  rw [Option.isSome_iff_exists]
  constructor
  · rintro ⟨kind, rest, hline⟩
    exact ⟨_, selectionWords?_eq_some_iff.2 ⟨⟨kind, rest, hline⟩, hline⟩⟩
  · rintro ⟨words, hwords⟩
    exact (selectionWords?_eq_some_iff.1 hwords).1

instance : DecidablePred (IsSelection marker) := fun _ => decidable_of_iff _ isSelection_iff.symm

/-- The words that select processors, in the order of the lines. -/
def selectedWords (marker : String) (lines : List String) : List String :=
  (lines.filterMap (selectionWords? marker)).flatten

theorem mem_selectedWords_iff {word : String} :
    word ∈ selectedWords marker lines ↔ IsSelected marker lines word := by
  simp only [selectedWords, List.mem_flatten, List.mem_filterMap, selectionWords?_eq_some_iff,
    IsSelected]
  constructor
  · rintro ⟨words, ⟨line, hline, hselection, hwords⟩, hword⟩
    exact ⟨line, hline, hselection, words, hwords, hword⟩
  · rintro ⟨line, hline, hselection, words, hwords, hword⟩
    exact ⟨words, ⟨line, hline, hselection, hwords⟩, hword⟩

theorem selectedWords_eq_nil_iff :
    selectedWords marker lines = [] ↔ ∀ line ∈ lines, ¬IsSelection marker line := by
  simp only [List.eq_nil_iff_forall_not_mem, mem_selectedWords_iff, IsSelected]
  constructor
  · rintro h line hline ⟨kind, rest, hwords⟩
    exact h kind.name ⟨line, hline, ⟨kind, rest, hwords⟩, _, hwords, List.mem_cons_self⟩
  · rintro h word ⟨line, hline, hselection, -⟩
    exact h line hline hselection

/-! ## What is selected -/

/-- The kinds that are named, or else the default kinds. -/
def kindsOrDefaults (named : List Processor) : List Processor :=
  if named.isEmpty then Processor.defaults else named

/-- The default kinds have one client. -/
theorem bothClients_iff {named : List Processor} :
    .httpClient ∈ kindsOrDefaults named ∧ .httpsClient ∈ kindsOrDefaults named ↔
      .httpClient ∈ named ∧ .httpsClient ∈ named := by
  unfold kindsOrDefaults
  split
  · rename_i hempty
    rw [List.isEmpty_iff.1 hempty]
    decide
  · rfl

/-- The named kinds with the error mapping that clients and servers bring with them. -/
def withErrors (named : List Processor) : List Processor :=
  if named.any Processor.needsErrors then .httpErrors :: named else named

theorem mem_withErrors_iff {named : List Processor} {kind : Processor} :
    kind ∈ withErrors named ↔
      kind ∈ named ∨ kind = .httpErrors ∧ ∃ other ∈ named, other.needsErrors = true := by
  unfold withErrors
  split
  · rename_i hany
    rw [List.any_eq_true] at hany
    simp only [List.mem_cons, hany, and_true, or_comm]
  · rename_i hany
    rw [List.any_eq_true] at hany
    simp only [hany, and_false, or_false]

/-- **What is selected.** -/
theorem selectProcessors_eq_ok_iff {kinds : List Processor} :
    selectProcessors marker lines = .ok kinds ↔
      ∃ named : List Processor, named.map Processor.name = selectedWords marker lines ∧
        ¬(.httpClient ∈ named ∧ .httpsClient ∈ named) ∧
        kinds = Processor.all.filter ((withErrors (kindsOrDefaults named)).contains ·) := by
  unfold selectProcessors
  simp only [bind_eq_ok, processorsOf_eq_ok_iff]
  refine exists_congr fun named => and_congr_right fun _ => ?_
  rw [← bothClients_iff]
  refine check_bind_eq_ok.trans (and_congr ?_ ?_)
  · rw [Bool.and_eq_true, List.contains_iff_mem, List.contains_iff_mem]
    rfl
  exact ⟨fun h => (Except.ok.inj h).symm, fun h => congrArg Except.ok h.symm⟩

theorem mem_named_iff {named : List Processor}
    (h : named.map Processor.name = selectedWords marker lines) {kind : Processor} :
    kind ∈ named ↔ IsSelected marker lines kind.name := by
  rw [← mem_selectedWords_iff, ← h, List.mem_map_of_injective Processor.name_injective]

theorem mem_of_selectProcessors {named kinds : List Processor}
    (h : kinds = Processor.all.filter ((withErrors (kindsOrDefaults named)).contains ·))
    {kind : Processor} : kind ∈ kinds ↔ kind ∈ kindsOrDefaults named ∨
      kind = .httpErrors ∧ ∃ other ∈ kindsOrDefaults named, other.needsErrors = true := by
  rw [h, List.mem_filter, and_iff_right kind.mem_all, List.contains_iff_mem, mem_withErrors_iff]

theorem exists_error_selectProcessors_iff : (∃ e, selectProcessors marker lines = .error e) ↔
    (∃ word, IsSelected marker lines word ∧ ∀ kind : Processor, kind.name ≠ word) ∨
      IsSelected marker lines "http-client" ∧ IsSelected marker lines "https-client" := by
  rw [exists_error_iff, not_iff_comm, not_or]
  constructor
  · rintro ⟨hwords, hclients⟩
    have hrange : selectedWords marker lines ∈ Set.range (List.map Processor.name) := by
      rw [Set.range_list_map]
      intro word hword
      by_contra hno
      exact hwords ⟨word, mem_selectedWords_iff.1 hword, fun kind hkind => hno ⟨kind, hkind⟩⟩
    obtain ⟨named, hnamed⟩ := hrange
    refine ⟨_, selectProcessors_eq_ok_iff.2 ⟨named, hnamed, ?_, rfl⟩⟩
    rwa [mem_named_iff hnamed, mem_named_iff hnamed]
  · rintro ⟨kinds, hkinds⟩
    obtain ⟨named, hnamed, hclients, -⟩ := selectProcessors_eq_ok_iff.1 hkinds
    rw [mem_named_iff hnamed, mem_named_iff hnamed] at hclients
    refine ⟨?_, hclients⟩
    rintro ⟨word, hword, hno⟩
    rw [← mem_selectedWords_iff, ← hnamed] at hword
    obtain ⟨kind, -, hkind⟩ := List.mem_map.1 hword
    exact hno kind hkind

/-- Of the two clients at most one is selected. -/
theorem isClient_unique {kinds : List Processor} (h : selectProcessors marker lines = .ok kinds)
    {a b : Processor} (ha : a ∈ kinds) (hb : b ∈ kinds) (hclient : a.isClient = true)
    (hother : b.isClient = true) : a = b := by
  obtain ⟨named, -, hclients, heq⟩ := selectProcessors_eq_ok_iff.1 h
  rw [← bothClients_iff] at hclients
  have hnamed : ∀ kind ∈ kinds, kind.isClient = true → kind ∈ kindsOrDefaults named := by
    intro kind hkind hisClient
    rcases (mem_of_selectProcessors heq).1 hkind with hkind | ⟨rfl, -⟩
    · exact hkind
    · cases hisClient
  have ha := hnamed a ha hclient
  have hb := hnamed b hb hother
  -- of two different clients, the one is plain and the other secure
  cases a <;> cases hclient <;> cases b <;> cases hother
  · rfl
  · exact absurd ⟨ha, hb⟩ hclients
  · exact absurd ⟨hb, ha⟩ hclients
  · rfl

/-- Only the selection lines count. -/
theorem selectProcessors_filter : selectProcessors marker (lines.filter (IsSelection marker ·)) =
    selectProcessors marker lines := by
  have hwords : (lines.filter (IsSelection marker ·)).filterMap (selectionWords? marker) =
      lines.filterMap (selectionWords? marker) := by
    rw [List.filterMap_filter]
    refine List.filterMap_congr fun line _ => ?_
    by_cases hselection : IsSelection marker line
    · rw [if_pos (decide_eq_true hselection)]
    · rw [if_neg (by simpa using hselection)]
      rw [isSelection_iff, Option.not_isSome_iff_eq_none] at hselection
      exact hselection.symm
  rw [selectProcessors, selectProcessors, hwords]

/-! ## Two readers of one doc comment -/

/-- What the words of the selection lines select, and that these and all other lines of a doc
comment are read apart. -/
structure Selection (marker : String) (lines : List String) : Prop where
  /-- Nothing is selected exactly if a word is no kind or both clients are named. -/
  error_iff : (∃ e, selectProcessors marker lines = .error e) ↔
    (∃ word, IsSelected marker lines word ∧ ∀ kind : Processor, kind.name ≠ word) ∨
      IsSelected marker lines "http-client" ∧ IsSelected marker lines "https-client"
  /-- Without a selection line, the default kinds are selected. -/
  defaults : (∀ line ∈ lines, ¬IsSelection marker line) →
    selectProcessors marker lines = .ok Processor.defaults
  /-- Otherwise the named kinds are selected, and a server or client brings the error mapping. -/
  named : ∀ kinds, selectProcessors marker lines = .ok kinds →
    (∃ line ∈ lines, IsSelection marker line) → ∀ kind, kind ∈ kinds ↔
      IsSelected marker lines kind.name ∨ kind = .httpErrors ∧ ∃ other : Processor,
        (other = .httpServer ∨ other.isClient = true) ∧ IsSelected marker lines other.name
  /-- Kinds are selected once each, in the order of all kinds. -/
  ordered : ∀ kinds, selectProcessors marker lines = .ok kinds → kinds.Sublist Processor.all
  oneClient : ∀ kinds, selectProcessors marker lines = .ok kinds →
    ∀ a ∈ kinds, ∀ b ∈ kinds, a.isClient = true → b.isClient = true → a = b
  errors : ∀ kinds, selectProcessors marker lines = .ok kinds →
    ∀ kind ∈ kinds, kind = .httpServer ∨ kind.isClient = true → .httpErrors ∈ kinds
  /-- All other lines may be left out. -/
  others : selectProcessors marker (lines.filter (IsSelection marker ·)) =
    selectProcessors marker lines
  /-- The document directives are the same without the selection lines. -/
  directives : DocumentDirectives.parse marker (lines.filter (¬IsSelection marker ·)) =
    DocumentDirectives.parse marker lines

/-- A selection line says nothing to the document chain. -/
theorem lineReading_of_isSelection {line : String} (h : IsSelection marker line) :
    lineReading documentChain marker line = .ok id := by
  obtain ⟨kind, rest, hline⟩ := h
  apply lineReading_eq_id
  intro d hparse link hlink hkey
  obtain ⟨word, hkeyword, hwords⟩ := Directive.words_of_parse hparse
  rw [hwords] at hline
  have hword : word = kind.name.toList := by
    rw [← String.toList_ofList (l := word), (List.cons.inj (Option.some.inj hline)).1]
  have hkinds : ∀ kind ∈ Processor.all, ∀ link ∈ documentChain,
      link.keyword ≠ String.ofList (Text.lowerAscii (stripFamily kind.name.toList)) := by
    simp only [documentChain, documentLinks, List.forall_mem_cons]
    decide +kernel
  rw [hkeyword, hword] at hkey
  exact hkinds kind kind.mem_all link hlink hkey

/-- **Selection lines and directives.** -/
theorem processors_selected (marker : String) (lines : List String) : Selection marker lines := by
  constructor
  case error_iff => exact exists_error_selectProcessors_iff
  case defaults =>
    intro hnone
    have hwords : selectedWords marker lines = [] := selectedWords_eq_nil_iff.2 hnone
    exact selectProcessors_eq_ok_iff.2 ⟨[], hwords.symm, by simp, by decide⟩
  case named =>
    rintro kinds hkinds ⟨line, hline, hselection⟩ kind
    obtain ⟨named, hnamed, -, heq⟩ := selectProcessors_eq_ok_iff.1 hkinds
    have hne : ¬named.isEmpty = true := by
      intro hempty
      rw [List.isEmpty_iff.1 hempty] at hnamed
      exact selectedWords_eq_nil_iff.1 hnamed.symm line hline hselection
    rw [mem_of_selectProcessors heq, kindsOrDefaults, if_neg hne]
    simp only [mem_named_iff hnamed, Processor.needsErrors_iff, and_comm]
  case ordered =>
    intro kinds hkinds
    obtain ⟨named, -, -, rfl⟩ := selectProcessors_eq_ok_iff.1 hkinds
    exact List.filter_sublist
  case oneClient =>
    intro kinds hkinds a ha b hb hclient hother
    exact isClient_unique hkinds ha hb hclient hother
  case errors =>
    intro kinds hkinds kind hkind hneeds
    obtain ⟨named, -, -, heq⟩ := selectProcessors_eq_ok_iff.1 hkinds
    rw [mem_of_selectProcessors heq] at hkind ⊢
    rw [← Processor.needsErrors_iff] at hneeds
    rcases hkind with hkind | ⟨rfl, -⟩
    · exact Or.inr ⟨rfl, kind, hkind, hneeds⟩
    · cases hneeds
  case others => exact selectProcessors_filter
  case directives =>
    apply collectFrom_filter
    intro line _ hkeep
    exact lineReading_of_isSelection (by simpa using hkeep)

end TransportGen
