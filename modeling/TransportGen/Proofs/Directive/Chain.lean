import TransportGen.Directive.Chain
import TransportGen.Proofs.Except

/-!
# What a chain collects

What a line does to an accumulator is the same for every accumulator (`lineReading`, `feed_eq`). A
part of the accumulator is a field with the keyword whose directives it holds; every other link
leaves it alone (`Link.Feeds`). So a part is in the end what the items of its own directives add up
to, in the order of the lines (`collectFrom_part`).
-/

namespace TransportGen

variable {α β γ : Type}

/-! ## What a line does -/

/-- What the argument of a directive does to an accumulator, as a link reads it. -/
def Link.reading (link : Link α) (argument : String) : Except DirectiveProblem (α → α) :=
  if argument.isEmpty then .error (.missingArgument link.keyword)
  else ((link.items argument).mapM link.update).map fun changes state =>
    changes.foldl (fun state change => change state) state

/-- What a keyword and its argument do to an accumulator: nothing, if no link has the keyword. -/
def readingOf (chain : List (Link α)) (keyword argument : String) :
    Except DirectiveProblem (α → α) :=
  match chain.find? (·.keyword = keyword) with
  | some link => link.reading argument
  | none => .ok id

/-- What a line does to an accumulator: nothing, if it holds no directive. -/
def lineReading (chain : List (Link α)) (marker line : String) : Except DirectiveError (α → α) :=
  match Directive.parse marker line with
  | some d => (readingOf chain d.keyword d.argument).mapError (DirectiveError.mk d.line)
  | none => .ok id

theorem Link.applyItems_eq (link : Link α) (line : String) (state : α) (items : List String) :
    match items.mapM link.update with
    | .ok changes => link.applyItems line state items =
        ⟨changes.foldl (fun state change => change state) state, .ok true⟩
    | .error problem => (link.applyItems line state items).result = .error ⟨line, problem⟩ := by
  induction items generalizing state with
  | nil => rfl
  | cons item rest ih =>
    rw [List.mapM_cons, applyItems]
    cases hitem : link.update item with
    | error problem => rfl
    | ok change =>
      have hrest := ih (change state)
      cases hchanges : rest.mapM link.update with
      | error problem =>
        rw [hchanges] at hrest
        exact hrest
      | ok changes =>
        rw [hchanges] at hrest
        exact hrest

/-- **One directive.** What a chain does with a directive is the same for every accumulator. -/
theorem feed_eq (d : Directive) (state : α) (chain : List (Link α)) :
    match readingOf chain d.keyword d.argument with
    | .ok change => ∃ taken, feed d state chain = ⟨change state, .ok taken⟩
    | .error problem => (feed d state chain).result = .error ⟨d.line, problem⟩ := by
  -- The first link with the keyword takes the directive; those before it pass it on.
  induction chain with
  | nil => exact ⟨false, rfl⟩
  | cons link rest ih =>
    by_cases hkey : link.keyword = d.keyword
    · have hfind : readingOf (link :: rest) d.keyword d.argument = link.reading d.argument := by
        simp [readingOf, hkey]
      rw [hfind, Link.reading]
      by_cases hempty : d.argument.isEmpty = true
      · simp [feed, Link.apply, hkey, hempty]
      · have happly :
            link.apply d state = link.applyItems d.line state (link.items d.argument) := by
          simp [Link.apply, hkey, hempty]
        have hitems := link.applyItems_eq d.line state (link.items d.argument)
        rw [← happly] at hitems
        rw [if_neg hempty, feed]
        cases hchanges : (link.items d.argument).mapM link.update with
        | error problem =>
          rw [hchanges] at hitems
          simp only [Except.map]
          rw [hitems]
          exact hitems
        | ok changes =>
          rw [hchanges] at hitems
          simp only [Except.map]
          rw [hitems]
          exact ⟨true, rfl⟩
    · have hfind : readingOf (link :: rest) d.keyword d.argument =
          readingOf rest d.keyword d.argument := by
        simp [readingOf, hkey]
      have hfeed : feed d state (link :: rest) = feed d state rest := by
        simp [feed, Link.apply, Ne.symm hkey]
      rw [hfind, hfeed]
      exact ih

theorem collectFrom_cons (chain : List (Link α)) (marker line : String) (state : α)
    (rest : List String) :
    collectFrom chain marker state (line :: rest) =
      lineReading chain marker line >>= fun change =>
        collectFrom chain marker (change state) rest := by
  rw [collectFrom, lineReading]
  cases hparse : Directive.parse marker line with
  | none => rfl
  | some d =>
    have hfeed := feed_eq d state chain
    cases hreading : readingOf chain d.keyword d.argument with
    | ok change =>
      rw [hreading] at hfeed
      obtain ⟨taken, hfeed⟩ := hfeed
      simp only [hfeed, hreading]
      rfl
    | error problem =>
      rw [hreading] at hfeed
      simp only [hfeed, hreading]
      rfl

/-! ## Parts of an accumulator -/

/-- A field of an accumulator, and the directives that it holds: their keyword, how an argument is
cut and its items are read, and how a value is added. -/
structure Part (α β γ : Type) where
  keyword : String
  items : String → List String
  read : String → Except DirectiveProblem β
  get : α → γ
  add : γ → β → γ

/-- The items of a directive that belong to a part. -/
def Part.itemsOf (part : Part α β γ) (d : Directive) : List String :=
  if d.keyword = part.keyword then part.items d.argument else []

/-- The items of the directives among the lines that belong to a part, in order. -/
def Part.itemsIn (part : Part α β γ) (marker : String) (lines : List String) : List String :=
  (lines.filterMap (Directive.parse marker)).flatMap part.itemsOf

/-- The values of the directives among the lines that belong to a part, in order. -/
def Part.valuesIn (part : Part α β γ) (marker : String) (lines : List String) :
    Except DirectiveProblem (List β) :=
  (part.itemsIn marker lines).mapM part.read

/-- A link with the keyword of a part adds the value of each item to it; another link leaves it as
it is. -/
structure Link.Feeds (link : Link α) (part : Part α β γ) : Prop where
  items : link.keyword = part.keyword → link.items = part.items
  own : link.keyword = part.keyword → ∀ item change, link.update item = .ok change →
    ∃ value, part.read item = .ok value ∧
      ∀ state, part.get (change state) = part.add (part.get state) value
  other : link.keyword ≠ part.keyword → ∀ item change, link.update item = .ok change →
    ∀ state, part.get (change state) = part.get state

/-- A chain whose links feed a part, one of them with its keyword. -/
structure Part.Fed (part : Part α β γ) (chain : List (Link α)) : Prop where
  feeds : ∀ link ∈ chain, link.Feeds part
  mem : ∃ link ∈ chain, link.keyword = part.keyword

theorem Part.fed_iff {part : Part α β γ} {chain : List (Link α)} :
    part.Fed chain ↔
      (∀ link ∈ chain, link.Feeds part) ∧ ∃ link ∈ chain, link.keyword = part.keyword :=
  ⟨fun h => ⟨h.feeds, h.mem⟩, fun h => ⟨h.1, h.2⟩⟩

theorem Link.Feeds.get_own {link : Link α} {part : Part α β γ} (h : link.Feeds part)
    (hkey : link.keyword = part.keyword) {items : List String} {changes : List (α → α)}
    (hall : List.Forall₂ (fun item change => link.update item = .ok change) items changes)
    (state : α) :
    ∃ values, List.Forall₂ (fun item value => part.read item = .ok value) items values ∧
      part.get (changes.foldl (fun state change => change state) state) =
        values.foldl part.add (part.get state) := by
  induction hall generalizing state with
  | nil => exact ⟨[], .nil, rfl⟩
  | cons hchange _ ih =>
    obtain ⟨value, hread, hadd⟩ := h.own hkey _ _ hchange
    obtain ⟨values, hreads, hget⟩ := ih (_ : α)
    exact ⟨value :: values, .cons hread hreads, hget.trans (by rw [hadd, List.foldl_cons])⟩

theorem Link.Feeds.get_other {link : Link α} {part : Part α β γ} (h : link.Feeds part)
    (hkey : link.keyword ≠ part.keyword) {items : List String} {changes : List (α → α)}
    (hall : List.Forall₂ (fun item change => link.update item = .ok change) items changes)
    (state : α) :
    part.get (changes.foldl (fun state change => change state) state) = part.get state := by
  induction hall generalizing state with
  | nil => rfl
  | cons hchange _ ih => exact (ih _).trans (h.other hkey _ _ hchange state)

/-- A directive adds its items to the part that they belong to. -/
theorem readingOf_part {part : Part α β γ} {chain : List (Link α)} (hfed : part.Fed chain)
    {d : Directive} {change : α → α} (h : readingOf chain d.keyword d.argument = .ok change)
    (state : α) :
    ∃ values,
      List.Forall₂ (fun item value => part.read item = .ok value) (part.itemsOf d) values ∧
      part.get (change state) = values.foldl part.add (part.get state) := by
  unfold Part.itemsOf
  unfold readingOf at h
  split at h
  · rename_i link hlink
    have hkey : link.keyword = d.keyword := by simpa using List.find?_some hlink
    have hfeeds := hfed.feeds link (List.mem_of_find?_eq_some hlink)
    unfold Link.reading at h
    split at h
    · cases h
    obtain ⟨changes, hchanges, rfl⟩ := map_eq_ok.1 h
    have hall := mapM_eq_ok_iff.1 hchanges
    by_cases hpart : d.keyword = part.keyword
    · rw [if_pos hpart, ← hfeeds.items (hkey.trans hpart)]
      exact hfeeds.get_own (hkey.trans hpart) hall state
    · rw [if_neg hpart]
      exact ⟨[], .nil, hfeeds.get_other (fun heq => hpart (hkey.symm.trans heq)) hall state⟩
  · rename_i hnone
    cases h
    obtain ⟨link, hmem, hkey⟩ := hfed.mem
    have hne : d.keyword ≠ part.keyword := by
      intro hpart
      simpa [hkey, hpart] using List.find?_eq_none.1 hnone link hmem
    rw [if_neg hne]
    exact ⟨[], .nil, rfl⟩

/-- **What a chain collects.** A part holds in the end what the values of its directives add up to,
line by line and item by item. -/
theorem collectFrom_part {part : Part α β γ} {chain : List (Link α)} (hfed : part.Fed chain)
    {marker : String} {state final : α} {lines : List String}
    (h : collectFrom chain marker state lines = .ok final) :
    ∃ values, part.valuesIn marker lines = .ok values ∧
      part.get final = values.foldl part.add (part.get state) := by
  simp only [Part.valuesIn, mapM_eq_ok_iff]
  induction lines generalizing state with
  | nil =>
    cases h
    exact ⟨[], .nil, rfl⟩
  | cons line rest ih =>
    rw [collectFrom_cons, bind_eq_ok] at h
    obtain ⟨change, hchange, hrest⟩ := h
    obtain ⟨values, hvalues, hfinal⟩ := ih hrest
    unfold lineReading at hchange
    cases hparse : Directive.parse marker line with
    | none =>
      rw [hparse] at hchange
      cases hchange
      have hitems : part.itemsIn marker (line :: rest) = part.itemsIn marker rest := by
        simp [Part.itemsIn, hparse]
      rw [hitems]
      exact ⟨values, hvalues, hfinal⟩
    | some d =>
      rw [hparse] at hchange
      have hitems : part.itemsIn marker (line :: rest) =
          part.itemsOf d ++ part.itemsIn marker rest := by
        simp [Part.itemsIn, hparse]
      obtain ⟨first, hfirst, hget⟩ := readingOf_part hfed (mapError_eq_ok.1 hchange) state
      refine ⟨first ++ values, ?_, ?_⟩
      · rw [hitems]
        exact List.rel_append hfirst hvalues
      · rw [hfinal, hget, List.foldl_append]

end TransportGen
