import Mathlib.Data.List.Pairwise
import Mathlib.Logic.Function.Conjugate
import TransportGen.Proofs.Directive.Chain

/-!
# The order of directives

A chain reads each line on its own: whether a line is wrong, and what it changes, does not depend on
what was collected before (`collectFrom_eq_mapM`). Links with different keywords change different
parts of the accumulator, so only the order of directives with one keyword counts.

* `foldl_eq_of_subsequences`: interleaving steps of different keys that commute.
* `methodChain_apart`, `documentChain_apart`: no two links of a chain interfere.
* `lineLocal_of_apart`, `directives_lineLocal`: what follows for a doc comment.
-/

namespace TransportGen

variable {α β γ : Type}

/-! ## Interleavings -/

section Interleaving

variable {κ δ σ : Type} {key : δ → κ} {act : δ → σ → σ}

theorem commute_foldl {f : σ → σ} {xs : List δ} (h : ∀ x ∈ xs, Function.Commute f (act x)) :
    Function.Commute f fun s => xs.foldl (fun s x => act x s) s := by
  intro s
  induction xs generalizing s with
  | nil => rfl
  | cons x rest ih =>
    have hx := h x List.mem_cons_self
    have hrest := ih (fun y hy => h y (List.mem_cons_of_mem _ hy)) (act x s)
    simp only [List.foldl_cons, hx s] at hrest ⊢
    exact hrest

/-- **Interleavings.** Where steps with different keys commute, two sequences with the same steps of
each key, in the same order, lead to the same state. -/
theorem foldl_eq_of_subsequences [DecidableEq κ]
    (hcomm : ∀ a b, key a ≠ key b → Function.Commute (act a) (act b)) {xs ys : List δ}
    (h : ∀ k, xs.filter (key · = k) = ys.filter (key · = k)) (s : σ) :
    xs.foldl (fun s x => act x s) s = ys.foldl (fun s x => act x s) s := by
  induction xs generalizing ys s with
  | nil =>
    cases ys with
    | nil => rfl
    | cons y rest => simpa using h (key y)
  | cons x xs ih =>
    -- The first step of the key of `x` in the other sequence is `x`, and all before it commute with
    -- it.
    have hx : ys.filter (key · = key x) = x :: xs.filter (key · = key x) := by
      rw [← h (key x)]
      simp
    obtain ⟨before, after, rfl, hbefore, -, hafter⟩ := List.filter_eq_cons_iff.1 hx
    have hbefore : ∀ y ∈ before, key y ≠ key x := by simpa using hbefore
    have hrest : ∀ k, xs.filter (key · = k) = (before ++ after).filter (key · = k) := by
      intro k
      rw [List.filter_append]
      by_cases hk : key x = k
      · subst hk
        have hnil : before.filter (key · = key x) = [] := by simpa using hbefore
        rw [hnil, List.nil_append, hafter]
      · have hk' := h k
        rw [List.filter_append, List.filter_cons_of_neg (by simpa using hk),
          List.filter_cons_of_neg (by simpa using hk)] at hk'
        exact hk'
    have hmove : Function.Commute (act x) fun s => before.foldl (fun s y => act y s) s :=
      commute_foldl fun y hy => hcomm x y (Ne.symm (hbefore y hy))
    rw [List.foldl_cons, ih hrest, List.foldl_append, List.foldl_append, List.foldl_cons, hmove s]

end Interleaving

/-! ## Line by line -/

/-- **Each line on its own.** The lines of a doc comment are read one by one, and then what they do
is done in their order. -/
theorem collectFrom_eq_mapM (chain : List (Link α)) (marker : String) (state : α)
    (lines : List String) :
    collectFrom chain marker state lines =
      (lines.mapM (lineReading chain marker)).map fun changes =>
        changes.foldl (fun state change => change state) state := by
  induction lines generalizing state with
  | nil => rfl
  | cons line rest ih =>
    rw [collectFrom_cons, List.mapM_cons]
    cases lineReading chain marker line with
    | error e => rfl
    | ok change =>
      have hrest := ih (change state)
      cases hchanges : rest.mapM (lineReading chain marker) with
      | error e =>
        rw [hchanges] at hrest
        exact hrest
      | ok changes =>
        rw [hchanges] at hrest
        exact hrest

theorem collectFrom_append (chain : List (Link α)) (marker : String) (state : α)
    (lines more : List String) :
    collectFrom chain marker state (lines ++ more) =
      collectFrom chain marker state lines >>= fun state =>
        collectFrom chain marker state more := by
  induction lines generalizing state with
  | nil => rfl
  | cons line rest ih =>
    rw [List.cons_append, collectFrom_cons, collectFrom_cons]
    cases lineReading chain marker line with
    | error e => rfl
    | ok change => exact ih (change state)

/-! ## Lines that say nothing -/

section Idle

variable {chain : List (Link α)} {marker : String}

/-- A line without a directive, or with a keyword that no link has, changes nothing. -/
theorem lineReading_eq_id {line : String}
    (h : ∀ d, Directive.parse marker line = some d → ∀ link ∈ chain, link.keyword ≠ d.keyword) :
    lineReading chain marker line = .ok id := by
  unfold lineReading
  cases hparse : Directive.parse marker line with
  | none => rfl
  | some d =>
    have hnone : chain.find? (·.keyword = d.keyword) = none := by
      simpa using h d hparse
    simp only [readingOf, hnone]
    rfl

/-- Lines that change nothing may be left out. -/
theorem collectFrom_filter {keep : String → Bool} {lines : List String}
    (h : ∀ line ∈ lines, keep line = false → lineReading chain marker line = .ok id) (state : α) :
    collectFrom chain marker state (lines.filter keep) = collectFrom chain marker state lines := by
  induction lines generalizing state with
  | nil => rfl
  | cons line rest ih =>
    rw [List.forall_mem_cons] at h
    rw [List.filter_cons, collectFrom_cons]
    split
    · rw [collectFrom_cons]
      exact congrArg _ (funext fun change => ih h.2 (change state))
    · rename_i hkeep
      rw [ih h.2, h.1 (Bool.eq_false_iff.2 hkeep)]
      rfl

end Idle

/-! ## Links that are apart -/

/-- Links with different keywords do not interfere: what they do may be done either way round. -/
def Link.Apart (link other : Link α) : Prop :=
  link.keyword ≠ other.keyword → ∀ item item' change change', link.update item = .ok change →
    other.update item' = .ok change' → Function.Commute change change'

theorem Link.apart_self (link : Link α) : link.Apart link := fun hne => (hne rfl).elim

instance : Std.Symm (Link.Apart (α := α)) where
  symm _ _ h hne item item' change change' hchange hchange' :=
    (h (Ne.symm hne) item' item change' change hchange' hchange).symm

/-- All that a link does is to put values into the accumulator. -/
def Link.Puts (link : Link α) (put : β → α → α) : Prop :=
  ∀ item change, link.update item = .ok change → ∃ value, change = put value

theorem Link.single_puts (keyword : String) (read : String → Except DirectiveProblem β)
    (put : β → α → α) : (Link.single keyword read put).Puts put := by
  intro item change h
  obtain ⟨value, -, rfl⟩ := map_eq_ok.1 h
  exact ⟨value, rfl⟩

theorem Link.list_puts (keyword : String) (read : String → Except DirectiveProblem β)
    (put : β → α → α) : (Link.list keyword read put).Puts put := by
  intro item change h
  obtain ⟨value, -, rfl⟩ := map_eq_ok.1 h
  exact ⟨value, rfl⟩

theorem Link.Puts.apart {link other : Link α} {put : β → α → α} {put' : γ → α → α}
    (h : link.Puts put) (h' : other.Puts put')
    (hput : ∀ value value' state,
      put value (put' value' state) = put' value' (put value state)) : link.Apart other := by
  intro _ item item' change change' hchange hchange'
  obtain ⟨value, rfl⟩ := h item change hchange
  obtain ⟨value', rfl⟩ := h' item' change' hchange'
  exact hput value value'

theorem documentChain_apart : documentChain.Pairwise Link.Apart := by
  simp only [documentChain, documentLinks, List.pairwise_cons, List.forall_mem_cons]
  and_intros
  all_goals first
    | exact (Link.single_puts _ _ _).apart (Link.single_puts _ _ _) fun _ _ _ => rfl
    | exact List.forall_mem_nil _
    | exact .nil

theorem methodChain_apart : methodChain.Pairwise Link.Apart := by
  simp only [methodChain, documentLinks, List.cons_append, List.nil_append, List.pairwise_cons,
    List.forall_mem_cons]
  and_intros
  all_goals first
    | exact (Link.single_puts _ _ _).apart (Link.single_puts _ _ _) fun _ _ _ => rfl
    | exact (Link.single_puts _ _ _).apart (Link.list_puts _ _ _) fun _ _ _ => rfl
    | exact (Link.list_puts _ _ _).apart (Link.single_puts _ _ _) fun _ _ _ => rfl
    | exact (Link.list_puts _ _ _).apart (Link.list_puts _ _ _) fun _ _ _ => rfl
    | exact List.forall_mem_nil _
    | exact .nil

/-! ## Readings of a chain of such links -/

section Apart

variable {chain : List (Link α)}

theorem Link.commute_of_reading {link other : Link α} (h : link.Apart other)
    (hne : link.keyword ≠ other.keyword) {argument argument' : String} {change change' : α → α}
    (hchange : link.reading argument = .ok change)
    (hchange' : other.reading argument' = .ok change') : Function.Commute change change' := by
  unfold Link.reading at hchange hchange'
  split at hchange
  · cases hchange
  split at hchange'
  · cases hchange'
  obtain ⟨changes, hchanges, rfl⟩ := map_eq_ok.1 hchange
  obtain ⟨changes', hchanges', rfl⟩ := map_eq_ok.1 hchange'
  have hitem : ∀ f ∈ changes, ∃ item, link.update item = .ok f := fun f hf =>
    (exists_of_mem_right (mapM_eq_ok_iff.1 hchanges) hf).imp fun _ h => h.2
  have hitem' : ∀ g ∈ changes', ∃ item, other.update item = .ok g := fun g hg =>
    (exists_of_mem_right (mapM_eq_ok_iff.1 hchanges') hg).imp fun _ h => h.2
  refine commute_foldl fun g hg => (commute_foldl fun f hf => ?_).symm
  obtain ⟨item, hf⟩ := hitem f hf
  obtain ⟨item', hg⟩ := hitem' g hg
  exact (h hne item item' f g hf hg).symm

theorem commute_of_readingOf (h : chain.Pairwise Link.Apart) {keyword keyword' : String}
    (hne : keyword ≠ keyword') {argument argument' : String} {change change' : α → α}
    (hchange : readingOf chain keyword argument = .ok change)
    (hchange' : readingOf chain keyword' argument' = .ok change') :
    Function.Commute change change' := by
  have hapart := List.Pairwise.forall_of_forall (fun link _ => Link.apart_self link) h
  unfold readingOf at hchange hchange'
  split at hchange
  · rename_i link hlink
    split at hchange'
    · rename_i other hother
      have hkey : link.keyword = keyword := by simpa using List.find?_some hlink
      have hkey' : other.keyword = keyword' := by simpa using List.find?_some hother
      refine Link.commute_of_reading (hapart (List.mem_of_find?_eq_some hlink)
        (List.mem_of_find?_eq_some hother)) ?_ hchange hchange'
      rw [hkey, hkey']
      exact hne
    · cases hchange'
      exact fun _ => rfl
  · cases hchange
    exact fun _ => rfl

end Apart

/-! ## Doc comments -/

/-- The error of a line on its own: that of its directive, fed to a fresh accumulator. -/
def lineError? (chain : List (Link α)) (empty : α) (marker line : String) :
    Option DirectiveError :=
  match Directive.parse marker line with
  | some d => match (feed d empty chain).result with
    | .ok _ => none
    | .error e => some e
  | none => none

/-- The directives of a doc comment, in the order of the lines. -/
def directivesIn (marker : String) (lines : List String) : List Directive :=
  lines.filterMap (Directive.parse marker)

/-- The arguments of the directives with a keyword, in their order. -/
def argumentsOf (keyword : String) (ds : List Directive) : List String :=
  (ds.filter (·.keyword = keyword)).map (·.argument)

/-- A chain reads each line of a doc comment on its own, and the order of directives counts only
among those with one keyword. -/
structure LineLocal (chain : List (Link α)) (empty : α) (marker : String)
    (parse : List String → Except DirectiveError α) : Prop where
  /-- A doc comment can be read if and only if each of its lines can be read alone. -/
  ok_iff : ∀ lines, (∃ final, parse lines = .ok final) ↔
    ∀ line ∈ lines, lineError? chain empty marker line = none
  /-- Otherwise the error is that of the first line that cannot be read alone. -/
  error_iff : ∀ lines e, parse lines = .error e ↔
    lines.findSome? (lineError? chain empty marker) = some e
  /-- The arguments of each keyword, in their order, say what is collected. -/
  eq_of_arguments : ∀ lines lines' final final', parse lines = .ok final →
    parse lines' = .ok final' →
    (∀ link ∈ chain, argumentsOf link.keyword (directivesIn marker lines) =
      argumentsOf link.keyword (directivesIn marker lines')) → final = final'
  /-- A line without a directive, or with a keyword that no link has, may be put in or left out. -/
  skip : ∀ before line after,
    (∀ d, Directive.parse marker line = some d → ∀ link ∈ chain, link.keyword ≠ d.keyword) →
    parse (before ++ line :: after) = parse (before ++ after)
  /-- Neighbours with different keywords may change places. -/
  swap : ∀ before line line' after d d', Directive.parse marker line = some d →
    Directive.parse marker line' = some d' → d.keyword ≠ d'.keyword →
    ∀ final, parse (before ++ line :: line' :: after) = .ok final ↔
      parse (before ++ line' :: line :: after) = .ok final

section Lines

variable {chain : List (Link α)} {marker : String}

theorem lineError?_eq (chain : List (Link α)) (empty : α) (marker line : String) :
    lineError? chain empty marker line = match lineReading chain marker line with
      | .ok _ => none
      | .error e => some e := by
  unfold lineError? lineReading
  cases Directive.parse marker line with
  | none => rfl
  | some d =>
    have hfeed := feed_eq d empty chain
    cases hreading : readingOf chain d.keyword d.argument with
    | ok change =>
      rw [hreading] at hfeed
      obtain ⟨taken, hfeed⟩ := hfeed
      simp only [hfeed, hreading, Except.mapError]
    | error problem =>
      rw [hreading] at hfeed
      simp only [hfeed, hreading, Except.mapError]

/-- A doc comment is read up to the first line that cannot be read alone. -/
theorem collectFrom_cases (chain : List (Link α)) (empty : α) (marker : String) (state : α)
    (lines : List String) :
    match lines.findSome? (lineError? chain empty marker) with
    | some e => collectFrom chain marker state lines = .error e
    | none => ∃ final, collectFrom chain marker state lines = .ok final := by
  induction lines generalizing state with
  | nil => exact ⟨state, rfl⟩
  | cons line rest ih =>
    rw [List.findSome?_cons, lineError?_eq, collectFrom_cons]
    cases lineReading chain marker line with
    | error e => rfl
    | ok change => exact ih (change state)

/-- The keywords and arguments that a chain has links for, in the order of the lines. -/
def contentsOf (chain : List (Link α)) (marker : String) (lines : List String) :
    List (String × String) :=
  ((directivesIn marker lines).filter fun d =>
    chain.any (·.keyword = d.keyword)).map fun d => (d.keyword, d.argument)

/-- What a keyword and its argument do to an accumulator, and nothing if the argument is wrong. -/
def effectOf (chain : List (Link α)) (content : String × String) : α → α :=
  match readingOf chain content.1 content.2 with
  | .ok change => change
  | .error _ => id

theorem commute_effectOf (h : chain.Pairwise Link.Apart) (a b : String × String)
    (hne : a.1 ≠ b.1) : Function.Commute (effectOf chain a) (effectOf chain b) := by
  unfold effectOf
  split
  · rename_i change hchange
    split
    · rename_i change' hchange'
      exact commute_of_readingOf h hne hchange hchange'
    · exact fun _ => rfl
  · exact fun _ => rfl

/-- What is collected depends on keywords and arguments alone. -/
theorem collectFrom_eq_foldl {state final : α} {lines : List String}
    (h : collectFrom chain marker state lines = .ok final) :
    final = (contentsOf chain marker lines).foldl (fun state content =>
      effectOf chain content state) state := by
  induction lines generalizing state with
  | nil => exact (Except.ok.inj h).symm
  | cons line rest ih =>
    rw [collectFrom_cons, bind_eq_ok] at h
    obtain ⟨change, hchange, hrest⟩ := h
    unfold lineReading at hchange
    cases hparse : Directive.parse marker line with
    | none =>
      rw [hparse] at hchange
      cases hchange
      have hcontents : contentsOf chain marker (line :: rest) = contentsOf chain marker rest := by
        simp [contentsOf, directivesIn, hparse]
      rw [hcontents]
      exact ih hrest
    | some d =>
      rw [hparse] at hchange
      have hreading := mapError_eq_ok.1 hchange
      have heffect : effectOf chain (d.keyword, d.argument) = change := by
        simp only [effectOf, hreading]
      by_cases hany : chain.any (·.keyword = d.keyword) = true
      · have hcontents : contentsOf chain marker (line :: rest) =
            (d.keyword, d.argument) :: contentsOf chain marker rest := by
          simp [contentsOf, directivesIn, hparse, hany]
        rw [hcontents, List.foldl_cons, heffect]
        exact ih hrest
      · have hcontents :
            contentsOf chain marker (line :: rest) = contentsOf chain marker rest := by
          simp [contentsOf, directivesIn, hparse, hany]
        have hnone : chain.find? (·.keyword = d.keyword) = none := by
          simpa using hany
        simp only [readingOf, hnone] at hreading
        cases hreading
        rw [hcontents]
        exact ih hrest

theorem filter_contentsOf (lines : List String) (keyword : String) :
    (contentsOf chain marker lines).filter (·.1 = keyword) =
      if chain.any (·.keyword = keyword) then
        (argumentsOf keyword (directivesIn marker lines)).map (Prod.mk keyword) else [] := by
  unfold contentsOf argumentsOf
  generalize directivesIn marker lines = ds
  induction ds with
  | nil => simp
  | cons d rest ih =>
    by_cases hkey : d.keyword = keyword
    · subst hkey
      by_cases hany : chain.any (·.keyword = d.keyword) = true
      · rw [if_pos hany] at ih ⊢
        simp [hany, ih]
      · rw [if_neg hany] at ih ⊢
        simpa [hany] using ih
    · by_cases hany : chain.any (·.keyword = d.keyword) = true
      · simp [hany, hkey, ih]
      · simp [hany, hkey, ih]

theorem commute_of_lineReading (h : chain.Pairwise Link.Apart) {line line' : String}
    {d d' : Directive} (hd : Directive.parse marker line = some d)
    (hd' : Directive.parse marker line' = some d') (hne : d.keyword ≠ d'.keyword)
    {change change' : α → α} (hchange : lineReading chain marker line = .ok change)
    (hchange' : lineReading chain marker line' = .ok change') :
    Function.Commute change change' := by
  simp only [lineReading, hd] at hchange
  simp only [lineReading, hd'] at hchange'
  exact commute_of_readingOf h hne (mapError_eq_ok.1 hchange) (mapError_eq_ok.1 hchange')

/-- **Line by line.** A chain of links that do not interfere reads each line on its own. -/
theorem lineLocal_of_apart (h : chain.Pairwise Link.Apart) (empty : α) (marker : String) :
    LineLocal chain empty marker (collectFrom chain marker empty) := by
  constructor
  case ok_iff =>
    intro lines
    rw [← List.findSome?_eq_none_iff]
    have hcases := collectFrom_cases chain empty marker empty lines
    cases hfirst : lines.findSome? (lineError? chain empty marker) with
    | none =>
      rw [hfirst] at hcases
      exact ⟨fun _ => rfl, fun _ => hcases⟩
    | some e =>
      rw [hfirst] at hcases
      rw [hcases]
      simp
  case error_iff =>
    intro lines e
    have hcases := collectFrom_cases chain empty marker empty lines
    cases hfirst : lines.findSome? (lineError? chain empty marker) with
    | none =>
      rw [hfirst] at hcases
      obtain ⟨final, hfinal⟩ := hcases
      rw [hfinal]
      simp
    | some e' =>
      rw [hfirst] at hcases
      rw [hcases]
      simp
  case eq_of_arguments =>
    intro lines lines' final final' hfinal hfinal' harguments
    rw [collectFrom_eq_foldl hfinal, collectFrom_eq_foldl hfinal']
    refine foldl_eq_of_subsequences (commute_effectOf h) (fun keyword => ?_) empty
    rw [filter_contentsOf, filter_contentsOf]
    split
    · rename_i hany
      obtain ⟨link, hlink, hkey⟩ := List.any_eq_true.1 hany
      rw [← of_decide_eq_true hkey, harguments link hlink]
    · rfl
  case skip =>
    intro before line after hskip
    rw [collectFrom_append, collectFrom_append]
    refine congrArg _ (funext fun state => ?_)
    rw [collectFrom_cons, lineReading_eq_id hskip]
    rfl
  case swap =>
    intro before line line' after d d' hd hd' hne final
    rw [collectFrom_append, collectFrom_append]
    have hswap : ∀ state, collectFrom chain marker state (line :: line' :: after) = .ok final ↔
        collectFrom chain marker state (line' :: line :: after) = .ok final := by
      intro state
      simp only [collectFrom_cons, bind_eq_ok]
      constructor
      · rintro ⟨change, hchange, change', hchange', hfinal⟩
        rw [← commute_of_lineReading h hd hd' hne hchange hchange' state] at hfinal
        exact ⟨change', hchange', change, hchange, hfinal⟩
      · rintro ⟨change', hchange', change, hchange, hfinal⟩
        rw [commute_of_lineReading h hd hd' hne hchange hchange' state] at hfinal
        exact ⟨change, hchange, change', hchange', hfinal⟩
    simp only [bind_eq_ok, hswap]

end Lines

/-- **Directives are read line by line.** In the doc comment of a method and in that of a trait,
each line is right or wrong on its own, and the order of directives counts only among those with one
keyword. -/
theorem directives_lineLocal (marker : String) :
    LineLocal methodChain {} marker (MethodDirectives.parse marker) ∧
      LineLocal documentChain {} marker (DocumentDirectives.parse marker) :=
  ⟨lineLocal_of_apart methodChain_apart {} marker,
    lineLocal_of_apart documentChain_apart {} marker⟩

end TransportGen
