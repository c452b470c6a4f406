import TransportGen.Directive.Chain

/-!
# The order of links

A link acts on the directives with its keyword and passes every other one on. The links of a chain
have different keywords, so at most one of them acts on a directive, and a chain with the same links
in another order does the same with it (`feed_perm`).

* `OrderFree`: what it means that the order of the links does not matter.
* `orderFree_of_nodup`: it does not, if all keywords differ.
* `links_orderFree`: so it is for the chain of a method and for that of a trait.
-/

namespace TransportGen

variable {α : Type}

/-! ## Links that pass a directive on -/

/-- A link passes a directive on: it neither takes it nor refuses its argument, whatever was
collected, and leaves that as it was. -/
def Link.Passes (link : Link α) (d : Directive) : Prop :=
  ∀ state, link.apply d state = ⟨state, .ok false⟩

section Link

variable {link : Link α} {d : Directive}

theorem Link.passes_of_ne (h : d.keyword ≠ link.keyword) : link.Passes d := fun _ => if_pos h

theorem Link.applyItems_result_ne (link : Link α) (line : String) (state : α)
    (items : List String) : (link.applyItems line state items).result ≠ .ok false := by
  induction items generalizing state with
  | nil => exact nofun
  | cons item rest ih =>
    rw [applyItems]
    split
    · exact ih _
    · exact nofun

/-- A directive with the keyword of a link is taken or refused. -/
theorem Link.apply_result_ne (h : d.keyword = link.keyword) (state : α) :
    (link.apply d state).result ≠ .ok false := by
  rw [apply, if_neg (not_not_intro h)]
  split
  · exact nofun
  · exact link.applyItems_result_ne d.line state _

/-- A link that did nothing with a directive once never does. -/
theorem Link.passes_of_result {state : α} (h : (link.apply d state).result = .ok false) :
    link.Passes d :=
  link.passes_of_ne fun hkey => link.apply_result_ne hkey state h

/-- Of two links with different keywords one passes the directive on. -/
theorem Link.passes_or_passes {other : Link α} (h : link.keyword ≠ other.keyword)
    (d : Directive) : link.Passes d ∨ other.Passes d := by
  by_cases hkey : d.keyword = link.keyword
  · exact Or.inr (other.passes_of_ne (hkey ▸ h))
  · exact Or.inl (link.passes_of_ne hkey)

/-! ## Chains in another order -/

theorem feed_cons_of_passes (h : link.Passes d) (state : α) (rest : List (Link α)) :
    feed d state (link :: rest) = feed d state rest := by
  rw [feed, h state]

theorem feed_cons_congr {rest rest' : List (Link α)}
    (h : ∀ state, feed d state rest = feed d state rest') (state : α) :
    feed d state (link :: rest) = feed d state (link :: rest') := by
  simp only [feed, h]

/-- Neighbours may change places: one of them passes the directive on and may as well be absent. -/
theorem feed_swap {other : Link α} (hne : link.keyword ≠ other.keyword) (state : α)
    (rest : List (Link α)) :
    feed d state (link :: other :: rest) = feed d state (other :: link :: rest) := by
  rcases Link.passes_or_passes hne d with hlink | hother
  · rw [feed_cons_of_passes hlink]
    exact feed_cons_congr (fun state => (feed_cons_of_passes hlink state rest).symm) state
  · rw [feed_cons_of_passes hother]
    exact feed_cons_congr (fun state => feed_cons_of_passes hother state rest) state

end Link

section Chain

variable {chain other : List (Link α)}

/-- **One directive.** The order of links with different keywords makes no difference to it. -/
theorem feed_perm (h : other.Perm chain) (hkeys : (chain.map Link.keyword).Nodup) (d : Directive)
    (state : α) : feed d state other = feed d state chain := by
  induction h generalizing state with
  | nil => rfl
  | cons link _ ih =>
    rw [List.map_cons, List.nodup_cons] at hkeys
    exact feed_cons_congr (ih hkeys.2) state
  | swap link other rest =>
    rw [List.map_cons, List.map_cons, List.nodup_cons, List.mem_cons, not_or] at hkeys
    exact feed_swap (Ne.symm hkeys.1.1) state rest
  | trans _ hsecond ih ih' =>
    exact (ih ((hsecond.map _).nodup_iff.2 hkeys) state).trans (ih' hkeys state)

/-- Chains that do the same with each directive collect the same from all lines. -/
theorem collectFrom_congr (h : ∀ d state, feed d state other = feed d state chain)
    (marker : String) (state : α) (lines : List String) :
    collectFrom other marker state lines = collectFrom chain marker state lines := by
  induction lines generalizing state with
  | nil => rfl
  | cons line rest ih => simp only [collectFrom, h, ih]

/-- The order of the links of a chain does not matter. -/
structure OrderFree (chain : List (Link α)) (empty : α)
    (parse : String → List String → Except DirectiveError α) : Prop where
  /-- With the links in another order every doc comment is read in the same way, and refused with
  the same error. -/
  parse_eq : ∀ other, other.Perm chain →
    ∀ marker lines, collectFrom other marker empty lines = parse marker lines
  /-- Each directive leads to the same result and leaves the same behind, also if it is refused. -/
  feed_eq : ∀ other, other.Perm chain → ∀ d state, feed d state other = feed d state chain
  /-- At most one link does anything with a directive; every other one passes it on. -/
  atMostOne : ∀ d, chain.Pairwise fun link other => link.Passes d ∨ other.Passes d
  /-- A link that neither takes a directive nor refuses it leaves what was collected as it was. -/
  idle : ∀ link ∈ chain, ∀ d state, (link.apply d state).result = .ok false →
    (link.apply d state).state = state

/-- **Different keywords.** Then the order of the links does not matter. -/
theorem orderFree_of_nodup (hkeys : (chain.map Link.keyword).Nodup) (empty : α) :
    OrderFree chain empty fun marker lines => collectFrom chain marker empty lines where
  parse_eq := by
    intro other hperm marker lines
    exact collectFrom_congr (feed_perm hperm hkeys) marker empty lines
  feed_eq := by
    intro other hperm d state
    exact feed_perm hperm hkeys d state
  atMostOne := by
    intro d
    refine (List.pairwise_map.1 hkeys).imp ?_
    intro link other hne
    exact Link.passes_or_passes hne d
  idle := by
    intro link _ d state hresult
    rw [Link.passes_of_result hresult state]

end Chain

/-! ## The two chains -/

theorem nodup_methodChain : (methodChain.map Link.keyword).Nodup := by
  decide +kernel

theorem nodup_documentChain : (documentChain.map Link.keyword).Nodup := by
  decide +kernel

/-- **The order of the links does not matter.** The directives of a method, and those of a trait,
are read in the same way by a chain with the links in any other order: with the same result or the
same error. At most one link takes a directive or refuses it, and the others leave what was
collected as it was. -/
theorem links_orderFree :
    OrderFree methodChain {} MethodDirectives.parse ∧
      OrderFree documentChain {} DocumentDirectives.parse :=
  ⟨orderFree_of_nodup nodup_methodChain {}, orderFree_of_nodup nodup_documentChain {}⟩

end TransportGen
