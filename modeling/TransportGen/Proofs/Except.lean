import Mathlib.Data.List.Forall2

/-!
# Computations that succeed

What a successful result of a composed computation says about its parts.

* `bind_eq_ok`, `map_eq_ok`, `mapError_eq_ok`: one computation after another.
* `mapM_eq_ok_iff`, `forM_eq_ok_iff`: a computation for each element of a list.
* `exists_map_eq`: the values of a list of elements as a function.
* `exists_ok_of_any`: a test of the result, run as a whole, gives the result it tests.
-/

namespace TransportGen

variable {ε α β : Type}

theorem bind_eq_ok {x : Except ε α} {f : α → Except ε β} {b : β} :
    x >>= f = .ok b ↔ ∃ a, x = .ok a ∧ f a = .ok b := by
  cases x <;> simp [bind, Except.bind]

theorem map_eq_ok {x : Except ε α} {f : α → β} {b : β} :
    x.map f = .ok b ↔ ∃ a, x = .ok a ∧ f a = b := by
  cases x <;> simp [Except.map]

theorem mapError_eq_ok {δ : Type} {x : Except ε α} {f : ε → δ} {a : α} :
    x.mapError f = .ok a ↔ x = .ok a := by
  cases x <;> simp [Except.mapError]

/-- A computation fails if and only if it has no result. -/
theorem exists_error_iff {x : Except ε α} : (∃ e, x = .error e) ↔ ¬∃ a, x = .ok a := by
  cases x <;> simp

theorem throw_bind_ne_ok {e : ε} {f : α → Except ε β} {b : β} :
    (throw e >>= f : Except ε β) ≠ .ok b := nofun

/-- What follows a check succeeds only if the check does. -/
theorem check_bind_eq_ok {c : Prop} [Decidable c] {e : ε} {f : Unit → Except ε α}
    {x : Except ε α} {a : α} :
    (if c then throw e >>= f else x) = .ok a ↔ ¬c ∧ x = .ok a := by
  split
  · rename_i hc
    exact ⟨fun h => (throw_bind_ne_ok h).elim, fun h => (h.1 hc).elim⟩
  · rename_i hc
    exact ⟨fun h => ⟨hc, h⟩, And.right⟩

theorem check_eq_ok {c : Prop} [Decidable c] {e : ε} {u : Unit} :
    (if c then throw e else pure () : Except ε Unit) = .ok u ↔ ¬c := by
  split
  · rename_i hc
    exact ⟨fun h => (nomatch h), fun h => (h hc).elim⟩
  · rename_i hc
    exact ⟨fun _ => hc, fun _ => rfl⟩

theorem eq_ok_of_toOption_join {x : Except ε (Option α)} {a : α}
    (h : x.toOption.join = some a) : x = .ok (some a) := by
  cases x with
  | error e => cases h
  | ok o => exact congrArg Except.ok h

/-- What a test of a value shows of the computation that gives it. -/
theorem exists_ok_of_any {x : Except ε (Option α)} {p : α → Prop} [DecidablePred p]
    (h : x.toOption.join.any (fun a => p a) = true) : ∃ a, x = .ok (some a) ∧ p a := by
  obtain ⟨a, ha, hp⟩ := (Option.any_eq_true _ _).1 h
  exact ⟨a, eq_ok_of_toOption_join ha, of_decide_eq_true hp⟩

/-- Each element gives the value at its place. -/
theorem mapM_eq_ok_iff {f : α → Except ε β} {xs : List α} {ys : List β} :
    xs.mapM f = .ok ys ↔ List.Forall₂ (fun x y => f x = .ok y) xs ys := by
  induction xs generalizing ys with
  | nil =>
    rw [List.mapM_nil, List.forall₂_nil_left_iff]
    exact ⟨fun h => (Except.ok.inj h).symm, fun h => h ▸ rfl⟩
  | cons x xs ih =>
    rw [List.mapM_cons, bind_eq_ok, List.forall₂_cons_left_iff]
    constructor
    · rintro ⟨y, hy, h⟩
      obtain ⟨rest, hrest, h⟩ := bind_eq_ok.1 h
      exact ⟨y, rest, hy, ih.1 hrest, (Except.ok.inj h).symm⟩
    · rintro ⟨y, rest, hy, hrest, rfl⟩
      exact ⟨y, hy, bind_eq_ok.2 ⟨rest, ih.2 hrest, rfl⟩⟩

/-- Each element passes a check. -/
theorem forM_eq_ok_iff {check : α → Except ε Unit} {xs : List α} :
    xs.forM check = .ok () ↔ ∀ x ∈ xs, check x = .ok () := by
  induction xs with
  | nil => exact iff_of_true rfl (List.forall_mem_nil _)
  | cons x xs ih =>
    have hcons : (x :: xs).forM check = (check x >>= fun _ => xs.forM check) := rfl
    rw [hcons, bind_eq_ok, List.forall_mem_cons, ← ih]
    exact ⟨fun ⟨_, hx, hrest⟩ => ⟨hx, hrest⟩, fun h => ⟨(), h⟩⟩

/-- A value in the results comes from an element. -/
theorem exists_of_mem_right {R : α → β → Prop} {xs : List α} {ys : List β}
    (h : List.Forall₂ R xs ys) {y : β} (hy : y ∈ ys) : ∃ x ∈ xs, R x y := by
  induction h with
  | nil => cases hy
  | @cons x _ _ _ hxy _ ih =>
    rcases List.mem_cons.1 hy with rfl | hy
    · exact ⟨x, List.mem_cons_self, hxy⟩
    · obtain ⟨x', hx', h⟩ := ih hy
      exact ⟨x', List.mem_cons_of_mem _ hx', h⟩

/-- Where elements have one value each, the values in a list are those of a function. -/
theorem exists_map_eq [Nonempty β] {R : α → β → Prop}
    (hunique : ∀ x a b, R x a → R x b → a = b) {xs : List α} {ys : List β}
    (h : List.Forall₂ R xs ys) : ∃ f : α → β, ys = xs.map f ∧ ∀ x ∈ xs, R x (f x) := by
  have hchoice : ∀ x y, R x y → R x (Classical.epsilon (R x)) := by
    intro x y hxy
    exact Classical.epsilon_spec ⟨y, hxy⟩
  refine ⟨fun x => Classical.epsilon (R x), ?_⟩
  induction h with
  | nil => exact ⟨rfl, List.forall_mem_nil _⟩
  | @cons x y _ _ hxy _ ih =>
    obtain ⟨hys, hxs⟩ := ih
    have hx := hchoice x y hxy
    refine ⟨?_, List.forall_mem_cons.2 ⟨hx, hxs⟩⟩
    rw [List.map_cons, ← hys, hunique x _ _ hxy hx]

end TransportGen
