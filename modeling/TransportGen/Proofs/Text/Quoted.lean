import Mathlib.Algebra.Ring.Parity
import Mathlib.Data.List.DropRight
import TransportGen.Source.Literal
import TransportGen.Text.Quoted

/-!
# Quoted literals are read back

`quoteBy` is `Text.quote` for any choice of the characters that are shown by their code point. What
it writes is a literal whatever the text holds (`Faithful`): nothing between its quotes ends it, and
a reader of string literals finds the text and goes on right behind the closing quote.

* `EscapesNext`, `Enclosed`: which quotes count, said without a reader.
* `quoteCharBy_cases`: the forms of one character.
* `stringValue?_quoteCharBy`: one character is read back.
* `faithful_quoteBy`: whole literals.
-/

namespace TransportGen.Text

open Source (StringFlavor escape? stringValue? unicodeDigits? quotedString?)

/-! ## Literals for any choice of characters -/

/-- What stands for one character inside the quotes, if `escaped` tells which characters without a
short form are shown by their code point. -/
def quoteCharBy (escaped : Char → Bool) (c : Char) : List Char :=
  if c = '"' then ['\\', '"']
  else if c = '\\' then ['\\', '\\']
  else if c = '\n' then ['\\', 'n']
  else if c = '\r' then ['\\', 'r']
  else if c = '\t' then ['\\', 't']
  else if c = '\x00' then ['\\', '0']
  else if escaped c then ['\\', 'u', '\x7b'] ++ hexDigits c.toNat ++ ['\x7d']
  else [c]

/-- A text as a string literal, for a choice of the characters shown by their code point. -/
def quoteBy (escaped : Char → Bool) (s : String) : String :=
  String.ofList ('"' :: s.toList.flatMap (quoteCharBy escaped) ++ ['"'])

theorem quoteBy_isEscaped : quoteBy isEscaped = quote := rfl

/-! ## Quotes that count -/

/-- What stands behind the text is escaped: an odd number of backslashes stands right before it. -/
def EscapesNext (s : List Char) : Prop := Odd (s.rtakeWhile (· == '\\')).length

theorem escapesNext_concat {s : List Char} {c : Char} :
    EscapesNext (s ++ [c]) ↔ c = '\\' ∧ ¬EscapesNext s := by
  rw [EscapesNext, List.rtakeWhile_concat]
  by_cases hc : c = '\\'
  · rw [if_pos (beq_iff_eq.2 hc), List.length_append, List.length_singleton, Nat.odd_add_one]
    exact (and_iff_right hc).symm
  · rw [if_neg (mt beq_iff_eq.1 hc)]
    exact iff_of_false Nat.not_odd_zero fun h => hc h.1

/-- The text may stand between two quotes: it holds no line end, each quote in it is escaped, and
the quote behind it is not. -/
structure Enclosed (body : List Char) : Prop where
  no_lineFeed : '\n' ∉ body
  no_carriageReturn : '\r' ∉ body
  escaped : ∀ before after, body = before ++ '"' :: after → EscapesNext before
  closed : ¬EscapesNext body

/-- The character stands for itself in a literal. -/
def IsPlain (c : Char) : Prop := c ≠ '"' ∧ c ≠ '\\' ∧ c ≠ '\n' ∧ c ≠ '\r'

instance (c : Char) : Decidable (IsPlain c) :=
  inferInstanceAs (Decidable (c ≠ '"' ∧ c ≠ '\\' ∧ c ≠ '\n' ∧ c ≠ '\r'))

namespace Enclosed

variable {a : List Char}

theorem nil : Enclosed [] where
  no_lineFeed := List.not_mem_nil
  no_carriageReturn := List.not_mem_nil
  escaped := by simp
  closed := Nat.not_odd_zero

/-- A quote in a longer text is its last character or one of the text before that. -/
theorem concat_eq_append_cons {c : Char} {before after : List Char}
    (h : a ++ [c] = before ++ '"' :: after) :
    (c = '"' ∧ a = before) ∨ ∃ rest, a = before ++ '"' :: rest := by
  rcases List.eq_nil_or_concat after with rfl | ⟨rest, last, rfl⟩
  · obtain ⟨ha, hc⟩ := List.append_singleton_inj.1 h
    exact Or.inl ⟨hc, ha⟩
  · rw [List.concat_eq_append, ← List.cons_append, ← List.append_assoc] at h
    exact Or.inr ⟨rest, (List.append_singleton_inj.1 h).1⟩

theorem append_plain (h : Enclosed a) {c : Char} (hc : IsPlain c) : Enclosed (a ++ [c]) where
  no_lineFeed := by
    rw [List.mem_append, List.mem_singleton, not_or]
    exact ⟨h.no_lineFeed, hc.2.2.1.symm⟩
  no_carriageReturn := by
    rw [List.mem_append, List.mem_singleton, not_or]
    exact ⟨h.no_carriageReturn, hc.2.2.2.symm⟩
  escaped := by
    intro before after heq
    rcases concat_eq_append_cons heq with ⟨hquote, -⟩ | ⟨rest, hrest⟩
    · exact absurd hquote hc.1
    · exact h.escaped before rest hrest
  closed := fun hnext => hc.2.1 (escapesNext_concat.1 hnext).1

theorem append_plains (h : Enclosed a) {tail : List Char} (htail : ∀ c ∈ tail, IsPlain c) :
    Enclosed (a ++ tail) := by
  induction tail generalizing a with
  | nil => rwa [List.append_nil]
  | cons c tail ih =>
    rw [List.forall_mem_cons] at htail
    rw [List.append_cons]
    exact ih (h.append_plain htail.1) htail.2

/-- A backslash escapes what stands right behind it, and nothing after that. -/
theorem append_escape (h : Enclosed a) {x : Char} (hfeed : x ≠ '\n') (hreturn : x ≠ '\r') :
    Enclosed (a ++ ['\\', x]) := by
  have hnext : EscapesNext (a ++ ['\\']) := escapesNext_concat.2 ⟨rfl, h.closed⟩
  rw [List.append_cons]
  constructor
  case no_lineFeed =>
    simp only [List.mem_append, List.mem_singleton, not_or]
    exact ⟨⟨h.no_lineFeed, by decide⟩, hfeed.symm⟩
  case no_carriageReturn =>
    simp only [List.mem_append, List.mem_singleton, not_or]
    exact ⟨⟨h.no_carriageReturn, by decide⟩, hreturn.symm⟩
  case escaped =>
    intro before after heq
    rcases concat_eq_append_cons heq with ⟨-, rfl⟩ | ⟨rest, hrest⟩
    · exact hnext
    · rcases concat_eq_append_cons hrest with ⟨hquote, -⟩ | ⟨rest', hrest'⟩
      · exact absurd hquote (by decide)
      · exact h.escaped before rest' hrest'
  case closed => exact fun hlast => (escapesNext_concat.1 hlast).2 hnext

end Enclosed

/-! ## One character -/

theorem exists_digitChar {n : Nat} {c : Char} (h : c ∈ hexDigits n) :
    ∃ d < 16, c = Nat.digitChar d := by
  rw [hexDigits] at h
  induction n using Nat.strongRecOn with
  | ind n ih =>
    by_cases hn : n < 16
    · rw [Nat.toDigits_of_lt_base hn, List.mem_singleton] at h
      exact ⟨n, hn, h⟩
    · rw [Nat.toDigits_of_base_le (by decide) (Nat.le_of_not_lt hn), List.mem_append,
        List.mem_singleton] at h
      rcases h with h | h
      · exact ih (n / 16) (by omega) h
      · exact ⟨n % 16, Nat.mod_lt n (by decide), h⟩

theorem isPlain_of_mem_hexDigits {n : Nat} {c : Char} (h : c ∈ hexDigits n) : IsPlain c := by
  have hplain : ∀ d < 16, IsPlain (Nat.digitChar d) := by decide
  obtain ⟨d, hd, rfl⟩ := exists_digitChar h
  exact hplain d hd

theorem unicodeDigits?_digitChar {d count : Nat} (hd : d < 16) (hcount : count < 6) (value : Nat)
    (rest : List Char) :
    unicodeDigits? count value (Nat.digitChar d :: rest) =
      unicodeDigits? (count + 1) (value * 16 + d) rest := by
  have hdigit : ∀ d < 16, Nat.digitChar d ≠ '_' ∧ Nat.digitChar d ≠ '\x7d' ∧
      hexValue? (Nat.digitChar d) = some d := by
    decide
  obtain ⟨hline, hbrace, hvalue⟩ := hdigit d hd
  rw [unicodeDigits?, if_neg hline, if_neg hbrace, hvalue]
  exact if_neg hcount.ne

/-- The digits of a number of at most six digits are read as that number. -/
theorem unicodeDigits?_hexDigits {n : Nat} (h : (hexDigits n).length ≤ 6) (rest : List Char) :
    unicodeDigits? 0 0 (hexDigits n ++ rest) = unicodeDigits? (hexDigits n).length n rest := by
  rw [hexDigits] at h ⊢
  induction n using Nat.strongRecOn generalizing rest with
  | ind n ih =>
    by_cases hn : n < 16
    · rw [Nat.toDigits_of_lt_base hn, List.singleton_append,
        unicodeDigits?_digitChar hn (by decide), Nat.zero_add]
      exact congrArg (unicodeDigits? 1 · rest) (Nat.zero_add n)
    · have hlast : n % 16 < 16 := Nat.mod_lt n (by decide)
      rw [Nat.toDigits_of_base_le (by decide) (Nat.le_of_not_lt hn)] at h ⊢
      rw [List.length_append, List.length_singleton] at h ⊢
      rw [List.append_assoc, List.singleton_append, ih (n / 16) (by omega) (by omega),
        unicodeDigits?_digitChar hlast (by omega), Nat.div_add_mod']

theorem escape?_unicode (c : Char) (rest : List Char) :
    escape? .text ('u' :: '\x7b' :: (hexDigits c.toNat ++ '\x7d' :: rest)) = some (c, rest) := by
  have hvalid : c.toNat.isValidChar := c.valid
  have hlt : c.toNat < 16 ^ 6 := by
    rcases hvalid with h | ⟨-, h⟩ <;> omega
  have hlength : (hexDigits c.toNat).length ≤ 6 :=
    (Nat.length_toDigits_le_iff (by decide) (by decide)).2 hlt
  have hpos : (hexDigits c.toNat).length ≠ 0 := Nat.length_toDigits_pos.ne'
  have hdigits : unicodeDigits? 0 0 (hexDigits c.toNat ++ '\x7d' :: rest) = some (c, rest) := by
    rw [unicodeDigits?_hexDigits hlength, unicodeDigits?, if_neg (by decide), if_pos rfl,
      if_pos ⟨hpos, hvalid⟩, Char.ofNat_toNat]
  rw [escape?, if_neg (by decide), hdigits]
  rfl

/-- **One character.** It stands for itself, or there is an escape for it, which is read as the
character and in which nothing but what stands behind the backslash may have to be escaped. -/
theorem quoteCharBy_cases (escaped : Char → Bool) (c : Char) :
    (quoteCharBy escaped c = [c] ∧ IsPlain c) ∨
      ∃ x tail, quoteCharBy escaped c = '\\' :: x :: tail ∧ (x ≠ '\n' ∧ x ≠ '\r') ∧
        (∀ d ∈ tail, IsPlain d) ∧ ∀ rest, escape? .text (x :: (tail ++ rest)) = some (c, rest) := by
  unfold quoteCharBy
  split_ifs with hquote hslash hfeed hreturn htab hnull hescaped
  · subst hquote
    exact Or.inr ⟨'"', [], rfl, by decide, nofun, fun _ => rfl⟩
  · subst hslash
    exact Or.inr ⟨'\\', [], rfl, by decide, nofun, fun _ => rfl⟩
  · subst hfeed
    exact Or.inr ⟨'n', [], rfl, by decide, nofun, fun _ => rfl⟩
  · subst hreturn
    exact Or.inr ⟨'r', [], rfl, by decide, nofun, fun _ => rfl⟩
  · subst htab
    exact Or.inr ⟨'t', [], rfl, by decide, nofun, fun _ => rfl⟩
  · subst hnull
    exact Or.inr ⟨'0', [], rfl, by decide, nofun, fun _ => rfl⟩
  · refine Or.inr ⟨'u', '\x7b' :: hexDigits c.toNat ++ ['\x7d'], rfl, by decide, ?_, ?_⟩
    · rw [List.forall_mem_append, List.forall_mem_cons, List.forall_mem_singleton]
      exact ⟨⟨by decide, fun d => isPlain_of_mem_hexDigits⟩, by decide⟩
    · intro rest
      rw [List.append_assoc, List.cons_append]
      exact escape?_unicode c rest
  · exact Or.inl ⟨rfl, hquote, hslash, hfeed, hreturn⟩

theorem Enclosed.append_quoteCharBy {a : List Char} (h : Enclosed a) (escaped : Char → Bool)
    (c : Char) : Enclosed (a ++ quoteCharBy escaped c) := by
  rcases quoteCharBy_cases escaped c with ⟨heq, hplain⟩ | ⟨x, tail, heq, hx, htail, -⟩
  · rw [heq]
    exact h.append_plain hplain
  · have hsplit : a ++ '\\' :: x :: tail = a ++ ['\\', x] ++ tail := by simp
    rw [heq, hsplit]
    exact (h.append_escape hx.1 hx.2).append_plains htail

/-! ## Reading back -/

theorem stringValue?_plain {c : Char} (hc : IsPlain c) (fuel : Nat) (rest : List Char) :
    stringValue? .text (fuel + 1) (c :: rest) =
      (stringValue? .text fuel rest).map fun (v, r) => (c :: v, r) := by
  conv_lhs => unfold stringValue?
  rw [if_neg hc.1, if_neg hc.2.2.2, if_neg hc.2.1]
  rfl

theorem stringValue?_escape {c : Char} {s rest : List Char}
    (h : escape? .text s = some (c, rest)) (fuel : Nat) :
    stringValue? .text (fuel + 1) ('\\' :: s) =
      (stringValue? .text fuel rest).map fun (v, r) => (c :: v, r) := by
  conv_lhs => unfold stringValue?
  rw [if_neg (by decide), if_neg (by decide), if_pos rfl]
  -- A line break behind the backslash would be no escape.
  split
  · exact nomatch h
  · exact nomatch h
  · rw [h]

theorem stringValue?_quoteCharBy (escaped : Char → Bool) (c : Char) (fuel : Nat)
    (rest : List Char) :
    stringValue? .text (fuel + 1) (quoteCharBy escaped c ++ rest) =
      (stringValue? .text fuel rest).map fun (v, r) => (c :: v, r) := by
  rcases quoteCharBy_cases escaped c with ⟨heq, hplain⟩ | ⟨x, tail, heq, -, -, hescape⟩
  · rw [heq]
    exact stringValue?_plain hplain fuel rest
  · rw [heq]
    exact stringValue?_escape (hescape rest) fuel

/-- What stands between the quotes is read up to the closing one. -/
theorem stringValue?_quoted (escaped : Char → Bool) (s rest : List Char) {fuel : Nat}
    (hfuel : s.length < fuel) :
    stringValue? .text fuel (s.flatMap (quoteCharBy escaped) ++ '"' :: rest) = some (s, rest) := by
  induction s generalizing fuel with
  | nil =>
    obtain ⟨fuel, rfl⟩ := Nat.exists_eq_succ_of_ne_zero hfuel.ne'
    rfl
  | cons c s ih =>
    obtain ⟨fuel, rfl⟩ := Nat.exists_eq_succ_of_ne_zero (Nat.ne_zero_of_lt hfuel)
    rw [List.flatMap_cons, List.append_assoc, stringValue?_quoteCharBy,
      ih (Nat.lt_of_succ_lt_succ hfuel)]
    rfl

/-- Texts are written so that each is read back, whatever it holds and whatever stands behind it. -/
structure Faithful (literal : String → String) : Prop where
  /-- There are quotes at both ends, and nothing between them ends the literal. -/
  enclosed : ∀ s, ∃ body, (literal s).toList = '"' :: body ++ ['"'] ∧ Enclosed body
  /-- Whatever follows the literal, a reader finds the text and goes on right behind. -/
  reads : ∀ s rest, quotedString? .text ((literal s).toList ++ rest) = some (s.toList, rest)
  /-- No two texts have one literal. -/
  injective : Function.Injective literal

/-- Each character takes up space, so there is fuel for all of them. -/
theorem length_le_flatMap (escaped : Char → Bool) (s : List Char) :
    s.length ≤ (s.flatMap (quoteCharBy escaped)).length := by
  induction s with
  | nil => exact Nat.le_refl 0
  | cons c s ih =>
    have hpos : 0 < (quoteCharBy escaped c).length := by
      rcases quoteCharBy_cases escaped c with ⟨heq, -⟩ | ⟨x, tail, heq, -⟩
      · rw [heq]
        exact Nat.one_pos
      · rw [heq]
        exact Nat.succ_pos _
    rw [List.flatMap_cons, List.length_append, List.length_cons]
    omega

/-- **Literals.** Whichever characters are shown by their code point, every text is read back. -/
theorem faithful_quoteBy (escaped : Char → Bool) : Faithful (quoteBy escaped) := by
  have htext : ∀ s : String, (quoteBy escaped s).toList =
      '"' :: s.toList.flatMap (quoteCharBy escaped) ++ ['"'] := fun s => String.toList_ofList
  have hreads : ∀ s rest, quotedString? .text ((quoteBy escaped s).toList ++ rest) =
      some (s.toList, rest) := by
    intro s rest
    rw [htext, List.append_assoc, List.cons_append, quotedString?]
    apply stringValue?_quoted
    have hlength := length_le_flatMap escaped s.toList
    rw [List.length_append]
    omega
  constructor
  case enclosed =>
    intro s
    refine ⟨_, htext s, ?_⟩
    have hbody : ∀ a, Enclosed a → Enclosed (a ++ s.toList.flatMap (quoteCharBy escaped)) := by
      induction s.toList with
      | nil =>
        intro a ha
        rwa [List.flatMap_nil, List.append_nil]
      | cons c s ih =>
        intro a ha
        rw [List.flatMap_cons, ← List.append_assoc]
        exact ih _ (ha.append_quoteCharBy escaped c)
    exact hbody [] .nil
  case reads => exact hreads
  case injective =>
    intro s t heq
    have hs := hreads s []
    rw [heq, hreads t []] at hs
    exact String.toList_inj.1 (Prod.mk.inj (Option.some.inj hs)).1.symm

end TransportGen.Text
