/-!
# Blanks

A blank is a character of the Unicode property `White_Space`. `trim` takes the blanks off both ends
of a text and `words` cuts a text at its blanks.

* `isBlank_of_isWhitespace`: every white-space character of the standard library is a blank.
* `length_trim_le`, `length_of_splitFirst`: trimming and cutting give no longer texts.
-/

namespace TransportGen.Text

/-- Whether the character is white space. -/
def isBlank (c : Char) : Bool :=
  let code := c.toNat
  (9 ≤ code && code ≤ 13) || code == 0x20 || code == 0x85 || code == 0xA0 || code == 0x1680 ||
    (0x2000 ≤ code && code ≤ 0x200A) || code == 0x2028 || code == 0x2029 || code == 0x202F ||
    code == 0x205F || code == 0x3000

theorem isBlank_of_isWhitespace {c : Char} (h : c.isWhitespace = true) : isBlank c = true := by
  simp only [Char.isWhitespace, Bool.or_eq_true, decide_eq_true_eq] at h
  rcases h with ((h | h) | h) | h <;> subst h <;> decide

/-- The text without its leading blanks. -/
def trimStart (s : List Char) : List Char := s.dropWhile isBlank

/-- The text without its trailing blanks. -/
def trimEnd (s : List Char) : List Char := (s.reverse.dropWhile isBlank).reverse

/-- The text without the blanks at its ends. -/
def trim (s : List Char) : List Char := trimEnd (trimStart s)

theorem length_dropWhile_le (p : Char → Bool) (s : List Char) :
    (s.dropWhile p).length ≤ s.length :=
  (List.dropWhile_suffix p).length_le

theorem length_trim_le (s : List Char) : (trim s).length ≤ s.length := by
  have h₁ := length_dropWhile_le isBlank s
  have h₂ := length_dropWhile_le isBlank (s.dropWhile isBlank).reverse
  simp only [trim, trimEnd, trimStart, List.length_reverse] at *
  omega

/-- The text up to a first character that satisfies `p`, and what follows that character. -/
def splitFirst (p : Char → Bool) : List Char → Option (List Char × List Char)
  | [] => none
  | c :: s => if p c then some ([], s) else (splitFirst p s).map fun (a, b) => (c :: a, b)

theorem length_of_splitFirst {p : Char → Bool} {s a b : List Char}
    (h : splitFirst p s = some (a, b)) : a.length + b.length + 1 = s.length := by
  induction s generalizing a with
  | nil => simp [splitFirst] at h
  | cons c s ih =>
    simp only [splitFirst] at h
    split at h
    · simp only [Option.some.injEq, Prod.mk.injEq] at h
      obtain ⟨rfl, rfl⟩ := h
      simp
    · simp only [Option.map_eq_some_iff, Prod.mk.injEq] at h
      obtain ⟨⟨a', b'⟩, h, ha, hb⟩ := h
      simp only at hb
      subst ha hb
      have := ih h
      simp only [List.length_cons]
      omega

/-- The pieces of a text between the characters that satisfy `p`; there is always one. -/
def pieces (p : Char → Bool) : List Char → List (List Char)
  | [] => [[]]
  | c :: s =>
    if p c then [] :: pieces p s
    else match pieces p s with
      | [] => [[c]]
      | w :: ws => (c :: w) :: ws

/-- The pieces between characters that satisfy `p`, without the empty ones. -/
def fields (p : Char → Bool) (s : List Char) : List (List Char) :=
  (pieces p s).filter (! ·.isEmpty)

/-- The words of a text, which blanks separate. -/
def words (s : List Char) : List (List Char) := fields isBlank s

end TransportGen.Text
