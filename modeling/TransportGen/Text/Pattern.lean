/-!
# Finding a text in a text

Cutting and replacing at a fixed text, cutting at its last occurrence, and cutting into lines.

* `stripStart?_eq_some_iff`, `stripEnd?_eq_some_iff`: a text is stripped exactly if it is there.
-/

namespace TransportGen.Text

/-- What follows a leading `pattern`. -/
def stripStart? : List Char → List Char → Option (List Char)
  | [], s => some s
  | _ :: _, [] => none
  | p :: pattern, c :: s => if p = c then stripStart? pattern s else none

/-- What comes before a trailing `pattern`. -/
def stripEnd? (pattern s : List Char) : Option (List Char) :=
  (stripStart? pattern.reverse s.reverse).map List.reverse

theorem stripStart?_eq_some_iff {pattern s rest : List Char} :
    stripStart? pattern s = some rest ↔ pattern ++ rest = s := by
  induction pattern generalizing s with
  | nil => simp [stripStart?, eq_comm]
  | cons p pattern ih => cases s <;> simp [stripStart?, ih]

theorem stripEnd?_eq_some_iff {pattern s rest : List Char} :
    stripEnd? pattern s = some rest ↔ rest ++ pattern = s := by
  have h := @stripStart?_eq_some_iff pattern.reverse s.reverse rest.reverse
  rw [← List.reverse_append, List.reverse_inj] at h
  rw [← h]
  simp only [stripEnd?, Option.map_eq_some_iff]
  constructor
  · rintro ⟨r, hr, rfl⟩
    simpa using hr
  · intro hr
    exact ⟨_, hr, by simp⟩

/-- The texts before and after the first occurrence of `pattern`. -/
def splitAt? (pattern : List Char) : List Char → Option (List Char × List Char)
  | [] => if pattern.isEmpty then some ([], []) else none
  | c :: s =>
    match stripStart? pattern (c :: s) with
    | some rest => some ([], rest)
    | none => (splitAt? pattern s).map fun (a, b) => (c :: a, b)

/-- The texts before and after the last occurrence of `pattern`. -/
def splitLast? (pattern s : List Char) : Option (List Char × List Char) :=
  (splitAt? pattern.reverse s.reverse).map fun (a, b) => (b.reverse, a.reverse)

/-- `s` with every occurrence of `old` replaced, from the left; `skip` characters of an occurrence
that is already replaced are still to be passed over. -/
def replaceFrom (old new : List Char) : Nat → List Char → List Char
  | _, [] => []
  | skip + 1, _ :: s => replaceFrom old new skip s
  | 0, c :: s =>
    if old.isPrefixOf (c :: s) then new ++ replaceFrom old new (old.length - 1) s
    else c :: replaceFrom old new 0 s

/-- `s` with every occurrence of the non-empty text `old` replaced, from the left. -/
def replace (old new s : List Char) : List Char := replaceFrom old new 0 s

/-- Puts a line before lines, without the carriage return that belonged to its line feed. -/
def consLine (line : List Char) (rest : List (List Char)) : List (List Char) :=
  ((stripEnd? ['\r'] line).getD line) :: rest

/-- The lines of a text; `line` holds the characters of the current one, last first. A line ends at
a line feed, with the carriage return before it if there is one, or with the text. -/
def linesFrom (line : List Char) : List Char → List (List Char)
  | [] => if line.isEmpty then [] else [line.reverse]
  | c :: s =>
    if c = '\n' then consLine line.reverse (linesFrom [] s) else linesFrom (c :: line) s

/-- The lines of a text, without their ends. -/
def lines (s : List Char) : List (List Char) := linesFrom [] s

end TransportGen.Text
