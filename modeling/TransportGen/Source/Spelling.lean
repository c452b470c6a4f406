import TransportGen.Source.Token
import TransportGen.Text.Pattern

/-!
# Tokens as they are written by hand

Types and patterns are shown with few blanks: none around `::` and inside brackets, none before a
comma, and none after `&`.
-/

namespace TransportGen.Source

/-- What is replaced in the text of tokens, one after another. -/
def blanksLeftOut : List (String × String) :=
  [(" :: ", "::"), (":: ", "::"), (" <", "<"), ("< ", "<"), (" >", ">"), (" ,", ","), ("& ", "&"),
    ("( ", "("), (" )", ")"), ("[ ", "["), (" ]", "]"), (" ;", ";")]

/-- Tokens as they are written by hand. -/
def spelling (tokens : List TokenTree) : String :=
  String.ofList (blanksLeftOut.foldl (fun text (old, new) =>
    Text.replace old.toList new.toList text) (tokensText tokens).toList)

end TransportGen.Source
