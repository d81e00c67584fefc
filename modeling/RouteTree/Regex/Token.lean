/-!
# Tokens of a regular expression

The text of an expression is read as characters and escape pairs. A backslash takes the character
after it along, whatever it is, so only the last one of a text can be without.
-/

namespace RouteTree.Regex

/-- A character, or a backslash with the character after it. -/
inductive Token where
  | char (c : Char)
  | escaped (c : Char)
deriving DecidableEq, Repr

namespace Token

/-- The characters of a token. -/
def chars : Token → List Char
  | .char c => [c]
  | .escaped c => ['\\', c]

/-- The number of characters of a token. -/
def length : Token → Nat
  | .char _ => 1
  | .escaped _ => 2

@[simp] theorem length_chars (t : Token) : t.chars.length = t.length := by cases t <;> rfl

end Token

/-- The tokens of a text, and whether a backslash without a character is left over. -/
def tokens : List Char → List Token × Bool
  | [] => ([], false)
  | '\\' :: [] => ([], true)
  | '\\' :: c :: rest => let r := tokens rest; (.escaped c :: r.1, r.2)
  | c :: rest => let r := tokens rest; (.char c :: r.1, r.2)

end RouteTree.Regex
