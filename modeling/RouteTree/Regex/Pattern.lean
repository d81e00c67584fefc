import RouteTree.Regex.Matcher
import RouteTree.Regex.Reader

/-!
# Patterns

A pattern is a regular expression together with its text. The text and the flags are what a pattern
shows of itself; the tree is what it matches by.
-/

namespace RouteTree

variable [CharacterNames]

/-- A regular expression that has been read. -/
structure Pattern where
  /-- The text it was read from. -/
  source : String
  /-- The flags it was read under, and those its text adds. -/
  flags : Flags
  regex : Regex
deriving DecidableEq, Repr

namespace Pattern

/-- Reads a pattern under flags. -/
def compile (source : String) (flags : Flags) : Except Regex.ReadError Pattern :=
  match Regex.read flags source.toList with
  | .ok (regex, flags) => .ok { source, flags, regex }
  | .error e => .error e

/-- Does the pattern match the whole text? -/
def fullMatch (p : Pattern) (subject : String) : Bool :=
  p.regex.fullMatch p.flags subject.toList

end Pattern

end RouteTree
