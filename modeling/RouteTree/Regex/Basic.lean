/-!
# Regular expressions

The syntax tree of constraints, and the range of lengths a tree can match. Characters stand in the
tree as code points, since an escape may name one that no text can hold.
-/

namespace RouteTree

/-- How a regular expression reads its text and the subject. -/
structure Flags where
  /-- Classes, boundaries and case know ASCII only. -/
  ascii : Bool := false
  /-- Case is ignored. -/
  ignoreCase : Bool := false
  /-- `^` and `$` also match at line ends. -/
  multiline : Bool := false
  /-- `.` also matches a line feed. -/
  dotAll : Bool := false
  /-- Blanks and comments in the expression are skipped. -/
  verbose : Bool := false
  /-- Nothing may be repeated. -/
  template : Bool := false
deriving DecidableEq, Repr, Inhabited

/-- What an inline flag group changes: `some true` turns a flag on, `some false` off. -/
structure FlagChange where
  ascii : Option Bool := none
  ignoreCase : Option Bool := none
  multiline : Option Bool := none
  dotAll : Option Bool := none
  verbose : Option Bool := none
  template : Option Bool := none
deriving DecidableEq, Repr, Inhabited

/-- The flags inside a group with inline flags. -/
def FlagChange.apply (change : FlagChange) (flags : Flags) : Flags where
  ascii := change.ascii.getD flags.ascii
  ignoreCase := change.ignoreCase.getD flags.ignoreCase
  multiline := change.multiline.getD flags.multiline
  dotAll := change.dotAll.getD flags.dotAll
  verbose := change.verbose.getD flags.verbose
  template := change.template.getD flags.template

@[simp] theorem FlagChange.apply_default (flags : Flags) :
    (({} : FlagChange).apply flags) = flags := rfl

namespace Regex

/-- The classes that have an escape of their own. -/
inductive Category where
  | digit
  | space
  | word
deriving DecidableEq, Repr

/-- A member of a character set. -/
inductive SetItem where
  | code (n : Nat)
  | range (low high : Nat)
  | category (category : Category) (negated : Bool)
deriving DecidableEq, Repr

/-- Conditions on a position of the subject. -/
inductive Assertion where
  /-- `^` -/
  | lineStart
  /-- `$` -/
  | lineEnd
  /-- `\A` -/
  | textStart
  /-- `\Z` -/
  | textEnd
  /-- `\b` -/
  | boundary
  /-- `\B` -/
  | notBoundary
deriving DecidableEq, Repr

/-- In which order a repetition tries its counts. -/
inductive Greed where
  /-- More before fewer. -/
  | greedy
  /-- Fewer before more. -/
  | lazy
  /-- As many as there are, and no second try. -/
  | possessive
deriving DecidableEq, Repr

end Regex

/-- The syntax tree of a regular expression. -/
inductive Regex where
  | empty
  | code (n : Nat)
  | any
  | set (negated : Bool) (items : List Regex.SetItem)
  | assertion (a : Regex.Assertion)
  | cat (first second : Regex)
  | alt (first second : Regex)
  | iterate (greed : Regex.Greed) (least : Nat) (most : Option Nat) (body : Regex)
  /-- A group that remembers what it matched. -/
  | capture (index : Nat) (body : Regex)
  /-- A group that does not, under changed flags. -/
  | scoped (change : FlagChange) (body : Regex)
  | atomic (body : Regex)
  | ahead (negated : Bool) (body : Regex)
  /-- A look behind, over `width` characters. -/
  | behind (negated : Bool) (width : Nat) (body : Regex)
  | reference (index : Nat)
  /-- Chooses by whether a group has matched. -/
  | conditional (index : Nat) (present absent : Regex)
deriving DecidableEq, Repr

namespace Regex

/-- The concatenation of a list. -/
def sequence : List Regex → Regex
  | [] => .empty
  | [r] => r
  | r :: rest => .cat r (sequence rest)

/-- The alternation of a list, `last` being tried last. -/
def choice (alternatives : List Regex) (last : Regex) : Regex := alternatives.foldr .alt last

/-- The least and the greatest length of a match. -/
structure Width where
  least : Nat
  most : Nat
deriving DecidableEq, Repr, Inhabited

namespace Width

/-- Lengths are counted up to this bound. -/
def bound : Nat := Nat.pow 2 64

/-- A width cut at the bound. -/
def cut (least most : Nat) : Width := ⟨min least bound, min most bound⟩

/-- One after the other. -/
def add (v w : Width) : Width := cut (v.least + w.least) (v.most + w.most)

/-- One or the other. -/
def either (v w : Width) : Width := ⟨min v.least w.least, max v.most w.most⟩

/-- From `least` to `most` times. -/
def times (least : Nat) (most : Option Nat) (w : Width) : Width :=
  match most with
  | none => cut (w.least * least) (if w.most = 0 then 0 else bound)
  | some m => cut (w.least * least) (w.most * m)

end Width

/-- The width of an expression, given those of its groups. -/
def width (groups : List (Option Width)) : Regex → Width
  | .empty | .assertion _ | .ahead _ _ | .behind _ _ _ => ⟨0, 0⟩
  | .code _ | .any | .set _ _ => ⟨1, 1⟩
  | .cat a b => (a.width groups).add (b.width groups)
  | .alt a b => (a.width groups).either (b.width groups)
  | .iterate _ least most body => (body.width groups).times least most
  | .capture _ body | .scoped _ body | .atomic body => body.width groups
  | .reference i => ((groups[i - 1]?).join).getD ⟨0, 0⟩
  | .conditional _ present absent => (present.width groups).either (absent.width groups)

end Regex

end RouteTree
