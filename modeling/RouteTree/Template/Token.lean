import RouteTree.Text.Alphabet
import RouteTree.Text.Scan

/-!
# Tokens of route templates

A template writes a parameter as `:name` or as `{name}`, with a question mark if it may be left out,
and may put the constraint of the parameter in parentheses behind it. A name is a run of word
characters as long as it can be. A constraint body holds escape pairs, of which the second character
is no line feed, and characters other than parentheses and the backslash.

Each recogniser here reads one kind of token; none has a choice to take back.
-/

namespace RouteTree.Template

open Text

/-- A parameter of a template. -/
structure Param where
  name : List Char
  optional : Bool
deriving DecidableEq, Repr

/-- The question mark of an optional parameter. -/
def Param.mark (p : Param) : List Char := if p.optional then ['?'] else []

/-- The parameter in colon notation. -/
def Param.colon (p : Param) : List Char := ':' :: p.name ++ p.mark

/-- The parameter in brace notation. -/
def Param.brace (p : Param) : List Char := '{' :: p.name ++ p.mark ++ ['}']

/-- A question mark, if there is one. -/
def mark : List Char → Bool × List Char
  | '?' :: rest => (true, rest)
  | rest => (false, rest)

/-- A name and a question mark, if there is a name. -/
def named : Recogniser Param := fun cs =>
  let name := cs.takeWhile isWord
  let (optional, rest) := mark (cs.dropWhile isWord)
  if name.isEmpty then none else some (⟨name, optional⟩, rest)

/-- `:name` or `:name?` -/
def colonParam : Recogniser Param
  | ':' :: cs => named cs
  | _ => none

/-- `{name}` or `{name?}` -/
def braceParam : Recogniser Param
  | '{' :: cs =>
    match named cs with
    | some (p, '}' :: rest) => some (p, rest)
    | _ => none
  | _ => none

/-- A parameter in either notation, with its text. -/
def paramToken : Recogniser (Param × List Char) := fun cs =>
  match colonParam cs with
  | some (p, rest) => some ((p, p.colon), rest)
  | none =>
    match braceParam cs with
    | some (p, rest) => some ((p, p.brace), rest)
    | none => none

/-- A constraint body up to its closing parenthesis, which is taken too. -/
def body : Recogniser (List Char)
  | [] => none
  | '\\' :: [] => none
  | '\\' :: c :: rest =>
    if c = '\n' then none
    else (body rest).map fun (b, after) => ('\\' :: c :: b, after)
  | c :: rest =>
    if c = ')' then some ([], rest)
    else if c = '(' then none
    else (body rest).map fun (b, after) => (c :: b, after)

/-- A parameter with its constraint. -/
structure Constrained where
  param : Param
  /-- The parameter as it is written. -/
  token : List Char
  body : List Char
deriving DecidableEq, Repr

/-- A parameter directly followed by a complete constraint. -/
def constrained : Recogniser Constrained := fun cs =>
  match paramToken cs with
  | some ((param, token), '(' :: rest) =>
    (body rest).map fun (b, after) => (⟨param, token, b⟩, after)
  | _ => none

/-- A parameter directly followed by an opening parenthesis, which is taken too. -/
def openConstraint : Recogniser (List Char) := fun cs =>
  match paramToken cs with
  | some ((_, token), '(' :: rest) => some (token, rest)
  | _ => none

/-- A placeholder of a compiled uri. -/
structure Placeholder where
  /-- Does a slash stand before it? -/
  slash : Bool
  param : Param
deriving DecidableEq, Repr

/-- A parameter in colon notation, together with a slash before it. -/
def placeholder : Recogniser Placeholder
  | '/' :: cs => (colonParam cs).map fun (p, rest) => (⟨true, p⟩, rest)
  | cs => (colonParam cs).map fun (p, rest) => (⟨false, p⟩, rest)

/-- A run of at least `least` times `c`, where `least` is not zero. -/
def run (c : Char) (least : Nat) : Recogniser Unit := fun cs =>
  if least ≤ (cs.takeWhile (· == c)).length then some ((), cs.dropWhile (· == c)) else none

/-- One or more backslashes. -/
def backslashes : Recogniser Unit := run '\\' 1

/-- Two or more slashes. -/
def separators : Recogniser Unit := run '/' 2

/-- Replaces every run of backslashes by one. -/
def collapseBackslashes (cs : List Char) : List Char :=
  replaceFinds (fun _ => ['\\']) (pieces backslashes cs)

/-- Replaces every run of slashes by one. -/
def collapseSlashes (cs : List Char) : List Char :=
  replaceFinds (fun _ => ['/']) (pieces separators cs)

end RouteTree.Template
