import RouteTree.Fault

/-!
# Constraints

A constraint is what a parameter must match from end to end. It is kept as a pattern whose source is
anchored: it begins with `^` and ends with `$`. A `$` after a backslash is taken for an escaped one
and gets an anchor behind it.
-/

namespace RouteTree

variable [CharacterNames]

namespace Constraint

/-- Does the text end with a dollar that is no escaped one, as far as one character tells? -/
def endsAnchored (source : List Char) : Bool :=
  match source.reverse with
  | '$' :: '\\' :: _ => false
  | '$' :: _ => true
  | _ => false

/-- The text with both anchors, each added only where it is missing. -/
def anchorText (source : List Char) : List Char :=
  let begun := match source with
    | '^' :: _ => source
    | _ => '^' :: source
  if endsAnchored begun then begun else begun ++ ['$']

/-- The text without its anchors. -/
def unanchorText (source : List Char) : List Char :=
  let body := match source with
    | '^' :: rest => rest
    | _ => source
  if endsAnchored body then body.dropLast else body

/-- Reads an anchored pattern; the fault names the source as it was before. -/
def compileAnchored (source : String) (flags : Flags) : Except Fault Pattern :=
  let anchored := String.ofList (anchorText source.toList)
  match Pattern.compile anchored flags with
  | .ok p => .ok p
  | .error e =>
    if e.cause = .repetitionTooLarge then .error .repetitionTooLarge
    else .error (.invalidPattern (.str source) (.str (e.message anchored.toList)))

/-- The anchored pattern of a constraint. A pattern keeps its flags, and itself if it is anchored;
any other value stands for its text. -/
def anchor (constraint : Value) : Except Fault Pattern :=
  match constraint with
  | .pattern p =>
    if anchorText p.source.toList = p.source.toList then .ok p
    else compileAnchored p.source p.flags
  | v => compileAnchored v.text {}

/-- Anchors every constraint of a map. The first invalid one is the fault. -/
def anchorAll (constraints : Params) : Except Fault Constraints := do
  return ⟨← constraints.entries.mapM fun (name, c) => return (name, ← anchor c)⟩

/-- The source of a constraint without its anchors. -/
def body (constraint : Value) : Except Fault (List Char) := do
  return unanchorText (← anchor constraint).source.toList

end Constraint

end RouteTree
