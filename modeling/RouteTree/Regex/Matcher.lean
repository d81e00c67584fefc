import RouteTree.Regex.Basic
import RouteTree.Text.Case

/-!
# Matching regular expressions

Matching is a search in a fixed order, which looks ahead, atomic groups and back references make
visible. Each expression is a function of a cursor and of what is to follow; it tries its ways of
matching one after another and answers with the first end from which what follows succeeds.

A repetition counts its rounds. Past the least number it takes no further round from a position
where the last such round began, so after the required rounds every round but one moves on:
`least + after.length + 2` rounds are enough.
-/

namespace RouteTree

open Text

namespace Regex

/-- A position in the subject and what the groups have matched on the way to it. -/
structure Cursor where
  /-- What lies before the position, nearest first. -/
  before : List Char
  /-- What lies after it. -/
  after : List Char
  /-- The texts of the groups, latest first. -/
  groups : List (Nat × List Char)
deriving DecidableEq, Repr

/-- A way to match: from a cursor, with what is to follow, to the end of everything. -/
abbrev Search := Cursor → (Cursor → Option Cursor) → Option Cursor

namespace Cursor

/-- The position, counted in characters. -/
def position (s : Cursor) : Nat := s.before.length

/-- The beginning of a subject. -/
def start (subject : List Char) : Cursor := ⟨[], subject, []⟩

/-- Moves over the next character if it passes the test. -/
def take? (s : Cursor) (test : Char → Bool) : Option Cursor :=
  match s.after with
  | [] => none
  | c :: rest => if test c then some { s with before := c :: s.before, after := rest } else none

/-- Moves back over so many characters. -/
def back? : Nat → Cursor → Option Cursor
  | 0, s => some s
  | n + 1, s =>
    match s.before with
    | [] => none
    | c :: rest => back? n { s with before := rest, after := c :: s.after }

/-- The text from an earlier cursor up to this one. -/
def textSince (s earlier : Cursor) : List Char :=
  (s.before.take (s.before.length - earlier.before.length)).reverse

/-- Remembers what a group matched. -/
def capture (s : Cursor) (index : Nat) (text : List Char) : Cursor :=
  { s with groups := (index, text) :: s.groups }

/-- What a group matched last, if it has matched. -/
def group? (s : Cursor) (index : Nat) : Option (List Char) := s.groups.lookup index

end Cursor

/-- Is the character in the class? -/
def Category.holds (flags : Flags) : Category → Char → Bool
  | .digit, c => if flags.ascii then isAsciiDigit c else isDecimal c
  | .space, c => if flags.ascii then isAsciiSpace c else isSpace c
  | .word, c => if flags.ascii then isAsciiWord c else isWord c

/-- The code points that count as the character: itself and, where case is ignored, those equal to
it up to case. -/
def codesOf (flags : Flags) (c : Char) : List Nat :=
  if flags.ignoreCase then
    if flags.ascii then asciiCaseVariants c.toNat else caseVariants c.toNat
  else [c.toNat]

/-- Does the member of a set hold the character, which counts as `codes`? -/
def SetItem.holds (flags : Flags) (c : Char) (codes : List Nat) : SetItem → Bool
  | .code n => codes.contains n
  | .range low high => codes.any fun n => low ≤ n && n ≤ high
  | .category cls negated => cls.holds flags c != negated

/-- Does the set hold the character? -/
def setHolds (flags : Flags) (negated : Bool) (items : List SetItem) (c : Char) : Bool :=
  items.any (·.holds flags c (codesOf flags c)) != negated

/-- Is there a word character next to the position, on the side given? -/
def besideWord (flags : Flags) : List Char → Bool
  | [] => false
  | c :: _ => Category.word.holds flags c

/-- Is the condition met at the cursor? An empty subject has neither a boundary nor a place without
one. -/
def Assertion.holds (flags : Flags) (s : Cursor) : Assertion → Bool
  | .textStart => s.before.isEmpty
  | .textEnd => s.after.isEmpty
  | .lineStart => s.before.isEmpty || (flags.multiline && s.before.head? == some '\n')
  | .lineEnd =>
    s.after.isEmpty || s.after == ['\n'] || (flags.multiline && s.after.head? == some '\n')
  | .boundary => besideWord flags s.before != besideWord flags s.after
  | .notBoundary =>
    !(s.before.isEmpty && s.after.isEmpty) &&
      besideWord flags s.before == besideWord flags s.after

/-- Are the two characters equal for a back reference? -/
def sameFolded (flags : Flags) (c d : Char) : Bool :=
  if flags.ignoreCase then
    if flags.ascii then lowerAscii c.toNat == lowerAscii d.toNat
    else lowerCode c.toNat == lowerCode d.toNat
  else c == d

/-- Moves over a text. -/
def takeText (flags : Flags) : List Char → Cursor → Option Cursor
  | [], s => some s
  | c :: rest, s => (s.take? (sameFolded flags c)).bind (takeText flags rest)

/-- Has the count of rounds not reached the greatest one? -/
def mayRepeat (most : Option Nat) (count : Nat) : Bool :=
  match most with
  | none => true
  | some m => count < m

/-- More rounds before fewer. `last` is where the last round past the least number began. -/
def iterateGreedy (body : Search) (least : Nat) (most : Option Nat) :
    (fuel count : Nat) → (last : Option Nat) → Search
  | 0, _, _, _, _ => none
  | fuel + 1, count, last, s, follow =>
    if count < least then
      body s fun s' => iterateGreedy body least most fuel (count + 1) last s' follow
    else if mayRepeat most count && last != some s.position then
      (body s fun s' =>
        iterateGreedy body least most fuel (count + 1) (some s.position) s' follow).or (follow s)
    else follow s

/-- Fewer rounds before more. -/
def iterateLazy (body : Search) (least : Nat) (most : Option Nat) :
    (fuel count : Nat) → (last : Option Nat) → Search
  | 0, _, _, _, _ => none
  | fuel + 1, count, last, s, follow =>
    if count < least then
      body s fun s' => iterateLazy body least most fuel (count + 1) last s' follow
    else
      match follow s with
      | some e => some e
      | none =>
        if mayRepeat most count && last != some s.position then
          body s fun s' =>
            iterateLazy body least most fuel (count + 1) (some s.position) s' follow
        else none

/-- The first match of `body` and no other. -/
def once (body : Search) : Search := fun s follow => (body s some).bind follow

/-- Repeats `body`. -/
def iterateSearch (body : Search) (greed : Greed) (least : Nat) (most : Option Nat) : Search :=
  fun s follow =>
    let fuel := least + s.after.length + 2
    match greed with
    | .greedy => iterateGreedy body least most fuel 0 none s follow
    | .lazy => iterateLazy body least most fuel 0 none s follow
    | .possessive => once (fun s => iterateGreedy (once body) least most fuel 0 none s) s follow

/-- The search an expression stands for. -/
def search (flags : Flags) : Regex → Search
  | .empty, s, follow => follow s
  | .code n, s, follow => (s.take? fun c => (codesOf flags c).contains n).bind follow
  | .any, s, follow => (s.take? fun c => flags.dotAll || c != '\n').bind follow
  | .set negated items, s, follow => (s.take? (setHolds flags negated items)).bind follow
  | .assertion a, s, follow => if a.holds flags s then follow s else none
  | .cat a b, s, follow => a.search flags s fun s' => b.search flags s' follow
  | .alt a b, s, follow =>
    match a.search flags s follow with
    | some e => some e
    | none => b.search flags s follow
  | .iterate greed least most body, s, follow =>
    iterateSearch (body.search flags) greed least most s follow
  | .capture index body, s, follow =>
    body.search flags s fun s' => follow (s'.capture index (s'.textSince s))
  | .scoped change body, s, follow => body.search (change.apply flags) s follow
  | .atomic body, s, follow => once (body.search flags) s follow
  | .ahead negated body, s, follow =>
    match body.search flags s some with
    | some e => if negated then none else follow { s with groups := e.groups }
    | none => if negated then follow s else none
  | .behind negated width body, s, follow =>
    match (Cursor.back? width s).bind fun s' => body.search flags s' some with
    | some e => if negated then none else follow { s with groups := e.groups }
    | none => if negated then follow s else none
  | .reference index, s, follow =>
    match s.group? index with
    | some text => (takeText flags text s).bind follow
    | none => none
  | .conditional index present absent, s, follow =>
    if (s.group? index).isSome then present.search flags s follow
    else absent.search flags s follow

/-- Does the expression match the whole text? -/
def fullMatch (flags : Flags) (r : Regex) (subject : List Char) : Bool :=
  (r.search flags (Cursor.start subject) fun s => if s.after.isEmpty then some s else none).isSome

end Regex

end RouteTree
