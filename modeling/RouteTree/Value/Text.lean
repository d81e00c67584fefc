import RouteTree.Decimal.Shortest
import RouteTree.Text.Quoted
import RouteTree.Value.Basic

/-!
# The text of values

`Value.text` is what a value looks like as part of a text, where a string stands for itself;
`Value.shown` is what it looks like inside lists, maps and messages, where a string is quoted.
`Value.written` is what it looks like in a url.
-/

namespace RouteTree

/-- The flags of a pattern by name, in the order they are listed. -/
def Flags.names (flags : Flags) : List String :=
  [(flags.template, "TEMPLATE"), (flags.ignoreCase, "IGNORECASE"),
    (flags.multiline, "MULTILINE"), (flags.dotAll, "DOTALL"),
    (flags.verbose, "VERBOSE"), (flags.ascii, "ASCII")].filterMap
    fun (on, name) => if on then some name else none

/-- A pattern is shown with at most this many characters of its quoted source. -/
def Pattern.shownLength : Nat := 200

/-- A pattern as messages show it. -/
def Pattern.shown (p : Pattern) : String :=
  let source := String.ofList ((Text.quotedChars p.source.toList).take shownLength)
  let flags := p.flags.names.map ("re." ++ ·)
  "re.compile(" ++ source ++ (if flags.isEmpty then "" else ", " ++ "|".intercalate flags) ++ ")"

namespace Value

mutual

/-- A value as messages show it. -/
def shown : Value → String
  | .null => "None"
  | .bool b => if b then "True" else "False"
  | .int n => n.repr
  | .float x => x.text
  | .str s => Text.quoted s
  | .list items => "[" ++ ", ".intercalate (shownAll items) ++ "]"
  | .tuple items =>
    match shownAll items with
    | [item] => "(" ++ item ++ ",)"
    | shown => "(" ++ ", ".intercalate shown ++ ")"
  | .map entries => "\x7b" ++ ", ".intercalate (shownEntries entries) ++ "\x7d"
  | .pattern p => p.shown
  | .serializer _ => "<function>"
termination_by structural v => v

/-- Values as messages show them. -/
def shownAll : List Value → List String
  | [] => []
  | v :: vs => v.shown :: shownAll vs
termination_by structural vs => vs

/-- The entries of a map as messages show them. -/
def shownEntries : List (Value × Value) → List String
  | [] => []
  | (k, v) :: es => (k.shown ++ ": " ++ v.shown) :: shownEntries es
termination_by structural es => es

end

/-- A value as part of a text. -/
def text : Value → String
  | .str s => s
  | v => v.shown

/-- A value in a url: booleans in lower case, and nothing for null. -/
def written : Value → String
  | .bool b => if b then "true" else "false"
  | .null => ""
  | v => v.text

@[simp] theorem text_str (s : String) : (Value.str s).text = s := rfl

@[simp] theorem written_str (s : String) : (Value.str s).written = s := rfl

@[simp] theorem written_null : Value.null.written = "" := rfl

end Value

end RouteTree
