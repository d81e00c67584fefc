import RouteTree.Regex.Basic
import RouteTree.Text.Quoted

/-!
# Why a text is no regular expression

Each cause has one wording. A cause is found at a position of the text, counted in characters;
texts of several lines also get the line and the column. What is found when the whole expression has
been read has no position.
-/

namespace RouteTree.Regex

/-- Why a text is refused. -/
inductive Cause where
  | escapeAtEnd
  | incompleteEscape (escape : List Char)
  | badEscape (escape : List Char)
  | octalTooLarge (escape : List Char)
  | characterNameWithoutBrace
  | missingName (what : String)
  | unterminatedName (terminator : Char)
  | unknownCharacterName (name : List Char)
  | referenceToOpenGroup
  | referenceWithinLookBehind
  | invalidReference (index : Nat)
  | unterminatedSet
  | badRange (low high : List Char)
  | nothingToRepeat
  | multipleRepeat
  | leastAboveMost
  | repetitionTooLarge
  | unexpectedEnd
  | unknownExtension (text : List Char)
  | badGroupName (name : List Char)
  | unknownGroupName (name : List Char)
  | redefinedGroup (name : List Char) (now before : Nat)
  | badGroupNumber
  | unterminatedComment
  | unterminatedGroup
  | unbalancedGroup
  | tooManyBranches
  | globalFlagsInside
  | localeFlag
  | incompatibleFlags
  | missingFlagEnd
  | missingFlag
  | missingColon
  | unknownFlag
  | globalFlagOn
  | globalFlagOff
  | typeFlagOff
  | flagOnAndOff
  | lookBehindWidth
  | lookBehindTooFar
  | repeatInTemplate (greed : Greed)
  /-- Flags clash, of which the text gives one at least. They come before everything, so this is not said
  of a text that begins with an anchor. -/
  | asciiAndUnicode
deriving DecidableEq, Repr

/-- A repetition as messages name it. -/
def Greed.label : Greed → String
  | .greedy => "MAX_REPEAT"
  | .lazy => "MIN_REPEAT"
  | .possessive => "POSSESSIVE_REPEAT"

/-- The wording of a cause, without its place. -/
def Cause.text : Cause → String
  | .escapeAtEnd => "bad escape (end of pattern)"
  | .incompleteEscape e => "incomplete escape " ++ String.ofList e
  | .badEscape e => "bad escape " ++ String.ofList e
  | .octalTooLarge e => "octal escape value " ++ String.ofList e ++ " outside of range 0-0o377"
  | .characterNameWithoutBrace => "missing \x7b"
  | .missingName what => "missing " ++ what
  | .unterminatedName t => "missing " ++ t.toString ++ ", unterminated name"
  | .unknownCharacterName n => "undefined character name " ++ Text.quoted (String.ofList n)
  | .referenceToOpenGroup => "cannot refer to an open group"
  | .referenceWithinLookBehind =>
    "cannot refer to group defined in the same lookbehind subpattern"
  | .invalidReference i => "invalid group reference " ++ i.repr
  | .unterminatedSet => "unterminated character set"
  | .badRange l h => "bad character range " ++ String.ofList l ++ "-" ++ String.ofList h
  | .nothingToRepeat => "nothing to repeat"
  | .multipleRepeat => "multiple repeat"
  | .leastAboveMost => "min repeat greater than max repeat"
  | .repetitionTooLarge => "the repetition number is too large"
  | .unexpectedEnd => "unexpected end of pattern"
  | .unknownExtension t => "unknown extension " ++ String.ofList t
  | .badGroupName n => "bad character in group name " ++ Text.quoted (String.ofList n)
  | .unknownGroupName n => "unknown group name " ++ Text.quoted (String.ofList n)
  | .redefinedGroup n now before =>
    "redefinition of group name " ++ Text.quoted (String.ofList n) ++ " as group " ++ now.repr ++
      "; was group " ++ before.repr
  | .badGroupNumber => "bad group number"
  | .unterminatedComment => "missing ), unterminated comment"
  | .unterminatedGroup => "missing ), unterminated subpattern"
  | .unbalancedGroup => "unbalanced parenthesis"
  | .tooManyBranches => "conditional backref with more than two branches"
  | .globalFlagsInside => "global flags not at the start of the expression"
  | .localeFlag => "bad inline flags: cannot use 'L' flag with a str pattern"
  | .incompatibleFlags => "bad inline flags: flags 'a', 'u' and 'L' are incompatible"
  | .missingFlagEnd => "missing -, : or )"
  | .missingFlag => "missing flag"
  | .missingColon => "missing :"
  | .unknownFlag => "unknown flag"
  | .globalFlagOn => "bad inline flags: cannot turn on global flag"
  | .globalFlagOff => "bad inline flags: cannot turn off global flag"
  | .typeFlagOff => "bad inline flags: cannot turn off flags 'a', 'u' and 'L'"
  | .flagOnAndOff => "bad inline flags: flag turned on and off"
  | .lookBehindWidth => "look-behind requires fixed-width pattern"
  | .lookBehindTooFar => "looks too much behind"
  | .repeatInTemplate greed => "internal: unsupported template operator " ++ greed.label
  | .asciiAndUnicode => "ASCII and UNICODE flags are incompatible"

/-- A cause and the position it was found at, if it has one. -/
structure ReadError where
  cause : Cause
  position : Option Nat
deriving DecidableEq, Repr

/-- The line and the column of a position, both counted from one. -/
def lineAndColumn (text : List Char) (position : Nat) : Nat × Nat :=
  let before := text.take position
  (before.count '\n' + 1, (before.reverse.takeWhile (· != '\n')).length + 1)

/-- What is reported about a refused text. -/
def ReadError.message (e : ReadError) (text : List Char) : String :=
  match e.position with
  | none => e.cause.text
  | some p =>
    let placed := e.cause.text ++ " at position " ++ p.repr
    if text.contains '\n' then
      let (line, column) := lineAndColumn text p
      placed ++ " (line " ++ line.repr ++ ", column " ++ column.repr ++ ")"
    else placed

end RouteTree.Regex
