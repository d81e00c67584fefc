import RouteTree.Regex.Error
import RouteTree.Regex.Token

/-!
# Escapes of several tokens

A hexadecimal, octal or named escape, or a reference by number, goes on over the tokens after its
first. `Escape.feed` reads one more token; `Escape.finish` says what the escape means when the
token after it is not its own.

Which characters have names, and which names those are, is not settled here: whoever reads expressions
brings a table (`CharacterNames`), and what is proved of reading holds for every table.
-/

namespace RouteTree

/-- A table of the names of characters. -/
class CharacterNames where
  /-- The character that goes by a name. -/
  find? : List Char → Option Char

namespace CharacterNames.Unnamed

/-- The table in which no character has a name. -/
scoped instance unnamed : CharacterNames := ⟨fun _ => none⟩

end CharacterNames.Unnamed

namespace Regex

open Text

variable [CharacterNames]

/-- An escape read in part. Digits are kept in reading order. -/
inductive Escape where
  /-- `\x`, `\u` or `\U`, which want so many hexadecimal digits. -/
  | hex (letter : Char) (wanted : Nat) (digits : List Char)
  /-- Up to three octal digits. -/
  | octal (digits : List Char)
  /-- A group number, or three octal digits. -/
  | number (digits : List Char)
  /-- `\N`, before its brace. -/
  | characterName
  /-- `\N` and what its braces hold so far. -/
  | characterNameIn (name : List Char)
deriving DecidableEq, Repr

/-- What an escape stands for. -/
inductive Meaning where
  | code (n : Nat)
  | reference (index : Nat)
deriving DecidableEq, Repr

/-- What became of an escape at one more token. -/
inductive Fed where
  /-- The token belongs to the escape, which goes on. -/
  | more (e : Escape)
  /-- The token ends the escape. -/
  | ended (m : Meaning)
  /-- The escape had ended before the token. -/
  | before (m : Meaning)
deriving DecidableEq, Repr

namespace Escape

/-- The greatest code point. -/
def greatestCode : Nat := 0x10FFFF

/-- The greatest code of an octal escape. -/
def greatestOctal : Nat := 255

/-- The code that octal digits write. -/
def octalCode (start : Nat) (digits : List Char) : Except ReadError Meaning :=
  let n := numeral 8 digits
  if greatestOctal < n then .error ⟨.octalTooLarge ('\\' :: digits), some start⟩ else .ok (.code n)

/-- The code that hexadecimal digits write. -/
def hexCode (start : Nat) (letter : Char) (digits : List Char) : Except ReadError Meaning :=
  let n := numeral 16 digits
  if greatestCode < n then .error ⟨.badEscape ('\\' :: letter :: digits), some start⟩
  else .ok (.code n)

/-- The code of the character with a name. -/
def nameCode (start : Nat) (name : List Char) : Except ReadError Meaning :=
  match CharacterNames.find? name with
  | some c => .ok (.code c.toNat)
  | none => .error ⟨.unknownCharacterName name, some start⟩

/-- The meaning of an escape that began at `start` and goes on no further than `stop`. -/
def finish (start stop : Nat) : Escape → Except ReadError Meaning
  | .hex letter _ digits => .error ⟨.incompleteEscape ('\\' :: letter :: digits), some start⟩
  | .octal digits => octalCode start digits
  | .number digits => .ok (.reference (numeral 10 digits))
  | .characterName => .error ⟨.characterNameWithoutBrace, some stop⟩
  | .characterNameIn name =>
    if name.isEmpty then .error ⟨.missingName "character name", some stop⟩
    else .error ⟨.unterminatedName '}', some (stop - name.length)⟩

/-- Reads the token at `here` into an escape that began at `start`. -/
def feed (start here : Nat) : Escape → Token → Except ReadError Fed
  | e@(.hex letter wanted digits), t =>
    match t with
    | .char c =>
      if isHexDigit c then
        if digits.length + 1 < wanted then .ok (.more (.hex letter wanted (digits ++ [c])))
        else (hexCode start letter (digits ++ [c])).map .ended
      else (e.finish start here).map .before
    | .escaped _ => (e.finish start here).map .before
  | e@(.octal digits), t =>
    match t with
    | .char c =>
      if isOctalDigit c then
        if digits.length < 2 then .ok (.more (.octal (digits ++ [c])))
        else (octalCode start (digits ++ [c])).map .ended
      else (e.finish start here).map .before
    | .escaped _ => (e.finish start here).map .before
  | e@(.number digits), t =>
    match t with
    | .char c =>
      if digits.length = 1 ∧ isAsciiDigit c then .ok (.more (.number (digits ++ [c])))
      else if digits.all isOctalDigit ∧ isOctalDigit c ∧ digits.length = 2 then
        (octalCode start (digits ++ [c])).map .ended
      else (e.finish start here).map .before
    | .escaped _ => (e.finish start here).map .before
  | .characterName, t =>
    if t = .char '{' then .ok (.more (.characterNameIn []))
    else .error ⟨.characterNameWithoutBrace, some here⟩
  | .characterNameIn name, t =>
    if t = .char '}' then
      if name.isEmpty then .error ⟨.missingName "character name", some here⟩
      else (nameCode start name).map .ended
    else .ok (.more (.characterNameIn (name ++ t.chars)))

end Escape

/-- The code of an escaped control letter. -/
def controlCode? : Char → Option Nat
  | 'a' => some 7
  | 'f' => some 12
  | 'n' => some 10
  | 'r' => some 13
  | 't' => some 9
  | 'v' => some 11
  | _ => none

/-- The class an escaped letter names, and whether it is the complement. -/
def escapedCategory? : Char → Option (Category × Bool)
  | 'd' => some (.digit, false)
  | 'D' => some (.digit, true)
  | 's' => some (.space, false)
  | 'S' => some (.space, true)
  | 'w' => some (.word, false)
  | 'W' => some (.word, true)
  | _ => none

/-- The condition an escaped letter names. -/
def escapedAssertion? : Char → Option Assertion
  | 'A' => some .textStart
  | 'Z' => some .textEnd
  | 'b' => some .boundary
  | 'B' => some .notBoundary
  | _ => none

/-- The escape of several tokens that a letter begins, inside and outside sets alike. -/
def escapeOfLetter? : Char → Option Escape
  | 'x' => some (.hex 'x' 2 [])
  | 'u' => some (.hex 'u' 4 [])
  | 'U' => some (.hex 'U' 8 [])
  | 'N' => some .characterName
  | _ => none

end Regex

end RouteTree
