import RouteTree.Text.Identifiers
import RouteTree.Text.Letters
import RouteTree.Text.Marks
import RouteTree.Text.Numbers
import RouteTree.Text.Unprintable

/-!
# Character classes

The classes that templates, constraints and quoted text ask about. Each answers ASCII directly and
looks the rest up in its table.
-/

namespace RouteTree.Text

/-- ASCII digits. -/
def isAsciiDigit (c : Char) : Bool := '0' ≤ c && c ≤ '9'

/-- ASCII letters. -/
def isAsciiLetter (c : Char) : Bool := ('a' ≤ c && c ≤ 'z') || ('A' ≤ c && c ≤ 'Z')

/-- ASCII letters, ASCII digits and the underscore. -/
def isAsciiWord (c : Char) : Bool := isAsciiLetter c || isAsciiDigit c || c == '_'

/-- The six ASCII blanks: space, tab, line feed, line tabulation, form feed, carriage return. -/
def isAsciiSpace (c : Char) : Bool := c == ' ' || (9 ≤ c.toNat && c.toNat ≤ 13)

/-- Octal digits. -/
def isOctalDigit (c : Char) : Bool := '0' ≤ c && c ≤ '7'

/-- Hexadecimal digits. -/
def isHexDigit (c : Char) : Bool :=
  isAsciiDigit c || ('a' ≤ c && c ≤ 'f') || ('A' ≤ c && c ≤ 'F')

/-- Is `c` beyond ASCII? -/
def isBeyondAscii (c : Char) : Bool := 128 ≤ c.toNat

/-- Letters. -/
def isLetter (c : Char) : Bool :=
  isAsciiLetter c || (isBeyondAscii c && letters.holds c.toNat)

/-- Word characters, of which parameter names are made: letters, numbers and the underscore. -/
def isWord (c : Char) : Bool :=
  isAsciiWord c || (isBeyondAscii c && (letters.holds c.toNat || numbers.holds c.toNat))

/-- Decimal digits of any script. -/
def isDecimal (c : Char) : Bool :=
  isAsciiDigit c || (isBeyondAscii c && decimals.holds c.toNat)

/-- The blanks beyond the six of ASCII: four information separators and the spaces of Unicode. -/
def otherSpaces : Ranges :=
  [(28, 31), (133, 133), (160, 160), (5760, 5760), (8192, 8202), (8232, 8233), (8239, 8239),
    (8287, 8287), (12288, 12288)]

/-- Blanks of any script. -/
def isSpace (c : Char) : Bool := isAsciiSpace c || otherSpaces.holds c.toNat

/-- Characters that quoted text shows as themselves. -/
def isPrintable (c : Char) : Bool := !unprintable.holds c.toNat

/-- Characters an identifier may start with. -/
def startsIdentifier (c : Char) : Bool :=
  isAsciiLetter c || c == '_' ||
    (isBeyondAscii c && !barredStarts.holds c.toNat &&
      (letters.holds c.toNat || letterNumbers.holds c.toNat || extraStarts.holds c.toNat))

/-- Characters an identifier may go on with. -/
def continuesIdentifier (c : Char) : Bool :=
  isAsciiWord c ||
    (isBeyondAscii c && !barredContinues.holds c.toNat &&
      (letters.holds c.toNat || letterNumbers.holds c.toNat || marks.holds c.toNat ||
        decimals.holds c.toNat || connectors.holds c.toNat || extraContinues.holds c.toNat))

/-- Is the text an identifier: not empty, well begun and well continued? -/
def isIdentifier : List Char → Bool
  | [] => false
  | c :: rest => startsIdentifier c && rest.all continuesIdentifier

/-- The value of a hexadecimal digit; of any other character 0. -/
def hexDigitValue (c : Char) : Nat :=
  if isAsciiDigit c then c.toNat - 48
  else if 'a' ≤ c && c ≤ 'f' then c.toNat - 87
  else if 'A' ≤ c && c ≤ 'F' then c.toNat - 55
  else 0

/-- The number written by digits in a base. -/
def numeral (base : Nat) (digits : List Char) : Nat :=
  digits.foldl (fun n c => n * base + hexDigitValue c) 0

/-- The value of a decimal digit. Every script has its digits in order, from that of 0 on. -/
def decimalValue? (c : Char) : Option Nat :=
  (decimals.find? fun (first, last) => first ≤ c.toNat && c.toNat ≤ last).map fun (first, _) =>
    (c.toNat - first) % 10

/-- The number written by decimal digits of any script, which go on from `n`. An underscore may stand
between two of them. -/
def natural? (n : Nat) : List Char → Option Nat
  | [] => none
  | [c] => (decimalValue? c).map (n * 10 + ·)
  | c :: '_' :: rest => do natural? (n * 10 + (← decimalValue? c)) rest
  | c :: rest => do natural? (n * 10 + (← decimalValue? c)) rest

/-- Blanks that may stand around a number. -/
def isNumberBlank (c : Char) : Bool := if isBeyondAscii c then isSpace c else isAsciiSpace c

/-- The whole number that a text writes, with a sign or without one, and blanks around it. -/
def integer? (text : List Char) : Option Int :=
  match ((text.dropWhile isNumberBlank).reverse.dropWhile isNumberBlank).reverse with
  | '-' :: digits => (natural? 0 digits).map fun n => -n
  | '+' :: digits => (natural? 0 digits).map fun n => n
  | digits => (natural? 0 digits).map fun n => n

theorem isWord_of_isAsciiWord {c : Char} (h : isAsciiWord c = true) : isWord c = true := by
  simp [isWord, h]

theorem isSpace_of_isAsciiSpace {c : Char} (h : isAsciiSpace c = true) : isSpace c = true := by
  simp [isSpace, h]

theorem isDecimal_of_isAsciiDigit {c : Char} (h : isAsciiDigit c = true) :
    isDecimal c = true := by
  simp [isDecimal, h]

end RouteTree.Text
