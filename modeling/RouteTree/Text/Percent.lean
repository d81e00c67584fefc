import RouteTree.Text.Alphabet

/-!
# Percent encoding

A character is written as itself if it is unreserved (an ASCII letter or digit or one of `_.-~`),
and otherwise as the bytes of its UTF-8 form, each as a percent sign and two hexadecimal digits.
`percentDecode` reads the bytes back.
-/

namespace RouteTree.Text

/-- The UTF-8 form of a code point, as bytes. -/
def utf8 (n : Nat) : List Nat :=
  if n < 0x80 then [n]
  else if n < 0x800 then [0xC0 + n / 64, 0x80 + n % 64]
  else if n < 0x10000 then [0xE0 + n / 4096, 0x80 + n / 64 % 64, 0x80 + n % 64]
  else [0xF0 + n / 262144, 0x80 + n / 4096 % 64, 0x80 + n / 64 % 64, 0x80 + n % 64]

/-- Characters that stand for themselves. -/
def isUnreserved (c : Char) : Bool := isAsciiWord c || c == '.' || c == '-' || c == '~'

/-- The upper-case hexadecimal digit of a number below sixteen. -/
def hexDigit (n : Nat) : Char := Char.ofNat (if n < 10 then 48 + n else 55 + n)

/-- A byte as a percent sign and two digits. -/
def percentByte (b : Nat) : List Char := ['%', hexDigit (b / 16), hexDigit (b % 16)]

/-- One character in percent encoding. -/
def percentChar (c : Char) : List Char :=
  if isUnreserved c then [c] else (utf8 c.toNat).flatMap percentByte

/-- A text in percent encoding. -/
def percentEncode (s : List Char) : List Char := s.flatMap percentChar

/-- The bytes of a text in percent encoding. A percent sign without two digits is a byte too. -/
def percentBytes : List Char → List Nat
  | [] => []
  | '%' :: a :: b :: rest =>
    if isHexDigit a && isHexDigit b then
      (hexDigitValue a * 16 + hexDigitValue b) :: percentBytes rest
    else 37 :: percentBytes (a :: b :: rest)
  | c :: rest => utf8 c.toNat ++ percentBytes rest
termination_by s => s.length

/-- The code point that the bytes at the front may write, by the first of them, and the bytes behind
it. -/
def utf8Front : List Nat → Option (Nat × List Nat)
  | [] => none
  | a :: bs =>
    if a < 0x80 then some (a, bs)
    else if a < 0xE0 then
      match bs with
      | b :: rest => some ((a - 0xC0) * 64 + (b - 0x80), rest)
      | _ => none
    else if a < 0xF0 then
      match bs with
      | b :: c :: rest => some ((a - 0xE0) * 4096 + (b - 0x80) * 64 + (c - 0x80), rest)
      | _ => none
    else
      match bs with
      | b :: c :: d :: rest =>
        some ((a - 0xF0) * 262144 + (b - 0x80) * 4096 + (c - 0x80) * 64 + (d - 0x80), rest)
      | _ => none

theorem length_lt_of_utf8Front {bytes rest : List Nat} {n : Nat}
    (h : utf8Front bytes = some (n, rest)) : rest.length < bytes.length := by
  unfold utf8Front at h
  grind

/-- The text whose UTF-8 form the bytes are. There is none if they break off inside a code point, if a
code point is written in another way than its UTF-8 form, or if it is no character. -/
def utf8Text (bytes : List Nat) : Option (List Char) :=
  match _h : utf8Front bytes with
  | none => if bytes.isEmpty then some [] else none
  | some (n, rest) =>
    if n.isValidChar ∧ bytes = utf8 n ++ rest then (utf8Text rest).map (Char.ofNat n :: ·) else none
termination_by bytes.length
decreasing_by exact length_lt_of_utf8Front _h

/-- The text behind a percent encoding, if its bytes write one. -/
def percentDecode (s : List Char) : Option (List Char) := utf8Text (percentBytes s)

end RouteTree.Text
