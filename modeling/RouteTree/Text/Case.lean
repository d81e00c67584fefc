import RouteTree.Text.Alphabet
import RouteTree.Text.CaseRows
import RouteTree.Text.Cased

/-!
# Case

Lower and upper case of code points and of text. Code points change one for one (`lowerCode`,
`upperCode`); text may grow, and a capital sigma at the end of a word takes its final form.
-/

namespace RouteTree.Text

/-- The image of `n` under the row, if the row moves it. -/
def CaseRow.image? (row : CaseRow) (n : Nat) : Option Nat :=
  if row.first ≤ n ∧ n ≤ row.last ∧ (n - row.first) % row.stride = 0 then
    some (row.image + (n - row.first))
  else none

/-- The image of `n` under the first row that moves it; `n` itself if none does. -/
def moveCase (rows : List CaseRow) (n : Nat) : Nat :=
  (rows.findSome? (·.image? n)).getD n

/-- The code points that the rows move to `n`. -/
def caseSources (rows : List CaseRow) (n : Nat) : List Nat :=
  rows.filterMap fun row =>
    let source := row.first + (n - row.image)
    if row.image ≤ n ∧ row.image? source = some n then some source else none

/-- Lower case of one code point. -/
def lowerCode (n : Nat) : Nat :=
  if n < 128 then if 65 ≤ n ∧ n ≤ 90 then n + 32 else n else moveCase lowerRows n

/-- Upper case of one code point. -/
def upperCode (n : Nat) : Nat :=
  if n < 128 then if 97 ≤ n ∧ n ≤ 122 then n - 32 else n else moveCase upperRows n

/-- Lower case of one code point, of ASCII alone. -/
def lowerAscii (n : Nat) : Nat := if 65 ≤ n ∧ n ≤ 90 then n + 32 else n

/-- The code points equal to `n` up to case: those whose lower case is that of `n`, or shares its
upper case. -/
def caseVariants (n : Nat) : List Nat :=
  let folded := lowerCode n
  (folded :: (upperSiblings.lookup folded).getD []).flatMap fun m => m :: caseSources lowerRows m

/-- The code points equal to `n` up to case in ASCII alone. -/
def asciiCaseVariants (n : Nat) : List Nat :=
  let folded := lowerAscii n
  if 97 ≤ folded ∧ folded ≤ 122 then [folded, folded - 32] else [n]

/-- Does the word go on: has the first character that is not ignored case? -/
def nextIsCased : List Char → Bool
  | [] => false
  | c :: rest => if caseIgnorable.holds c.toNat then nextIsCased rest else cased.holds c.toNat

/-- Lower case of the text that follows `before` (nearest character first). A capital sigma is
final when the word began before it and does not go on after it. -/
def lowerAfter : List Char → List Char → List Char
  | _, [] => []
  | before, c :: rest =>
    let here :=
      if c.toNat = 0x3A3 then
        [Char.ofNat (if nextIsCased before && !nextIsCased rest then 0x3C2 else 0x3C3)]
      else if c.toNat = 0x130 then ['i', Char.ofNat 0x307]
      else [Char.ofNat (lowerCode c.toNat)]
    here ++ lowerAfter (c :: before) rest

/-- Lower case of a text. -/
def toLower (s : String) : String := String.ofList (lowerAfter [] s.toList)

/-- Upper case of one character, which may be several. -/
def upperChars (c : Char) : List Char :=
  match upperExpansions.lookup c.toNat with
  | some codes => codes.map Char.ofNat
  | none => [Char.ofNat (upperCode c.toNat)]

/-- Upper case of a text. -/
def toUpper (s : String) : String := String.ofList (s.toList.flatMap upperChars)

end RouteTree.Text
