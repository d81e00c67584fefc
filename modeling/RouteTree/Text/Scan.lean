/-!
# Scanning text

A recogniser looks at the front of a text and answers with what it found and with what is left.
`pieces` cuts a text, from left to right and without overlap, into what a recogniser finds and the
single characters between.
-/

namespace RouteTree.Text

/-- Finds something at the front of a text. -/
abbrev Recogniser (α : Type) := List Char → Option (α × List Char)

/-- A piece of a scanned text. -/
inductive Piece (α : Type) where
  /-- A character at which nothing was found. -/
  | other (c : Char)
  /-- Something found, and its text. -/
  | found (value : α) (text : List Char)
deriving DecidableEq, Repr

variable {α : Type}

/-- The pieces of a text of which the first `skip` characters are already taken. -/
def piecesFrom (find : Recogniser α) : (skip : Nat) → List Char → List (Piece α)
  | _, [] => []
  | skip + 1, _ :: cs => piecesFrom find skip cs
  | 0, c :: cs =>
    match find (c :: cs) with
    | none => .other c :: piecesFrom find 0 cs
    | some (value, rest) =>
      let length := (c :: cs).length - rest.length
      .found value ((c :: cs).take length) :: piecesFrom find (length - 1) cs

/-- The pieces of a text. -/
def pieces (find : Recogniser α) (text : List Char) : List (Piece α) := piecesFrom find 0 text

/-- The text of a piece. -/
def Piece.text : Piece α → List Char
  | .other c => [c]
  | .found _ text => text

/-- What was found in a piece, if anything. -/
def Piece.value? : Piece α → Option α
  | .other _ => none
  | .found value _ => some value

/-- Writes something in place of every find. -/
def replaceFinds (write : α → List Char) (ps : List (Piece α)) : List Char :=
  ps.flatMap fun
    | .other c => [c]
    | .found value _ => write value

/-- Every find with the positions it begins and ends at, the text beginning at `start`. -/
def spans : (start : Nat) → List (Piece α) → List (Nat × Nat × α)
  | _, [] => []
  | start, .other _ :: ps => spans (start + 1) ps
  | start, .found value text :: ps =>
    (start, start + text.length, value) :: spans (start + text.length) ps

theorem piecesFrom_eq_drop (find : Recogniser α) (skip : Nat) (text : List Char) :
    piecesFrom find skip text = pieces find (text.drop skip) := by
  induction text generalizing skip with
  | nil => cases skip <;> simp [piecesFrom, pieces]
  | cons c cs ih =>
    cases skip with
    | zero => rfl
    | succ n => simpa [piecesFrom] using ih n

@[simp] theorem pieces_nil (find : Recogniser α) : pieces find [] = [] := rfl

/-- Where nothing is found the scan moves on by one character. -/
theorem pieces_cons_of_none {find : Recogniser α} {c : Char} {cs : List Char}
    (h : find (c :: cs) = none) : pieces find (c :: cs) = .other c :: pieces find cs := by
  simp [pieces, piecesFrom, h]

/-- Where something is found the scan goes on behind it. -/
theorem pieces_append_of_some {find : Recogniser α} {value : α} {text rest : List Char}
    (hne : text ≠ []) (h : find (text ++ rest) = some (value, rest)) :
    pieces find (text ++ rest) = .found value text :: pieces find rest := by
  cases text with
  | nil => exact absurd rfl hne
  | cons c cs =>
    have hlen : (c :: (cs ++ rest)).length - rest.length = cs.length + 1 := by
      simp only [List.length_cons, List.length_append]
      omega
    simp only [List.cons_append] at h
    have hstep : pieces find (c :: (cs ++ rest)) =
        .found value ((c :: (cs ++ rest)).take (cs.length + 1)) ::
          piecesFrom find cs.length (cs ++ rest) := by
      simp only [pieces, piecesFrom, h, hlen]
      rfl
    rw [List.cons_append, hstep, piecesFrom_eq_drop]
    simp

end RouteTree.Text
