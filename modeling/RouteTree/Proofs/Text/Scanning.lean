import RouteTree.Text.Scan

/-!
# Scanning a concatenation

What a scan finds in a text that is put together from parts. Over characters at which a recogniser
never begins (`Recogniser.Skips`) the scan passes one by one (`pieces_append_of_skips`), and behind
a find it starts afresh (`pieces_append_of_some`), so the pieces of a concatenation are read off
part by part.

A recogniser that takes at least one character where it succeeds (`Recogniser.Consumes`) cuts every
text into finds and passed characters; `scan_induction` is induction along that cut. Nothing is lost
in it (`flatMap_text_pieces`), so every find has a text behind it (`following`).
-/

namespace RouteTree.Text

variable {α : Type}

/-- The recogniser finds nothing at the character, whatever follows. -/
def Recogniser.Skips (find : Recogniser α) (c : Char) : Prop := ∀ cs, find (c :: cs) = none

/-- What the recogniser finds is a text in front of what it leaves. -/
def Recogniser.Consumes (find : Recogniser α) : Prop :=
  ∀ cs value rest, find cs = some (value, rest) → ∃ text, text ≠ [] ∧ cs = text ++ rest

/-- Over characters that begin nothing, the scan passes. -/
theorem pieces_append_of_skips {find : Recogniser α} {text : List Char}
    (h : ∀ c ∈ text, find.Skips c) (rest : List Char) :
    pieces find (text ++ rest) = text.map .other ++ pieces find rest := by
  induction text with
  | nil => rfl
  | cons c cs ih =>
    have hcs : ∀ x ∈ cs, find.Skips x := fun x hx => h x (List.mem_cons_of_mem _ hx)
    rw [List.cons_append, pieces_cons_of_none (h c List.mem_cons_self _), ih hcs]
    rfl

/-- Where nothing is found anywhere, the scan passes over everything. -/
theorem pieces_of_none {find : Recogniser α} {text : List Char}
    (h : ∀ suffix, suffix <:+ text → find suffix = none) : pieces find text = text.map .other := by
  induction text with
  | nil => rfl
  | cons c cs ih =>
    have hcs : ∀ suffix, suffix <:+ cs → find suffix = none := fun s hs =>
      h s (hs.trans (List.suffix_cons c cs))
    rw [pieces_cons_of_none (h (c :: cs) (List.suffix_refl _)), ih hcs]
    rfl

/-- Induction along the cut of a text into finds and the characters between them. -/
theorem scan_induction {find : Recogniser α} (hfind : find.Consumes) {motive : List Char → Prop}
    (nil : motive [])
    (other : ∀ c cs, find (c :: cs) = none → motive cs → motive (c :: cs))
    (found : ∀ text value rest, text ≠ [] → find (text ++ rest) = some (value, rest) →
      motive rest → motive (text ++ rest)) :
    ∀ cs, motive cs := by
  intro cs
  induction hn : cs.length using Nat.strongRecOn generalizing cs with
  | ind n ih =>
    cases cs with
    | nil => exact nil
    | cons c cs =>
      cases hf : find (c :: cs) with
      | none =>
        exact other c cs hf (ih cs.length (by rw [← hn, List.length_cons]; omega) cs rfl)
      | some r =>
        obtain ⟨value, rest⟩ := r
        obtain ⟨text, hne, heq⟩ := hfind _ _ _ hf
        have hlt : rest.length < n := by
          have hpos := List.length_pos_iff.mpr hne
          rw [← hn, heq, List.length_append]
          omega
        rw [heq] at hf ⊢
        exact found text value rest hne hf (ih _ hlt rest rfl)

/-- A scan loses nothing. -/
theorem flatMap_text_pieces {find : Recogniser α} (hfind : find.Consumes) (cs : List Char) :
    (pieces find cs).flatMap Piece.text = cs := by
  induction cs using scan_induction hfind with
  | nil => rfl
  | other c cs hnone ih =>
    rw [pieces_cons_of_none hnone, List.flatMap_cons, ih]
    rfl
  | found text value rest hne hsome ih =>
    rw [pieces_append_of_some hne hsome, List.flatMap_cons, ih]
    rfl

/-- The finds of a scan, each with the text behind it. -/
def following : List (Piece α) → List (α × List Char)
  | [] => []
  | .other _ :: ps => following ps
  | .found value _ :: ps => (value, ps.flatMap Piece.text) :: following ps

theorem following_pieces_of_none {find : Recogniser α} {c : Char} {cs : List Char}
    (h : find (c :: cs) = none) : following (pieces find (c :: cs)) = following (pieces find cs) := by
  rw [pieces_cons_of_none h]
  rfl

theorem following_pieces_of_some {find : Recogniser α} (hfind : find.Consumes) {value : α}
    {text rest : List Char} (hne : text ≠ []) (h : find (text ++ rest) = some (value, rest)) :
    following (pieces find (text ++ rest)) = (value, rest) :: following (pieces find rest) := by
  rw [pieces_append_of_some hne h, following, flatMap_text_pieces hfind]

/-! ## What replacing and collecting do piece by piece -/

section Pieces
variable {write : α → List Char}

@[simp] theorem replaceFinds_nil : replaceFinds write [] = [] := rfl

@[simp] theorem replaceFinds_other (c : Char) (ps : List (Piece α)) :
    replaceFinds write (.other c :: ps) = c :: replaceFinds write ps := rfl

@[simp] theorem replaceFinds_found (value : α) (text : List Char) (ps : List (Piece α)) :
    replaceFinds write (.found value text :: ps) = write value ++ replaceFinds write ps := rfl

@[simp] theorem replaceFinds_append (ps qs : List (Piece α)) :
    replaceFinds write (ps ++ qs) = replaceFinds write ps ++ replaceFinds write qs :=
  List.flatMap_append

@[simp] theorem replaceFinds_map_other (cs : List Char) :
    replaceFinds write (cs.map .other) = cs := by
  induction cs with
  | nil => rfl
  | cons c cs ih => rw [List.map_cons, replaceFinds_other, ih]

@[simp] theorem filterMap_value?_map_other (cs : List Char) :
    (cs.map fun c => (Piece.other c : Piece α)).filterMap Piece.value? = [] := by
  induction cs with
  | nil => rfl
  | cons c cs ih => rw [List.map_cons, List.filterMap_cons_none rfl, ih]

@[simp] theorem filterMap_value?_found (value : α) (text : List Char) (ps : List (Piece α)) :
    (.found value text :: ps).filterMap Piece.value? = value :: ps.filterMap Piece.value? := rfl

/-- A scan without finds leaves the text. -/
theorem replaceFinds_of_filterMap_eq_nil {ps : List (Piece α)}
    (h : ps.filterMap (·.value?) = []) : replaceFinds write ps = ps.flatMap Piece.text := by
  induction ps with
  | nil => rfl
  | cons p ps ih =>
    cases p with
    | other c => exact congrArg (c :: ·) (ih h)
    | found value text => exact absurd h nofun

end Pieces

end RouteTree.Text
