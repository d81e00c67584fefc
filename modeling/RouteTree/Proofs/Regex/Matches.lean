import RouteTree.Regex.Pattern
import RouteTree.Proofs.Text.Leftmost

/-!
# Matches of an expression in a text

Where an expression matches a text, said with the search that matches constraints (`MatchesAt`). A
recogniser may stand for an expression if it takes the same text at every place (`Expresses`); then **the
finds of its scan are the matches of the expression, from left to right and without overlap**
(`Expresses.leftmost_iff`).
-/

namespace RouteTree.Regex

open Text

variable [CharacterNames]

/-- The expression matches the text from `start` to `stop`, and its groups, the latest first, match
these texts. -/
def MatchesAt (source : String) (text : List Char) (start stop : Nat)
    (groups : List (Nat × List Char)) : Prop :=
  stop ≤ text.length ∧ ∃ p, Pattern.compile source {} = .ok p ∧
    p.regex.search p.flags ⟨(text.take start).reverse, text.drop start, []⟩ some =
      some ⟨(text.take stop).reverse, text.drop stop, groups⟩

/-- The recogniser takes what the expression takes, at every place of every text. What it finds says what
was taken, and what the groups of the expression have matched. -/
structure Expresses {α : Type} (source : String) (find : Recogniser α) (taken : α → List Char)
    (groups : α → List (Nat × List Char)) : Prop where
  consumes : find.Consumes
  takes : ∀ cs value rest, find cs = some (value, rest) → cs = taken value ++ rest
  searches : ∃ regex, Pattern.compile source {} = .ok ⟨source, {}, regex⟩ ∧
    ∀ s, regex.search {} s some = (find s.after).map fun found =>
      ⟨(taken found.1).reverse ++ s.before, found.2, groups found.1 ++ s.groups⟩

namespace Expresses

variable {α : Type} {source : String} {find : Recogniser α} {taken : α → List Char}
  {groups : α → List (Nat × List Char)}

theorem matchesAt_iff (h : Expresses source find taken groups) {text : List Char} {start stop : Nat}
    {shown : List (Nat × List Char)} : MatchesAt source text start stop shown ↔
      ∃ value, find.FindsAt text start stop value ∧ shown = groups value := by
  obtain ⟨regex, hcompile, hsearch⟩ := h.searches
  unfold MatchesAt Recogniser.FindsAt
  constructor
  · rintro ⟨hstop, p, hp, hmatch⟩
    obtain rfl := Except.ok.inj (hcompile.symm.trans hp)
    rw [hsearch] at hmatch
    obtain ⟨⟨value, rest⟩, hfound, heq⟩ := Option.map_eq_some_iff.mp hmatch
    obtain ⟨-, rfl, hgroups⟩ := Cursor.mk.inj heq
    exact ⟨value, ⟨hstop, hfound⟩, by rw [← hgroups, List.append_nil]⟩
  · rintro ⟨value, ⟨hstop, hfound⟩, rfl⟩
    have hcut : text.take stop = text.take start ++ taken value := by
      refine (List.append_left_inj (text.drop stop)).mp ?_
      rw [List.take_append_drop, List.append_assoc, ← h.takes _ _ _ hfound, List.take_append_drop]
    refine ⟨hstop, _, hcompile, ?_⟩
    rw [hsearch, hfound, Option.map_some, List.append_nil, hcut, List.reverse_append]

theorem isSingle (h : Expresses source find taken groups) (text : List Char) :
    IsSingle (MatchesAt source text) where
  lt hmatch := by
    obtain ⟨value, hfound, -⟩ := h.matchesAt_iff.mp hmatch
    exact (h.consumes.isSingle_findsAt text).lt hfound
  unique hmatch hmatch' := by
    obtain ⟨value, hfound, rfl⟩ := h.matchesAt_iff.mp hmatch
    obtain ⟨value', hfound', rfl⟩ := h.matchesAt_iff.mp hmatch'
    obtain ⟨rfl, rfl⟩ := (h.consumes.isSingle_findsAt text).unique hfound hfound'
    exact ⟨rfl, rfl⟩

/-- **The finds of the scan are the matches of the expression**, from left to right and without
overlap, and no other list is. -/
theorem leftmost_iff (h : Expresses source find taken groups) {text : List Char}
    {found : List (Nat × Nat × List (Nat × List Char))} : Leftmost (MatchesAt source text) 0 found ↔
      found = (spans 0 (pieces find text)).map fun m => (m.1, m.2.1, groups m.2.2) := by
  have hscan : Leftmost (MatchesAt source text) 0
      ((spans 0 (pieces find text)).map fun m => (m.1, m.2.1, groups m.2.2)) :=
    (leftmost_spans h.consumes text).map fun _ _ _ => h.matchesAt_iff
  constructor
  · exact fun hfound => hfound.unique (h.isSingle text) hscan
  · rintro rfl
    exact hscan

end Expresses

end RouteTree.Regex
