import Mathlib.Data.List.Forall2
import RouteTree.Proofs.Template.Expressions

/-!
# Parameters and placeholders

A path is written with a scan for parameters, and a url is built with a scan for placeholders, which
take the slash before them along. **Both scans see the same parameters** (`forall₂_placeholders`): they
find equally many, and in order a parameter and its placeholder have one name, one question mark and one
end. The placeholder begins one character earlier iff that character is a slash.

A slash that a placeholder takes is missing to no other find, as no parameter has a slash in it. The
induction along the text carries that no parameter begins directly behind a slash that was passed over
(`forall₂_spans`): the placeholder would have begun with that slash.
-/

namespace RouteTree.Template

open Text Regex

/-- The placeholder is found where the parameter is, together with the slash before it if there is
one. -/
structure IsPlaceholderOf (uri : List Char) (m : Nat × Nat × Param) (n : Nat × Nat × Placeholder) :
    Prop where
  param : n.2.2.param = m.2.2
  stop : n.2.1 = m.2.1
  start : n.1 + n.2.2.slash.toNat = m.1
  slash : n.2.2.slash = true ↔ (uri.take m.1).getLast? = some '/'

/-- A parameter does not end with a slash. -/
theorem getLast?_append_colon {p : Param} (hp : p.IsNamed) (before : List Char) :
    (before ++ p.colon).getLast? ≠ some '/' := by
  have hne : p.name ++ p.mark ≠ [] := by simp [hp.ne_nil]
  intro hlast
  have hmem : '/' ∈ p.name ++ p.mark := by
    refine List.mem_of_getLast? ?_
    rwa [Param.colon, List.cons_append, ← List.singleton_append, ← List.append_assoc,
      List.getLast?_append_of_ne_nil _ hne] at hlast
  exact hp.ne_of_mem hmem (by decide) (by decide) rfl

/-- Where no placeholder begins, neither does a parameter, nor does one behind the slash there. -/
theorem colonParam_eq_none_of_placeholder {cs : List Char} (h : placeholder cs = none) :
    colonParam cs = none ∧ ∀ rest, cs = '/' :: rest → colonParam rest = none := by
  by_cases hc : cs.head? = some '/'
  · obtain ⟨cs, rfl⟩ := List.head?_eq_some_iff.mp hc
    refine ⟨colonParam_skips (by decide) cs, ?_⟩
    rintro rest heq
    obtain ⟨-, rfl⟩ := List.cons.inj heq
    exact Option.map_eq_none_iff.mp h
  · rw [placeholder_of_head?_ne hc] at h
    exact ⟨Option.map_eq_none_iff.mp h, fun rest heq => absurd (heq ▸ rfl) hc⟩

/-- What a scan for parameters finds where a placeholder begins. -/
theorem spans_colonParam_placeholder {p : Placeholder} {rest : List Char}
    (hread : colonParam (p.param.colon ++ rest) = some (p.param, rest)) (start : Nat) :
    spans start (pieces colonParam (p.text ++ rest)) =
      (start + p.slash.toNat, start + p.text.length, p.param) ::
        spans (start + p.text.length) (pieces colonParam rest) := by
  have hne : p.param.colon ≠ [] := List.cons_ne_nil _ _
  obtain ⟨slash, param⟩ := p
  cases slash with
  | true =>
    have hskips : colonParam ('/' :: (param.colon ++ rest)) = none := colonParam_skips (by decide) _
    change spans start (pieces colonParam ('/' :: (param.colon ++ rest))) = _
    rw [pieces_cons_of_none hskips, pieces_append_of_some hne hread]
    simp [spans, Placeholder.text, Nat.add_assoc, Nat.add_comm 1]
  | false =>
    change spans start (pieces colonParam (param.colon ++ rest)) = _
    rw [pieces_append_of_some hne hread]
    rfl

/-- Both scans see the same parameters in the second part of a text, if none begins there directly behind
a slash of the first. -/
theorem forall₂_spans (before cs : List Char)
    (hslash : before.getLast? = some '/' → colonParam cs = none) :
    List.Forall₂ (IsPlaceholderOf (before ++ cs)) (spans before.length (pieces colonParam cs))
      (spans before.length (pieces placeholder cs)) := by
  induction cs using scan_induction placeholder_consumes generalizing before with
  | nil => exact .nil
  | other c cs hnone ih =>
    obtain ⟨hcolon, hbehind⟩ := colonParam_eq_none_of_placeholder hnone
    have hrest := ih (before ++ [c]) fun hlast =>
      hbehind cs (by rw [List.getLast?_concat] at hlast; rw [Option.some.inj hlast])
    rw [pieces_cons_of_none hnone, pieces_cons_of_none hcolon]
    simpa [spans] using hrest
  | found text p rest hne hsome ih =>
    obtain ⟨hp, hread, htext⟩ := eq_of_placeholder hsome
    obtain rfl := List.append_cancel_right htext
    have hrest := ih (before ++ p.text) fun hlast => by
      rw [Placeholder.text, ← List.append_assoc] at hlast
      exact absurd hlast (getLast?_append_colon hp _)
    rw [List.append_assoc, List.length_append] at hrest
    rw [spans_colonParam_placeholder hread, pieces_append_of_some hne hsome, spans]
    refine .cons ⟨rfl, rfl, rfl, ?_⟩ hrest
    obtain ⟨slash, param⟩ := p
    cases slash with
    | true => simp [Placeholder.text, List.take_length_add_append]
    | false =>
      have hno : before.getLast? ≠ some '/' := fun hlast =>
        absurd (hread.symm.trans (hslash hlast)) (Option.some_ne_none _)
      simpa using hno

variable [CharacterNames]

/-- **Both scans see the same parameters.** What they find are the matches of the two expressions, from
left to right and without overlap. They are equally many, and in order a placeholder has the name, the
question mark and the end of the parameter, and begins with the slash before it iff there is one. -/
theorem forall₂_placeholders (uri : String) :
    Leftmost (MatchesAt colonSource uri.toList) 0
        ((spans 0 (pieces colonParam uri.toList)).map fun m => (m.1, m.2.1, m.2.2.groups 1)) ∧
      Leftmost (MatchesAt placeholderSource uri.toList) 0
        ((spans 0 (pieces placeholder uri.toList)).map fun n => (n.1, n.2.1, n.2.2.groups)) ∧
      List.Forall₂ (IsPlaceholderOf uri.toList) (spans 0 (pieces colonParam uri.toList))
        (spans 0 (pieces placeholder uri.toList)) :=
  ⟨expresses_colon.leftmost_iff.mpr rfl, expresses_placeholder.leftmost_iff.mpr rfl,
    forall₂_spans [] uri.toList nofun⟩

/-- A colon too many, a question mark too many, and a slash that belongs to no placeholder. -/
example : (spans 0 (pieces placeholder "/:a/:b?::c??//:é".toList)).map (fun n => (n.1, n.2.1)) =
    [(0, 3), (3, 7), (8, 11), (13, 16)] := by
  decide +kernel

end RouteTree.Template
