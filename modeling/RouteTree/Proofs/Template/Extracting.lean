import RouteTree.Template.Compiled
import RouteTree.Proofs.Regex.Positions
import RouteTree.Proofs.Template.Expressions

/-!
# Taking constraints out

What a parameter with its constraint looks like is said here by how the text is divided
(`Constrained.Begins`). **The expression for constraints matches where the text can be divided so, and
there only; it can be divided in one way only; and the constraint ends at the first parenthesis that is
no part of an escape pair** (`constraints_extracted`). So no order in which the choices of the expression
are tried makes a difference.

Compiling a template then takes out of it the bodies of these matches with their parentheses, from left to
right and without overlap, and leaves every other character where it was.
-/

namespace RouteTree.Template

open Text Regex

/-! ## Dividing a text -/

/-- The text is a parameter with its constraint, and the rest. -/
structure Constrained.Begins (c : Constrained) (cs rest : List Char) : Prop where
  named : c.param.IsNamed
  token : c.token = c.param.colon ∨ c.token = c.param.brace
  body : BodyText c.body
  text : cs = c.token ++ '(' :: c.body ++ ')' :: rest

theorem constrained_eq_some_iff {cs rest : List Char} {c : Constrained} :
    constrained cs = some (c, rest) ↔ c.Begins cs rest := by
  constructor
  · intro h
    obtain ⟨hnamed, htoken, hbody, htext⟩ := eq_of_constrained h
    exact ⟨hnamed, htoken, hbody, htext⟩
  · rintro ⟨hnamed, htoken, hbody, rfl⟩
    exact constrained_append htoken hnamed hbody rest

namespace Constrained.Begins

variable {cs rest rest' : List Char} {c c' : Constrained}

/-- **There is one way to divide a text.** -/
theorem unique (h : c.Begins cs rest) (h' : c'.Begins cs rest') : c' = c ∧ rest' = rest :=
  Prod.mk.inj (Option.some.inj
    ((constrained_eq_some_iff.mpr h').symm.trans (constrained_eq_some_iff.mpr h)))

/-- The name is as long as it can be. -/
theorem name_eq (h : c.Begins cs rest) : c.param.name = cs.tail.takeWhile isWord := by
  obtain ⟨inner, htail, hends⟩ : ∃ inner,
      cs.tail = c.param.name ++ (c.param.mark ++ inner) ∧ EndsName inner := by
    rcases h.token with htoken | htoken
    · refine ⟨'(' :: c.body ++ ')' :: rest, ?_, endsName_cons (by decide) (by decide)⟩
      rw [h.text, htoken]
      simp [Param.colon]
    · refine ⟨'\x7d' :: '(' :: c.body ++ ')' :: rest, ?_, endsName_cons (by decide) (by decide)⟩
      rw [h.text, htoken]
      simp [Param.brace]
  rw [htail, (takeWhile_append_of_all _ h.named.word (head?_mark_append fun _ => hends)).1]

end Constrained.Begins

/-! ## The parenthesis at the end -/

/-- A parenthesis stands at the place, and is no part of an escape pair. -/
def IsFreeParen (text : List Char) (i : Nat) : Prop :=
  (text[i]? = some '(' ∨ text[i]? = some ')') ∧ (tokens (text.take i)).2 = false

/-- The first parenthesis that is no part of an escape pair stands at the place. -/
def IsFirstFreeParen (text : List Char) (i : Nat) : Prop :=
  IsFreeParen text i ∧ ∀ j < i, ¬ IsFreeParen text j

theorem isFreeParen_zero_iff {c : Char} {text : List Char} :
    IsFreeParen (c :: text) 0 ↔ c = '(' ∨ c = ')' := by
  simp [IsFreeParen, tokens]

theorem isFreeParen_char_iff {c : Char} (hc : c ≠ '\\') {text : List Char} {i : Nat} :
    IsFreeParen (c :: text) (i + 1) ↔ IsFreeParen text i := by
  simp [IsFreeParen, tokens_char hc]

theorem isFreeParen_pair_iff {c : Char} {text : List Char} {i : Nat} :
    IsFreeParen ('\\' :: c :: text) (i + 2) ↔ IsFreeParen text i := by
  simp [IsFreeParen, tokens]

/-- The second character of an escape pair is not free. -/
theorem not_isFreeParen_one (c : Char) (text : List Char) : ¬ IsFreeParen ('\\' :: c :: text) 1 := by
  simp [IsFreeParen, tokens]

/-- A constraint ends at the first parenthesis that is no part of an escape pair. -/
theorem isFirstFreeParen_body {b : List Char} (hb : BodyText b) (rest : List Char) :
    IsFirstFreeParen (b ++ ')' :: rest) b.length := by
  induction hb with
  | nil => exact ⟨isFreeParen_zero_iff.mpr (.inr rfl), fun j hj => absurd hj (Nat.not_lt_zero j)⟩
  | @pair c b hc _ ih =>
    refine ⟨isFreeParen_pair_iff.mpr ih.1, fun j hj => ?_⟩
    match j with
    | 0 => exact fun hfree => absurd (isFreeParen_zero_iff.mp hfree) (by decide)
    | 1 => exact not_isFreeParen_one c _
    | j + 2 =>
      have hlt : j < b.length := by
        simp only [List.length_cons] at hj
        omega
      exact fun hfree => ih.2 j hlt (isFreeParen_pair_iff.mp hfree)
  | @char c b hopen hclose hslash _ ih =>
    refine ⟨(isFreeParen_char_iff hslash).mpr ih.1, fun j hj => ?_⟩
    match j with
    | 0 => exact fun hfree => (isFreeParen_zero_iff.mp hfree).elim hopen hclose
    | j + 1 =>
      have hlt : j < b.length := Nat.lt_of_succ_lt_succ hj
      exact fun hfree => ih.2 j hlt ((isFreeParen_char_iff hslash).mp hfree)

/-- So does what is behind the parenthesis that opens it. -/
theorem Constrained.Begins.isFirstFreeParen {cs rest : List Char} {c : Constrained}
    (h : c.Begins cs rest) : IsFirstFreeParen (cs.drop (c.token.length + 1)) c.body.length := by
  have hinner : cs.drop (c.token.length + 1) = c.body ++ ')' :: rest := by
    rw [h.text, List.append_assoc, List.drop_length_add_append]
    rfl
  rw [hinner]
  exact isFirstFreeParen_body h.body rest

/-! ## Taking out -/

/-- What is left of a constraint is the beginning of its text. -/
theorem token_isPrefix [CharacterNames] {text rest : List Char} {c : Constrained}
    (h : constrained (text ++ rest) = some (c, rest)) : c.token <+: text := by
  have htext : text = c.text := List.append_cancel_right (expresses_constrained.takes _ _ _ h)
  rw [htext, Constrained.text]
  exact ⟨'(' :: c.body ++ [')'], by simp⟩

/-- **Constraints are taken out exactly.** The expression for constraints matches from one place to
another iff the text there is a parameter with its constraint. Such a text can be divided in one way
only, its name is as long as it can be, and its constraint ends at the first parenthesis that is no part
of an escape pair. What a compilation finds are the matches from left to right and without overlap, and
what it leaves are the characters at all places but those from the opening parenthesis of a match to its
end. -/
theorem constraints_extracted [CharacterNames] (template : String) :
    (∀ start stop groups, MatchesAt constrainedSource template.toList start stop groups ↔
      stop ≤ template.toList.length ∧ ∃ c : Constrained,
        c.Begins (template.toList.drop start) (template.toList.drop stop) ∧ groups = c.groups) ∧
    (∀ cs rest (c : Constrained), c.Begins cs rest →
      c.param.name = cs.tail.takeWhile isWord ∧
      (∀ c' rest', c'.Begins cs rest' → c' = c ∧ rest' = rest) ∧
      IsFirstFreeParen (cs.drop (c.token.length + 1)) c.body.length) ∧
    (∀ found, Leftmost (MatchesAt constrainedSource template.toList) 0 found ↔
      found = (spans 0 (pieces constrained template.toList)).map fun m =>
        (m.1, m.2.1, m.2.2.groups)) ∧
    withoutConstraints (pieces constrained template.toList) =
      uncut (·.token) (spans 0 (pieces constrained template.toList)) 0 template.toList := by
  refine ⟨fun start stop groups => ?_, fun cs rest c h => ⟨h.name_eq, fun _ _ => h.unique,
    h.isFirstFreeParen⟩, fun found => expresses_constrained.leftmost_iff,
    replaceFinds_eq_uncut constrained_consumes (fun _ _ _ => token_isPrefix) 0 _⟩
  rw [expresses_constrained.matchesAt_iff]
  simp only [Recogniser.FindsAt, constrained_eq_some_iff, and_assoc, exists_and_left]

/-- A token in what looks like a body, an escaped parenthesis, and a nested parenthesis. -/
def tangledTemplate : String := "/\x7ba(:b?(x\\)y)/:c((z)"

open scoped CharacterNames.Unnamed

theorem constraints_extracted_tangled :
    MatchesAt constrainedSource tangledTemplate.toList 4 13 [(2, "x\\)y".toList), (1, ":b?".toList)] ∧
      (∃ c : Constrained, c.Begins (tangledTemplate.toList.drop 4) (tangledTemplate.toList.drop 13) ∧
        IsFirstFreeParen "x\\)y)/:c((z)".toList c.body.length) ∧
      Leftmost (MatchesAt constrainedSource tangledTemplate.toList) 0
        [(4, 13, [(2, "x\\)y".toList), (1, ":b?".toList)])] ∧
      withoutConstraints (pieces constrained tangledTemplate.toList) = "/\x7ba(:b?/:c((z)".toList := by
  obtain ⟨hmatches, hbegins, hleftmost, hleft⟩ := constraints_extracted tangledTemplate
  have hfound : Leftmost (MatchesAt constrainedSource tangledTemplate.toList) 0
      [(4, 13, [(2, "x\\)y".toList), (1, ":b?".toList)])] := (hleftmost _).mpr (by decide +kernel)
  have hmatch := (hfound.found _ List.mem_cons_self).2
  obtain ⟨-, c, hc, hgroups⟩ := (hmatches _ _ _).mp hmatch
  obtain ⟨-, -, hends⟩ := hbegins _ _ c hc
  refine ⟨hmatch, ⟨c, hc, ?_⟩, hfound, hleft.trans (by decide +kernel)⟩
  have htoken : c.token = ":b?".toList := by
    obtain ⟨-, htoken⟩ : ("x\\)y".toList = c.body) ∧ ":b?".toList = c.token := by
      simpa [Constrained.groups] using hgroups
    exact htoken.symm
  rw [htoken] at hends
  exact hends

end RouteTree.Template
