import RouteTree.Proofs.Template.Anchors
import RouteTree.Proofs.Template.Tokens

/-!
# Constraints that can be written into a template

A constraint that is a regular expression without groups, without anchors of its own and without a
run of backslashes can be written into a template as it is (`Inlinable`). It can be anchored, and
taking the anchors away gives it back (`Inlinable.anchor`). An escaped dollar at its end is no
anchor, and stays none when the closing anchor stands behind it.
-/

namespace RouteTree.Template

open Text Constraint Regex

/-- A constraint that can be written into a template as it is. -/
structure Inlinable [CharacterNames] (source : String) : Prop where
  valid : ∃ p, Pattern.compile source {} = .ok p
  /-- No parenthesis stands outside an escape pair. -/
  isBody : BodyText source.toList
  single : ¬ ['\\', '\\'] <:+: source.toList
  no_caret : source.toList.head? ≠ some '^'
  /-- A dollar at the end is an escaped one. -/
  no_dollar : ∀ front, source.toList = front ++ ['$'] → front.getLast? = some '\\'

/-! ## What a constraint body holds -/

/-- A body whose backslashes stand alone ends with none of them. -/
theorem BodyText.getLast?_ne {b : List Char} (h : BodyText b) (hsingle : ¬ ['\\', '\\'] <:+: b) :
    b.getLast? ≠ some '\\' := by
  induction h with
  | nil => nofun
  | @pair c rest hc hrest ih =>
    have hrestSingle : ¬ ['\\', '\\'] <:+: rest := fun hin =>
      hsingle (hin.trans ⟨['\\', c], [], by simp⟩)
    cases rest with
    | nil =>
      rintro heq
      obtain rfl : c = '\\' := by simpa using heq
      exact hsingle (List.infix_refl _)
    | cons d rest => simpa [List.getLast?_cons_cons] using ih hrestSingle
  | @char c rest hopen hclose hescape hrest ih =>
    have hrestSingle : ¬ ['\\', '\\'] <:+: rest := fun hin =>
      hsingle (hin.trans (List.suffix_cons c rest).isInfix)
    cases rest with
    | nil => simpa using hescape
    | cons d rest => simpa [List.getLast?_cons_cons] using ih hrestSingle

/-- A body does not begin with a parenthesis. -/
theorem BodyText.not_beginsWithFlags {b : List Char} (h : BodyText b) :
    ¬ BeginsWithFlags false (tokens b).1 := by
  cases h with
  | nil => nofun
  | pair => nofun
  | char hopen _ hescape =>
    rw [tokens_char hescape]
    intro hflags
    exact hopen (Token.char.inj (Option.some.inj hflags.head?_eq))

/-! ## Anchoring and taking the anchors away -/

variable [CharacterNames]

/-- **A constraint that can be written into a template has an anchored pattern**, from which the
constraint is read back. -/
theorem Inlinable.anchor {source : String} (h : Inlinable source) :
    ∃ p, Constraint.anchor (.str source) = .ok p ∧
      Constraint.body (.str source) = .ok source.toList := by
  obtain ⟨bare, hbare⟩ := h.valid
  obtain ⟨hread, -⟩ := read_of_compile hbare
  obtain ⟨-, -, htokens, -⟩ := exists_of_read hread
  -- without a group there are no flags at the beginning
  obtain ⟨p, hp⟩ : ∃ p, Constraint.anchor (.str source) = .ok p := by
    rw [exists_anchor_str_iff, completed_of_tokens htokens]
    exact ⟨⟨_, hread⟩, h.isBody.not_beginsWithFlags⟩
  refine ⟨p, hp, ?_⟩
  -- the source gets both anchors, and loses them again
  have hsource : p.source.toList = '^' :: source.toList ++ ['$'] := by
    rw [anchor_str] at hp
    rw [← anchorText_eq h.no_caret h.no_dollar]
    exact (read_of_compileAnchored hp).1
  have hlast := h.isBody.getLast?_ne h.single
  unfold Constraint.body
  rw [hp]
  simp only [bind, Except.bind, pure, Except.pure, hsource, unanchorText_eq hlast]

end RouteTree.Template
