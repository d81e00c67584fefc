import RouteTree.Constraint
import RouteTree.Proofs.Regex.Anchoring

/-!
# Anchors of a constraint

Anchors are added to the text of a constraint and taken from it by its first and last characters,
whatever stands there. All texts that come about are around one and the same text, with an anchor at
either end, at both or at none (`anchorText_eq_around`, `around_unanchorText`).

**An anchored text can be read if the constraint can, and no flags for the whole expression come
first** (`isValid_anchorText_iff`). If a backslash is left over at the end of the constraint, it takes the
anchor along. What is read then is the constraint with a dollar at its end (`completed`).
-/

namespace RouteTree.Constraint

open Text Regex

/-! ## Texts -/

theorem endsAnchored_iff {cs : List Char} :
    endsAnchored cs = true ↔ ∃ front, cs = front ++ ['$'] ∧ front.getLast? ≠ some '\\' := by
  constructor
  · intro h
    unfold endsAnchored at h
    split at h
    · exact absurd h (by decide)
    · rename_i rest hne hrev
      refine ⟨rest.reverse, by simpa using congrArg List.reverse hrev, ?_⟩
      rw [List.getLast?_reverse]
      intro hhead
      obtain ⟨more, rfl⟩ := List.head?_eq_some_iff.mp hhead
      exact hne more rfl
    · exact absurd h (by decide)
  · rintro ⟨front, rfl, hlast⟩
    rw [← List.head?_reverse] at hlast
    unfold endsAnchored
    rw [List.reverse_concat]
    generalize front.reverse = back at hlast ⊢
    cases back with
    | nil => rfl
    | cons c cs =>
      have hc : c ≠ '\\' := fun hc => hlast (by rw [hc]; rfl)
      simp [hc]

theorem getLast?_of_not_endsAnchored {cs : List Char} (h : endsAnchored cs = false) :
    ∀ front, cs = front ++ ['$'] → front.getLast? = some '\\' := by
  intro front hfront
  refine Decidable.byContradiction fun hlast => ?_
  rw [endsAnchored_iff.mpr ⟨front, hfront, hlast⟩] at h
  exact absurd h (by decide)

/-- A caret in front is not what a dollar at the end is escaped by. -/
theorem endsAnchored_cons_caret (cs : List Char) : endsAnchored ('^' :: cs) = endsAnchored cs := by
  rw [Bool.eq_iff_iff, endsAnchored_iff, endsAnchored_iff]
  constructor
  · rintro ⟨front, hfront, hlast⟩
    cases front with
    | nil => exact absurd (List.cons.inj hfront).1 (by decide)
    | cons c front =>
      obtain ⟨rfl, rfl⟩ := List.cons.inj hfront
      refine ⟨front, rfl, fun hescape => hlast ?_⟩
      rw [List.getLast?_cons, hescape]
      rfl
  · rintro ⟨front, rfl, hlast⟩
    refine ⟨'^' :: front, rfl, fun hescape => ?_⟩
    rw [List.getLast?_cons] at hescape
    cases hend : front.getLast? with
    | none =>
      rw [hend] at hescape
      exact absurd (Option.some.inj hescape) (by decide)
    | some c =>
      rw [hend] at hescape hlast
      exact hlast hescape

/-- Both looks at a text begin behind its caret, if there is one. -/
theorem exists_behind_caret (source : List Char) : ∃ body, (source = body ∨ source = '^' :: body) ∧
    anchorText source =
      (if endsAnchored body then '^' :: body else '^' :: (body ++ ['$'])) ∧
    unanchorText source = if endsAnchored body then body.dropLast else body := by
  unfold anchorText unanchorText
  dsimp only
  split
  · rename_i rest
    refine ⟨rest, .inr rfl, ?_, rfl⟩
    rw [endsAnchored_cons_caret]
    rfl
  · refine ⟨source, .inl rfl, ?_, rfl⟩
    rw [endsAnchored_cons_caret]
    rfl

/-- A text without anchors gets both. -/
theorem anchorText_eq {cs : List Char} (hcaret : cs.head? ≠ some '^')
    (hdollar : ∀ front, cs = front ++ ['$'] → front.getLast? = some '\\') :
    anchorText cs = '^' :: cs ++ ['$'] := by
  have hends : endsAnchored cs = false := by
    rw [← Bool.not_eq_true]
    intro h
    obtain ⟨front, hfront, hlast⟩ := endsAnchored_iff.mp h
    exact hlast (hdollar front hfront)
  unfold anchorText
  split
  · exact absurd rfl hcaret
  · dsimp only
    rw [endsAnchored_cons_caret, hends]
    rfl

/-- Both anchors are taken away, if the one at the end is none behind a backslash. -/
theorem unanchorText_eq {cs : List Char} (h : cs.getLast? ≠ some '\\') :
    unanchorText ('^' :: cs ++ ['$']) = cs := by
  have hends : endsAnchored (cs ++ ['$']) = true := endsAnchored_iff.mpr ⟨cs, rfl, h⟩
  simp [unanchorText, hends]

/-! ## Texts around another -/

/-- A text is what is left without its anchors, with an anchor where it had one. -/
theorem around_unanchorText (source : List Char) : Around (unanchorText source) source := by
  obtain ⟨body, hsource, -, hcore⟩ := exists_behind_caret source
  rw [hcore]
  split
  · rename_i hends
    obtain ⟨front, rfl, -⟩ := endsAnchored_iff.mp hends
    rw [List.dropLast_concat]
    rcases hsource with rfl | rfl
    · exact .dollar
    · exact .both
  · rcases hsource with rfl | rfl
    · exact .bare
    · exact .caret

/-- An anchored text has both anchors around what is left without them. -/
theorem anchorText_eq_around (source : List Char) :
    anchorText source = '^' :: (unanchorText source ++ ['$']) := by
  obtain ⟨body, -, hanchored, hcore⟩ := exists_behind_caret source
  rw [hanchored, hcore]
  split
  · rename_i hends
    obtain ⟨front, rfl, -⟩ := endsAnchored_iff.mp hends
    rw [List.dropLast_concat]
  · rfl

/-- Without its anchors, an anchored text may still end with one. -/
theorem around_unanchorText_anchorText (source : List Char) :
    Around (unanchorText source) (unanchorText (anchorText source)) := by
  rw [anchorText_eq_around]
  generalize unanchorText source = core
  change Around core (if endsAnchored (core ++ ['$']) then (core ++ ['$']).dropLast else core ++ ['$'])
  split
  · rw [List.dropLast_concat]
    exact .bare
  · exact .dollar

/-- A backslash is left over at the end only. -/
theorem getLast?_of_tokens {cs : List Char} (h : (tokens cs).2 = true) :
    cs.getLast? = some '\\' := by
  induction cs using tokens_induction with
  | nil => exact absurd h (by decide)
  | dangling => rfl
  | escaped c rest ih =>
    have hrest := ih h
    rw [List.getLast?_cons, List.getLast?_cons, hrest]
    rfl
  | char c rest hc ih =>
    rw [tokens_char hc] at h
    rw [List.getLast?_cons, ih h]
    rfl

/-- Where no backslash is left over, none is left over without the anchors. -/
theorem tokens_unanchorText {source : List Char} (h : (tokens source).2 = false) :
    (tokens (unanchorText source)).2 = false := by
  obtain ⟨body, hsource, -, hcore⟩ := exists_behind_caret source
  rw [hcore]
  split
  · -- what stood before the dollar was no backslash
    rename_i hends
    obtain ⟨front, rfl, hlast⟩ := endsAnchored_iff.mp hends
    rw [List.dropLast_concat]
    cases hfront : (tokens front).2 with
    | false => rfl
    | true => exact absurd (getLast?_of_tokens hfront) hlast
  · rcases hsource with rfl | rfl
    · exact h
    · rwa [tokens_char (by decide)] at h

/-! ## What can be read between anchors -/

/-- The text with a dollar for the backslash that is left over at its end, if there is one. -/
def completed (source : List Char) : List Char :=
  if (tokens source).2 then source ++ ['$'] else source

theorem completed_of_tokens {source : List Char} (h : (tokens source).2 = false) :
    completed source = source := by
  simp [completed, h]

theorem completed_cons_caret (cs : List Char) : completed ('^' :: cs) = '^' :: completed cs := by
  unfold completed
  rw [tokens_char (by decide)]
  split <;> rfl

/-- A caret is no flag. -/
theorem not_beginsWithFlags_caret (verbose : Bool) (cs : List Char) :
    ¬ BeginsWithFlags verbose (tokens ('^' :: cs)).1 := by
  rw [tokens_char (by decide)]
  intro h
  cases h with
  | blank _ hc => exact absurd hc (by decide)

/-- The anchor at the end stands behind the completed text, if it is not what completes it. -/
theorem anchorText_eq_completed (source : List Char) : ∃ body,
    (source = body ∨ source = '^' :: body) ∧ (anchorText source = '^' :: completed body ∨
      (tokens body).2 = false ∧ anchorText source = '^' :: (completed body ++ ['$'])) := by
  obtain ⟨body, hsource, hanchored, -⟩ := exists_behind_caret source
  refine ⟨body, hsource, ?_⟩
  rw [hanchored]
  cases htokens : (tokens body).2 with
  | true =>
    have hends : endsAnchored body = false := by
      rw [← Bool.not_eq_true]
      intro h
      obtain ⟨front, rfl, -⟩ := endsAnchored_iff.mp h
      exact absurd (getLast?_of_tokens htokens) (by simp)
    exact .inl (by simp [hends, completed, htokens])
  | false =>
    rw [completed_of_tokens htokens]
    split
    · exact .inl rfl
    · exact .inr ⟨rfl, rfl⟩

variable [CharacterNames]

/-- **An anchored text can be read if the text can, completed by a dollar where it ends within an
escape, and no flags for the whole expression come first.** -/
theorem isValid_anchorText_iff {flags : Flags} {source : List Char} :
    IsValid flags (anchorText source) ↔ IsValid flags (completed source) ∧
      ¬ BeginsWithFlags flags.verbose (tokens (completed source)).1 := by
  obtain ⟨body, hsource, hanchored⟩ := anchorText_eq_completed source
  have hend : IsValid flags (anchorText source) ↔ IsValid flags ('^' :: completed body) := by
    rcases hanchored with hanchored | ⟨htokens, hanchored⟩
    · rw [hanchored]
    · have hcaret : (tokens ('^' :: completed body)).2 = false := by
        rw [completed_of_tokens htokens, tokens_char (by decide), htokens]
      rw [hanchored]
      exact isValid_dollar_iff hcaret
  rw [hend]
  rcases hsource with rfl | rfl
  · exact isValid_caret_iff
  · rw [completed_cons_caret]
    exact (and_iff_left (not_beginsWithFlags_caret _ _)).symm

/-- An anchor in front of flags is what is refused. -/
theorem refuses_anchorText {flags : Flags} {source : List Char}
    (h : BeginsWithFlags flags.verbose (tokens (completed source)).1) :
    Reader.Refuses (read flags (anchorText source)) := by
  obtain ⟨body, rfl | rfl, hanchored⟩ := anchorText_eq_completed source
  · rcases hanchored with hanchored | ⟨htokens, hanchored⟩
    · rw [hanchored]
      exact refuses_caret h
    · rw [completed_of_tokens htokens] at h hanchored
      rw [hanchored]
      refine refuses_caret ?_
      rw [tokens_append htokens]
      exact h.append _
  · rw [completed_cons_caret] at h
    exact absurd h (not_beginsWithFlags_caret _ _)

/-! ## Patterns -/

/-- What a pattern was read from. -/
theorem read_of_compile {source : String} {flags : Flags} {p : Pattern}
    (h : Pattern.compile source flags = .ok p) :
    read flags source.toList = .ok (p.regex, p.flags) ∧ p.source = source := by
  unfold Pattern.compile at h
  split at h
  · rename_i regex flags' hread
    obtain rfl := Except.ok.inj h
    exact ⟨hread, rfl⟩
  · exact absurd h nofun

theorem compile_eq_ok {text : List Char} {flags flags' : Flags} {regex : Regex}
    (h : read flags text = .ok (regex, flags')) :
    Pattern.compile (String.ofList text) flags = .ok ⟨String.ofList text, flags', regex⟩ := by
  unfold Pattern.compile
  rw [String.toList_ofList, h]

/-- A text stands for itself. -/
theorem anchor_str (source : String) : Constraint.anchor (.str source) = compileAnchored source {} :=
  rfl

theorem compileAnchored_eq_ok {source : String} {flags flags' : Flags} {regex : Regex}
    (h : Regex.read flags (anchorText source.toList) = .ok (regex, flags')) :
    compileAnchored source flags =
      .ok ⟨String.ofList (anchorText source.toList), flags', regex⟩ := by
  unfold compileAnchored
  simp only [compile_eq_ok h]

/-- An anchored pattern was read from a text with anchors. -/
theorem read_of_compileAnchored {source : String} {flags : Flags} {p : Pattern}
    (h : compileAnchored source flags = .ok p) :
    p.source.toList = anchorText source.toList ∧
      Regex.read flags p.source.toList = .ok (p.regex, p.flags) := by
  unfold compileAnchored at h
  cases hcompile : Pattern.compile (String.ofList (anchorText source.toList)) flags with
  | error e =>
    simp only [hcompile] at h
    split at h <;> exact absurd h nofun
  | ok q =>
    simp only [hcompile] at h
    obtain rfl := Except.ok.inj h
    obtain ⟨hread, hsource⟩ := read_of_compile hcompile
    rw [hsource, String.toList_ofList]
    rw [String.toList_ofList] at hread
    exact ⟨rfl, hread⟩

theorem exists_compileAnchored_iff {source : String} {flags : Flags} :
    (∃ p, compileAnchored source flags = .ok p) ↔ IsValid flags (anchorText source.toList) := by
  constructor
  · rintro ⟨p, hp⟩
    obtain ⟨hsource, hread⟩ := read_of_compileAnchored hp
    exact ⟨_, hsource ▸ hread⟩
  · rintro ⟨⟨regex, flags'⟩, hread⟩
    exact ⟨_, compileAnchored_eq_ok hread⟩

/-- **A text can be anchored if it can be read**, completed where it ends within an escape, and does
not begin with flags. -/
theorem exists_anchor_str_iff {source : String} :
    (∃ p, anchor (.str source) = .ok p) ↔ IsValid {} (completed source.toList) ∧
      ¬ BeginsWithFlags false (tokens (completed source.toList)).1 := by
  rw [anchor_str, exists_compileAnchored_iff]
  exact isValid_anchorText_iff

/-- **A pattern can be anchored if its text does not begin with flags.** -/
theorem exists_anchor_pattern_iff {p : Pattern} {flags : Flags}
    (h : read flags p.source.toList = .ok (p.regex, p.flags)) :
    (∃ q, anchor (.pattern p) = .ok q) ↔
      ¬ BeginsWithFlags p.flags.verbose (tokens p.source.toList).1 := by
  have hagain := read_again h
  obtain ⟨-, -, htokens, -⟩ := exists_of_read hagain
  have hvalid : IsValid p.flags (anchorText p.source.toList) ↔
      ¬ BeginsWithFlags p.flags.verbose (tokens p.source.toList).1 := by
    rw [isValid_anchorText_iff, completed_of_tokens htokens]
    exact and_iff_right ⟨_, hagain⟩
  rw [← hvalid]
  unfold anchor
  dsimp only
  split
  · rename_i hsame
    rw [hsame]
    exact ⟨fun _ => ⟨_, hagain⟩, fun _ => ⟨p, rfl⟩⟩
  · exact exists_compileAnchored_iff

end RouteTree.Constraint
