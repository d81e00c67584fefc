import RouteTree.Proofs.Template.Anchors

/-!
# Constraints mean what was written

**Anchoring a constraint and taking the anchors away changes nothing about what it matches from end to
end** (`anchor_fullMatch`). All texts that come about are around one and the same text, so what can be
read between both anchors settles the rest (`Regex.read_between`).
-/

namespace RouteTree.Constraint

open Regex

section

variable [CharacterNames]

/-- The pattern that a constraint is by itself, before it is anchored. -/
inductive IsWritten : Value → Pattern → Prop where
  | text {source : String} {p : Pattern} (h : Pattern.compile source {} = .ok p) :
    IsWritten (.str source) p
  | pattern {source : String} {flags : Flags} {p : Pattern} (h : Pattern.compile source flags = .ok p) :
    IsWritten (.pattern p) p

/-- A constraint that was read is read from its text, and is anchored as its text is. -/
theorem IsWritten.read_anchor {c : Value} {p q : Pattern} (hp : IsWritten c p)
    (hq : anchor c = .ok q) :
    ∃ flags, read flags p.source.toList = .ok (p.regex, p.flags) ∧
      q.source.toList = anchorText p.source.toList ∧
      read flags q.source.toList = .ok (q.regex, q.flags) := by
  cases hp with
  | @text source p h =>
    obtain ⟨hread, rfl⟩ := read_of_compile h
    rw [anchor_str] at hq
    obtain ⟨hsource, hanchored⟩ := read_of_compileAnchored hq
    exact ⟨{}, hread, hsource, hanchored⟩
  | @pattern source flags p h =>
    obtain ⟨hread, rfl⟩ := read_of_compile h
    -- the flags that are shown are as good as those that were given
    have hagain := read_again hread
    refine ⟨p.flags, hagain, ?_⟩
    unfold anchor at hq
    dsimp only at hq
    split at hq
    · rename_i hsame
      obtain rfl := Except.ok.inj hq
      exact ⟨hsame.symm, hagain⟩
    · exact read_of_compileAnchored hq

/-- **A constraint matches what was written**, anchored and without its anchors, which can be read
under the same flags. -/
theorem anchor_fullMatch {c : Value} {p q : Pattern} (hp : IsWritten c p) (hq : anchor c = .ok q) :
    ∃ b, Pattern.compile (String.ofList (unanchorText q.source.toList)) q.flags = .ok b ∧
      b.flags = q.flags ∧
      ∀ subject, q.fullMatch subject = p.fullMatch subject ∧
        b.fullMatch subject = p.fullMatch subject := by
  obtain ⟨flags, hread, hsource, hanchored⟩ := hp.read_anchor hq
  obtain ⟨-, -, htokens, -⟩ := exists_of_read hread
  rw [hsource, anchorText_eq_around] at hanchored
  have hbetween := read_between (tokens_unanchorText htokens) hanchored
  -- what was written is one of the texts around the same core, and so is what is left at the end
  obtain ⟨regex, hwritten, hsame⟩ := hbetween _ (around_unanchorText p.source.toList)
  obtain ⟨hregex, hflags⟩ := Prod.mk.inj (Except.ok.inj (hread.symm.trans hwritten))
  obtain ⟨bare, hbare, hsame'⟩ := hbetween _ (around_unanchorText_anchorText p.source.toList)
  rw [← hsource] at hbare
  refine ⟨_, compile_eq_ok (read_again hbare), rfl, fun subject => ?_⟩
  unfold Pattern.fullMatch
  rw [hregex, hflags, hsame, hsame']
  exact ⟨rfl, rfl⟩

end

/-- One anchor is put before a branch, the other into a comment. -/
def samplePattern : Pattern where
  source := "(a|b)\\1|c # or"
  flags := { multiline := true, verbose := true }
  regex := .alt (.cat (.capture 1 (.alt (.code 97) (.code 98))) (.reference 1)) (.code 99)

def sampleAnchored : Pattern where
  source := "^(a|b)\\1|c # or$"
  flags := { multiline := true, verbose := true }
  regex := .alt (.cat (.assertion .lineStart)
    (.cat (.capture 1 (.alt (.code 97) (.code 98))) (.reference 1))) (.code 99)

open scoped CharacterNames.Unnamed

theorem anchor_fullMatch_samplePattern :
    IsWritten (.pattern samplePattern) samplePattern ∧
      anchor (.pattern samplePattern) = .ok sampleAnchored ∧
      ∃ b, Pattern.compile (String.ofList (unanchorText sampleAnchored.source.toList))
          sampleAnchored.flags = .ok b ∧
        b.flags = sampleAnchored.flags ∧
        ∀ subject, sampleAnchored.fullMatch subject = samplePattern.fullMatch subject ∧
          b.fullMatch subject = samplePattern.fullMatch subject := by
  have hread : Pattern.compile samplePattern.source samplePattern.flags = .ok samplePattern := rfl
  have hanchor : anchor (.pattern samplePattern) = .ok sampleAnchored := rfl
  exact ⟨.pattern hread, hanchor, anchor_fullMatch (.pattern hread) hanchor⟩

end RouteTree.Constraint
