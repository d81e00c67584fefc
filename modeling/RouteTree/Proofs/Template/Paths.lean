import RouteTree.Proofs.OrderedMap.Overriding
import RouteTree.Proofs.Template.RoundTrip
import RouteTree.Proofs.Template.Squeezing

/-!
# Paths of compiled templates

**A uri has a path under constraints that were written in templates** (`exists_path`). Such a
constraint is anchored already, but a path anchors it once more: a dollar behind a backslash does
not count as an anchor, so `a\\` becomes `^a\$` and then `^a\$$`. What was read between anchors is
read again with one more dollar (`IsInline.exists_anchor`).
-/

namespace RouteTree

open Text

namespace Template

variable [CharacterNames]

/-- The pattern of a constraint that is written in a template. -/
def IsInline (p : Pattern) : Prop :=
  ∃ b, BodyText b ∧ Constraint.anchor (.str (String.ofList (squeeze '\\' b))) = .ok p

/-- **A constraint that was written in a template can be anchored again.** -/
theorem IsInline.exists_anchor {p : Pattern} (h : IsInline p) :
    ∃ q, Constraint.anchor (.pattern p) = .ok q := by
  obtain ⟨b, hb, hp⟩ := h
  rw [Constraint.anchor_str] at hp
  obtain ⟨hsource, hread⟩ := Constraint.read_of_compileAnchored hp
  rw [Constraint.exists_anchor_pattern_iff hread, hsource, Constraint.anchorText_eq_around]
  exact Constraint.not_beginsWithFlags_caret _ _

/-! ## Paths -/

theorem constraintBodies_eq_ok {constraints : Params} {bodyOf : Value → List Char}
    (h : ∀ e ∈ constraints.entries, Constraint.body e.2 = .ok (bodyOf e.2)) :
    constraintBodies constraints = .ok (constraints.mapValues bodyOf) := by
  obtain ⟨entries⟩ := constraints
  have hall : (entries.mapM fun (e : Value × Value) => do
      return (e.1, ← Constraint.body e.2)) =
        (.ok (entries.map fun e => (e.1, bodyOf e.2)) : Except Fault _) := by
    induction entries with
    | nil => rfl
    | cons e rest ih =>
      rw [List.mapM_cons, h e List.mem_cons_self, ih fun d hd => h d (List.mem_cons_of_mem e hd)]
      rfl
  unfold constraintBodies
  rw [hall]
  rfl

/-- What is anchored has a path, if its keys are names. -/
theorem exists_path_of_anchor {constraints : Params} {names : List String}
    (hkeys : constraints.keys = names.map .str)
    (h : ∀ e ∈ constraints.entries, ∃ q, Constraint.anchor e.2 = .ok q) (uri : String) :
    ∃ text, path uri constraints = .ok text := by
  obtain ⟨bodyOf, hbodies⟩ : ∃ bodyOf : Value → List Char,
      ∀ e ∈ constraints.entries, Constraint.body e.2 = .ok (bodyOf e.2) := by
    refine ⟨fun v => (Constraint.body v).toOption.getD [], fun e he => ?_⟩
    obtain ⟨q, hq⟩ := h e he
    have hbody : Constraint.body e.2 = .ok (Constraint.unanchorText q.source.toList) := by
      unfold Constraint.body
      rw [hq]
      rfl
    dsimp only
    rw [hbody]
    rfl
  have hordered : (constraints.mapValues bodyOf).keys = names.map .str := by
    rw [← hkeys]
    simp [OrderedMap.keys, OrderedMap.mapValues]
  unfold path
  rw [constraintBodies_eq_ok hbodies]
  simp only [bind, Except.bind, hordered, areOrdered_texts]
  exact ⟨_, rfl⟩

/-- **A uri has a path under constraints that were written in templates.** -/
theorem exists_path {pairs : List (String × Pattern)} (h : ∀ e ∈ pairs, IsInline e.2)
    (uri : String) :
    ∃ text, path uri ((OrderedMap.ofList pairs).withTextKeys.mapValues .pattern) = .ok text := by
  have hkeys : ((OrderedMap.ofList pairs).withTextKeys.mapValues Value.pattern).keys =
      (OrderedMap.ofList pairs).keys.map .str := by
    simp [OrderedMap.keys, OrderedMap.mapValues, OrderedMap.withTextKeys]
  refine exists_path_of_anchor hkeys (fun e he => ?_) uri
  simp only [OrderedMap.mapValues, OrderedMap.withTextKeys, List.map_map, List.mem_map] at he
  obtain ⟨e, he, rfl⟩ := he
  obtain ⟨e', he', heq⟩ := OrderedMap.exists_of_mem_ofList he
  have hinline := h e' he'
  rw [heq] at hinline
  exact hinline.exists_anchor

/-- So has one under the constraints that were found in a template. -/
theorem exists_path_of_constraintsOf {found : List Constrained} {constraints : Constraints}
    (h : constraintsOf found = .ok constraints) (hbody : ∀ c ∈ found, BodyText c.body)
    (uri : String) : ∃ text, path uri (constraints.mapValues .pattern) = .ok text := by
  obtain ⟨anchored, rfl, hanchored⟩ := exists_of_constraintsOf h
  obtain rfl := Except.ok.inj ((constraintsOf_eq_ok hanchored).symm.trans h)
  refine exists_path (fun e he => ?_) uri
  obtain ⟨c, hc, rfl⟩ := List.mem_map.mp he
  exact ⟨c.1.body, hbody c.1 (List.mem_map_of_mem hc), hanchored c hc⟩

end Template

end RouteTree
