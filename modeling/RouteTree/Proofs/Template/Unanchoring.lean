import RouteTree.Proofs.Template.Paths

/-!
# Constraints shown again

A constraint without anchors is anchored, and shown without its anchors in a path. **What is shown is
what was written, and to anchor it once more changes nothing, unless it ends with a backslash**
(`unanchor_anchor`). The anchor behind a backslash is taken for an escaped dollar, whether the backslash
escapes it or belongs to a pair before it: only the whole run of backslashes would tell. So that anchor is
left over when the anchors are taken away, and it gets another one behind it when it is anchored again.
-/

namespace RouteTree.Constraint

open Text Template Regex

/-- The text has no anchors of its own: a dollar at its end is an escaped one, as far as one character
tells. -/
structure IsBare (source : List Char) : Prop where
  no_caret : source.head? ≠ some '^'
  no_dollar : ∀ front, source = front ++ ['$'] → front.getLast? = some '\\'

/-- What is shown of a text that was anchored. -/
def shown (source : List Char) : List Char :=
  if source.getLast? = some '\\' then source ++ ['$'] else source

theorem shown_eq_self_iff {source : List Char} :
    shown source = source ↔ source.getLast? ≠ some '\\' := by
  unfold shown
  split
  · rename_i hlast
    exact ⟨fun h => absurd h (by simp), fun h => absurd hlast h⟩
  · rename_i hlast
    exact iff_of_true rfl hlast

/-- The text of a constraint. -/
def sourceOf : Value → String
  | .pattern p => p.source
  | v => v.text

@[simp] theorem sourceOf_str (source : String) : sourceOf (.str source) = source := rfl

/-- What is anchored is the text. -/
theorem source_of_anchor [CharacterNames] {v : Value} {p : Pattern} (h : anchor v = .ok p) :
    p.source.toList = anchorText (sourceOf v).toList := by
  unfold anchor at h
  split at h
  · split at h
    · rename_i hsame
      obtain rfl := Except.ok.inj h
      exact hsame.symm
    · exact (read_of_compileAnchored h).1
  · rename_i hother
    have htext : sourceOf v = v.text := by
      unfold sourceOf
      split
      · exact absurd rfl (hother _)
      · rfl
    rw [htext]
    exact (read_of_compileAnchored h).1

/-- A dollar is an anchor unless it stands behind a backslash. -/
theorem endsAnchored_concat (source : List Char) :
    endsAnchored (source ++ ['$']) = true ↔ source.getLast? ≠ some '\\' := by
  rw [endsAnchored_iff]
  constructor
  · rintro ⟨front, hfront, hlast⟩
    rwa [List.append_cancel_right hfront]
  · exact fun h => ⟨source, rfl, h⟩

/-- Without its anchors, an anchored text is what is shown. -/
theorem unanchorText_anchorText {source : List Char} (h : IsBare source) :
    unanchorText (anchorText source) = shown source := by
  rw [anchorText_eq h.no_caret h.no_dollar]
  change (if endsAnchored (source ++ ['$']) then (source ++ ['$']).dropLast else source ++ ['$']) = _
  unfold shown
  by_cases hlast : source.getLast? = some '\\'
  · rw [if_pos hlast, if_neg fun hends => (endsAnchored_concat source).mp hends hlast]
  · rw [if_neg hlast, if_pos ((endsAnchored_concat source).mpr hlast), List.dropLast_concat]

/-- Anchored again, an anchored text has the anchors around what is shown. -/
theorem anchorText_anchorText_eq {source : List Char} (h : IsBare source) :
    anchorText (anchorText source) = '^' :: (shown source ++ ['$']) := by
  rw [anchorText_eq_around (anchorText source), unanchorText_anchorText h]

/-- What can be read with anchors can be anchored again. -/
theorem exists_anchor_again [CharacterNames] {source : String} {p : Pattern}
    (h : anchor (.str source) = .ok p) :
    ∃ q, anchor (.str p.source) = .ok q := by
  rw [anchor_str] at h
  obtain ⟨hsource, hread⟩ := read_of_compileAnchored h
  obtain ⟨-, -, htokens, -⟩ := exists_of_read hread
  rw [exists_anchor_str_iff, completed_of_tokens htokens]
  refine ⟨⟨_, hread⟩, ?_⟩
  rw [hsource, anchorText_eq_around]
  exact not_beginsWithFlags_caret _ _

/-- A path shows what is left of the constraints without their anchors. -/
theorem path_of_anchor [CharacterNames] {uri : String} {constraints : Params}
    (hordered : areOrdered constraints.keys = true)
    (h : ∀ e ∈ constraints.entries, IsBare (sourceOf e.2).toList ∧ ∃ p, anchor e.2 = .ok p) :
    path uri constraints = .ok (String.ofList
      (pathText (constraints.mapValues fun v => shown (sourceOf v).toList) uri.toList)) := by
  have hbodies : ∀ e ∈ constraints.entries,
      Constraint.body e.2 = .ok (shown (sourceOf e.2).toList) := by
    intro e he
    obtain ⟨hbare, p, hp⟩ := h e he
    unfold Constraint.body
    rw [hp, ← unanchorText_anchorText hbare, ← source_of_anchor hp]
    rfl
  have hread : constraintBodies constraints =
      .ok (constraints.mapValues fun v => shown (sourceOf v).toList) :=
    constraintBodies_eq_ok hbodies
  unfold path
  rw [hread]
  simp only [bind, Except.bind, OrderedMap.keys_mapValues, hordered]
  rfl

/-- Constraints that do not end with a backslash are shown as they are. -/
theorem mapValues_shown {constraints : Params}
    (h : ∀ e ∈ constraints.entries, (sourceOf e.2).toList.getLast? ≠ some '\\') :
    (constraints.mapValues fun v => shown (sourceOf v).toList) =
      constraints.mapValues fun v => (sourceOf v).toList := by
  unfold OrderedMap.mapValues
  refine congrArg OrderedMap.mk (List.map_congr_left fun e he => ?_)
  exact congrArg (Prod.mk e.1) (shown_eq_self_iff.mpr (h e he))

/-- **Anchors are taken away as they were added, unless the constraint ends with a backslash.** Then one is
left over: what is shown is the constraint with a dollar at its end, and anchoring what is anchored puts
another one behind it. A path shows every constraint so, hence as it was written if none ends with a
backslash. -/
theorem unanchor_anchor [CharacterNames] {source : String} {p : Pattern} (hbare : IsBare source.toList)
    (hp : anchor (.str source) = .ok p) :
    unanchorText p.source.toList = shown source.toList ∧
    (unanchorText p.source.toList = source.toList ↔ source.toList.getLast? ≠ some '\\') ∧
    (∃ q, anchor (.str p.source) = .ok q ∧ q.source.toList = '^' :: (shown source.toList ++ ['$']) ∧
      (q.source = p.source ↔ source.toList.getLast? ≠ some '\\')) ∧
    ∀ (uri : String) (constraints : Params), areOrdered constraints.keys = true →
      (∀ e ∈ constraints.entries, IsBare (sourceOf e.2).toList ∧ ∃ p, anchor e.2 = .ok p) →
      path uri constraints = .ok (String.ofList
        (pathText (constraints.mapValues fun v => shown (sourceOf v).toList) uri.toList)) ∧
      ((∀ e ∈ constraints.entries, (sourceOf e.2).toList.getLast? ≠ some '\\') →
        path uri constraints = .ok (String.ofList
          (pathText (constraints.mapValues fun v => (sourceOf v).toList) uri.toList))) := by
  have hsource := source_of_anchor hp
  rw [sourceOf_str] at hsource
  have hshown : unanchorText p.source.toList = shown source.toList := by
    rw [hsource, unanchorText_anchorText hbare]
  obtain ⟨q, hq⟩ := exists_anchor_again hp
  have hagain : q.source.toList = '^' :: (shown source.toList ++ ['$']) := by
    rw [source_of_anchor hq, sourceOf_str, hsource, anchorText_anchorText_eq hbare]
  refine ⟨hshown, by rw [hshown, shown_eq_self_iff], ⟨q, hq, hagain, ?_⟩,
    fun uri constraints hordered h => ⟨path_of_anchor hordered h, fun hlast => ?_⟩⟩
  · rw [← String.toList_inj, hagain, hsource, anchorText_eq hbare.no_caret hbare.no_dollar,
      ← shown_eq_self_iff]
    simp
  · rw [path_of_anchor hordered h, mapValues_shown hlast]

open scoped CharacterNames.Unnamed

/-- A dollar that is escaped stays in the constraint, and is shown with it. -/
theorem unanchor_anchor_escapedDollar :
    IsBare "a\\$".toList ∧ ∃ p q, anchor (.str "a\\$") = .ok p ∧
      unanchorText p.source.toList = "a\\$".toList ∧
      anchor (.str p.source) = .ok q ∧ q.source = p.source ∧
      path "/:id?" ⟨[(.str "id", .str "a\\$")]⟩ = .ok "/:id(a\\$)?" := by
  have hbare : IsBare "a\\$".toList := ⟨by decide, getLast?_of_not_endsAnchored (by decide)⟩
  have hlast : "a\\$".toList.getLast? ≠ some '\\' := by decide
  have hanchor : anchor (.str "a\\$") = .ok ⟨"^a\\$$", {}, .cat (.assertion .lineStart)
      (.cat (.code 97) (.cat (.code 36) (.assertion .lineEnd)))⟩ := rfl
  obtain ⟨-, hshown, ⟨q, hq, -, hagain⟩, hpaths⟩ := unanchor_anchor hbare hanchor
  obtain ⟨-, hpath⟩ := hpaths "/:id?" ⟨[(.str "id", .str "a\\$")]⟩ rfl
    (List.forall_mem_singleton.mpr ⟨hbare, _, hanchor⟩)
  refine ⟨hbare, _, q, hanchor, hshown.mpr hlast, hq, hagain.mpr hlast, ?_⟩
  rw [hpath (List.forall_mem_singleton.mpr hlast)]
  refine congrArg Except.ok ?_
  decide +kernel

/-- Behind a pair of backslashes, an anchor is shown, and is not seen when it is added again. -/
theorem unanchor_anchor_backslashes :
    IsBare "a\\\\".toList ∧ Regex.IsValid {} "a\\\\".toList ∧
      ∃ p q, anchor (.str "a\\\\") = .ok p ∧ unanchorText p.source.toList = "a\\\\$".toList ∧
      anchor (.str p.source) = .ok q ∧ p.source = "^a\\\\$" ∧ q.source = "^a\\\\$$" ∧
      path "/:id" ⟨[(.str "id", .str "a\\\\")]⟩ = .ok "/:id(a\\\\$)" := by
  have hbare : IsBare "a\\\\".toList := ⟨by decide, getLast?_of_not_endsAnchored (by decide)⟩
  have hanchor : anchor (.str "a\\\\") = .ok ⟨"^a\\\\$", {}, .cat (.assertion .lineStart)
      (.cat (.code 97) (.cat (.code 92) (.assertion .lineEnd)))⟩ := rfl
  have hagain : anchor (.str "^a\\\\$") = .ok ⟨"^a\\\\$$", {}, .cat (.assertion .lineStart)
      (.cat (.code 97) (.cat (.code 92) (.cat (.assertion .lineEnd) (.assertion .lineEnd))))⟩ := rfl
  have hgiven : ∀ e ∈ [((.str "id", .str "a\\\\") : Value × Value)],
      IsBare (sourceOf e.2).toList ∧ ∃ p, anchor e.2 = .ok p :=
    List.forall_mem_singleton.mpr ⟨hbare, _, hanchor⟩
  refine ⟨hbare, ⟨_, rfl⟩, _, _, hanchor, by decide +kernel, hagain, rfl, rfl, ?_⟩
  rw [path_of_anchor rfl hgiven]
  refine congrArg Except.ok ?_
  decide +kernel

end RouteTree.Constraint
