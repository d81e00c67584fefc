import RouteTree.Proofs.OrderedMap.Overriding
import RouteTree.Proofs.Template.Grammar
import RouteTree.Proofs.Template.Joining
import RouteTree.Proofs.Value.Keys

/-!
# Joining written templates

Written templates that are joined are one written template: their segments, with a slash before each
template that is not empty (`written_joinSegments`). So **joined templates compile to what each of
them compiles to** (`compile_joinText_written`): the uri is the joined uris, and the constraints are
those of all of them, one after the other. It makes no difference whether a template is compiled
before it is joined, for then it is a written template without constraints (`Segment.bared`).

Joining writes runs of slashes as one, in constraints, too; a constraint must have none to stay as it
is (`Segment.SingleSlashed`).
-/

namespace RouteTree.Template

open Text

namespace Segment

theorem slash_ne_nil : ['/'] ≠ [] := by
  simp

theorem slash_free : ∀ c ∈ ['/'], c ∉ [':', '{', '(', ')', '\\'] := by
  simp

variable [CharacterNames]

/-- What stands between joined templates. -/
def slash : Segment := .literal ['/'] slash_ne_nil slash_free

/-- The segment as it is compiled, written out: in colon notation, and without a constraint. -/
def bared : Segment → Segment
  | .literal text ne_nil free => .literal text ne_nil free
  | .parameter p => .parameter
    { spelling := .colon
      name := p.name
      ne_nil := p.ne_nil
      word := p.word
      marking := if p.marking = .absent then .absent else .inToken
      constraint := none
      isSome_of_behind := fun h => absurd h (by split <;> decide) }

/-- The constraint, if there is one, has no two slashes side by side. -/
def SingleSlashed : Segment → Prop
  | .literal _ _ _ => True
  | .parameter p => ∀ c ∈ p.constraint, ¬ ['/', '/'] <:+: c.body

instance : DecidablePred SingleSlashed
  | .literal _ _ _ => .isTrue trivial
  | .parameter p => inferInstanceAs (Decidable (∀ c ∈ p.constraint, ¬ ['/', '/'] <:+: c.body))

theorem text_ne_nil (s : Segment) : s.text ≠ [] := by
  cases s with
  | literal text ne_nil free => exact ne_nil
  | parameter p =>
    rcases p.token_eq with ht | ht <;> simp [text, Parameter.text, ht, Param.colon, Param.brace]

theorem plain_ne_nil (s : Segment) : s.plain ≠ [] := by
  cases s with
  | literal text ne_nil free => exact ne_nil
  | parameter p => simp [plain, Parameter.plain, Param.colon]

theorem text_bared (s : Segment) : s.bared.text = s.plain := by
  cases s with
  | literal text ne_nil free => rfl
  | parameter p =>
    obtain ⟨spelling, name, ne_nil, word, marking, constraint, h⟩ := p
    cases marking <;>
      exact (List.append_nil _).trans (List.append_nil _)

theorem plain_bared (s : Segment) : s.bared.plain = s.plain := by
  cases s with
  | literal text ne_nil free => rfl
  | parameter p =>
    obtain ⟨spelling, name, ne_nil, word, marking, constraint, h⟩ := p
    cases marking <;> rfl

theorem found?_bared (s : Segment) : s.bared.found? = none := by
  cases s <;> rfl

theorem singleSlashed_bared (s : Segment) : s.bared.SingleSlashed := by
  cases s with
  | literal _ _ _ => exact trivial
  | parameter p => exact fun c hc => absurd hc (Option.not_mem_none c)

theorem apart_bared {s t : Segment} (h : Apart s t) : Apart s.bared t.bared := by
  cases s with
  | literal _ _ _ => exact trivial
  | parameter p => cases t <;> exact h

theorem apart_slash (s : Segment) : Apart s slash := by
  cases s with
  | literal _ _ _ => exact trivial
  | parameter p => exact endsName_cons (by decide) (by decide)

end Segment

variable [CharacterNames]

/-- A template as it is compiled, but for runs of slashes. -/
def plainText (segments : List Segment) : List Char := segments.flatMap Segment.plain

/-- The segments of a template with a slash before them, if there are any. -/
def ledSegments (segments : List Segment) : List Segment :=
  if segments.isEmpty then [] else .slash :: segments

/-- The segments of joined templates. -/
def joinSegments (templates : List (List Segment)) : List Segment :=
  .slash :: templates.flatMap ledSegments

/-! ## Joined templates are a template -/

theorem flatMap_ledSegments {f : Segment → List Char} (hslash : f .slash = ['/'])
    (hne : ∀ s, f s ≠ []) (segments : List Segment) :
    (ledSegments segments).flatMap f = led (segments.flatMap f) := by
  cases segments with
  | nil => rfl
  | cons s rest =>
    have hall : (s :: rest).flatMap f ≠ [] := by
      rw [List.flatMap_cons]
      exact List.append_ne_nil_of_left_ne_nil (hne s) _
    rw [led_of_ne_nil hall, ledSegments, if_neg (by simp), List.flatMap_cons, hslash]
    rfl

theorem flatMap_joinSegments {f : Segment → List Char} (hslash : f .slash = ['/'])
    (hne : ∀ s, f s ≠ []) (templates : List (List Segment)) :
    (joinSegments templates).flatMap f =
      '/' :: (templates.map (·.flatMap f)).flatMap led := by
  have hparts : (templates.flatMap ledSegments).flatMap f =
      (templates.map (·.flatMap f)).flatMap led := by
    rw [List.flatMap_assoc, List.flatMap_map]
    exact List.flatMap_congr fun segments _ => flatMap_ledSegments hslash hne segments
  rw [joinSegments, List.flatMap_cons, hslash, hparts]
  rfl

theorem written_joinSegments (templates : List (List Segment)) :
    written (joinSegments templates) = '/' :: (templates.map written).flatMap led :=
  flatMap_joinSegments rfl Segment.text_ne_nil templates

theorem plainText_joinSegments (templates : List (List Segment)) :
    plainText (joinSegments templates) = '/' :: (templates.map plainText).flatMap led :=
  flatMap_joinSegments rfl Segment.plain_ne_nil templates

theorem isChain_slash {segments : List Segment} (h : segments.IsChain Segment.Apart) :
    (Segment.slash :: segments).IsChain Segment.Apart :=
  List.isChain_cons.mpr ⟨fun _ _ => trivial, h⟩

theorem isChain_joinSegments {templates : List (List Segment)}
    (h : ∀ segments ∈ templates, segments.IsChain Segment.Apart) :
    (joinSegments templates).IsChain Segment.Apart := by
  refine isChain_slash ?_
  -- what begins with a slash can stand behind anything
  suffices hparts : (templates.flatMap ledSegments).IsChain Segment.Apart ∧
      ∀ s ∈ (templates.flatMap ledSegments).head?, s = .slash from hparts.1
  induction templates with
  | nil => exact ⟨.nil, fun s hs => absurd hs (by simp)⟩
  | cons segments rest ih =>
    obtain ⟨hrest, hhead⟩ := ih fun t ht => h t (List.mem_cons_of_mem _ ht)
    have hsegments := h segments List.mem_cons_self
    rw [List.flatMap_cons]
    cases segments with
    | nil => exact ⟨hrest, hhead⟩
    | cons s tail =>
      refine ⟨List.isChain_append.mpr ⟨isChain_slash hsegments, hrest, ?_⟩, ?_⟩
      · intro last _ next hnext
        rw [hhead next hnext]
        exact Segment.apart_slash last
      · intro first hfirst
        exact (Option.some.inj hfirst).symm

theorem filterMap_joinSegments {α : Type} {f : Segment → Option α} (hslash : f .slash = none)
    (templates : List (List Segment)) :
    (joinSegments templates).filterMap f = templates.flatMap (·.filterMap f) := by
  have hled : ∀ segments, (ledSegments segments).filterMap f = segments.filterMap f := by
    intro segments
    cases segments with
    | nil => rfl
    | cons s rest => exact List.filterMap_cons_none hslash
  rw [joinSegments, List.filterMap_cons_none hslash, List.filterMap_flatMap]
  exact List.flatMap_congr fun segments _ => hled segments

/-! ## Compiling written templates -/

/-- What is found in a template is the constraint of one of its parameters. -/
theorem exists_of_mem_found? {segments : List Segment} {c : Constrained × Pattern}
    (h : c ∈ segments.filterMap Segment.found?) :
    ∃ p, .parameter p ∈ segments ∧
      ∃ k ∈ p.constraint, c.1.body = k.body ∧ c.2 = k.pattern := by
  obtain ⟨s, hs, hfound⟩ := List.mem_filterMap.mp h
  cases s with
  | literal _ _ _ => exact absurd hfound nofun
  | parameter p =>
    obtain ⟨k, hk, rfl⟩ := Option.map_eq_some_iff.mp hfound
    exact ⟨p, hs, k, hk, rfl, rfl⟩

theorem anchor_of_mem_found? {segments : List Segment} {c : Constrained × Pattern}
    (h : c ∈ segments.filterMap Segment.found?) :
    Constraint.anchor (.str (String.ofList (squeeze '\\' c.1.body))) = .ok c.2 := by
  obtain ⟨p, -, k, -, hbody, hpattern⟩ := exists_of_mem_found? h
  rw [hbody, hpattern]
  exact k.anchors

theorem bodyText_of_mem_found? {segments : List Segment} {c : Constrained × Pattern}
    (h : c ∈ segments.filterMap Segment.found?) : BodyText c.1.body := by
  obtain ⟨p, -, k, -, hbody, -⟩ := exists_of_mem_found? h
  rw [hbody]
  exact k.isBody

theorem not_infix_of_mem_found? {segments : List Segment} (h : ∀ s ∈ segments, s.SingleSlashed)
    {c : Constrained × Pattern} (hc : c ∈ segments.filterMap Segment.found?) :
    ¬ ['/', '/'] <:+: c.1.body := by
  obtain ⟨p, hp, k, hk, hbody, -⟩ := exists_of_mem_found? hc
  rw [hbody]
  exact h _ hp k hk

/-- The constraints that a template is compiled to. -/
def keptIn (segments : List Segment) : Constraints :=
  (OrderedMap.ofList (constraintsIn segments)).withTextKeys

theorem constraintsOf_found? (segments : List Segment) :
    constraintsOf ((segments.filterMap Segment.found?).map (·.1)) = .ok (keptIn segments) := by
  rw [keptIn, constraintsIn_eq]
  exact constraintsOf_eq_ok fun c hc => anchor_of_mem_found? hc

theorem constrainedIn_written {segments : List Segment} (h : segments.IsChain Segment.Apart) :
    constrainedIn (written segments) = (segments.filterMap Segment.found?).map (·.1) := by
  rw [constrainedIn, pieces_constrained_written h, filterMap_value?_pieces]

theorem withoutConstraints_written {segments : List Segment}
    (h : segments.IsChain Segment.Apart) :
    withoutConstraints (pieces constrained (written segments)) = segments.flatMap Segment.bare := by
  rw [pieces_constrained_written h, withoutConstraints_pieces]

theorem normalize_bare (segments : List Segment) :
    normalize false (segments.flatMap Segment.bare) = squeeze '/' (plainText segments) := by
  rw [normalize_false, bracesToColons_bare, backslashesToSlashes_eq_self (not_mem_plain _)]
  rfl

/-- What a written template compiles to, in full. -/
theorem compile_written_eq {segments : List Segment} (h : segments.IsChain Segment.Apart)
    (strict : Bool) :
    compile (String.ofList (written segments)) strict =
      .ok { uri := String.ofList (squeeze '/' (plainText segments)), constraints := keptIn segments
            malformed := false } := by
  rw [compile_eq_ok (constrainedIn_written h) (withoutConstraints_written h)
    (constraintsOf_found? segments) (not_mem_bare (by simp)) strict, normalize_bare]

/-- With single slashes, a template without runs of slashes in its constraints compiles to the
same. -/
theorem compile_squeeze_written {segments : List Segment} (h : segments.IsChain Segment.Apart)
    (hbodies : ∀ c ∈ segments.filterMap Segment.found?, ¬ ['/', '/'] <:+: c.1.body)
    (strict : Bool) :
    compile (String.ofList (squeeze '/' (written segments))) strict =
      .ok { uri := String.ofList (squeeze '/' (plainText segments)), constraints := keptIn segments
            malformed := false } := by
  have hclosed : hasOpenConstraint
      (withoutConstraints (pieces constrained (written segments))) = false := by
    rw [withoutConstraints_written h]
    exact hasOpenConstraint_eq_false (not_mem_bare (by simp))
  have hconstraints : constraintsOf ((constrainedIn (written segments)).map Constrained.squeezed) =
      .ok (keptIn segments) := by
    rw [constrainedIn_written h, map_squeezed_eq_self, constraintsOf_found?]
    intro c hc
    obtain ⟨found, hfound, rfl⟩ := List.mem_map.mp hc
    exact hbodies found hfound
  rw [compile_squeeze hclosed hconstraints strict, withoutConstraints_written h, normalize_bare]

/-- **Joined templates compile to what each of them compiles to.** -/
theorem compile_joinText_written {templates : List (List Segment)}
    (h : ∀ segments ∈ templates, segments.IsChain Segment.Apart)
    (hbodies : ∀ segments ∈ templates, ∀ s ∈ segments, s.SingleSlashed) (strict : Bool) :
    compile (String.ofList (joinText (templates.map written))) strict =
      .ok { uri := String.ofList (joinText (templates.map plainText))
            constraints := keptIn templates.flatten
            malformed := false } := by
  have hfound : (joinSegments templates).filterMap Segment.found? =
      templates.flatMap (·.filterMap Segment.found?) := filterMap_joinSegments rfl templates
  have hkept : keptIn (joinSegments templates) = keptIn templates.flatten := by
    rw [keptIn, keptIn, constraintsIn, constraintsIn, filterMap_joinSegments rfl templates,
      List.filterMap_flatten]
    rfl
  have hsingle : ∀ c ∈ (joinSegments templates).filterMap Segment.found?,
      ¬ ['/', '/'] <:+: c.1.body := by
    intro c hc
    rw [hfound] at hc
    obtain ⟨segments, hsegments, hc⟩ := List.mem_flatMap.mp hc
    exact not_infix_of_mem_found? (hbodies segments hsegments) hc
  rw [joinText_eq, joinText_eq, ← written_joinSegments, ← plainText_joinSegments,
    compile_squeeze_written (isChain_joinSegments h) hsingle, hkept]

/-! ## Templates compiled beforehand -/

theorem written_map_bared (segments : List Segment) :
    written (segments.map .bared) = plainText segments := by
  rw [written, plainText, List.flatMap_map]
  exact List.flatMap_congr fun s _ => s.text_bared

theorem plainText_map_bared (segments : List Segment) :
    plainText (segments.map .bared) = plainText segments := by
  rw [plainText, plainText, List.flatMap_map]
  exact List.flatMap_congr fun s _ => s.plain_bared

theorem filterMap_found?_map_bared (segments : List Segment) :
    (segments.map .bared).filterMap Segment.found? = [] := by
  rw [List.filterMap_map, List.filterMap_eq_nil_iff]
  exact fun s _ => s.found?_bared

theorem isChain_map_bared {segments : List Segment} (h : segments.IsChain Segment.Apart) :
    (segments.map .bared).IsChain Segment.Apart :=
  (List.isChain_map Segment.bared).mpr (h.imp fun _ _ => Segment.apart_bared)

theorem singleSlashed_map_bared {segments : List Segment} {s : Segment}
    (h : s ∈ segments.map .bared) : s.SingleSlashed := by
  obtain ⟨t, -, rfl⟩ := List.mem_map.mp h
  exact t.singleSlashed_bared

/-- The constraints of two templates, one written over the other, are those of both. -/
theorem override_keptIn (first second : List Segment) :
    (keptIn first).override (keptIn second) = keptIn (first ++ second) := by
  unfold keptIn constraintsIn
  rw [List.filterMap_append]
  simp only [OrderedMap.withTextKeys_ofList, List.map_append]
  rw [OrderedMap.override_ofList, OrderedMap.ofList, OrderedMap.ofList, OrderedMap.insertAll_append]

theorem empty_override_keptIn (segments : List Segment) :
    OrderedMap.empty.override (keptIn segments) = keptIn segments := by
  rw [keptIn, OrderedMap.withTextKeys_ofList, OrderedMap.empty_override_ofList]

/-- **A template that is compiled beforehand keeps its constraints for itself**, and else joins as it
is. -/
theorem compile_joinText_compiled {first second : List Segment}
    (hfirst : first.IsChain Segment.Apart) (hsecond : second.IsChain Segment.Apart)
    (hbodies : ∀ s ∈ second, s.SingleSlashed) (strict : Bool) :
    compile (String.ofList (joinText [squeeze '/' (plainText first), written second])) strict =
      .ok { uri := String.ofList (joinText [plainText first, plainText second])
            constraints := keptIn second
            malformed := false } := by
  have hjoined : joinText [squeeze '/' (plainText first), written second] =
      joinText ([first.map .bared, second].map written) := by
    rw [← joinText_map_squeeze, List.map_cons, List.map_cons, List.map_nil, squeeze_squeeze,
      ← written_map_bared, ← joinText_map_squeeze ([first.map .bared, second].map written)]
    rfl
  have hkept : keptIn [first.map .bared, second].flatten = keptIn second := by
    rw [List.flatten_cons, List.flatten_singleton, keptIn, keptIn, constraintsIn_eq,
      constraintsIn_eq, List.filterMap_append, filterMap_found?_map_bared, List.nil_append]
  rw [hjoined, compile_joinText_written ?_ ?_ strict, hkept, List.map_cons, plainText_map_bared]
  · rfl
  · simp only [List.mem_cons, List.not_mem_nil, or_false, forall_eq_or_imp, forall_eq]
    exact ⟨isChain_map_bared hfirst, hsecond⟩
  · simp only [List.mem_cons, List.not_mem_nil, or_false, forall_eq_or_imp, forall_eq]
    exact ⟨fun s hs => singleSlashed_map_bared hs, hbodies⟩

end RouteTree.Template
