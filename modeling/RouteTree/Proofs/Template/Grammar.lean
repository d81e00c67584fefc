import Mathlib.Data.List.Chain
import RouteTree.Proofs.Template.Compiling

/-!
# The grammar of templates

A template is written as literal text and parameters, in any order (`Segment`). A parameter is
written in colon or in brace notation; it may be optional, and it may have a constraint behind it,
with the question mark before or behind the constraint (`Parameter`).

**Compilation reads the grammar** (`compile_written`): as long as no literal lengthens the
parameter before it (`Segment.Apart`), a written template compiles, strictly or not, to the
parameters in colon notation between the literals, with single slashes, and to the constraints of
its parameters. A name constrained twice stands where it was constrained first, with the constraint
that was written last.

No pass of the compilation sees what another one made. The scan for constraints finds exactly the
constraints written (`pieces_constrained_written`): what it passes over begins no parameter, or a
parameter that no parenthesis follows. Behind it all parentheses are gone, so nothing is malformed,
and the braces that are left are those of parameters (`bracesToColons_bare`).
-/

namespace RouteTree.Template

open Text

section

variable [CharacterNames]

/-- How a parameter is written. -/
inductive Spelling where
  | colon
  | brace
deriving DecidableEq

/-- A constraint as it is written, with the pattern it stands for. Runs of backslashes count as one
backslash. -/
structure WrittenConstraint where
  body : List Char
  isBody : BodyText body
  pattern : Pattern
  anchors : Constraint.anchor (.str (String.ofList (squeeze '\\' body))) = .ok pattern

/-- Where the question mark of a parameter stands, if there is one. -/
inductive Marking where
  | absent
  | inToken
  /-- Behind the constraint. -/
  | behind
deriving DecidableEq

/-- A parameter as it is written. -/
structure Parameter where
  spelling : Spelling
  name : List Char
  ne_nil : name ≠ []
  word : ∀ c ∈ name, isWord c = true
  marking : Marking
  constraint : Option WrittenConstraint
  isSome_of_behind : marking = .behind → constraint.isSome = true

namespace Parameter

/-- The parameter as its token tells it. -/
def param (p : Parameter) : Param := ⟨p.name, p.marking == .inToken⟩

/-- The token of the parameter. -/
def token (p : Parameter) : List Char :=
  match p.spelling with
  | .colon => p.param.colon
  | .brace => p.param.brace

/-- The question mark behind the constraint, if it stands there. -/
def markBehind (p : Parameter) : List Char :=
  match p.marking with
  | .behind => ['?']
  | _ => []

/-- The constraint in its parentheses. -/
def bracketed (p : Parameter) : List Char :=
  match p.constraint with
  | none => []
  | some c => '(' :: c.body ++ [')']

/-- The parameter as it is written. -/
def text (p : Parameter) : List Char := p.token ++ p.bracketed ++ p.markBehind

/-- The parameter in colon notation, with its question mark wherever that stood. -/
def plain (p : Parameter) : List Char :=
  (Param.mk p.name (p.marking != .absent)).colon

/-- What the scan for constraints makes of the parameter. -/
def pieces (p : Parameter) : List (Piece Constrained) :=
  match p.constraint with
  | none => p.token.map .other
  | some c => .found ⟨p.param, p.token, c.body⟩ (p.token ++ p.bracketed) :: p.markBehind.map .other

theorem isNamed (p : Parameter) : p.param.IsNamed := ⟨p.ne_nil, p.word⟩

theorem token_eq (p : Parameter) : p.token = p.param.colon ∨ p.token = p.param.brace := by
  unfold token
  cases p.spelling
  · exact .inl rfl
  · exact .inr rfl

theorem mem_markBehind {p : Parameter} {c : Char} (h : c ∈ p.markBehind) : c = '?' := by
  unfold markBehind at h
  split at h <;> simp_all

/-- In colon notation, the token and the question mark behind the constraint make the whole
parameter. -/
theorem colon_append_markBehind (p : Parameter) : p.param.colon ++ p.markBehind = p.plain := by
  unfold param markBehind plain
  cases p.marking <;> simp [Param.colon, Param.mark]

theorem markBehind_eq_nil {p : Parameter} (h : p.constraint = none) : p.markBehind = [] := by
  unfold markBehind
  split
  · rename_i hm
    have hsome := p.isSome_of_behind hm
    rw [h] at hsome
    exact absurd hsome nofun
  · rfl

end Parameter

/-- A part of a template. -/
inductive Segment where
  /-- Text that is no part of a parameter. -/
  | literal (text : List Char) (ne_nil : text ≠ [])
    (free : ∀ c ∈ text, c ∉ [':', '{', '(', ')', '\\'])
  | parameter (p : Parameter)

namespace Segment

/-- A segment as it is written. -/
def text : Segment → List Char
  | .literal text _ _ => text
  | .parameter p => p.text

/-- A segment as it is compiled. -/
def plain : Segment → List Char
  | .literal text _ _ => text
  | .parameter p => p.plain

/-- A segment without its constraint. -/
def bare : Segment → List Char
  | .literal text _ _ => text
  | .parameter p => p.token ++ p.markBehind

/-- The constraint of a segment, by the name of its parameter. -/
def constraint? : Segment → Option (String × Pattern)
  | .literal _ _ _ => none
  | .parameter p => p.constraint.map fun c => (String.ofList p.name, c.pattern)

/-- What the scan for constraints makes of a segment. -/
def pieces : Segment → List (Piece Constrained)
  | .literal text _ _ => text.map .other
  | .parameter p => p.pieces

/-- The second segment does not lengthen the first: a literal behind a parameter begins with neither
a word character nor a question mark. -/
def Apart : Segment → Segment → Prop
  | .parameter _, .literal text _ _ => EndsName text
  | _, _ => True

instance : DecidableRel Apart
  | .parameter _, .literal text _ _ => inferInstanceAs (Decidable (EndsName text))
  | .literal _ _ _, _ | .parameter _, .parameter _ => .isTrue trivial

end Segment

/-- A template as it is written. -/
def written (segments : List Segment) : List Char := segments.flatMap Segment.text

/-- The constraints of a template, by name, in the order in which they are written. -/
def constraintsIn (segments : List Segment) : List (String × Pattern) :=
  segments.filterMap Segment.constraint?

/-! ## The scan for constraints -/

theorem constrained_skips_mark (p : Parameter) : ∀ c ∈ p.markBehind, constrained.Skips c := by
  intro c hc
  obtain rfl := Parameter.mem_markBehind hc
  exact constrained_skips (by decide) (by decide)

/-- Behind a parameter without a constraint the scan finds nothing, if no parenthesis follows. -/
theorem pieces_token {p : Parameter} {rest : List Char} (hends : EndsName rest)
    (hopen : rest.head? ≠ some '(') :
    Text.pieces constrained (p.token ++ rest) =
      p.token.map .other ++ Text.pieces constrained rest := by
  refine pieces_constrained_token p.isNamed p.token_eq ?_
  rcases p.token_eq with ht | ht
  · rw [ht]
    exact constrained_eq_none_of_paramToken (paramToken_colon p.isNamed fun _ => hends) hopen
  · rw [ht]
    exact constrained_eq_none_of_paramToken (paramToken_brace p.isNamed rest) hopen

/-- A parameter is scanned by itself, if what follows does not lengthen it. -/
theorem pieces_parameter (p : Parameter) {rest : List Char} (hends : EndsName rest)
    (hopen : rest.head? ≠ some '(') :
    Text.pieces constrained (p.text ++ rest) = p.pieces ++ Text.pieces constrained rest := by
  cases hc : p.constraint with
  | none =>
    have hmark := Parameter.markBehind_eq_nil hc
    simp only [Parameter.text, Parameter.bracketed, Parameter.pieces, hc, hmark, List.append_nil]
    exact pieces_token hends hopen
  | some c =>
    -- the constraint ends with its parenthesis, so a question mark behind it is scanned by itself
    have hread := constrained_append p.token_eq p.isNamed c.isBody (p.markBehind ++ rest)
    have hshape : p.text ++ rest = (p.token ++ p.bracketed) ++ (p.markBehind ++ rest) := by
      simp [Parameter.text]
    have hbracketed : p.token ++ '(' :: c.body ++ ')' :: (p.markBehind ++ rest) =
        (p.token ++ p.bracketed) ++ (p.markBehind ++ rest) := by
      simp [Parameter.bracketed, hc]
    rw [hbracketed] at hread
    rw [hshape, pieces_append_of_some (by simp [Parameter.bracketed, hc]) hread,
      pieces_append_of_skips (constrained_skips_mark p)]
    simp only [Parameter.pieces, hc, List.cons_append]

/-- What follows a parameter does not lengthen it, and opens no parenthesis. -/
theorem endsName_written {p : Parameter} {segments : List Segment}
    (h : ∀ s ∈ segments.head?, Segment.Apart (.parameter p) s) :
    EndsName (written segments) ∧ (written segments).head? ≠ some '(' := by
  cases segments with
  | nil => exact ⟨fun c hc => by simp [written] at hc, by simp [written]⟩
  | cons s rest =>
    have happart := h s rfl
    cases s with
    | literal text hne hfree =>
      obtain ⟨c, cs, rfl⟩ := List.exists_cons_of_ne_nil hne
      refine ⟨fun d hd => happart d (by simpa [written, Segment.text] using hd), ?_⟩
      intro hhead
      obtain rfl : c = '(' := by simpa [written, Segment.text] using hhead
      exact hfree '(' List.mem_cons_self (by simp)
    | parameter q =>
      -- a parameter begins with a colon or a brace, with which no name goes on
      have hhead : ∃ c cs, written (.parameter q :: rest) = c :: cs ∧ (c = ':' ∨ c = '{') := by
        rcases q.token_eq with ht | ht
        · exact ⟨':', _, by simp [written, Segment.text, Parameter.text, ht, Param.colon]; rfl,
            .inl rfl⟩
        · exact ⟨'{', _, by simp [written, Segment.text, Parameter.text, ht, Param.brace]; rfl,
            .inr rfl⟩
      obtain ⟨c, cs, heq, hc⟩ := hhead
      rw [heq]
      rcases hc with rfl | rfl
      · exact ⟨endsName_cons (by decide) (by decide), by simp⟩
      · exact ⟨endsName_cons (by decide) (by decide), by simp⟩

/-- **The scan for constraints finds exactly the constraints written.** -/
theorem pieces_constrained_written {segments : List Segment}
    (h : segments.IsChain Segment.Apart) :
    Text.pieces constrained (written segments) = segments.flatMap Segment.pieces := by
  induction segments with
  | nil => rfl
  | cons s rest ih =>
    have hrest := ih (List.IsChain.tail h)
    rw [List.flatMap_cons, ← hrest]
    cases s with
    | literal text hne hfree =>
      have hskips : ∀ c ∈ text, constrained.Skips c := fun c hc =>
        constrained_skips (fun heq => hfree c hc (by simp [heq]))
          (fun heq => hfree c hc (by simp [heq]))
      exact pieces_append_of_skips hskips _
    | parameter p =>
      have hhead : ∀ s ∈ rest.head?, Segment.Apart (.parameter p) s := by
        intro s hs
        obtain ⟨tail, rfl⟩ := List.head?_eq_some_iff.mp hs
        exact (List.isChain_cons_cons.mp h).1
      obtain ⟨hends, hopen⟩ := endsName_written hhead
      exact pieces_parameter p hends hopen

/-! ## The passes behind the scan -/

/-- What the scan finds in a segment, with the pattern that the constraint stands for. -/
def Segment.found? : Segment → Option (Constrained × Pattern)
  | .literal _ _ _ => none
  | .parameter p => p.constraint.map fun c => (⟨p.param, p.token, c.body⟩, c.pattern)

theorem filterMap_value?_pieces (segments : List Segment) :
    (segments.flatMap Segment.pieces).filterMap (·.value?) =
      (segments.filterMap Segment.found?).map (·.1) := by
  induction segments with
  | nil => rfl
  | cons s rest ih =>
    rw [List.flatMap_cons, List.filterMap_append, ih]
    cases s with
    | literal text _ _ =>
      rw [Segment.pieces, filterMap_value?_map_other]
      rfl
    | parameter p =>
      cases hc : p.constraint <;>
        simp [Segment.pieces, Segment.found?, Parameter.pieces, hc, Piece.value?]

theorem withoutConstraints_pieces (segments : List Segment) :
    withoutConstraints (segments.flatMap Segment.pieces) = segments.flatMap Segment.bare := by
  unfold withoutConstraints
  induction segments with
  | nil => rfl
  | cons s rest ih =>
    rw [List.flatMap_cons, replaceFinds_append, ih, List.flatMap_cons]
    congr 1
    cases s with
    | literal text _ _ => exact replaceFinds_map_other text
    | parameter p =>
      cases hc : p.constraint with
      | none =>
        have hmark := Parameter.markBehind_eq_nil hc
        simp [Segment.pieces, Segment.bare, Parameter.pieces, hc, hmark]
      | some c => simp [Segment.pieces, Segment.bare, Parameter.pieces, hc]

theorem constraintsIn_eq (segments : List Segment) :
    constraintsIn segments =
      (segments.filterMap Segment.found?).map fun c => (String.ofList c.1.param.name, c.2) := by
  rw [constraintsIn, List.map_filterMap]
  congr 1
  funext s
  cases s with
  | literal _ _ _ => rfl
  | parameter p => cases hc : p.constraint <;> simp [Segment.constraint?, Segment.found?, hc]; rfl

/-- Parentheses and backslashes stand in constraints only. -/
theorem not_mem_bare {segments : List Segment} {d : Char} (hd : d ∈ ['(', '\\']) :
    d ∉ segments.flatMap Segment.bare := by
  have hword : isWord d = false ∧ d ≠ '?' ∧ d ∉ [':', '{', '}'] := by
    simp only [List.mem_cons, List.not_mem_nil, or_false] at hd
    rcases hd with rfl | rfl <;> decide
  obtain ⟨hw, hq, hn⟩ := hword
  intro hmem
  obtain ⟨s, -, hs⟩ := List.mem_flatMap.mp hmem
  cases s with
  | literal text _ hfree =>
    refine hfree d hs ?_
    simp only [List.mem_cons, List.not_mem_nil, or_false] at hd ⊢
    rcases hd with rfl | rfl <;> simp
  | parameter p =>
    have hname : d ∉ p.param.name ++ p.param.mark := fun hin =>
      p.isNamed.ne_of_mem hin hw hq rfl
    rcases List.mem_append.mp hs with hs | hs
    · rcases p.token_eq with ht | ht <;>
        simp_all [Param.colon, Param.brace]
    · exact hq (Parameter.mem_markBehind hs)

/-- The braces that are left when the constraints are gone are those of parameters. -/
theorem bracesToColons_bare (segments : List Segment) :
    bracesToColons (segments.flatMap Segment.bare) = segments.flatMap Segment.plain := by
  induction segments with
  | nil => rfl
  | cons s rest ih =>
    rw [List.flatMap_cons, List.flatMap_cons, ← ih]
    cases s with
    | literal text _ hfree =>
      have hbrace : '{' ∉ text := fun hin => hfree '{' hin (by simp)
      exact bracesToColons_append hbrace _
    | parameter p =>
      have hmark : '{' ∉ p.markBehind := fun hin =>
        absurd (Parameter.mem_markBehind hin) (by decide)
      rw [Segment.bare, List.append_assoc, bracesToColons_token_append p.isNamed p.token_eq,
        bracesToColons_append hmark,
        ← List.append_assoc, p.colon_append_markBehind]
      rfl

/-- No backslash is left behind the constraints. -/
theorem not_mem_plain (segments : List Segment) : '\\' ∉ segments.flatMap Segment.plain := by
  intro hmem
  obtain ⟨s, -, hs⟩ := List.mem_flatMap.mp hmem
  cases s with
  | literal text _ hfree => exact hfree _ hs (by simp)
  | parameter p =>
    have hnamed : (Param.mk p.name (p.marking != .absent)).IsNamed := ⟨p.ne_nil, p.word⟩
    rw [Segment.plain, Parameter.plain, Param.colon, List.cons_append, List.mem_cons] at hs
    rcases hs with hs | hs
    · exact absurd hs (by decide)
    · exact hnamed.ne_of_mem hs (by decide) (by decide) rfl

/-- **Compilation reads the grammar.** -/
theorem compile_written {segments : List Segment} (h : segments.IsChain Segment.Apart)
    (strict : Bool) :
    ∃ compiled, compile (String.ofList (written segments)) strict = .ok compiled ∧
      compiled.malformed = false ∧
      compiled.uri = String.ofList (squeeze '/' (segments.flatMap Segment.plain)) ∧
      compiled.constraints.keys =
        ((constraintsIn segments).map (·.1)).eraseDups.map .str ∧
      ∀ name, compiled.constraints.get? (.str name) =
        (constraintsIn segments).reverse.lookup name := by
  have hpieces := pieces_constrained_written h
  have hanchors : ∀ c ∈ segments.filterMap Segment.found?,
      Constraint.anchor (.str (String.ofList (squeeze '\\' c.1.body))) = .ok c.2 := by
    intro c hc
    obtain ⟨s, -, hs⟩ := List.mem_filterMap.mp hc
    cases s with
    | literal _ _ _ => simp [Segment.found?] at hs
    | parameter p =>
      obtain ⟨k, -, rfl⟩ := Option.map_eq_some_iff.mp hs
      exact k.anchors
  have hcompile := compile_eq_ok
    (by rw [hpieces, filterMap_value?_pieces]) (by rw [hpieces, withoutConstraints_pieces])
    (constraintsOf_eq_ok hanchors) (not_mem_bare (by simp)) strict
  refine ⟨_, hcompile, rfl, ?_, ?_, ?_⟩
  · rw [normalize_false, bracesToColons_bare, backslashesToSlashes_eq_self (not_mem_plain _)]
  · rw [OrderedMap.keys_withTextKeys, OrderedMap.keys_ofList, ← constraintsIn_eq]
  · intro name
    rw [OrderedMap.get?_withTextKeys, OrderedMap.get?_ofList, ← constraintsIn_eq]

/-- Four digits, written with two backslashes. -/
def fourDigits : WrittenConstraint where
  body := ['\\', '\\', 'd', '{', '4', '}']
  isBody := .pair (by decide) <| .char (by decide) (by decide) (by decide) <|
    .char (by decide) (by decide) (by decide) <| .char (by decide) (by decide) (by decide) <|
    .char (by decide) (by decide) (by decide) .nil
  pattern :=
    ⟨"^\\d{4}$", {}, .cat (.assertion .lineStart)
      (.cat (.iterate .greedy 4 (some 4) (.set false [.category .digit false]))
        (.assertion .lineEnd))⟩
  anchors := by rfl

/-- A constraint that holds what looks like a parameter. -/
def colonX : WrittenConstraint where
  body := [':', 'x']
  isBody := .char (by decide) (by decide) (by decide) <|
    .char (by decide) (by decide) (by decide) .nil
  pattern :=
    ⟨"^:x$", {}, .cat (.assertion .lineStart)
      (.cat (.code 58) (.cat (.code 120) (.assertion .lineEnd)))⟩
  anchors := by rfl

/-- A template in which one name is constrained twice, in either notation. -/
def doublyConstrained : List Segment :=
  [.literal ['/', 'u', '/', '/'] (by decide) (by simp),
    .parameter
      { spelling := .colon
        name := ['i', 'd']
        ne_nil := by decide
        word := List.all_eq_true.mp (by decide)
        marking := .behind
        constraint := some fourDigits
        isSome_of_behind := fun _ => rfl },
    .literal ['/'] (by decide) (by simp),
    .parameter
      { spelling := .brace
        name := ['i', 'd']
        ne_nil := by decide
        word := List.all_eq_true.mp (by decide)
        marking := .inToken
        constraint := some colonX
        isSome_of_behind := nofun }]

end

open scoped CharacterNames.Unnamed

theorem compile_doublyConstrained :
    doublyConstrained.IsChain Segment.Apart ∧
      ∃ compiled, compile "/u//:id(\\\\d\x7b4\x7d)?/\x7bid?\x7d(:x)" true = .ok compiled ∧
        compiled.malformed = false ∧
        compiled.uri = "/u/:id?/:id?" ∧
        compiled.constraints.keys = [.str "id"] ∧
        ∀ name, compiled.constraints.get? (.str name) =
          (constraintsIn doublyConstrained).reverse.lookup name :=
  ⟨by decide, @compile_written _ doublyConstrained (by decide) true⟩

end RouteTree.Template
