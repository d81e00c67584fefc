import Mathlib.Data.List.TakeWhile
import RouteTree.Proofs.OrderedMap.Overriding
import RouteTree.Proofs.Value.Keys
import RouteTree.Url.Build

/-!
# Filling placeholders

What becomes of the pieces of a uri, if all its placeholders can be filled. Text between placeholders
stays (`fill_map_other_append`). A placeholder refuses the value of its parameter (`refusal?`), or
shows it and takes the parameter away (`fill_found`); it is left out or gets a value that matches its
constraint (`fill_found_ok`). What it takes away does not matter to placeholders of other names
(`valueFor_erase`).
-/

namespace RouteTree.Url

open Text Template

/-- The value that a parameter is filled with; it is null if there is none. -/
def valueFor (params : Params) (p : Param) : Value :=
  (params.get? (.str (String.ofList p.name))).getD .null

theorem valueFor_erase {p q : Param} (h : p.name ≠ q.name) (params : Params) :
    valueFor (params.erase (.str (String.ofList p.name))) q = valueFor params q := by
  have hne : (Value.str (String.ofList p.name) == .str (String.ofList q.name)) = false := by
    rw [Value.str_beq_str, beq_eq_false_iff_ne]
    exact fun heq => h (String.ofList_injective heq)
  rw [valueFor, OrderedMap.get?_erase_of_ne hne, valueFor]

variable {uri : String} {constraints : Constraints} {encode : Bool}

/-- Text between placeholders stays. -/
theorem fill_map_other_append (cs : List Char) (ps : List (Piece Placeholder)) (params : Params) :
    fill uri constraints encode (cs.map .other ++ ps) params =
      (fill uri constraints encode ps params).map fun filled => (cs ++ filled.1, filled.2) := by
  induction cs with
  | nil =>
    change fill uri constraints encode ps params = _
    cases fill uri constraints encode ps params <;> rfl
  | cons c cs ih =>
    rw [List.map_cons, List.cons_append, fill, ih]
    cases fill uri constraints encode ps params <;> rfl

/-- Why a placeholder refuses a value, if it does. -/
def refusal? (uri : String) (constraints : Constraints) (p : Param) (v : Value) : Option Fault :=
  let name := Value.str (String.ofList p.name)
  if isVacant v then if p.optional then none else some (.missingParameter name (.str uri))
  else (constraints.get? name).bind fun pattern =>
    if pattern.fullMatch v.written then none
    else some (.constraintViolation name (.str pattern.source) (.str v.written))

/-- What a placeholder makes of a value that it does not refuse. -/
def shown (encode : Bool) (p : Placeholder) (v : Value) : List Char :=
  if isVacant v then [] else placed encode p v.written.toList

/-- A placeholder refuses the value of its parameter, or shows it and takes the parameter away. -/
theorem fill_found (p : Placeholder) (token : List Char) (ps : List (Piece Placeholder))
    (params : Params) :
    fill uri constraints encode (.found p token :: ps) params =
      match refusal? uri constraints p.param (valueFor params p.param) with
      | some fault => .error fault
      | none => (fill uri constraints encode ps (params.erase (.str (String.ofList p.param.name)))).map
          fun filled => (shown encode p (valueFor params p.param) ++ filled.1, filled.2) := by
  rw [fill]
  unfold refusal? shown valueFor OrderedMap.pop
  dsimp only
  generalize (params.get? (.str (String.ofList p.param.name))).getD .null = v
  generalize fill uri constraints encode ps (params.erase (.str (String.ofList p.param.name))) = rest
  cases isVacant v with
  | true => cases p.param.optional <;> cases rest <;> rfl
  | false =>
    cases constraints.get? (.str (String.ofList p.param.name)) with
    | none => cases rest <;> rfl
    | some pattern =>
      dsimp only [Option.bind]
      cases pattern.fullMatch v.written <;> cases rest <;> rfl

theorem refusal?_of_vacant {p : Param} {v : Value} (h : isVacant v = true) :
    refusal? uri constraints p v = if p.optional then none
      else some (.missingParameter (.str (String.ofList p.name)) (.str uri)) :=
  if_pos h

theorem refusal?_of_not_vacant {p : Param} {v : Value} (h : isVacant v = false) :
    refusal? uri constraints p v = (constraints.get? (.str (String.ofList p.name))).bind fun pattern =>
      if pattern.fullMatch v.written then none else some (.constraintViolation
        (.str (String.ofList p.name)) (.str pattern.source) (.str v.written)) :=
  if_neg (by simp [h])

/-- A placeholder without a value is left out, if it may be; another gets its value, if that matches
the constraint. -/
theorem fill_found_ok {p : Placeholder} {token text : List Char} {ps : List (Piece Placeholder)}
    {params left : Params}
    (h : fill uri constraints encode (.found p token :: ps) params = .ok (text, left)) :
    ∃ after, fill uri constraints encode ps
        (params.erase (.str (String.ofList p.param.name))) = .ok (after, left) ∧
      (isVacant (valueFor params p.param) = true ∧ p.param.optional = true ∧ text = after ∨
        isVacant (valueFor params p.param) = false ∧
          (∀ pattern ∈ constraints.get? (.str (String.ofList p.param.name)),
            pattern.fullMatch (valueFor params p.param).written = true) ∧
          text = placed encode p (valueFor params p.param).written.toList ++ after) := by
  rw [fill_found] at h
  cases hrefusal : refusal? uri constraints p.param (valueFor params p.param) with
  | some fault =>
    rw [hrefusal] at h
    exact absurd h nofun
  | none =>
    rw [hrefusal] at h
    cases hrest : fill uri constraints encode ps
        (params.erase (.str (String.ofList p.param.name))) with
    | error fault =>
      rw [hrest] at h
      exact absurd h nofun
    | ok filled =>
      rw [hrest] at h
      obtain ⟨rfl, rfl⟩ := Prod.mk.inj (Except.ok.inj h)
      refine ⟨_, rfl, ?_⟩
      cases hvacant : isVacant (valueFor params p.param) with
      | true =>
        refine .inl ⟨rfl, ?_, by rw [shown, if_pos hvacant, List.nil_append]⟩
        by_contra hrequired
        rw [refusal?_of_vacant hvacant, if_neg hrequired] at hrefusal
        exact absurd hrefusal nofun
      | false =>
        refine .inr ⟨rfl, fun pattern hpattern => ?_, by rw [shown, if_neg (by simp [hvacant])]⟩
        by_contra hmatch
        rw [refusal?_of_not_vacant hvacant, hpattern, Option.bind_some, if_neg hmatch] at hrefusal
        exact absurd hrefusal nofun

/-! ## Building -/

/-- A url is the text of the filled uri, a slash if that is empty, and a query of the parameters that
are left over, if there are any. -/
theorem build_ok {serializers : Serializers} {params options : Params} {url : String}
    (h : build serializers uri params constraints options = .ok url) :
    ∃ text left query,
      fill uri constraints (Query.isOn options "encode" true) (pieces placeholder uri.toList) params =
        .ok (text, left) ∧
      (if left.isEmpty then .ok (.str "") else Query.serialize serializers left options) =
        .ok query ∧
      url = withQuery (if text.isEmpty then ['/'] else text) query := by
  unfold build at h
  cases hfill : fill uri constraints (Query.isOn options "encode" true)
      (pieces placeholder uri.toList) params with
  | error fault =>
    simp only [hfill] at h
    exact absurd h nofun
  | ok filled =>
    obtain ⟨text, left⟩ := filled
    simp only [hfill] at h
    by_cases hleft : left.isEmpty = true
    · refine ⟨text, left, .str "", rfl, if_pos hleft, ?_⟩
      change (if left.isEmpty = true then _ else _) = _ at h
      rw [if_pos hleft] at h
      exact (Except.ok.inj h).symm
    · change (if left.isEmpty = true then _ else _) = _ at h
      rw [if_neg hleft] at h
      cases hquery : Query.serialize serializers left options with
      | error fault =>
        rw [hquery] at h
        exact absurd h nofun
      | ok query =>
        rw [hquery] at h
        exact ⟨text, left, query, rfl, (if_neg hleft).trans hquery, (Except.ok.inj h).symm⟩

/-- Up to its first question mark, a url is the path. -/
theorem takeWhile_withQuery {path : List Char} (h : '?' ∉ path) (query : Value) :
    (withQuery path query).toList.takeWhile (· != '?') = path := by
  have hpath : ∀ c ∈ path, (c != '?') = true := fun c hc =>
    bne_iff_ne.mpr fun heq => h (heq ▸ hc)
  unfold withQuery
  split
  · simp [List.takeWhile_append_of_pos hpath]
  · simpa using List.takeWhile_eq_self_iff.mpr hpath

end RouteTree.Url
