import RouteTree.Proofs.Template.Parameters
import RouteTree.Proofs.Url.Filling

/-!
# What placeholders are served

A placeholder takes the parameter of its name away, so what is there for a placeholder depends on those
before it. The first one of a name is served the value of the parameter, and a later one nothing
(`served`). Said so, filling looks at the parameters from the beginning only: **a url is refused for the
first placeholder that refuses what it is served, and otherwise it is the text of what they all are
served, with a query of the parameters that have other names** (`build_eq`). So **every parameter goes
to the path or to the query** (`build_separates`): those of other names, and constraints of other names,
do not matter to the path (`AgreeOn`).

This holds of every uri. Where no name comes twice, every placeholder is served its own parameter
(`seen_of_nodup`).
-/

namespace RouteTree

open Text Template

namespace Url

/-! ## Parameters of other names -/

/-- The parameters that have none of the names. -/
def withoutNames (params : Params) (names : List (List Char)) : Params :=
  ⟨params.entries.filter fun e => !names.any fun n => e.1 == .str (String.ofList n)⟩

theorem withoutNames_nil (params : Params) : withoutNames params [] = params :=
  congrArg OrderedMap.mk (List.filter_eq_self.mpr fun _ _ => rfl)

theorem erase_withoutNames (params : Params) (names : List (List Char)) (name : List Char) :
    (withoutNames params names).erase (.str (String.ofList name)) =
      withoutNames params (names ++ [name]) := by
  simp [withoutNames, OrderedMap.erase, List.filter_filter, Bool.and_comm]

theorem get?_withoutNames (params : Params) (names : List (List Char)) (name : List Char) :
    (withoutNames params names).get? (.str (String.ofList name)) =
      if name ∈ names then none else params.get? (.str (String.ofList name)) := by
  induction names using List.reverseRecOn with
  | nil => rw [withoutNames_nil, if_neg List.not_mem_nil]
  | append_singleton names n ih =>
    rw [← erase_withoutNames]
    by_cases hn : n = name
    · rw [hn, OrderedMap.get?_erase_self, if_pos (by simp)]
    · have hne : (Value.str (String.ofList n) == .str (String.ofList name)) = false := by
        rw [Value.str_beq_str, beq_eq_false_iff_ne]
        exact fun heq => hn (String.ofList_injective heq)
      have hmem : name ∈ names ++ [n] ↔ name ∈ names := by simp [Ne.symm hn]
      rw [OrderedMap.get?_erase_of_ne hne, ih]
      simp only [hmem]

theorem valueFor_withoutNames (params : Params) (names : List (List Char)) (p : Param) :
    valueFor (withoutNames params names) p = if p.name ∈ names then .null else valueFor params p := by
  rw [valueFor, get?_withoutNames]
  split <;> rfl

/-! ## Serving -/

/-- The placeholders with what they are served, from left to right, where those of the names that are
`taken` stand before. -/
def served (params : Params) : (taken : List (List Char)) → List (Piece Placeholder) →
    List (Piece (Placeholder × Value))
  | _, [] => []
  | taken, .other c :: ps => .other c :: served params taken ps
  | taken, .found p text :: ps =>
    .found (p, if p.param.name ∈ taken then .null else valueFor params p.param) text ::
      served params (taken ++ [p.param.name]) ps

/-- The names of placeholders. -/
def namesOf (ps : List (Piece Placeholder)) : List (List Char) :=
  (ps.filterMap (·.value?)).map (·.param.name)

/-- The first refusal of what placeholders are served. -/
def firstRefusal? (uri : String) (constraints : Constraints)
    (ps : List (Piece (Placeholder × Value))) : Option Fault :=
  (ps.filterMap (·.value?)).findSome? fun e => refusal? uri constraints e.1.param e.2

/-- What the placeholders make of what they are served, with the text between them. -/
def shownText (encode : Bool) (ps : List (Piece (Placeholder × Value))) : List Char :=
  replaceFinds (fun e => shown encode e.1 e.2) ps

variable {uri : String} {constraints : Constraints} {encode : Bool}

theorem firstRefusal?_found (p : Placeholder) (v : Value) (text : List Char)
    (ps : List (Piece (Placeholder × Value))) :
    firstRefusal? uri constraints (.found (p, v) text :: ps) =
      (refusal? uri constraints p.param v).or (firstRefusal? uri constraints ps) := by
  rw [firstRefusal?, filterMap_value?_found, List.findSome?_cons]
  cases hrefusal : refusal? uri constraints p.param v <;> rfl

/-- **To fill is to serve every placeholder**, and to leave the parameters of other names. -/
theorem fill_eq (params : Params) (taken : List (List Char)) (ps : List (Piece Placeholder)) :
    fill uri constraints encode ps (withoutNames params taken) =
      match firstRefusal? uri constraints (served params taken ps) with
      | some fault => .error fault
      | none => .ok (shownText encode (served params taken ps),
          withoutNames params (taken ++ namesOf ps)) := by
  induction ps generalizing taken with
  | nil => simp [fill, firstRefusal?, served, shownText, namesOf]
  | cons piece ps ih =>
    cases piece with
    | other c =>
      change (do let filled ← fill uri constraints encode ps _; return (c :: filled.1, filled.2)) =
        match firstRefusal? uri constraints (served params taken ps) with
        | some fault => Except.error fault
        | none => .ok (c :: shownText encode (served params taken ps),
            withoutNames params (taken ++ namesOf ps))
      rw [ih]
      cases firstRefusal? uri constraints (served params taken ps) <;> rfl
    | found p text =>
      have hnames : taken ++ namesOf (.found p text :: ps) =
          taken ++ [p.param.name] ++ namesOf ps := by
        simp [namesOf]
      -- the placeholder finds the parameters without the names that stand before it
      rw [fill_found, erase_withoutNames, valueFor_withoutNames, ih, served, firstRefusal?_found,
        hnames]
      cases refusal? uri constraints p.param
          (if p.param.name ∈ taken then .null else valueFor params p.param) with
      | some fault => rfl
      | none =>
        cases firstRefusal? uri constraints (served params (taken ++ [p.param.name]) ps) <;> rfl

/-- Placeholders with what they are served, without the text between them. -/
def seen (params : Params) : (taken : List (List Char)) → List Placeholder →
    List (Placeholder × Value)
  | _, [] => []
  | taken, p :: ps =>
    (p, if p.param.name ∈ taken then .null else valueFor params p.param) ::
      seen params (taken ++ [p.param.name]) ps

theorem filterMap_served (params : Params) (taken : List (List Char))
    (ps : List (Piece Placeholder)) :
    (served params taken ps).filterMap (·.value?) = seen params taken (ps.filterMap (·.value?)) := by
  induction ps generalizing taken with
  | nil => rfl
  | cons piece ps ih =>
    cases piece with
    | other c => exact ih taken
    | found p text => exact congrArg (_ :: ·) (ih (taken ++ [p.param.name]))

theorem seen_append (params : Params) (taken : List (List Char)) (ps qs : List Placeholder) :
    seen params taken (ps ++ qs) =
      seen params taken ps ++ seen params (taken ++ ps.map (·.param.name)) qs := by
  induction ps generalizing taken with
  | nil => simp [seen]
  | cons p ps ih => simp [seen, ih]

/-- The pieces of a uri with what its placeholders are served. -/
def servedUri (uri : String) (params : Params) : List (Piece (Placeholder × Value)) :=
  served params [] (pieces placeholder uri.toList)

/-- The path with a text; it is a slash if that is empty. -/
def orSlash (text : List Char) : List Char := if text.isEmpty then ['/'] else text

/-- The path of a url, with what the placeholders make of what they are served. -/
def pathText (encode : Bool) (uri : String) (params : Params) : List Char :=
  orSlash (shownText encode (servedUri uri params))

/-- The parameters that no placeholder of a uri takes. -/
def leftOver (uri : String) (params : Params) : Params :=
  withoutNames params (placeholderNames uri)

/-- The query of what is left over. Where nothing is, there is nothing to serialize. -/
def queryOf (serializers : Serializers) (params options : Params) : Except Fault Value :=
  if params.isEmpty then .ok (.str "") else Query.serialize serializers params options

/-- **A url is refused for the first placeholder that refuses what it is served**, and is otherwise the
path with the query of what is left over. -/
theorem build_eq (serializers : Serializers) (uri : String) (params : Params)
    (constraints : Constraints) (options : Params) :
    build serializers uri params constraints options =
      match firstRefusal? uri constraints (servedUri uri params) with
      | some fault => .error fault
      | none => (queryOf serializers (leftOver uri params) options).map
          (withQuery (pathText (Query.isOn options "encode" true) uri params)) := by
  have hfill : fill uri constraints (Query.isOn options "encode" true)
      (pieces placeholder uri.toList) params =
        match firstRefusal? uri constraints (servedUri uri params) with
        | some fault => .error fault
        | none => .ok (shownText (Query.isOn options "encode" true) (servedUri uri params),
            leftOver uri params) := by
    have hserved : fill uri constraints (Query.isOn options "encode" true)
        (pieces placeholder uri.toList) (withoutNames params []) = _ := fill_eq params [] _
    rwa [withoutNames_nil] at hserved
  rw [build, hfill]
  cases firstRefusal? uri constraints (servedUri uri params) with
  | some fault => rfl
  | none =>
    -- where nothing is left over, no query is made, whatever the options are
    change (if (leftOver uri params).isEmpty = true then _ else _) = _
    unfold queryOf
    cases (leftOver uri params).isEmpty with
    | true => rfl
    | false =>
      generalize Query.serialize serializers (leftOver uri params) options = query
      cases query <;> rfl

/-! ## The path and the query -/

/-- The names of the placeholders have the same values in both maps. -/
def AgreeOn {ν : Type} (uri : String) (m m' : OrderedMap Value ν) : Prop :=
  ∀ name ∈ placeholderNames uri,
    m.get? (.str (String.ofList name)) = m'.get? (.str (String.ofList name))

theorem served_congr {params params' : Params} {taken : List (List Char)}
    {ps : List (Piece Placeholder)}
    (h : ∀ name ∈ namesOf ps,
      params.get? (.str (String.ofList name)) = params'.get? (.str (String.ofList name))) :
    served params taken ps = served params' taken ps := by
  induction ps generalizing taken with
  | nil => rfl
  | cons piece ps ih =>
    cases piece with
    | other c => exact congrArg (_ :: ·) (ih h)
    | found p text =>
      obtain ⟨hp, hps⟩ := List.forall_mem_cons.mp h
      rw [served, served, ih hps, valueFor, valueFor, hp]

theorem firstRefusal?_congr {constraints' : Constraints} {params : Params}
    {taken : List (List Char)} {ps : List (Piece Placeholder)}
    (h : ∀ name ∈ namesOf ps,
      constraints.get? (.str (String.ofList name)) = constraints'.get? (.str (String.ofList name))) :
    firstRefusal? uri constraints (served params taken ps) =
      firstRefusal? uri constraints' (served params taken ps) := by
  induction ps generalizing taken with
  | nil => rfl
  | cons piece ps ih =>
    cases piece with
    | other c => exact ih h
    | found p text =>
      obtain ⟨hp, hps⟩ := List.forall_mem_cons.mp h
      rw [served, firstRefusal?_found, firstRefusal?_found, ih hps, refusal?, refusal?, hp]

/-- **Every parameter goes to the path or to the query**: a url has a path that hangs on the parameters
and constraints of its placeholders' names alone, whatever serializers answer, and the query is that of
the other parameters, in their order. -/
theorem build_separates {serializers : Serializers} {uri url : String} {params options : Params}
    {constraints : Constraints} (h : build serializers uri params constraints options = .ok url) :
    ∃ path : String,
      (∃ query, queryOf serializers (leftOver uri params) options = .ok query ∧
        url = if query.isTruthy then path ++ "?" ++ query.text else path) ∧
      ∀ serializers' params' constraints', AgreeOn uri params params' →
        AgreeOn uri constraints constraints' →
        build serializers' uri params' constraints' options =
          (queryOf serializers' (leftOver uri params') options).map
            fun query => if query.isTruthy then path ++ "?" ++ query.text else path := by
  rw [build_eq] at h
  cases hrefusal : firstRefusal? uri constraints (servedUri uri params) with
  | some fault =>
    rw [hrefusal] at h
    exact absurd h nofun
  | none =>
    rw [hrefusal] at h
    refine ⟨String.ofList (pathText (Query.isOn options "encode" true) uri params), ?_, ?_⟩
    · cases hquery : queryOf serializers (leftOver uri params) options with
      | error fault =>
        rw [hquery] at h
        exact absurd h nofun
      | ok query =>
        rw [hquery] at h
        exact ⟨query, rfl, (Except.ok.inj h).symm⟩
    · intro serializers' params' constraints' hparams hconstraints
      have hserved : servedUri uri params' = servedUri uri params := (served_congr hparams).symm
      have hnone : firstRefusal? uri constraints' (servedUri uri params) = none :=
        (firstRefusal?_congr hconstraints).symm.trans hrefusal
      rw [build_eq, hserved, hnone, pathText, hserved]
      rfl

/-- A name that comes twice, next to one that is left out. -/
def repeatedUri : String := "/:lang?/:id/:id?"

/-- One parameter for the query, and two for placeholders. -/
def repeatedParams : Params := ⟨[(.str "sort", .str "up"), (.str "id", .int 7), (.str "lang", .null)]⟩

/-- A serializer that lists the names of the parameters. -/
def listNames : Serializers := fun _ params _ => .ok (.str (",".intercalate (params.keys.map (·.text))))

/-- The options name a serializer. -/
def customOptions : Params := ⟨[(.str "serializer", .serializer "names")]⟩

theorem build_separates_repeatedUri :
    build listNames repeatedUri repeatedParams OrderedMap.empty customOptions = .ok "/7?sort" ∧
      ∃ path : String,
        (∃ query, queryOf listNames (leftOver repeatedUri repeatedParams) customOptions = .ok query ∧
          "/7?sort" = if query.isTruthy then path ++ "?" ++ query.text else path) ∧
        ∀ serializers' params' constraints', AgreeOn repeatedUri repeatedParams params' →
          AgreeOn repeatedUri OrderedMap.empty constraints' →
          build serializers' repeatedUri params' constraints' customOptions =
            (queryOf serializers' (leftOver repeatedUri params') customOptions).map
              fun query => if query.isTruthy then path ++ "?" ++ query.text else path := by
  have hpieces : pieces placeholder repeatedUri.toList =
      [.found ⟨true, ⟨"lang".toList, true⟩⟩ "/:lang?".toList,
        .found ⟨true, ⟨"id".toList, false⟩⟩ "/:id".toList,
        .found ⟨true, ⟨"id".toList, true⟩⟩ "/:id?".toList] := by decide +kernel
  have hbuild : build listNames repeatedUri repeatedParams OrderedMap.empty customOptions =
      .ok "/7?sort" := by
    rw [build, hpieces]
    rfl
  exact ⟨hbuild, build_separates hbuild⟩

end Url

end RouteTree
