import RouteTree.Proofs.Url.Failing

/-!
# Names that come twice

Nothing keeps a uri from naming a parameter more than once; a group and a route in it may both do so.
The parameter serves the first placeholder of its name only, and the repeated ones (`IsRepeated`) go
without. So with a value for every placeholder, **the first repeated placeholder that has to have a
value is reported as missing, and repeated ones that need none are left out** (`build_repeats`). The
url shows every parameter wherever its name stands only if none of the repeated ones has a value.

A serializer may refuse for whatever reason, and so also because it misses a parameter; that is set
apart throughout.
-/

namespace RouteTree.Url

open Text Template

/-- A placeholder of the list has a name that stands before it. -/
def IsRepeated (ps : List Placeholder) (p : Placeholder) : Prop :=
  ∃ before after, ps = before ++ p :: after ∧ p.param.name ∈ before.map (·.param.name)

theorem IsRepeated.two_le_count {ps : List Placeholder} {p : Placeholder} (h : IsRepeated ps p) :
    2 ≤ (ps.map (·.param.name)).count p.param.name := by
  obtain ⟨before, after, rfl, hname⟩ := h
  have hbefore : 0 < (before.map (·.param.name)).count p.param.name := List.count_pos_iff.mpr hname
  rw [List.map_append, List.count_append, List.map_cons, List.count_cons_self]
  omega

variable {serializers : Serializers} {uri : String} {params options : Params}
  {constraints : Constraints}

/-! ## What repeated placeholders are served -/

theorem exists_of_mem_seen {taken : List (List Char)} {ps : List Placeholder} {p : Placeholder}
    {v : Value} (h : (p, v) ∈ seen params taken ps) :
    ∃ before after, ps = before ++ p :: after ∧
      v = if p.param.name ∈ taken ++ before.map (·.param.name) then .null
        else valueFor params p.param := by
  induction ps generalizing taken with
  | nil => exact absurd h List.not_mem_nil
  | cons q ps ih =>
    rcases List.mem_cons.mp h with heq | hrest
    · obtain ⟨rfl, rfl⟩ := Prod.mk.inj heq
      exact ⟨[], ps, rfl, by simp⟩
    · obtain ⟨before, after, rfl, hv⟩ := ih hrest
      exact ⟨q :: before, after, rfl, by simpa using hv⟩

/-- A placeholder is served its own parameter, or it is repeated and is served nothing. -/
theorem eq_or_isRepeated_of_mem_seen {ps : List Placeholder} {p : Placeholder} {v : Value}
    (h : (p, v) ∈ seen params [] ps) :
    p ∈ ps ∧ (v = valueFor params p.param ∨ v = .null ∧ IsRepeated ps p) := by
  obtain ⟨before, after, hsplit, hv⟩ := exists_of_mem_seen h
  refine ⟨by simp [hsplit], ?_⟩
  rw [List.nil_append] at hv
  split at hv
  · rename_i hname
    exact .inr ⟨hv, before, after, hsplit, hname⟩
  · exact .inl hv

/-- Placeholders that do not fail are filled, if the repeated ones may be left out. -/
theorem findSome?_seen_eq_none {ps : List Placeholder}
    (hsupplied : ∀ p ∈ ps, ∀ fault, ¬ FailsWith uri params constraints p.param fault)
    (hoptional : ∀ p, IsRepeated ps p → p.param.optional = true) :
    (seen params [] ps).findSome? (fun e => refusal? uri constraints e.1.param e.2) = none := by
  rw [List.findSome?_eq_none_iff]
  rintro ⟨p, v⟩ hmem
  obtain ⟨hp, rfl | ⟨rfl, hrepeated⟩⟩ := eq_or_isRepeated_of_mem_seen hmem
  · exact not_failsWith_iff.mp (hsupplied p hp)
  · rw [refusal?_of_vacant rfl, if_pos (hoptional p hrepeated)]

/-- The first repeated placeholder that has to have a value is missing it. -/
theorem findSome?_seen_eq_some {before after : List Placeholder} {p : Placeholder}
    (hsupplied : ∀ q ∈ before, ∀ fault, ¬ FailsWith uri params constraints q.param fault)
    (hoptional : ∀ q, IsRepeated before q → q.param.optional = true)
    (hrequired : p.param.optional = false) (hname : p.param.name ∈ before.map (·.param.name)) :
    (seen params [] (before ++ p :: after)).findSome?
        (fun e => refusal? uri constraints e.1.param e.2) =
      some (.missingParameter (.str (String.ofList p.param.name)) (.str uri)) := by
  rw [seen_append, List.findSome?_append, findSome?_seen_eq_none hsupplied hoptional, Option.none_or,
    List.nil_append, seen, if_pos hname, List.findSome?_cons, refusal?_of_vacant rfl, hrequired]
  rfl

/-! ## Paths that show every value -/

/-- The text of a uri in which every placeholder shows its parameter, wherever its name stands. -/
def wholeText (encode : Bool) (uri : String) (params : Params) : List Char :=
  replaceFinds (fun p => shown encode p (valueFor params p.param)) (pieces placeholder uri.toList)

/-- Placeholders that are served nothing show the same, if they have no value anyway. -/
theorem shownText_served {encode : Bool} {taken : List (List Char)} {ps : List (Piece Placeholder)}
    (h : ∀ before p after, ps.filterMap (·.value?) = before ++ p :: after →
      p.param.name ∈ taken ++ before.map (·.param.name) →
      isVacant (valueFor params p.param) = true) :
    shownText encode (served params taken ps) =
      replaceFinds (fun p => shown encode p (valueFor params p.param)) ps := by
  induction ps generalizing taken with
  | nil => rfl
  | cons piece ps ih =>
    cases piece with
    | other c => exact congrArg (c :: ·) (ih h)
    | found p text =>
      have hrest : shownText encode (served params (taken ++ [p.param.name]) ps) =
          replaceFinds (fun p => shown encode p (valueFor params p.param)) ps := by
        refine ih fun before q after hsplit hname => h (p :: before) q after ?_ (by simpa using hname)
        exact congrArg (p :: ·) hsplit
      have hshown : shown encode p (if p.param.name ∈ taken then .null else valueFor params p.param) =
          shown encode p (valueFor params p.param) := by
        split
        · rename_i hname
          have hvacant := h [] p _ rfl (by simpa using hname)
          rw [shown, shown, if_pos hvacant]
          rfl
        · rfl
      exact congrArg₂ (· ++ ·) hshown hrest

/-! ## Urls -/

/-- Of a query, only a serializer reports that a parameter is missing. -/
theorem serializerRefuses_of_missingParameter {name text : Value}
    (h : queryOf serializers params options = .error (.missingParameter name text)) :
    SerializerRefuses serializers params options (.missingParameter name text) := by
  unfold queryOf at h
  split at h
  · exact absurd h nofun
  · unfold Query.serialize Query.serialize? at h
    split at h
    · cases hformat : Query.arrayFormat options with
      | ok format =>
        rw [hformat] at h
        exact absurd h nofun
      | error fault =>
        rw [hformat] at h
        obtain rfl := Except.error.inj h
        obtain ⟨_, -, -, heq⟩ := arrayFormat_eq_error_iff.mp hformat
        exact absurd heq nofun
    · rename_i serializer ps hnamed hps
      obtain rfl := Option.some.inj hps
      refine ⟨serializer, ?_, h⟩
      cases hget : options.get? (.str "serializer") with
      | none =>
        rw [hget] at hnamed
        exact absurd hnamed nofun
      | some v =>
        rw [hget] at hnamed
        exact congrArg some hnamed
    · exact absurd h nofun

/-- A placeholder is reported as missing because it has no value, or because it is repeated. -/
theorem exists_of_build_eq_missingParameter {name text : Value}
    (h : build serializers uri params constraints options = .error (.missingParameter name text)) :
    (∃ p ∈ placeholders uri, p.param.optional = false ∧
      name = .str (String.ofList p.param.name) ∧ text = .str uri ∧
      (isVacant (valueFor params p.param) = true ∨ IsRepeated (placeholders uri) p)) ∨
    SerializerRefuses serializers (leftOver uri params) options (.missingParameter name text) := by
  rw [build_eq, firstRefusal?_servedUri] at h
  cases hrefusal : (seen params [] (placeholders uri)).findSome?
      (fun e => refusal? uri constraints e.1.param e.2) with
  | none =>
    -- the fault would be that of the query
    rw [hrefusal] at h
    exact .inr (serializerRefuses_of_missingParameter (map_eq_error_iff.mp h))
  | some fault =>
    rw [hrefusal] at h
    obtain rfl := Except.error.inj h
    obtain ⟨⟨p, v⟩, hmem, hrefused⟩ := List.exists_of_findSome?_eq_some hrefusal
    obtain ⟨hp, hv⟩ := eq_or_isRepeated_of_mem_seen hmem
    -- a value that is there can only violate its constraint
    have hvacant : isVacant v = true := by
      by_contra hvalue
      rw [refusal?_of_not_vacant (by simpa using hvalue)] at hrefused
      obtain ⟨pattern, -, hpattern⟩ := Option.bind_eq_some_iff.mp hrefused
      split at hpattern <;> exact absurd hpattern nofun
    rw [refusal?_of_vacant hvacant] at hrefused
    split at hrefused
    · exact absurd hrefused nofun
    · rename_i hrequired
      obtain ⟨rfl, rfl⟩ := Fault.missingParameter.inj (Option.some.inj hrefused)
      refine .inl ⟨p, hp, by simpa using hrequired, rfl, rfl, ?_⟩
      exact hv.imp (fun hown => by rwa [← hown]) And.right

/-- Where no placeholder fails and repeated ones may be left out, they are, and none is missing. -/
theorem build_of_optional
    (hsupplied : ∀ p ∈ placeholders uri, ∀ fault, ¬ FailsWith uri params constraints p.param fault)
    (hoptional : ∀ p, IsRepeated (placeholders uri) p → p.param.optional = true) :
    (∀ name text,
      build serializers uri params constraints options = .error (.missingParameter name text) →
      SerializerRefuses serializers (leftOver uri params) options (.missingParameter name text)) ∧
      build serializers uri params constraints options =
        (queryOf serializers (leftOver uri params) options).map
          (withQuery (pathText (Query.isOn options "encode" true) uri params)) := by
  have hbuild : build serializers uri params constraints options =
      (queryOf serializers (leftOver uri params) options).map
        (withQuery (pathText (Query.isOn options "encode" true) uri params)) := by
    rw [build_eq, firstRefusal?_servedUri, findSome?_seen_eq_none hsupplied hoptional]
  refine ⟨fun name text h => ?_, hbuild⟩
  rw [hbuild, map_eq_error_iff] at h
  exact serializerRefuses_of_missingParameter h

/-- **A parameter serves the first placeholder of its name.** A placeholder is reported as missing if
it has to have a value and the parameters have none, or if it is repeated. Where no placeholder fails,
the first repeated one that has to have a value is missing it; where there is none of these, repeated
ones are left out; and where they have no value anyway, every value is shown. -/
theorem build_repeats (serializers : Serializers) (uri : String) (params : Params)
    (constraints : Constraints) (options : Params) :
    (∀ name text,
      build serializers uri params constraints options = .error (.missingParameter name text) →
      (∃ p ∈ placeholders uri, p.param.optional = false ∧
        name = .str (String.ofList p.param.name) ∧ text = .str uri ∧
        (isVacant (valueFor params p.param) = true ∨ IsRepeated (placeholders uri) p)) ∨
      SerializerRefuses serializers (leftOver uri params) options (.missingParameter name text)) ∧
    ((∀ p ∈ placeholders uri, ∀ fault, ¬ FailsWith uri params constraints p.param fault) →
      (∀ before p after, placeholders uri = before ++ p :: after →
        (∀ q, IsRepeated before q → q.param.optional = true) → p.param.optional = false →
        p.param.name ∈ before.map (·.param.name) →
        build serializers uri params constraints options =
          .error (.missingParameter (.str (String.ofList p.param.name)) (.str uri))) ∧
      ((∀ p, IsRepeated (placeholders uri) p → p.param.optional = true) →
        (∀ name text,
          build serializers uri params constraints options = .error (.missingParameter name text) →
          SerializerRefuses serializers (leftOver uri params) options
            (.missingParameter name text)) ∧
          build serializers uri params constraints options =
            (queryOf serializers (leftOver uri params) options).map
              (withQuery (pathText (Query.isOn options "encode" true) uri params))) ∧
      ((∀ p, IsRepeated (placeholders uri) p → isVacant (valueFor params p.param) = true) →
        (∀ name text,
          build serializers uri params constraints options = .error (.missingParameter name text) →
          SerializerRefuses serializers (leftOver uri params) options
            (.missingParameter name text)) ∧
          build serializers uri params constraints options =
            (queryOf serializers (leftOver uri params) options).map
              (withQuery (orSlash (wholeText (Query.isOn options "encode" true) uri params))))) := by
  refine ⟨fun name text => exists_of_build_eq_missingParameter, fun hsupplied => ?_⟩
  refine ⟨fun before p after hsplit hbefore hrequired hname => ?_,
    build_of_optional hsupplied, fun hvacant => ?_⟩
  · have hprefix : ∀ q ∈ before, ∀ fault, ¬ FailsWith uri params constraints q.param fault :=
      fun q hq => hsupplied q (by simp [hsplit, hq])
    rw [build_eq, firstRefusal?_servedUri, hsplit,
      findSome?_seen_eq_some hprefix hbefore hrequired hname]
  · -- a placeholder without a value that does not fail may be left out
    have hoptional : ∀ p, IsRepeated (placeholders uri) p → p.param.optional = true := by
      rintro p ⟨before, after, hsplit, hname⟩
      have hrefusal := not_failsWith_iff.mp (hsupplied p (by simp [hsplit]))
      rw [refusal?_of_vacant (hvacant p ⟨before, after, hsplit, hname⟩)] at hrefusal
      by_contra hrequired
      rw [if_neg hrequired] at hrefusal
      exact absurd hrefusal nofun
    have hwhole : shownText (Query.isOn options "encode" true) (servedUri uri params) =
        wholeText (Query.isOn options "encode" true) uri params :=
      shownText_served fun before p after hsplit hname => hvacant p ⟨before, after, hsplit, hname⟩
    have hbuild := @build_of_optional serializers uri params options constraints hsupplied hoptional
    rwa [pathText, hwhole] at hbuild

/-- `/:lang?` -/
def langPlaceholder : Placeholder := ⟨true, ⟨"lang".toList, true⟩⟩

/-- `/:id` -/
def idPlaceholder : Placeholder := ⟨true, ⟨"id".toList, false⟩⟩

/-- A value for the one, and none for the other. -/
def idParams : Params := ⟨[(.str "id", .str "5")]⟩

/-- The repeated placeholder of the first uri has no value; that of the second has to have one. -/
theorem build_repeats_idParams :
    build .none "/:lang?/:id/:lang?" idParams OrderedMap.empty OrderedMap.empty = .ok "/5" ∧
      build .none "/:lang?/:id/:lang?/:id" idParams OrderedMap.empty OrderedMap.empty =
        .error (.missingParameter (.str "id") (.str "/:lang?/:id/:lang?/:id")) := by
  have hpieces : pieces placeholder "/:lang?/:id/:lang?".toList =
      [.found langPlaceholder "/:lang?".toList, .found idPlaceholder "/:id".toList,
        .found langPlaceholder "/:lang?".toList] := by decide +kernel
  have hthree : placeholders "/:lang?/:id/:lang?" =
      [langPlaceholder, idPlaceholder, langPlaceholder] := by
    rw [placeholders, hpieces]
    rfl
  have hfour : placeholders "/:lang?/:id/:lang?/:id" =
      [langPlaceholder, idPlaceholder, langPlaceholder] ++ idPlaceholder :: [] := by
    decide +kernel
  have hrepeated : ∀ p, IsRepeated [langPlaceholder, idPlaceholder, langPlaceholder] p →
      p = langPlaceholder := by
    intro p hp
    have hcount := hp.two_le_count
    obtain ⟨before, after, hsplit, -⟩ := hp
    have hmem : p ∈ [langPlaceholder, idPlaceholder, langPlaceholder] := by simp [hsplit]
    simp only [List.mem_cons, List.not_mem_nil, or_false] at hmem
    rcases hmem with rfl | rfl | rfl
    · rfl
    · exact absurd hcount (by decide)
    · rfl
  constructor
  · have hleft : leftOver "/:lang?/:id/:lang?" idParams = OrderedMap.empty := by
      rw [leftOver, placeholderNames, hpieces]
      rfl
    have hwhole : wholeText true "/:lang?/:id/:lang?" idParams = "/5".toList := by
      rw [wholeText, hpieces]
      rfl
    have hbuild := ((build_repeats .none "/:lang?/:id/:lang?" idParams OrderedMap.empty
      OrderedMap.empty).2 ?_).2.2 ?_ |>.2
    · rw [hbuild, hleft, show Query.isOn OrderedMap.empty "encode" true = true from rfl, hwhole]
      rfl
    · simp only [hthree, not_failsWith_iff, List.forall_mem_cons]
      exact ⟨rfl, rfl, rfl, List.forall_mem_nil _⟩
    · intro p hp
      rw [hrepeated p (hthree ▸ hp)]
      rfl
  · refine ((build_repeats .none "/:lang?/:id/:lang?/:id" idParams OrderedMap.empty
      OrderedMap.empty).2 ?_).1 _ _ _ hfour ?_ rfl (by decide)
    · simp only [hfour, not_failsWith_iff, List.cons_append, List.nil_append, List.forall_mem_cons]
      exact ⟨rfl, rfl, rfl, rfl, List.forall_mem_nil _⟩
    · intro p hp
      rw [hrepeated p hp]
      rfl

/-- The parameter of every placeholder has a value, and one of them is reported as missing. -/
theorem missingParameter_of_repeated :
    (∀ p ∈ placeholders "/:id/edit/:id", valueFor idParams p.param = .str "5") ∧
      (∀ p ∈ placeholders "/:id/edit/:id", ∀ fault,
        ¬ FailsWith "/:id/edit/:id" idParams OrderedMap.empty p.param fault) ∧
      build .none "/:id/edit/:id" idParams OrderedMap.empty OrderedMap.empty =
        .error (.missingParameter (.str "id") (.str "/:id/edit/:id")) := by
  have hpieces : pieces placeholder "/:id/edit/:id".toList =
      .found idPlaceholder "/:id".toList :: ("/edit".toList.map .other ++
        [.found idPlaceholder "/:id".toList]) := by decide +kernel
  have hplaceholders : placeholders "/:id/edit/:id" = [idPlaceholder, idPlaceholder] := by
    rw [placeholders, hpieces]
    rfl
  simp only [hplaceholders, not_failsWith_iff, List.forall_mem_cons]
  refine ⟨⟨rfl, rfl, List.forall_mem_nil _⟩, ⟨rfl, rfl, List.forall_mem_nil _⟩, ?_⟩
  rw [build, hpieces]
  rfl

end RouteTree.Url
