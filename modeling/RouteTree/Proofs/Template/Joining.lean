import RouteTree.Proofs.Template.Recompiling
import RouteTree.Proofs.Template.Squeezing

/-!
# Joining segments

Joined segments are the segments with a slash before each, with single slashes (`joinText_eq`).
Because a slash is no part of a token, **what is done to a joined text is done to its segments**:
bringing it into the normal form is bringing the segments there and joining them
(`normalize_joinText`), and segments that are not all empty may be joined beforehand
(`joinText_join`).

A segment by itself is compiled with a slash in front and with single slashes
(`compile_join_singleton`): the uri is that of the template, and the bodies of the constraints are
those of the template with single slashes.

As an operation on lists of segments, **joining is associative, drops empty segments and keeps every
character that is no slash** (`join_assoc`); where only empty segments are joined beforehand at the
end, the slash that they become shows unless there is one already.
-/

namespace RouteTree.Template

open Text

/-! ## Slashes before segments -/

/-- A segment with a slash before it, unless it is empty. -/
def led (segment : List Char) : List Char := if segment.isEmpty then [] else '/' :: segment

theorem led_of_ne_nil {segment : List Char} (h : segment ≠ []) : led segment = '/' :: segment := by
  rw [led, if_neg (by simpa using h)]

theorem cons_intercalate {segments : List (List Char)} (h : segments ≠ []) :
    '/' :: ['/'].intercalate segments = segments.flatMap ('/' :: ·) := by
  induction segments with
  | nil => exact absurd rfl h
  | cons segment segments ih =>
    cases segments with
    | nil => simp
    | cons next segments =>
      have hrest := ih (List.cons_ne_nil _ _)
      rw [List.intercalate_cons_cons, List.flatMap_cons, ← hrest]
      simp

theorem flatMap_led (segments : List (List Char)) :
    segments.flatMap led = (segments.filter (!·.isEmpty)).flatMap ('/' :: ·) := by
  induction segments with
  | nil => rfl
  | cons segment segments ih =>
    rw [List.flatMap_cons, ih, led]
    cases segment <;> rfl

/-- **Joined segments are the segments with a slash before each**, with single slashes. -/
theorem joinText_eq (segments : List (List Char)) :
    joinText segments = squeeze '/' ('/' :: segments.flatMap led) := by
  have hled : squeeze '/' ('/' :: segments.flatMap led) =
      squeeze '/' ('/' :: ['/'].intercalate (segments.filter (!·.isEmpty))) := by
    rw [flatMap_led]
    cases segments.filter (!·.isEmpty) with
    | nil => rfl
    | cons segment rest =>
      rw [← cons_intercalate (List.cons_ne_nil _ _), squeeze_cons_cons_self]
  unfold joinText
  rw [hled, collapseSlashes_eq, ← squeeze_cons_squeeze]
  generalize hjoined : squeeze '/' (['/'].intercalate (segments.filter (!·.isEmpty))) = joined
  have hsame : squeeze '/' joined = joined := by rw [← hjoined, squeeze_squeeze]
  -- there is a slash in front already, or there is one to be put there
  dsimp only
  split
  · rw [squeeze_cons_cons_self, hsame]
  · rename_i hhead
    have hnot : joined.head? ≠ some '/' := fun h => by
      obtain ⟨tail, htail⟩ := List.head?_eq_some_iff.mp h
      exact hhead tail htail
    rw [squeeze_cons fun _ => hnot, hsame]

theorem joinText_singleton (segment : List Char) :
    joinText [segment] = squeeze '/' ('/' :: segment) := by
  rw [joinText_eq, List.flatMap_singleton]
  cases segment with
  | nil => rfl
  | cons c cs => rw [led_of_ne_nil (List.cons_ne_nil c cs), squeeze_cons_cons_self]

theorem joinText_ne_nil (segments : List (List Char)) : joinText segments ≠ [] := by
  intro h
  have hhead := head?_squeeze '/' ('/' :: segments.flatMap led)
  rw [← joinText_eq, h] at hhead
  exact absurd hhead nofun

theorem mem_of_mem_joinText {segments : List (List Char)} {c : Char} (h : c ∈ joinText segments) :
    c = '/' ∨ ∃ segment ∈ segments, c ∈ segment := by
  rw [joinText_eq] at h
  rcases List.mem_cons.mp (mem_of_mem_squeeze h) with rfl | h
  · exact .inl rfl
  · obtain ⟨segment, hsegment, hc⟩ := List.mem_flatMap.mp h
    unfold led at hc
    split at hc
    · exact absurd hc List.not_mem_nil
    · exact (List.mem_cons.mp hc).imp_right fun hc => ⟨segment, hsegment, hc⟩

/-! ## Segments changed beforehand -/

theorem squeeze_led_squeeze (segment : List Char) :
    squeeze '/' (led (squeeze '/' segment)) = squeeze '/' (led segment) := by
  cases segment with
  | nil => rfl
  | cons c cs =>
    have hne : squeeze '/' (c :: cs) ≠ [] := fun h => by
      have hhead := head?_squeeze '/' (c :: cs)
      rw [h] at hhead
      exact absurd hhead nofun
    rw [led_of_ne_nil hne, led_of_ne_nil (List.cons_ne_nil c cs), squeeze_cons_squeeze]

theorem squeeze_flatMap_led (segments : List (List Char)) :
    squeeze '/' ((segments.map (squeeze '/')).flatMap led) =
      squeeze '/' (segments.flatMap led) := by
  induction segments with
  | nil => rfl
  | cons segment segments ih =>
    rw [List.map_cons, List.flatMap_cons, List.flatMap_cons, ← squeeze_squeeze_append,
      squeeze_led_squeeze, squeeze_squeeze_append, ← squeeze_append_squeeze, ih,
      squeeze_append_squeeze]

/-- Segments with single slashes are joined to the same uri. -/
theorem joinText_map_squeeze (segments : List (List Char)) :
    joinText (segments.map (squeeze '/')) = joinText segments := by
  rw [joinText_eq, joinText_eq, ← squeeze_cons_squeeze, squeeze_flatMap_led, squeeze_cons_squeeze]

/-- An empty segment counts for nothing. -/
theorem joinText_append_nil_cons (xs ys : List (List Char)) :
    joinText (xs ++ [] :: ys) = joinText (xs ++ ys) := by
  rw [joinText_eq, joinText_eq, List.flatMap_append, List.flatMap_append, List.flatMap_cons]
  rfl

/-- Segments at the beginning may be joined beforehand. -/
theorem joinText_cons_joinText (xs ys : List (List Char)) :
    joinText (joinText xs :: ys) = joinText (xs ++ ys) := by
  rw [joinText_eq (_ :: ys), joinText_eq (xs ++ ys), List.flatMap_cons,
    led_of_ne_nil (joinText_ne_nil xs), List.flatMap_append, List.cons_append,
    squeeze_cons_cons_self, ← List.cons_append, ← squeeze_squeeze_append, joinText_eq,
    squeeze_cons_squeeze, squeeze_cons_cons_self, squeeze_squeeze_append, List.cons_append]

/-- What is joined stays as it is. -/
theorem joinText_joinText (segments : List (List Char)) :
    joinText [joinText segments] = joinText segments := by
  rw [joinText_cons_joinText, List.append_nil]

/-- **Segments that are not all empty may be joined beforehand.** -/
theorem joinText_join {inner : List (List Char)} (h : ∃ segment ∈ inner, segment ≠ [])
    (outer more : List (List Char)) :
    joinText (outer ++ joinText inner :: more) = joinText (outer ++ inner ++ more) := by
  -- the first segment that is not empty brings its own slash
  obtain ⟨tail, htail⟩ : ∃ tail, inner.flatMap led = '/' :: tail := by
    rw [flatMap_led]
    obtain ⟨segment, hsegment, hne⟩ := h
    have hmem : segment ∈ inner.filter (!·.isEmpty) :=
      List.mem_filter.mpr ⟨hsegment, by simpa using hne⟩
    obtain ⟨first, rest, hcons⟩ := List.exists_cons_of_ne_nil (List.ne_nil_of_mem hmem)
    exact ⟨_, by rw [hcons, List.flatMap_cons]; rfl⟩
  have hinner : squeeze '/' (led (joinText inner)) = squeeze '/' (inner.flatMap led) := by
    rw [led_of_ne_nil (joinText_ne_nil inner), joinText_eq, squeeze_cons_squeeze, htail,
      squeeze_cons_cons_self, squeeze_cons_cons_self]
  have hmore : squeeze '/' (led (joinText inner) ++ more.flatMap led) =
      squeeze '/' (inner.flatMap led ++ more.flatMap led) := by
    rw [← squeeze_squeeze_append, hinner, squeeze_squeeze_append]
  rw [joinText_eq (outer ++ _), joinText_eq (outer ++ _ ++ _), List.append_assoc,
    List.flatMap_append, List.flatMap_append, List.flatMap_cons, List.flatMap_append,
    ← List.cons_append, ← squeeze_append_squeeze, hmore, squeeze_append_squeeze, List.cons_append]

/-! ## The normal form of joined segments -/

/-- A slash is no part of a parameter. -/
theorem bracesToColons_append_slash (text rest : List Char) :
    bracesToColons (text ++ '/' :: rest) = bracesToColons text ++ '/' :: bracesToColons rest := by
  have hslash : bracesToColons ('/' :: rest) = '/' :: bracesToColons rest :=
    bracesToColons_cons_of_none (braceParam_skips (by decide) rest)
  rw [bracesToColons_append_cons fun p hp => hp.slash_not_mem (.inr rfl), hslash]

theorem bracesToColons_ne_nil {cs : List Char} (h : cs ≠ []) : bracesToColons cs ≠ [] := by
  induction cs using scan_induction braceParam_consumes with
  | nil => exact absurd rfl h
  | other c cs hnone _ =>
    rw [bracesToColons_cons_of_none hnone]
    exact List.cons_ne_nil _ _
  | found text p rest hne hsome _ =>
    obtain ⟨hp, heq⟩ := eq_of_braceParam hsome
    rw [heq, bracesToColons_token_append hp (.inr rfl)]
    simp [Param.colon]

/-- The text with parameters in colon notation and slashes only, before runs of slashes are
squeezed. -/
def respelled (cs : List Char) : List Char := backslashesToSlashes (bracesToColons cs)

theorem normalize_eq_squeeze_respelled (cs : List Char) :
    normalize false cs = squeeze '/' (respelled cs) := normalize_false cs

theorem respelled_append_slash (text rest : List Char) :
    respelled (text ++ '/' :: rest) = respelled text ++ '/' :: respelled rest := by
  unfold respelled backslashesToSlashes
  rw [bracesToColons_append_slash, List.map_append]
  rfl

theorem led_respelled (segment : List Char) : led (respelled segment) = respelled (led segment) := by
  cases segment with
  | nil => rfl
  | cons c cs =>
    have hne : respelled (c :: cs) ≠ [] := by
      simpa [respelled, backslashesToSlashes] using bracesToColons_ne_nil (List.cons_ne_nil c cs)
    rw [led_of_ne_nil hne, led_of_ne_nil (List.cons_ne_nil c cs)]
    exact (respelled_append_slash [] (c :: cs)).symm

theorem respelled_append_led (text segment : List Char) :
    respelled (text ++ led segment) = respelled text ++ respelled (led segment) := by
  cases segment with
  | nil => simp [led, respelled, backslashesToSlashes, bracesToColons]
  | cons c cs =>
    have hempty := respelled_append_slash [] (c :: cs)
    rw [led_of_ne_nil (List.cons_ne_nil c cs), respelled_append_slash]
    exact congrArg (respelled text ++ ·) hempty.symm

theorem respelled_append_flatMap_led (text : List Char) (segments : List (List Char)) :
    respelled (text ++ segments.flatMap led) =
      respelled text ++ (segments.map respelled).flatMap led := by
  induction segments generalizing text with
  | nil => rw [List.flatMap_nil, List.append_nil]; exact (List.append_nil _).symm
  | cons segment segments ih =>
    rw [List.flatMap_cons, ← List.append_assoc, ih, respelled_append_led, List.map_cons,
      List.flatMap_cons, led_respelled, List.append_assoc]

/-- **The normal form of joined segments is that of the segments, joined.** -/
theorem normalize_joinText (segments : List (List Char)) :
    normalize false (joinText segments) = joinText (segments.map (normalize false)) := by
  have hmap : segments.map (normalize false) = (segments.map respelled).map (squeeze '/') := by
    rw [List.map_map]
    exact List.map_congr_left fun s _ => normalize_eq_squeeze_respelled s
  rw [hmap, joinText_map_squeeze, joinText_eq, joinText_eq, normalize_squeeze,
    normalize_eq_squeeze_respelled]
  exact congrArg (squeeze '/') (respelled_append_flatMap_led ['/'] segments)

theorem normalize_ne_nil {cs : List Char} (h : cs ≠ []) : normalize false cs ≠ [] := by
  obtain ⟨c, hc⟩ : ∃ c, (respelled cs).head? = some c := by
    have hne : respelled cs ≠ [] := by
      simpa [respelled, backslashesToSlashes] using bracesToColons_ne_nil h
    obtain ⟨c, rest, hcons⟩ := List.exists_cons_of_ne_nil hne
    exact ⟨c, by rw [hcons]; rfl⟩
  rw [← head?_squeeze '/', ← normalize_eq_squeeze_respelled] at hc
  intro hnil
  rw [hnil] at hc
  simp at hc

/-! ## Compiling joined segments -/

/-- A template without parentheses has no constraints. -/
theorem compile_eq_normalize [CharacterNames] {text : List Char} (h : '(' ∉ text) (strict : Bool) :
    compile (String.ofList text) strict =
      .ok { uri := String.ofList (normalize false text), constraints := .empty
            malformed := false } := by
  obtain ⟨hfound, htext⟩ := pieces_constrained_of_none fun s hs =>
    constrained_eq_none_of_openConstraint
      (openConstraint_eq_none fun hin => h (hs.subset hin))
  exact compile_eq_ok hfound htext rfl h strict

theorem constrainedIn_slash (template : List Char) :
    constrainedIn ('/' :: template) = constrainedIn template := by
  unfold constrainedIn
  rw [pieces_cons_of_none (constrained_squeezes.skips template), List.filterMap_cons_none rfl]

theorem withoutConstraints_slash (template : List Char) :
    withoutConstraints (pieces constrained ('/' :: template)) =
      '/' :: withoutConstraints (pieces constrained template) := by
  unfold withoutConstraints
  rw [pieces_cons_of_none (constrained_squeezes.skips template), replaceFinds_other]

theorem normalize_slash (cs : List Char) :
    normalize false ('/' :: cs) = joinText [normalize false cs] := by
  have hjoined := normalize_joinText [cs]
  rwa [joinText_singleton, normalize_squeeze] at hjoined

/-- **A template by itself is compiled with single slashes.** If the constraints with single slashes
anchor, the uri is that of the template, joined. -/
theorem compile_join_singleton [CharacterNames] {template : String} {c : Compiled}
    {constraints : Constraints} (h : compile template true = .ok c)
    (hconstraints : constraintsOf ((constrainedIn template.toList).map Constrained.squeezed) =
      .ok constraints) (strict : Bool) :
    compile (join [template]) strict =
      .ok { uri := join [c.uri], constraints, malformed := false } := by
  obtain ⟨-, hmalformed, huri, hstrict⟩ := eq_of_compile h
  rw [hstrict rfl] at hmalformed huri
  have hclosed : hasOpenConstraint
      (withoutConstraints (pieces constrained ('/' :: template.toList))) = false := by
    rw [withoutConstraints_slash,
      hasOpenConstraint_cons_of_none (openConstraint_squeezes.skips _)]
    exact hmalformed.symm
  have hcompile := compile_squeeze hclosed (by rwa [constrainedIn_slash]) strict
  rw [withoutConstraints_slash, normalize_slash] at hcompile
  rw [join, List.map_singleton, joinText_singleton, hcompile, huri, join, List.map_singleton,
    String.toList_ofList]

/-- What a template by itself is compiled to has the constraints with single slashes. -/
theorem constraintsOf_of_compile_join [CharacterNames] {template : String} {strict : Bool}
    {c : Compiled} (h : compile (join [template]) strict = .ok c) :
    constraintsOf ((constrainedIn template.toList).map Constrained.squeezed) =
      .ok c.constraints := by
  obtain ⟨hconstraints, -, -, -⟩ := eq_of_compile h
  rw [join, List.map_singleton, joinText_singleton, String.toList_ofList] at hconstraints
  rwa [← constrainedIn_slash, ← constrainedIn_squeeze]

/-! ## Rooted uris -/

/-- The text begins with a slash and has no two slashes side by side. -/
structure IsRooted (uri : List Char) : Prop where
  head : uri.head? = some '/'
  single : ¬ ['/', '/'] <:+: uri

theorem normalize_rooted (malformed : Bool) (cs : List Char) :
    IsRooted (normalize malformed ('/' :: cs)) := by
  have hcolons : bracesToColons ('/' :: cs) = '/' :: bracesToColons cs :=
    bracesToColons_cons_of_none (braceParam_skips (by decide) cs)
  unfold normalize
  rw [collapseSlashes_eq, hcolons]
  refine ⟨?_, not_infix_squeeze '/' _⟩
  rw [head?_squeeze]
  cases malformed <;> rfl

/-- **What is compiled from joined segments is rooted**, malformed or not. -/
theorem compile_join_rooted [CharacterNames] {segments : List String} {strict : Bool} {c : Compiled}
    (h : compile (join segments) strict = .ok c) : IsRooted c.uri.toList := by
  obtain ⟨-, -, huri, -⟩ := eq_of_compile h
  obtain ⟨tail, htail⟩ : ∃ tail, joinText (segments.map String.toList) = '/' :: tail := by
    refine List.head?_eq_some_iff.mp ?_
    rw [joinText_eq, head?_squeeze]
    rfl
  rw [huri, String.toList_ofList, join, String.toList_ofList, htail, withoutConstraints_slash]
  exact normalize_rooted _ _

/-! ## The laws of joining -/

theorem joinText_rooted (segments : List (List Char)) : IsRooted (joinText segments) := by
  rw [joinText_eq]
  exact ⟨head?_squeeze '/' _, not_infix_squeeze '/' _⟩

/-- Empty segments at the end count for nothing. -/
theorem joinText_append_of_forall_nil {ys : List (List Char)} (h : ∀ y ∈ ys, y = [])
    (xs : List (List Char)) : joinText (xs ++ ys) = joinText xs := by
  have hled : ys.flatMap led = [] := List.flatMap_eq_nil_iff.mpr fun y hy => by rw [h y hy]; rfl
  rw [joinText_eq, joinText_eq, List.flatMap_append, hled, List.append_nil]

/-- A segment that is a slash is seen at the end unless there is a slash already. -/
theorem joinText_concat_slash (xs : List (List Char)) :
    joinText (xs ++ [['/']]) =
      if (joinText xs).getLast? = some '/' then joinText xs else joinText xs ++ ['/'] := by
  have hslash : joinText (xs ++ [['/']]) = squeeze '/' (joinText xs ++ ['/']) := by
    have hled : squeeze '/' (led ['/']) = ['/'] := rfl
    rw [joinText_eq, joinText_eq, List.flatMap_append, List.flatMap_singleton, ← List.cons_append,
      ← squeeze_append_squeeze, hled, squeeze_squeeze_append]
  rw [hslash, squeeze_concat_self, squeeze_eq_self (joinText_rooted xs).single]

/-- **When segments at the end may be joined beforehand**: if they are not all empty, or the slash
that is made of them otherwise is there already. -/
theorem joinText_concat_joinText_iff (xs ys : List (List Char)) :
    joinText (xs ++ [joinText ys]) = joinText (xs ++ ys) ↔
      (∃ y ∈ ys, y ≠ []) ∨ (joinText xs).getLast? = some '/' := by
  by_cases hys : ∃ y ∈ ys, y ≠ []
  · have hjoin := joinText_join hys xs []
    rw [List.append_nil] at hjoin
    exact iff_of_true hjoin (.inl hys)
  · have hempty : ∀ y ∈ ys, y = [] := by simpa using hys
    have hslash : joinText ys = ['/'] := joinText_append_of_forall_nil hempty []
    rw [hslash, joinText_concat_slash, joinText_append_of_forall_nil hempty]
    by_cases hlast : (joinText xs).getLast? = some '/' <;> simp [hlast, hys]

theorem filter_led (segment : List Char) :
    (led segment).filter (· ≠ '/') = segment.filter (· ≠ '/') := by
  cases segment <;> rfl

/-- But for slashes, what is joined are the segments. -/
theorem filter_joinText (segments : List (List Char)) :
    (joinText segments).filter (· ≠ '/') = segments.flatten.filter (· ≠ '/') := by
  rw [joinText_eq, filter_squeeze, List.filter_cons_of_neg (by decide), List.filter_flatMap,
    List.filter_flatten, ← List.flatMap_def]
  simp only [filter_led]

theorem toList_join (segments : List String) :
    (join segments).toList = joinText (segments.map String.toList) :=
  String.toList_ofList

theorem join_eq_join_iff {xs ys : List String} :
    join xs = join ys ↔ joinText (xs.map String.toList) = joinText (ys.map String.toList) :=
  String.ofList_inj

/-- **Joining is associative**: segments at the beginning may be joined beforehand, and those at the
end too if they are not all empty. Empty segments count for nothing, what is joined is rooted, and
all characters but slashes are kept. -/
theorem join_assoc (xs ys : List String) :
    join (join xs :: ys) = join (xs ++ ys) ∧
      (join (xs ++ [join ys]) = join (xs ++ ys) ↔
        (∃ y ∈ ys, y ≠ "") ∨ (join xs).toList.getLast? = some '/') ∧
      join (xs ++ "" :: ys) = join (xs ++ ys) ∧
      IsRooted (join xs).toList ∧
      (join xs).toList.filter (· ≠ '/') = (xs.flatMap String.toList).filter (· ≠ '/') := by
  have hsome : (∃ y ∈ ys.map String.toList, y ≠ []) ↔ ∃ y ∈ ys, y ≠ "" := by simp
  simp only [join_eq_join_iff, toList_join, List.map_append, List.map_cons, List.map_nil, ← hsome]
  exact ⟨joinText_cons_joinText _ _, joinText_concat_joinText_iff _ _,
    joinText_append_nil_cons _ _, joinText_rooted _, by rw [filter_joinText, List.flatMap_def]⟩

/-- Slashes at the ends of segments make no difference, and a lone slash is none at the end. -/
example :
    join ["//a/", "", "/b//c", "/"] = "/a/b/c/" ∧
      join ["//a/", join ["", "/b//c", "/"]] = "/a/b/c/" ∧ join ["a", join [""]] = "/a/" := by
  decide +kernel

end RouteTree.Template
