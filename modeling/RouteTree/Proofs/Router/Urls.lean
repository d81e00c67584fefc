import RouteTree.Proofs.Router.Uris
import RouteTree.Proofs.Url.Rooted

/-!
# Urls of named routes

Every uri that a router knows by a name is compiled from joined segments, so it begins with a slash
and has no two slashes side by side (`Reachable.rooted`). **The path of a url has no two slashes side
by side either, and it begins with a slash unless a placeholder at its beginning is left out and other
text follows** (`url_path`): what is left out takes its slash along, and nothing is put in the place
of that.
-/

namespace RouteTree.Router

open Text Template

/-! ## Registered uris -/

section

variable [CharacterNames]

/-- What a name is known for after an operation was known before, or is what the operation
returned. -/
theorem Event.get_after {e : Event} {name : String} {route : NamedRoute}
    (h : e.after.registry.get name = .ok route) :
    e.before.registry.get name = .ok route ∨
      ∃ entry, e.defined? = some entry ∧ route.uri = entry.uri := by
  have hroutes := registry_after e
  cases hnamed : e.named? with
  | none =>
    rw [hnamed] at hroutes
    refine .inl ?_
    rw [Registry.get, hroutes] at h
    exact h
  | some named =>
    obtain ⟨known, route'⟩ := named
    have hadded : e.after.registry = e.before.registry.add known route' := by
      rw [hnamed] at hroutes
      exact congrArg Registry.mk hroutes
    rw [hadded, Registry.get_add] at h
    split at h
    · obtain rfl := Except.ok.inj h
      obtain ⟨entry, hentry, hname⟩ := Option.bind_eq_some_iff.mp hnamed
      obtain ⟨full, -, heq⟩ := Option.map_eq_some_iff.mp hname
      exact .inr ⟨entry, hentry, congrArg NamedRoute.uri (Prod.mk.inj heq).2.symm⟩
    · exact .inl h

/-- **A uri that is known by a name is rooted.** -/
theorem Reachable.rooted {r : Router} (h : r.Reachable) {name : String} {route : NamedRoute}
    (hget : r.registry.get name = .ok route) : IsRooted route.uri.toList := by
  induction h with
  | fresh => exact absurd hget nofun
  | after _ ih =>
    rcases Event.get_after hget with hbefore | ⟨entry, hentry, huri⟩
    · exact ih hbefore
    · obtain ⟨_, _, hcompiles⟩ := Event.exists_compiles hentry
      rw [huri]
      exact hcompiles.isNormal.toIsRooted

/-! ## Their urls -/

/-- **What the url of a named route looks like.** It is a path with the query of what no placeholder
takes, and where the uri has no question mark in its text, the path is what stands before the first
one. The path has no two slashes side by side. It begins with a slash if its first placeholder is not
left out, and in any case just if nothing, or a slash, follows the ones that are left out. -/
theorem url_path {r : Router} (hr : r.Reachable) {serializers : Serializers} {name url : String}
    {params options : Params} (hencode : Query.isOn options "encode" true = true)
    (h : r.url serializers name params options = .ok url) :
    ∃ route query, r.registry.get name = .ok route ∧
      Url.queryOf serializers (Url.leftOver route.uri params) options = .ok query ∧
      url = Url.withQuery (Url.pathText true route.uri params) query ∧
      (.other '?' ∉ pieces placeholder route.uri.toList →
        url.toList.takeWhile (· != '?') = Url.pathText true route.uri params) ∧
      ¬ ['/', '/'] <:+: Url.pathText true route.uri params ∧
      ((Url.servedUri route.uri params).head?.all (!Url.isLeftOut ·) = true →
        (Url.pathText true route.uri params).head? = some '/') ∧
      ((Url.pathText true route.uri params).head? = some '/' ↔
        ((Url.servedUri route.uri params).dropWhile Url.isLeftOut).head?.all Url.leads = true) := by
  rw [Router.url, Registry.url] at h
  cases hget : r.registry.get name with
  | error fault =>
    rw [hget] at h
    cases h
  | ok route =>
    have hrooted := hr.rooted hget
    rw [hget] at h
    change Url.build serializers route.uri params route.constraints options = .ok url at h
    rw [Url.build_eq, hencode] at h
    cases hrefusal : Url.firstRefusal? route.uri route.constraints
        (Url.servedUri route.uri params) with
    | some fault =>
      rw [hrefusal] at h
      cases h
    | none =>
      rw [hrefusal] at h
      cases hquery : Url.queryOf serializers (Url.leftOver route.uri params) options with
      | error fault =>
        rw [hquery] at h
        cases h
      | ok query =>
        rw [hquery] at h
        obtain rfl := Except.ok.inj h
        refine ⟨route, query, rfl, hquery, rfl, fun hmark => ?_,
          Url.pathText_single hrooted.single params, fun hkept => ?_,
          Url.head?_pathText_iff route.uri params⟩
        · exact Url.takeWhile_withQuery (fun hin => hmark (Url.mem_pathText hin)) query
        · exact Url.head?_pathText_of_kept hrooted.head hkept

end

theorem eq_ok_of_toOption {α : Type} {x : Except Fault α} {a : α} (h : x.toOption = some a) :
    x = .ok a := by
  cases x with
  | error fault => exact absurd h nofun
  | ok b => exact congrArg Except.ok (Option.some.inj h)

/-- Groups and routes with optional parameters at the beginning of their uris. -/
def sampleUrls : List Operation :=
  [.group [] (.str "/\x7blang?\x7d/") .empty,
    .route [0] (.map [(.str "uri", .str "/items/\x7bid\x7d"), (.str "name", .str "item")]) .empty
      (.str "show"),
    .route [] (.map [(.str "uri", .str "/:kind?-list"), (.str "name", .str "list")]) .empty
      (.str "index")]

open scoped CharacterNames.Unnamed

theorem url_path_sampleUrls :
    (run (fresh "sample" false true none .keep) sampleUrls).Reachable ∧
      Query.isOn .empty "encode" true = true ∧
      (run (fresh "sample" false true none .keep) sampleUrls).url .none "item"
        ⟨[(.str "id", .str "a/b"), (.str "page", .int 2)]⟩ .empty = .ok "/items/a%2Fb?page=2" ∧
      ∃ route query,
        (run (fresh "sample" false true none .keep) sampleUrls).registry.get "item" = .ok route ∧
        "/items/a%2Fb?page=2" = Url.withQuery (Url.pathText true route.uri
          ⟨[(.str "id", .str "a/b"), (.str "page", .int 2)]⟩) query ∧
        ¬ ['/', '/'] <:+: Url.pathText true route.uri
          ⟨[(.str "id", .str "a/b"), (.str "page", .int 2)]⟩ := by
  have hreachable : (run (fresh "sample" false true none .keep) sampleUrls).Reachable :=
    reachable_iff_run.mpr ⟨_, _, _, _, _, _, rfl⟩
  have hencode : Query.isOn .empty "encode" true = true := rfl
  have hurl : (run (fresh "sample" false true none .keep) sampleUrls).url .none "item"
      ⟨[(.str "id", .str "a/b"), (.str "page", .int 2)]⟩ .empty = .ok "/items/a%2Fb?page=2" :=
    eq_ok_of_toOption (by decide +kernel)
  obtain ⟨route, query, hget, -, heq, -, hsingle, -⟩ := url_path hreachable hencode hurl
  exact ⟨hreachable, hencode, hurl, route, query, hget, heq, hsingle⟩

/-- Without the optional parameter that its uri begins with, the path of a url begins with the text
behind it. -/
theorem url_path_leftOut :
    (run (fresh "sample" false true none .keep) sampleUrls).Reachable ∧
      Query.isOn .empty "encode" true = true ∧
      (run (fresh "sample" false true none .keep) sampleUrls).url .none "list" .empty .empty =
        .ok "-list" ∧
      "-list".toList.head? ≠ some '/' :=
  ⟨reachable_iff_run.mpr ⟨_, _, _, _, _, _, rfl⟩, rfl, eq_ok_of_toOption (by decide +kernel),
    by decide +kernel⟩

end RouteTree.Router
