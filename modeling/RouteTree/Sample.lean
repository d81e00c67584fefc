import RouteTree.Session

/-!
# A sample application

A lazy router with a group under a version, whose actions name methods of a controller or are
handlers themselves. Handlers are known by name; `Sample.reply` says what each replies.
-/

namespace RouteTree.Sample

variable [CharacterNames]

/-- The controllers and what their methods reply. -/
def controllers : List (String × List (String × String)) :=
  [("UsersController", [("index", "users"), ("show", "user")])]

/-- The text before and after the first at sign. -/
def splitAction (action : List Char) : Option (String × String) :=
  match action.dropWhile (· != '@') with
  | [] => none
  | _ :: method => some (String.ofList (action.takeWhile (· != '@')), String.ofList method)

/-- The handler of an action: a text with an at sign names a controller and its method, and anything
else is its own handler. -/
def resolve (action : Value) : Except Fault Value :=
  match action with
  | .str s =>
    match splitAction s.toList with
    | none => .ok action
    | some (controller, method) =>
      match controllers.lookup controller with
      | none => .error .absentKey
      | some methods =>
        if (methods.lookup method).isSome then .ok (.str method) else .error .absentAttribute
  | v => .ok v

/-- What the handlers reply that belong to no controller. -/
def replies : List (String × String) :=
  [("create_user", "created"), ("<lambda>", "static file")]

/-- What a handler replies; the middleware replies nothing. -/
def reply (handler : Value) : Value :=
  let known := replies ++ controllers.flatMap (·.2)
  match handler with
  | .str name => ((known.lookup name).map .str).getD .null
  | _ => .null

/-- The script of the application. -/
def script : List Step :=
  [.router "router"
      { mapper := .mapper "function" fun action _ _ => resolve action, debug := true } none [],
    .groupWith "router" "api"
      (.map [(.str "prefix", .str "/api/\x7bversion\x7d"),
        (.str "middleware", .list [.str "authenticate"]), (.str "namespace", .str "api.")])
      ⟨[(.str "patterns", .map [(.str "version", .str "v\\d+")])]⟩
      [.route "api" (.map [(.str "uri", .str "/users"), (.str "name", .str "users.index")])
          ⟨[(.str "method", .str "get")]⟩ (.str "UsersController@index") none,
        .route "api"
          (.map [(.str "uri", .str "/users/:id(\\d+)"), (.str "name", .str "users.show")])
          ⟨[(.str "method", .str "get")]⟩ (.str "UsersController@show") none,
        .route "api" (.str "/users")
          ⟨[(.str "middleware", .list [.str "log_request"]), (.str "method", .str "post")]⟩
          .null (some (.str "create_user"))],
    .serve "router" (.str "/static") (.str "<lambda>"),
    .apply "router" fun _ => none]

/-- The session after the script, with its answers. -/
def ran : Session × List Answer := Session.fresh.run script

mutual

/-- What an answer printed, and then its builder. -/
def printed : Answer → List Record
  | ⟨_, _, records, _, none⟩ => records
  | ⟨_, _, records, _, some answers⟩ => records ++ printedAll answers

/-- What answers printed. -/
def printedAll : List Answer → List Record
  | [] => []
  | a :: rest => printed a ++ printedAll rest

end

/-- The routes that were handed over, in order. -/
def table : List Entry :=
  ran.2.flatMap fun a => a.effects.filterMap fun
    | .handed e => some e
    | _ => none

/-- The url of a named route of the application. -/
def url (serializers : Serializers) (name : String) (params options : Params) :
    Except Fault String :=
  match ran.1.routers with
  | [] => .error (.unknownRoute (.str name))
  | r :: _ => r.url serializers name params options

/-- The lines that the application prints when it is run as a program. -/
def report : List String :=
  table.map (fun e => Text.toUpper e.method ++ " " ++ e.path ++ " " ++ e.handlers.length.repr) ++
    match url .none "api.users.show"
        ⟨[(.str "version", .str "v1"), (.str "id", .int 7),
          (.str "expand", .list [.str "posts"])]⟩ .empty with
    | .ok s => [s]
    | .error _ => []

/-- Everything the application prints. -/
def output (asProgram : Bool) : List String :=
  (printedAll ran.2).map Record.line ++ if asProgram then report else []

end RouteTree.Sample
