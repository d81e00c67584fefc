import RouteTree.Router.Basic

/-!
# Acts on a router

To define something on a router is an act: it looks at the router, has effects on the way, and
changes the router piece by piece. An act may fail at any point, and nothing is rolled back: what it
changed before it failed stays changed.
-/

namespace RouteTree

/-- What comes of an act. -/
structure Acted (α : Type) extends Attempt α where
  /-- The router as the act leaves it. -/
  router : Router

/-- A computation that looks at a router and may change it. -/
def Act (α : Type) := Router → Acted α

namespace Act

variable {α β : Type}

/-- Attempts something that leaves the router as it is. -/
def look (read : Router → Attempt α) : Act α := fun r => { toAttempt := read r, router := r }

/-- Changes the router. -/
def change (f : Router → Router) : Act Unit := fun r =>
  { toAttempt := .succeed (), router := f r }

/-- Goes on with the result, if there is one, and with the router that is left. -/
def andThen (x : Act α) (next : α → Act β) : Act β := fun r =>
  match (x r).outcome with
  | .ok a =>
    let rest := next a (x r).router
    { rest with effects := (x r).effects ++ rest.effects }
  | .error f => { effects := (x r).effects, outcome := .error f, router := (x r).router }

instance : Monad Act where
  pure a := look fun _ => .succeed a
  bind := andThen

/-- A result that does not depend on the router. -/
def ofExcept (x : Except Fault α) : Act α := look fun _ => .ofExcept x

/-- Writes to the log. -/
def notice (level : Level) (message : String) : Act Unit := look fun _ => .notice level message

@[simp] theorem pure_eq_look (a : α) : (pure a : Act α) = look fun _ => .succeed a := rfl

@[simp] theorem bind_eq_andThen (x : Act α) (next : α → Act β) :
    (x >>= next) = x.andThen next := rfl

end Act

end RouteTree
