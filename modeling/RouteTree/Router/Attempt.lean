import RouteTree.Fault
import RouteTree.Log
import RouteTree.Options
import RouteTree.Router.Node

/-!
# Attempts

What a router does is an attempt: it ends in a result or in a fault, and either way it has had some
effects on the way, which the fault does not undo. An attempt that fails has no result, so whoever
made it keeps what was there before.
-/

namespace RouteTree

/-- What whoever resolves an action is told about its route. -/
structure Description where
  uri : String
  middleware : List Value
  name : String
  constraints : Constraints
  metadata : Params
deriving Repr

/-- What happens outside the router. -/
inductive Effect where
  /-- Something for the log. -/
  | notice (level : Level) (message : String)
  /-- The host is asked to register a path. -/
  | registered (method path : String) (handlers : List Value)
  /-- The mapper is asked to resolve an action. -/
  | mapped (action : Value) (description : Description) (options : RouteOptions)
  /-- A route is handed over. -/
  | handed (entry : Entry)
deriving Repr

/-- A computation that has effects and may fail. -/
structure Attempt (α : Type) where
  effects : List Effect
  outcome : Except Fault α

namespace Attempt

variable {α β : Type}

/-- Succeeds without effects. -/
def succeed (a : α) : Attempt α := ⟨[], .ok a⟩

/-- Fails without effects. -/
def fail (f : Fault) : Attempt α := ⟨[], .error f⟩

/-- Goes on with the result, if there is one. -/
def andThen (x : Attempt α) (next : α → Attempt β) : Attempt β :=
  match x.outcome with
  | .ok a => ⟨x.effects ++ (next a).effects, (next a).outcome⟩
  | .error f => ⟨x.effects, .error f⟩

instance : Monad Attempt where
  pure := succeed
  bind := andThen

/-- A result that needs no effects. -/
def ofExcept (x : Except Fault α) : Attempt α := ⟨[], x⟩

/-- Has one effect. -/
def emit (e : Effect) : Attempt Unit := ⟨[e], .ok ()⟩

/-- Writes to the log. -/
def notice (level : Level) (message : String) : Attempt Unit := emit (.notice level message)

@[simp] theorem pure_eq_succeed (a : α) : (pure a : Attempt α) = succeed a := rfl

@[simp] theorem bind_eq_andThen (x : Attempt α) (next : α → Attempt β) :
    (x >>= next) = x.andThen next := rfl

@[simp] theorem succeed_andThen (a : α) (next : α → Attempt β) :
    (succeed a).andThen next = next a := by
  simp [andThen, succeed]

theorem andThen_assoc {γ : Type} (x : Attempt α) (next : α → Attempt β) (last : β → Attempt γ) :
    (x.andThen next).andThen last = x.andThen fun a => (next a).andThen last := by
  unfold andThen
  cases x.outcome with
  | error fault => rfl
  | ok a => cases hnext : (next a).outcome <;> simp [hnext]

@[simp] theorem fail_andThen (f : Fault) (next : α → Attempt β) :
    (fail f : Attempt α).andThen next = fail f := rfl

end Attempt

end RouteTree
