/-!
# Environment variables
-/

namespace QuoteBridge

/-- The variables of the environment by name. -/
structure Environment where
  bindings : List (String × String)
  deriving DecidableEq, Repr, Inhabited

namespace Environment

/-- Value of a variable. -/
def get? (env : Environment) (name : String) : Option String :=
  (env.bindings.find? (fun v => v.1 = name)).map (·.2)

/-- Whether a variable is set. -/
def has (env : Environment) (name : String) : Bool := (env.get? name).isSome

end Environment

end QuoteBridge
