/-!
# Rules of simulated services

A rule gives the answer to requests that match it. It is used up by the first of them, unless it
repeats.
-/

namespace BucketOperator.Simulation

/-- Which requests a rule is for. What is missing matches anything, and a path that begins with a
star matches by its end. -/
structure Pattern where
  method : Option String
  path : Option String
  deriving DecidableEq, Repr, Inhabited

namespace Pattern

def acceptsPath (pattern path : String) : Bool :=
  match pattern.toList with
  | '*' :: suffix => path.endsWith (String.ofList suffix)
  | _ => pattern == path

def accepts (p : Pattern) (method path : String) : Bool :=
  p.method.all (· == method) && p.path.all (acceptsPath · path)

end Pattern

/-- A rule with its answer. -/
structure Rule (α : Type) where
  pattern : Pattern
  repeats : Bool
  answer : α

namespace Rule

variable {α : Type}

/-- The answer of the first rule for a request, and the rules that are left. -/
def pick (method path : String) : List (Rule α) → Option α × List (Rule α)
  | [] => (none, [])
  | rule :: rest =>
    if rule.pattern.accepts method path then
      (some rule.answer, if rule.repeats then rule :: rest else rest)
    else
      let (answer, left) := pick method path rest
      (answer, rule :: left)

end Rule

end BucketOperator.Simulation
