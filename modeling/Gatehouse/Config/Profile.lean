import Gatehouse.Text.Blank

/-!
# Deployment profiles

A profile selects the built-in settings. Names are read in any letter case and an unknown name means
development.
-/

namespace Gatehouse.Config

/-- Where the gateway runs. -/
inductive Profile where
  | development
  | testing
  | production
deriving DecidableEq, Repr, Inhabited

namespace Profile

def name : Profile → String
  | .development => "development"
  | .testing => "testing"
  | .production => "production"

/-- The profile that a name stands for. -/
def ofName (s : String) : Profile :=
  let lower := Text.lowerAscii (Text.trim s)
  if lower = "testing" ∨ lower = "test" then .testing
  else if lower = "production" ∨ lower = "prod" then .production
  else .development

/-- Every name is read back as its profile. -/
theorem ofName_name (p : Profile) : ofName p.name = p := by
  cases p <;> decide

end Profile

end Gatehouse.Config
