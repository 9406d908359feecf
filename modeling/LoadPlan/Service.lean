/-!
# Services

The places a synthetic user can be in. A service is referred to by its id and shown by its
name.
-/

namespace LoadPlan

/-- A service of the system under load. -/
structure Service where
  /-- Identity, which session states and behavior models refer to. -/
  id : String
  /-- Name of plan nodes and label of matrix rows. -/
  name : String
deriving DecidableEq

namespace Service

/-- A service whose id is its name. -/
def named (name : String) : Service := ⟨name, name⟩

/-- The first service of a list with an id. -/
def find? (services : List Service) (id : String) : Option Service :=
  services.find? fun s => s.id == id

end Service

end LoadPlan
