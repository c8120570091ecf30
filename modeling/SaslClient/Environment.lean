/-!
# Environment

The variables that a process was started with. A variable whose value is not text counts as unset.
-/

namespace SaslClient

/-- The variables of a process. -/
structure Environment where
  value? : String → Option String

namespace Environment

/-- No variable is set. -/
def empty : Environment := ⟨fun _ => none⟩

/-- The environment in which these variables are set; the first of a name counts. -/
def ofList (pairs : List (String × String)) : Environment :=
  ⟨fun name => pairs.lookup name⟩

end Environment

end SaslClient
