/-!
# Node — The machines of a cluster
-/

namespace Inspection

/-- A machine and how to reach it. -/
structure Node where
  id : String
  host : String
  sshUser : Option String := none
  sshPort : Nat := 22
  sshKey : Option String := none
  sqlUrl : Option String := none
  /-- Commands run on this machine. -/
  isLocal : Bool := false
  /-- Variables of the node, by name. -/
  vars : List (String × String) := []
deriving DecidableEq, Repr

end Inspection
