import CloudInventory.Proofs.Listing.Nested
import CloudInventory.Proofs.Scan.Refusals
import CloudInventory.Proofs.Scan.Completeness

/-! Suppliers of nested types in a scan. Such a supplier makes its calls in one order, and the first
problem that it meets is its end: nothing is called, read or returned after it. -/

namespace CloudInventory.Survey

open Listing (Heard Asks Stops Passed Comes Chain Complete Walked childRequest firstRequest)

variable {project : String} {types : List ResourceType} {limit : Nat} {alerts : Alerts}
  {u : Survey} {i : Nat} {t : ResourceType} {n : Nesting} {progress : Progress}

def zones : Nesting := ⟨.dnsManagedZone, "name", "managedZone"⟩

end CloudInventory.Survey
