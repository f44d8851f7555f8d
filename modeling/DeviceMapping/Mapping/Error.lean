/-
**Errors of the mapping operations.**

What a caller can get instead of a result: an unknown device or product, a rule that cannot be
bound, a store that cannot answer, or a load that ended without an answer.
-/

import DeviceMapping.Store.Basic

namespace DeviceMapping

/-- Why a mapping operation has no result. -/
inductive MappingError where
  | deviceNotFound (id : String)
  | productNotFound (id : String)
  | invalidRule (fault : RuleFault)
  | store (cause : StoreError)
  | loadCrashed

namespace MappingError

def ofStore : StoreError → MappingError
  | .deviceNotFound id => deviceNotFound id
  | .productNotFound id => productNotFound id
  | .invalidRule fault => invalidRule fault
  | cause => store cause

def isNotFound : MappingError → Bool
  | deviceNotFound _ | productNotFound _ => true
  | _ => false

/-- The text of an error whose text is this library's own. -/
def message? : MappingError → Option String
  | deviceNotFound id => some ("Not found: device " ++ id)
  | productNotFound id => some ("Not found: product " ++ id)
  | invalidRule fault => some ("Validation error: " ++ fault.message)
  | store _ | loadCrashed => none

end MappingError

end DeviceMapping
