/-
This file defines the store that fields are saved in.
-/

import Formwork.Error

namespace Formwork

/-- Stored values by key. A store may refuse every write. -/
structure Store where
  entries : Entries Json := []
  readOnly : Bool := false
deriving DecidableEq

namespace Store

instance : Inhabited Store := ⟨{}⟩

def get? (store : Store) (key : String) : Option Json :=
  store.entries.find? key

def set (store : Store) (key : String) (value : Json) : Except Error Store :=
  if store.readOnly then .error (.storage "read-only")
  else .ok { store with entries := store.entries.put key value }

end Store

end Formwork
