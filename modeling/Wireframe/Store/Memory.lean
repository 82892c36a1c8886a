import Wireframe.Store.Basic

/-!
# Stores in memory

The simplest store is a list of keys with their texts. It takes every key and never fails.
-/

namespace Wireframe

/-- A store that lasts as long as the program. It takes every key. -/
structure MemoryStore where
  entries : List (String × String)

namespace MemoryStore

/-- Nothing stored. -/
def empty : MemoryStore :=
  ⟨[]⟩

/-- The text saved last under a key. -/
def get? (s : MemoryStore) (key : String) : Option String :=
  List.lookup key s.entries

/-- A text saved under a key. -/
def put (s : MemoryStore) (key text : String) : MemoryStore :=
  ⟨(key, text) :: s.entries.filter fun entry => entry.1 ≠ key⟩

instance : KeyValueStore MemoryStore where
  load s key := .ok (s.get? key)
  save s key text := .ok (s.put key text)

end MemoryStore

end Wireframe
