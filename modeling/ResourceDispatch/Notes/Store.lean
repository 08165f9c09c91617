import ResourceDispatch.Sorted

/-! A store of notes. Every note gets the number after the last one given out. -/

namespace ResourceDispatch.Notes

structure Note where
  id : Nat
  text : String
deriving DecidableEq, Repr

/-- Notes by number, in ascending order of the numbers, and the last number given out. -/
structure Store where
  lastId : Nat
  items : List (Nat × Note)
deriving DecidableEq, Repr

namespace Store

def empty : Store :=
  ⟨0, []⟩

def get? (store : Store) (id : Nat) : Option Note :=
  store.items.lookup id

/-- Adds a note under the next number, whatever number it came with. -/
def add (store : Store) (posted : Note) : Note × Store :=
  let id := store.lastId + 1
  let note := { posted with id }
  (note, ⟨id, Sorted.put id note store.items⟩)

def remove (store : Store) (id : Nat) : Store :=
  { store with items := store.items.filter fun (other, _) => other != id }

def notes (store : Store) : List Note :=
  store.items.map (·.2)

def size (store : Store) : Nat :=
  store.items.length

end Store

end ResourceDispatch.Notes
