import ResourceDispatch.Text.Case

namespace ResourceDispatch.Http

/-- Names with one text each, in the order in which they are kept. -/
abbrev Fields := List (String × String)

namespace Fields

def put (name value : String) : Fields → Fields
  | [] => [(name, value)]
  | (other, kept) :: rest =>
    if other = name then (name, value) :: rest else (other, kept) :: put name value rest

/-- Takes pairs in order; of several with one name the last counts. -/
def ofPairs (pairs : List (String × String)) : Fields :=
  pairs.foldl (fun fields (name, value) => put name value fields) []

def get? (name : String) (fields : Fields) : Option String :=
  fields.lookup name

/-- The text of the first name, as the fields are kept, that is the given one up to letter
case. -/
def find? (name : String) (fields : Fields) : Option String :=
  (List.find? (fun (other, _) => Text.sameUpToCase other name) fields).map (·.2)

theorem get?_put (name other value : String) (fields : Fields) :
    get? other (put name value fields) =
      if other = name then some value else get? other fields := by
  induction fields with
  | nil =>
    by_cases same : other = name
    · simp [put, get?, same]
    · have differs : (other == name) = false := by simpa using same
      simp [put, get?, List.lookup_cons, same, differs]
  | cons head rest ih =>
    obtain ⟨key, kept⟩ := head
    simp only [get?] at ih ⊢
    by_cases replaced : key = name
    · subst replaced
      by_cases same : other = key
      · simp [put, same]
      · have differs : (other == key) = false := by simpa using same
        simp [put, List.lookup_cons, same, differs]
    · by_cases same : other = key
      · subst same
        simp [put, replaced]
      · have differs : (other == key) = false := by simpa using same
        simp [put, replaced, List.lookup_cons, differs, ih]

end Fields

/-- A hash table keeps its fields in an order of its own, which nothing tells beforehand
and which may differ from one table to the next. -/
structure FieldOrder where
  arrange : Fields → Fields
  perm (fields : Fields) : (arrange fields).Perm fields

def FieldOrder.arrival : FieldOrder where
  arrange := id
  perm := List.Perm.refl

@[simp] theorem FieldOrder.arrange_arrival (fields : Fields) :
    FieldOrder.arrival.arrange fields = fields :=
  rfl

end ResourceDispatch.Http
