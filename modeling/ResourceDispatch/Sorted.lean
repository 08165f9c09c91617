namespace ResourceDispatch.Sorted

def put [DecidableEq κ] [LT κ] [DecidableLT κ] (key : κ) (value : α) :
    List (κ × α) → List (κ × α)
  | [] => [(key, value)]
  | (other, kept) :: rest =>
    if key = other then (key, value) :: rest
    else if key < other then (key, value) :: (other, kept) :: rest
    else (other, kept) :: put key value rest

/-- Sorts pairs; of several with one key the last is kept. -/
def ofPairs (pairs : List (String × α)) : List (String × α) :=
  pairs.foldl (fun sorted (key, value) => put key value sorted) []

def distinct (texts : List String) : List String :=
  (ofPairs (texts.map fun text => (text, ()))).map (·.1)

end ResourceDispatch.Sorted
