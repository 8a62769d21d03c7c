namespace Reduct.Entries

universe u

variable {α : Type u}

/-- A new key enters at its place in the order, and a known key takes the new value. -/
def insert (key : String) (value : α) : List (String × α) → List (String × α)
  | [] => [(key, value)]
  | (other, old) :: rest =>
    if key < other then (key, value) :: (other, old) :: rest
    else if key = other then (key, value) :: rest
    else (other, old) :: insert key value rest

def get? (key : String) (entries : List (String × α)) : Option α :=
  entries.lookup key

def keys (entries : List (String × α)) : List String :=
  entries.map (·.1)

def values (entries : List (String × α)) : List α :=
  entries.map (·.2)

/-- Pairs enter one by one, so the last pair of a key wins. -/
def ofPairs (pairs : List (String × α)) : List (String × α) :=
  pairs.foldl (fun entries pair => insert pair.1 pair.2 entries) []

/-- Each key stands before every later one. -/
def Ordered (entries : List (String × α)) : Prop :=
  (keys entries).Pairwise (· < ·)

end Reduct.Entries
