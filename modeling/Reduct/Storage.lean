import Reduct.Entries
import Reduct.Error
import Reduct.Text.Ranges

namespace Reduct

/-- A store keeps one node for each first segment. -/
structure Storage where
  roots : List (String × Node)

namespace Storage

def empty : Storage := ⟨[]⟩

/-- A map fills a store, and any other node leaves it empty. -/
def ofNode : Node → Storage
  | .map entries => ⟨entries⟩
  | _ => empty

/-- Everything stored, as one map. -/
def toNode (storage : Storage) : Node :=
  .map storage.roots

def segments (path : String) : List String :=
  (Text.cut '.' path.toList).map String.ofList

/-- A segment that is a number of sixty-four bits names a position in a list. -/
def index? (segment : String) : Option Nat :=
  let digits := match segment.toList with
    | '+' :: rest => rest
    | chars => chars
  if digits.isEmpty then none else (Text.digits? 10 digits).filter (· < Nat.pow 2 64)

/-- The node under one segment; quotes are looked through. -/
def child? : Node → String → Option Node
  | .map entries, segment => Entries.get? segment entries
  | .list items, segment => (index? segment).bind (items[·]?)
  | .quote inner, segment => child? inner segment
  | _, _ => none

/-- The node under several segments. -/
def descend? : Node → List String → Option Node
  | node, [] => some node
  | node, segment :: rest => (child? node segment).bind (descend? · rest)

/-- The node at a path. -/
def get? (storage : Storage) (path : String) : Option Node :=
  match segments path with
  | [] => none
  | root :: rest => (Entries.get? root storage.roots).bind (descend? · rest)

def has (storage : Storage) (path : String) : Bool :=
  (storage.get? path).isSome

/-- A value replaces what stands under some segments. Lists grow by at most one item, and whatever
else is in the way becomes a map. -/
def assign (value : Node) : List String → Node → Except Error Node
  | [], _ => .ok value
  | segment :: rest, .list items =>
    match index? segment with
    | none => do pure (.map [(segment, ← assign value rest .null)])
    | some index =>
      match items[index]? with
      | some item => do pure (.list (items.set index (← assign value rest item)))
      | none =>
        if index = items.length then do pure (.list (items ++ [← assign value rest .null]))
        else .error (.typeError s!"list index at most {items.length}" segment)
  | segment :: rest, .map entries => do
    let item ← assign value rest ((Entries.get? segment entries).getD .null)
    pure (.map (Entries.insert segment item entries))
  | segment :: rest, _ => do pure (.map [(segment, ← assign value rest .null)])

def set (storage : Storage) (path : String) (value : Node) : Except Error Storage :=
  match segments path with
  | [] => .ok storage
  | root :: rest => do
    let node ← assign value rest ((Entries.get? root storage.roots).getD .null)
    pure ⟨Entries.insert root node storage.roots⟩

end Storage

end Reduct
