import Reduct.Number.Binary
import Reduct.Standard.Arithmetic
/-! This file binds the functions on lists. A function that takes a closure leaves one call for each
item and a finalizer around them, which joins the results once every call is reduced. -/

namespace Reduct.Standard

/-- The item at a position that is a whole number and not negative. -/
def itemAt? (items : List Node) (position : Float) : Option Node :=
  match Number.integer? position with
  | some (Int.ofNat index) => items[index]?
  | _ => none

/-- The items of all arguments, which must be lists. -/
def concatenate : List Node → Except Error (List Node)
  | [] => .ok []
  | .list items :: rest => do pure (items ++ (← concatenate rest))
  | other :: _ => .error (.mistyped "list" other)

def callOf (function arguments : List Node) : Node :=
  .list (.string "call" :: .quotedList function :: arguments)

/-- Calls are nested around the starting value, so that each one waits for the one before it. -/
def fold (arguments : List Node) : Except Error Node := do
  let items ← listArgument arguments 0
  let function ← listArgument arguments 1
  pure (items.foldl (fun accumulator item => callOf function [accumulator, item.withheld])
    (argument arguments 2).withheld)

/-- The items whose results count as true or as false. -/
def select (kept : Bool) (elements results : List Node) : List Node :=
  ((elements.zip results).filter fun (_, result) => result.truthy == kept).map (·.1)

/-- The position of the last result that counts as true. -/
def lastTruthy? (results : List Node) : Option Nat :=
  (results.reverse.findIdx? Node.truthy).map (results.length - 1 - ·)

def elementAt (elements : List Node) (index : Option Nat) : Node :=
  found (index.bind (elements[·]?))

/-- An item joins the members of its group. -/
def joinGroup (groups : List (String × List Node)) (member : Node × Node) :
    List (String × List Node) :=
  let key := member.2.toText
  Entries.insert key ((Entries.get? key groups).getD [] ++ [member.1]) groups

/-- Items under the texts of their results. -/
def groupBy (elements results : List Node) : Node :=
  .map (((elements.zip results).foldl joinGroup []).map fun (key, members) => (key, .list members))

/-- Numbers are ordered as numbers, texts as texts, and any other keys by their texts. -/
def compareKeys : Node → Node → Ordering
  | .number left, .number right => (compareNumbers left right).getD .eq
  | left, right => compareTexts left.toText right.toText

/-- Items in the order of their results; items with equal results keep their order. -/
def sortBy (elements results : List Node) : List Node :=
  ((elements.zip results).mergeSort fun left right =>
    compareKeys left.2 right.2 != .gt).map (·.1)

def finalizerName (name : String) : String :=
  s!"_{name}-finalize"

/-- One call for each item, with the items themselves at the end, under the finalizer. -/
def mapCalls (name : String) (arguments : List Node) : Except Error Node := do
  let items ← listArgument arguments 0
  let function ← listArgument arguments 1
  pure (.list (.string (finalizerName name) ::
    items.map (fun item => callOf function [item]) ++ [.quotedList items]))

/-- The last argument holds the items and the others are the results. -/
def finalize (combine : List Node → List Node → Node) (arguments : List Node) : Node :=
  let elements :=
    match arguments.getLast? with
    | some (.list items) => items
    | _ => []
  combine elements arguments.dropLast

/-- A function that takes a closure, and its finalizer. -/
def mapper (name : String) (combine : List Node → List Node → Node) : List Binding :=
  [ computes name (.ofTags ["list", "list"]) (mapCalls name),
    yields (finalizerName name) (.ofTags ["list", "..."]) (finalize combine) ]

def listFunctions : List Binding :=
  let one := Signature.ofTags ["list"]
  [ computes "list.length" one fun arguments => do
      pure (.number (Float.ofNat (← listArgument arguments 0).length)),
    computes "list.first" one fun arguments => do
      pure (found (← listArgument arguments 0).head?),
    computes "list.last" one fun arguments => do
      pure (found (← listArgument arguments 0).getLast?),
    computes "list.nth" (.ofTags ["list", "number"]) fun arguments => do
      pure (found (itemAt? (← listArgument arguments 0) (argument arguments 1).toNumber)),
    computes "list.concat" (.ofTags ["list", "..."]) fun arguments => do
      pure (.quotedList (← concatenate arguments)),
    computes "list.reverse" one fun arguments => do
      pure (.quotedList (← listArgument arguments 0).reverse),
    computes "list.reduce" (.ofTags ["list", "list", "*"]) fold ]

def listMappers : List Binding :=
  mapper "list.map" (fun _ results => .quotedList results) ++
  mapper "list.filter" (fun elements results => .quotedList (select true elements results)) ++
  mapper "list.reject" (fun elements results => .quotedList (select false elements results)) ++
  mapper "list.every" (fun _ results => .bool (results.all Node.truthy)) ++
  mapper "list.some" (fun _ results => .bool (results.any Node.truthy)) ++
  mapper "list.find" (fun elements results =>
    elementAt elements (results.findIdx? Node.truthy)) ++
  mapper "list.find-index" (fun _ results =>
    .number (((results.findIdx? Node.truthy).map Float.ofNat).getD (-1.0))) ++
  mapper "list.find-last" (fun elements results =>
    elementAt elements (lastTruthy? results)) ++
  mapper "list.partition" (fun elements results =>
    .quotedList [.list (select true elements results), .list (select false elements results)]) ++
  mapper "list.group-by" groupBy ++
  mapper "list.sort-by" (fun elements results => .quotedList (sortBy elements results))

def lists : List Binding :=
  listFunctions ++ listMappers

end Reduct.Standard
