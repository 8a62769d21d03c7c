import Reduct.Node.Text
import Reduct.Number.Binary
import Reduct.Standard.Argument

namespace Reduct.Standard

/-- The order of two doubles, and nothing when one of them is no number. -/
def compareNumbers (left right : Float) : Option Ordering :=
  if left < right then some .lt
  else if left == right then some .eq
  else if right < left then some .gt
  else none

/-- The order of two texts by code points. -/
def compareTexts (left right : String) : Ordering :=
  if left < right then .lt else if left = right then .eq else .gt

/-- Two texts compare as texts, and any other pair as numbers. -/
def compareNodes : Node → Node → Option Ordering
  | .string left, .string right => some (compareTexts left right)
  | left, right => compareNumbers left.toNumber right.toNumber

def twoNumbers : Signature := .ofTags ["number", "number"]

def unary (name : String) (operation : Float → Float) : Binding :=
  yields name (.ofTags ["number"]) fun arguments =>
    .number (operation (argument arguments 0).toNumber)

def binary (name : String) (operation : Float → Float → Float) : Binding :=
  yields name twoNumbers fun arguments =>
    .number (operation (argument arguments 0).toNumber (argument arguments 1).toNumber)

/-- A test on the order of two arguments, which fails when they have none. -/
def comparison (name : String) (accepts : Ordering → Bool) : Binding :=
  yields name twoNumbers fun arguments =>
    .bool ((compareNodes (argument arguments 0) (argument arguments 1)).any accepts)

/-- A function of the first two arguments. -/
def joint (name : String) (signature : Signature) (operation : Node → Node → Node) : Binding :=
  yields name signature fun arguments => operation (argument arguments 0) (argument arguments 1)

def operators : List Binding :=
  [ joint "+" twoNumbers Node.add,
    binary "-" (· - ·),
    binary "*" (· * ·),
    binary "/" (· / ·),
    binary "%" Number.remainder ]

def comparisons : List Binding :=
  [ joint "=" twoNumbers fun left right => .bool (left.equal right),
    .aliasFunction "==" "=",
    joint "!=" twoNumbers fun left right => .bool (!left.equal right),
    comparison ">" (· == .gt),
    comparison "<" (· == .lt),
    comparison ">=" (· != .lt),
    comparison "<=" (· != .gt) ]

/-- Truth values; a conjunction and a disjunction yield one of their arguments. -/
def connectives : List Binding :=
  let pair := Signature.ofTags ["*", "*"]
  [ joint "and" pair fun left right => if left.truthy then right else left,
    joint "or" pair fun left right => if left.truthy then left else right,
    joint "xor" pair fun left right => .bool (left.truthy != right.truthy),
    yields "not" (.ofTags ["*"]) fun arguments => .bool (!(argument arguments 0).truthy) ]

/-- Functions of doubles and the random draw. -/
def functionsOfNumbers : List Binding :=
  [ unary "math.abs" Float.abs,
    unary "math.ceil" Number.ceiling,
    unary "math.floor" Number.floor,
    unary "math.round" Number.roundHalfUp,
    unary "math.sqrt" Float.sqrt,
    unary "math.exp" Float.exp,
    unary "math.log" Float.log,
    binary "math.pow" Float.pow,
    binary "math.min" Number.minimum,
    binary "math.max" Number.maximum,
    acts "math.rand" .nothing fun _ _ => do pure (.number (← Action.random)) ]

def arithmetic : List Binding :=
  operators ++ comparisons ++ connectives ++ functionsOfNumbers

end Reduct.Standard
