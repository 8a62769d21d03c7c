namespace Reduct

/-- A scope is a stack of frame names, outermost first; the empty one is global. -/
structure Scope where
  frames : List String
  deriving DecidableEq, Repr

namespace Scope

def global : Scope := ⟨[]⟩

/-- A name becomes the innermost frame. -/
def push (scope : Scope) (name : String) : Scope :=
  ⟨scope.frames ++ [name]⟩

def isGlobal (scope : Scope) : Bool :=
  scope.frames.isEmpty

def innermost? (scope : Scope) : Option String :=
  scope.frames.getLast?

def depth (scope : Scope) : Nat :=
  scope.frames.length

/-- The frames between slashes, or a word for the global scope. -/
def display (scope : Scope) : String :=
  if scope.isGlobal then "<global>" else String.intercalate "/" scope.frames

end Scope

end Reduct
