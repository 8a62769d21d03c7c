import Reduct.Library

namespace Reduct

/-- A table binds names, and its scopes are further tables. -/
structure Table where
  functions : List (String × Function)
  casters : List (String × Caster)
  constants : List (String × Node)
  preprocessors : List (String × Preprocessor)
  prices : List (String × Float)
  scopes : List (String × Table)

inductive Binding where
  | function (name : String) (function : Function)
  | aliasFunction (aliasName name : String)
  | caster (name : String) (caster : Caster)
  | aliasCaster (aliasName name : String)
  | constant (name : String) (value : Node)
  | preprocessor (name : String) (preprocessor : Preprocessor)
  | price (name : String) (price : Float)
  | scope (name : String) (function : Function) (bindings : List Binding)

namespace Table

def empty : Table := ⟨[], [], [], [], [], []⟩

/-- A name that is bound already leaves a note. -/
def redefinition {α : Type} (kind : Binding.Kind) (name : String) (entries : List (String × α)) :
    List Note :=
  if (Entries.get? name entries).isSome then [.redefined kind name] else []

def bindFunction (table : Table) (name : String) (function : Function) : Table × List Note :=
  ({ table with functions := Entries.insert name function table.functions },
    redefinition .function name table.functions)

/-- The price of a function goes with its alias. -/
def copyPrice (table : Table) (aliasName name : String) : Table :=
  match Entries.get? name table.prices with
  | some price => { table with prices := Entries.insert aliasName price table.prices }
  | none => table

mutual

/-- The table after one binding, with the notes that it leaves. -/
def bind (table : Table) : Binding → Table × List Note
  | .function name function => table.bindFunction name function
  | .aliasFunction aliasName name =>
    match Entries.get? name table.functions with
    | some function => (table.copyPrice aliasName name).bindFunction aliasName function
    | none => (table, [.aliasUndefined .function aliasName name])
  | .caster name caster =>
    ({ table with casters := Entries.insert name caster table.casters },
      redefinition .type name table.casters)
  | .aliasCaster aliasName name =>
    match Entries.get? name table.casters with
    | some caster => ({ table with casters := Entries.insert aliasName caster table.casters }, [])
    | none => (table, [.aliasUndefined .type aliasName name])
  | .constant name value =>
    ({ table with constants := Entries.insert name value table.constants },
      redefinition .constant name table.constants)
  | .preprocessor name preprocessor =>
    ({ table with preprocessors := Entries.insert name preprocessor table.preprocessors },
      redefinition .preprocessor name table.preprocessors)
  | .price name price => ({ table with prices := Entries.insert name price table.prices }, [])
  | .scope name function bindings =>
    let (inner, innerNotes) := bindAll ((Entries.get? name table.scopes).getD empty) bindings
    let outer := { table with scopes := Entries.insert name inner table.scopes }
    let (bound, notes) := outer.bindFunction name function
    (bound, innerNotes ++ notes)

/-- The table after several bindings, with the notes in order. -/
def bindAll (table : Table) : List Binding → Table × List Note
  | [] => (table, [])
  | binding :: later =>
    let (bound, notes) := table.bind binding
    let (final, laterNotes) := bindAll bound later
    (final, notes ++ laterNotes)

end

def functionNames (table : Table) : List String :=
  Entries.keys table.functions

def hasFunction (table : Table) (name : String) : Bool :=
  (Entries.get? name table.functions).isSome

/-- The table of a frame among enclosing tables, innermost first, and then among the global ones. -/
def frameTable? (table : Table) (enclosing : List Table) (frame : String) : Option Table :=
  (enclosing.findSome? fun outer => Entries.get? frame outer.scopes).or
    (Entries.get? frame table.scopes)

/-- The tables of frames, innermost first; a frame without a table is passed over. -/
def frameTables (table : Table) : List Table → List String → List Table
  | enclosing, [] => enclosing
  | enclosing, frame :: inner =>
    match table.frameTable? enclosing frame with
    | some found => frameTables table (found :: enclosing) inner
    | none => frameTables table enclosing inner

/-- The innermost answer of the tables of a scope, or else the answer of the table itself. -/
def inScope {α : Type} (table : Table) (scope : Scope) (lookup : Table → Option α) : Option α :=
  ((table.frameTables [] scope.frames).findSome? lookup).or (lookup table)

def toLibrary (table : Table) : Library where
  function? name scope := table.inScope scope fun inner => Entries.get? name inner.functions
  caster? name scope := table.inScope scope fun inner => Entries.get? name inner.casters
  constant? name scope := table.inScope scope fun inner => Entries.get? name inner.constants
  preprocessor? name scope := table.inScope scope fun inner => Entries.get? name inner.preprocessors
  price? name scope := table.inScope scope fun inner => Entries.get? name inner.prices
  opensScope name scope := (table.inScope scope fun inner => Entries.get? name inner.scopes).isSome

end Table

end Reduct
