import Mathlib.Tactic
import Reduct.Library.Table
/-! This file states lookup in scopes as nested shadowing. A frame whose scope is found puts the
table of that scope before all tables that are searched without the frame, and a frame whose scope
is not found changes nothing. -/

namespace Reduct

/-- What a name stands for, kind by kind. -/
structure Meaning where
  function? : Option Function
  caster? : Option Caster
  constant? : Option Node
  preprocessor? : Option Preprocessor
  price? : Option Float
  opensScope : Bool

/-- Each kind comes from the inner meaning when it is there, and otherwise from the outer one. -/
def Meaning.or (inner outer : Meaning) : Meaning where
  function? := inner.function?.or outer.function?
  caster? := inner.caster?.or outer.caster?
  constant? := inner.constant?.or outer.constant?
  preprocessor? := inner.preprocessor?.or outer.preprocessor?
  price? := inner.price?.or outer.price?
  opensScope := inner.opensScope || outer.opensScope

/-- All that a library answers about a name in a scope. -/
def Library.meaning (library : Library) (name : String) (scope : Scope) : Meaning where
  function? := library.function? name scope
  caster? := library.caster? name scope
  constant? := library.constant? name scope
  preprocessor? := library.preprocessor? name scope
  price? := library.price? name scope
  opensScope := library.opensScope name scope

namespace Table

/-- The bindings of a name in the table itself. -/
def own (table : Table) (name : String) : Meaning where
  function? := Entries.get? name table.functions
  caster? := Entries.get? name table.casters
  constant? := Entries.get? name table.constants
  preprocessor? := Entries.get? name table.preprocessors
  price? := Entries.get? name table.prices
  opensScope := (Entries.get? name table.scopes).isSome

/-- The table nested under a name in the first of some tables that has one. -/
def nested? (name : String) (tables : List Table) : Option Table :=
  tables.findSome? fun table => Entries.get? name table.scopes

/-- The tables of frames, given innermost first, and the table itself after them. Each frame is
found among the tables outside of it, and one that is not found is passed over. -/
def searched (table : Table) : List String → List Table
  | [] => [table]
  | frame :: outer => (nested? frame (searched table outer)).toList ++ searched table outer

/-- The table that the innermost of some frames adds is found among those of the other frames. -/
theorem frameTables_snoc (table : Table) (enclosing : List Table) (frames : List String)
    (frame : String) :
    table.frameTables enclosing (frames ++ [frame]) =
      (table.frameTable? (table.frameTables enclosing frames) frame).toList ++
        table.frameTables enclosing frames := by
  induction frames generalizing enclosing with
  | nil =>
      simp only [List.nil_append, frameTables]
      cases table.frameTable? enclosing frame <;> rfl
  | cons outermost inner inductionHypothesis =>
      simp only [List.cons_append, frameTables]
      cases table.frameTable? enclosing outermost with
      | none => exact inductionHypothesis enclosing
      | some found => exact inductionHypothesis (found :: enclosing)

theorem frameTable?_eq (table : Table) (enclosing : List Table) (frame : String) :
    table.frameTable? enclosing frame = nested? frame (enclosing ++ [table]) := by
  rw [frameTable?, nested?, List.findSome?_append, List.findSome?_singleton]

/-- The tables of the frames of a scope stand before the table itself. -/
theorem frameTables_append (table : Table) (frames : List String) :
    table.frameTables [] frames ++ [table] = table.searched frames.reverse := by
  induction frames using List.reverseRecOn with
  | nil => rfl
  | append_singleton frames frame inductionHypothesis =>
      rw [frameTables_snoc, frameTable?_eq, List.append_assoc, inductionHypothesis,
        List.reverse_append, List.reverse_singleton, List.singleton_append, searched]

/-- An answer is that of the first table that has one. -/
theorem inScope_eq {α : Type} (table : Table) (scope : Scope) (lookup : Table → Option α) :
    table.inScope scope lookup = (table.searched scope.frames.reverse).findSome? lookup := by
  rw [← frameTables_append, List.findSome?_append, List.findSome?_singleton, inScope]

/-- A frame whose scope is found answers first. -/
theorem inScope_push {α : Type} (table : Table) (scope : Scope) (frame : String)
    (lookup : Table → Option α) :
    table.inScope (scope.push frame) lookup =
      ((nested? frame (table.searched scope.frames.reverse)).bind lookup).or
        (table.inScope scope lookup) := by
  rw [inScope_eq, inScope_eq, Scope.push, List.reverse_append, List.reverse_singleton,
    List.singleton_append, searched, List.findSome?_append]
  cases nested? frame (table.searched scope.frames.reverse) with
  | none => rfl
  | some inner => rw [Option.toList_some, List.findSome?_singleton, Option.bind_some]

/-- A name opens a scope when a table is found under it. With that table as a further frame a name
stands for what the table itself binds it to, and otherwise for what it stands for without the
frame. A name that opens no scope changes nothing as a further frame. -/
theorem meaning_push (table : Table) (scope : Scope) (frame : String) :
    let found := nested? frame (table.searched scope.frames.reverse)
    table.toLibrary.opensScope frame scope = found.isSome ∧
      ∀ name, table.toLibrary.meaning name (scope.push frame) =
        match found with
        | some inner => (inner.own name).or (table.toLibrary.meaning name scope)
        | none => table.toLibrary.meaning name scope := by
  intro found
  refine ⟨congrArg Option.isSome (table.inScope_eq scope _), fun name => ?_⟩
  simp only [Library.meaning, toLibrary, inScope_push]
  cases equal : nested? frame (table.searched scope.frames.reverse) with
  | none => simp [found, equal]
  | some inner => simp [found, equal, own, Meaning.or]

/-- A scope `outer` with a scope `inner` inside it, each of which binds a constant. -/
def twoScopes : Table :=
  { empty with
    scopes := [("outer", { empty with
      constants := [("depth", .string "one"), ("width", .string "two")]
      scopes := [("inner", { empty with constants := [("depth", .string "three")] })] })] }

-- A frame that is not found is passed over, and the frames around it are still searched.
example :
    twoScopes.toLibrary.constant? "depth" ⟨["outer", "absent", "inner"]⟩ = some (.string "three") ∧
      twoScopes.toLibrary.constant? "width" ⟨["outer", "absent", "inner"]⟩ = some (.string "two") ∧
      twoScopes.toLibrary.constant? "depth" ⟨["inner", "outer"]⟩ = some (.string "one") :=
  ⟨rfl, rfl, rfl⟩

end Table

end Reduct
