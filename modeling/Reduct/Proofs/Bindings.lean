import Mathlib.Tactic
import Reduct.Library.Table

namespace Reduct

namespace Entries

universe u

variable {α : Type u}

/-- An entry after an insertion is the new one or was there before. -/
theorem mem_of_mem_insert {key : String} {value : α} {entries : List (String × α)}
    {entry : String × α} (member : entry ∈ insert key value entries) :
    entry = (key, value) ∨ entry ∈ entries := by
  induction entries with
  | nil => simpa [insert] using member
  | cons other rest inductionHypothesis =>
      rw [insert] at member
      split_ifs at member with before same
      · simpa using member
      · rcases List.mem_cons.mp member with rfl | later
        · exact .inl rfl
        · exact .inr (.tail other later)
      · rcases List.mem_cons.mp member with rfl | later
        · exact .inr (.head rest)
        · rcases inductionHypothesis later with new | old
          · exact .inl new
          · exact .inr (.tail other old)

/-- A value that is found stands among the entries. -/
theorem mem_of_get? {key : String} {entries : List (String × α)} {value : α}
    (found : get? key entries = some value) : (key, value) ∈ entries := by
  obtain ⟨before, after, rfl, -⟩ := List.lookup_eq_some_iff.mp found
  simp

end Entries

section

variable (functions : Function → Prop) (preprocessors : Preprocessor → Prop)

/-- Functions and preprocessors of a table and of its scopes satisfy a property each. -/
inductive Table.Holds : Table → Prop
  | intro {table : Table} (own : ∀ entry ∈ table.functions, functions entry.2)
      (expanding : ∀ entry ∈ table.preprocessors, preprocessors entry.2)
      (inner : ∀ entry ∈ table.scopes, Table.Holds entry.2) : Table.Holds table

/-- The function or the preprocessor of a binding satisfies its property, and so do the bindings
of a scope. -/
inductive Binding.Holds : Binding → Prop
  | function (name : String) {function : Function} (own : functions function) :
      Binding.Holds (.function name function)
  | aliasFunction (aliasName name : String) : Binding.Holds (.aliasFunction aliasName name)
  | caster (name : String) (caster : Caster) : Binding.Holds (.caster name caster)
  | aliasCaster (aliasName name : String) : Binding.Holds (.aliasCaster aliasName name)
  | constant (name : String) (value : Node) : Binding.Holds (.constant name value)
  | preprocessor (name : String) {preprocessor : Preprocessor}
      (own : preprocessors preprocessor) : Binding.Holds (.preprocessor name preprocessor)
  | price (name : String) (price : Float) : Binding.Holds (.price name price)
  | scope (name : String) {function : Function} {bindings : List Binding}
      (own : functions function) (inner : ∀ binding ∈ bindings, Binding.Holds binding) :
      Binding.Holds (.scope name function bindings)

end

namespace Table

variable {functions : Function → Prop} {preprocessors : Preprocessor → Prop}

theorem holds_empty : empty.Holds functions preprocessors :=
  .intro (by simp [empty]) (by simp [empty]) (by simp [empty])

theorem Holds.bindFunction {table : Table} (holds : table.Holds functions preprocessors)
    (name : String) {function : Function} (own : functions function) :
    (table.bindFunction name function).1.Holds functions preprocessors := by
  obtain ⟨before, expanding, inner⟩ := holds
  refine .intro (fun entry member => ?_) expanding inner
  rcases Entries.mem_of_mem_insert member with rfl | old
  · exact own
  · exact before entry old

theorem Holds.copyPrice {table : Table} (holds : table.Holds functions preprocessors)
    (aliasName name : String) :
    (table.copyPrice aliasName name).Holds functions preprocessors := by
  obtain ⟨own, expanding, inner⟩ := holds
  unfold Table.copyPrice
  split
  · exact .intro own expanding inner
  · exact .intro own expanding inner

theorem Holds.addScope {table inner : Table} (holds : table.Holds functions preprocessors)
    (name : String) (nested : inner.Holds functions preprocessors) :
    ({ table with scopes := Entries.insert name inner table.scopes } : Table).Holds functions
      preprocessors := by
  obtain ⟨own, expanding, before⟩ := holds
  refine .intro own expanding fun entry member => ?_
  rcases Entries.mem_of_mem_insert member with rfl | old
  · exact nested
  · exact before entry old

/-- Several bindings keep a property that each of them keeps. -/
theorem Holds.bindAll_of_each {bindings : List Binding}
    (each : ∀ binding ∈ bindings, ∀ table : Table, table.Holds functions preprocessors →
      (table.bind binding).1.Holds functions preprocessors)
    {table : Table} (holds : table.Holds functions preprocessors) :
    (table.bindAll bindings).1.Holds functions preprocessors := by
  induction bindings generalizing table with
  | nil => simpa [bindAll] using holds
  | cons binding later inductionHypothesis =>
      rw [bindAll]
      exact inductionHypothesis (fun other member => each other (.tail binding member))
        (each binding (.head later) table holds)

/-- A binding that satisfies the properties leaves a table that does. -/
theorem Holds.bind {binding : Binding} (bound : binding.Holds functions preprocessors) :
    ∀ table : Table, table.Holds functions preprocessors →
      (table.bind binding).1.Holds functions preprocessors := by
  induction bound with
  | function name own =>
      intro table holds
      rw [Table.bind]
      exact holds.bindFunction name own
  | aliasFunction aliasName name =>
      intro table holds
      rw [Table.bind]
      split
      · rename_i function found
        obtain ⟨own, -, -⟩ := id holds
        exact (holds.copyPrice aliasName name).bindFunction aliasName
          (own _ (Entries.mem_of_get? found))
      · exact holds
  | caster name caster =>
      intro table holds
      obtain ⟨own, expanding, inner⟩ := holds
      rw [Table.bind]
      exact .intro own expanding inner
  | aliasCaster aliasName name =>
      intro table holds
      obtain ⟨own, expanding, inner⟩ := holds
      rw [Table.bind]
      split
      · exact .intro own expanding inner
      · exact .intro own expanding inner
  | constant name value =>
      intro table holds
      obtain ⟨own, expanding, inner⟩ := holds
      rw [Table.bind]
      exact .intro own expanding inner
  | preprocessor name new =>
      intro table holds
      obtain ⟨own, expanding, inner⟩ := holds
      rw [Table.bind]
      refine .intro own (fun entry member => ?_) inner
      rcases Entries.mem_of_mem_insert member with rfl | old
      · exact new
      · exact expanding entry old
  | price name price =>
      intro table holds
      obtain ⟨own, expanding, inner⟩ := holds
      rw [Table.bind]
      exact .intro own expanding inner
  | scope name own _ inductionHypothesis =>
      rename_i function bindings
      intro table holds
      obtain ⟨-, -, inner⟩ := id holds
      have previous : ((Entries.get? name table.scopes).getD empty).Holds functions
          preprocessors := by
        cases found : Entries.get? name table.scopes with
        | none => exact holds_empty
        | some scope => exact inner _ (Entries.mem_of_get? found)
      have nested := Holds.bindAll_of_each inductionHypothesis previous
      rw [Table.bind]
      exact (holds.addScope name nested).bindFunction name own

/-- Bindings that satisfy the properties make a table that does. -/
theorem holds_bindAll {bindings : List Binding}
    (bound : ∀ binding ∈ bindings, binding.Holds functions preprocessors) :
    (empty.bindAll bindings).1.Holds functions preprocessors :=
  Holds.bindAll_of_each (fun binding member => .bind (bound binding member)) holds_empty

/-- The tables of the frames of a scope satisfy the properties. -/
theorem Holds.frameTables {table : Table} (holds : table.Holds functions preprocessors)
    (frames : List String) (enclosing : List Table)
    (each : ∀ outer ∈ enclosing, outer.Holds functions preprocessors) :
    ∀ inner ∈ table.frameTables enclosing frames, inner.Holds functions preprocessors := by
  have entered (outer found : Table) (frame : String)
      (above : outer.Holds functions preprocessors)
      (scope : Entries.get? frame outer.scopes = some found) :
      found.Holds functions preprocessors := by
    obtain ⟨-, -, inner⟩ := above
    exact inner _ (Entries.mem_of_get? scope)
  induction frames generalizing enclosing with
  | nil => simpa [Table.frameTables] using each
  | cons frame inner inductionHypothesis =>
      rw [Table.frameTables]
      split
      · rename_i found lookup
        apply inductionHypothesis
        rintro outer (_ | ⟨_, old⟩)
        · rcases Option.or_eq_some_iff.mp lookup with within | ⟨-, global⟩
          · obtain ⟨outer, member, scope⟩ := List.exists_of_findSome?_eq_some within
            exact entered outer found frame (each outer member) scope
          · exact entered table found frame holds global
        · exact each outer old
      · exact inductionHypothesis enclosing each

/-- What a scope answers comes from a table that satisfies the properties. -/
theorem Holds.of_inScope {α : Type} {table : Table} (holds : table.Holds functions preprocessors)
    {scope : Scope} {lookup : Table → Option α} {answer : α}
    (found : table.inScope scope lookup = some answer) :
    ∃ inner : Table, inner.Holds functions preprocessors ∧ lookup inner = some answer := by
  rcases Option.or_eq_some_iff.mp found with within | ⟨-, global⟩
  · obtain ⟨inner, member, answered⟩ := List.exists_of_findSome?_eq_some within
    exact ⟨inner, holds.frameTables scope.frames [] (by simp) inner member, answered⟩
  · exact ⟨table, holds, global⟩

/-- Every function of the library satisfies its property. -/
theorem Holds.function {table : Table} (holds : table.Holds functions preprocessors)
    {name : String} {scope : Scope} {function : Function}
    (found : table.toLibrary.function? name scope = some function) : functions function := by
  obtain ⟨inner, ⟨own, -, -⟩, answered⟩ := holds.of_inScope found
  exact own _ (Entries.mem_of_get? answered)

/-- Every preprocessor of the library satisfies its property. -/
theorem Holds.preprocessor {table : Table} (holds : table.Holds functions preprocessors)
    {name : String} {scope : Scope} {preprocessor : Preprocessor}
    (found : table.toLibrary.preprocessor? name scope = some preprocessor) :
    preprocessors preprocessor := by
  obtain ⟨inner, ⟨-, expanding, -⟩, answered⟩ := holds.of_inScope found
  exact expanding _ (Entries.mem_of_get? answered)

end Table

end Reduct
