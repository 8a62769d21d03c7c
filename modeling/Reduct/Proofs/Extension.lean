import Reduct.Proofs.Lookup
import Reduct.Standard

namespace Reduct

def Binding.name : Binding → String
  | .function name _ => name
  | .aliasFunction aliasName _ => aliasName
  | .caster name _ => name
  | .aliasCaster aliasName _ => aliasName
  | .constant name _ => name
  | .preprocessor name _ => name
  | .price name _ => name
  | .scope name _ _ => name

/-- A binding that gives neither a price nor a scope. -/
def Binding.isPlain : Binding → Bool
  | .price _ _ => false
  | .scope _ _ _ => false
  | _ => true

namespace Table

/-- Tables that give a name the same function, the same price and the same scope. -/
structure AlikeAt (name : String) (left right : Table) : Prop where
  functions : Entries.get? name left.functions = Entries.get? name right.functions
  prices : Entries.get? name left.prices = Entries.get? name right.prices
  scopes : Entries.get? name left.scopes = Entries.get? name right.scopes

/-- A binding leaves other names as they are. -/
theorem alikeAt_bind (table : Table) (binding : Binding) (name : String)
    (different : binding.name ≠ name) : AlikeAt name (table.bind binding).1 table := by
  have functions : binding.functionName? ≠ some name := by
    cases binding with
    | function | aliasFunction | scope => exact fun same => different (Option.some.inj same)
    | _ => exact nofun
  refine ⟨table.get?_bind_of_ne binding name functions, ?_, ?_⟩
  · cases binding with
    | aliasFunction aliasName other =>
        rw [bind]
        cases Entries.get? other table.functions with
        | none => rfl
        | some function =>
            simp only [bindFunction, copyPrice]
            cases Entries.get? other table.prices with
            | none => rfl
            | some price => exact (Entries.get?_insert _ _ _ _).trans (if_neg different.symm)
    | price other price =>
        rw [bind]
        exact (Entries.get?_insert _ _ _ _).trans (if_neg different.symm)
    | aliasCaster aliasName other =>
        rw [bind]
        cases Entries.get? other table.casters <;> rfl
    | _ => rfl
  · cases binding with
    | aliasFunction aliasName other =>
        rw [bind]
        cases Entries.get? other table.functions with
        | none => rfl
        | some function =>
            simp only [bindFunction, copyPrice]
            cases Entries.get? other table.prices <;> rfl
    | scope other function bindings =>
        rw [bind]
        exact (Entries.get?_insert _ _ _ _).trans (if_neg different.symm)
    | aliasCaster aliasName other =>
        rw [bind]
        cases Entries.get? other table.casters <;> rfl
    | _ => rfl

theorem alikeAt_bindAll (table : Table) (bindings : List Binding) (name : String)
    (different : ∀ binding ∈ bindings, binding.name ≠ name) :
    AlikeAt name (table.bindAll bindings).1 table := by
  induction bindings generalizing table with
  | nil =>
      rw [bindAll]
      exact ⟨rfl, rfl, rfl⟩
  | cons binding later inductionHypothesis =>
      rw [bindAll]
      have first := table.alikeAt_bind binding name (different binding (.head later))
      have others := inductionHypothesis (table.bind binding).1
        fun other member => different other (.tail binding member)
      exact ⟨others.functions.trans first.functions, others.prices.trans first.prices,
        others.scopes.trans first.scopes⟩

/-- Plain bindings leave a table without prices and scopes as it is in this. -/
theorem bindAll_plain (table : Table) (bindings : List Binding)
    (plain : ∀ binding ∈ bindings, binding.isPlain = true) (unpriced : table.prices = [])
    (closed : table.scopes = []) :
    (table.bindAll bindings).1.prices = [] ∧ (table.bindAll bindings).1.scopes = [] := by
  have step (table : Table) (binding : Binding) (plain : binding.isPlain = true)
      (unpriced : table.prices = []) (closed : table.scopes = []) :
      (table.bind binding).1.prices = [] ∧ (table.bind binding).1.scopes = [] := by
    cases binding with
    | price | scope => cases plain
    | aliasFunction aliasName other =>
        rw [bind]
        cases Entries.get? other table.functions with
        | none => exact ⟨unpriced, closed⟩
        | some function =>
            simp only [bindFunction, copyPrice, unpriced]
            exact ⟨unpriced, closed⟩
    | aliasCaster aliasName other =>
        rw [bind]
        cases Entries.get? other table.casters <;> exact ⟨unpriced, closed⟩
    | _ => exact ⟨unpriced, closed⟩
  induction bindings generalizing table with
  | nil =>
      rw [bindAll]
      exact ⟨unpriced, closed⟩
  | cons binding later inductionHypothesis =>
      rw [bindAll]
      obtain ⟨prices, scopes⟩ := step table binding (plain binding (.head later)) unpriced closed
      exact inductionHypothesis _ (fun other member => plain other (.tail binding member)) prices
        scopes

/-- A function that is bound to a name once is the function of the name. -/
theorem get?_bindAll_of_mem (table : Table) {bindings : List Binding}
    (distinct : (bindings.filterMap Binding.functionName?).Nodup) {name : String}
    {function : Function} (member : .function name function ∈ bindings) :
    Entries.get? name (table.bindAll bindings).1.functions = some function := by
  induction bindings generalizing table with
  | nil => cases member
  | cons binding later inductionHypothesis =>
      rw [bindAll]
      rcases List.mem_cons.mp member with rfl | inside
      · rw [List.filterMap_cons_some (by rfl), List.nodup_cons] at distinct
        refine (get?_bindAll_of_ne _ later name fun other member same => ?_).trans ?_
        · exact distinct.1 (List.mem_filterMap.mpr ⟨other, member, same⟩)
        · rw [bind, bindFunction, Entries.get?_insert, if_pos rfl]
      · refine inductionHypothesis _ (distinct.sublist ?_) inside
        exact (List.sublist_cons_self binding later).filterMap _

end Table

/-- A name that stands for a function in the global scope, has no price and opens no scope. -/
structure Library.Offers (library : Library) (name : String) (function : Function) : Prop where
  bound : library.function? name .global = some function
  unpriced : library.price? name .global = none
  closed : library.opensScope name .global = false

namespace Table

/-- A table without prices and scopes offers its functions. -/
theorem offers_of_get? {table : Table} (unpriced : table.prices = []) (closed : table.scopes = [])
    {name : String} {function : Function}
    (found : Entries.get? name table.functions = some function) :
    table.toLibrary.Offers name function := by
  refine ⟨found, ?_, ?_⟩
  · change Entries.get? name table.prices = none
    rw [unpriced]
    rfl
  · change (Entries.get? name table.scopes).isSome = false
    rw [closed]
    rfl

/-- Tables that agree on a name offer the same function under it. -/
theorem AlikeAt.offers {left right : Table} {name : String} (alike : AlikeAt name left right)
    {function : Function} (offers : right.toLibrary.Offers name function) :
    left.toLibrary.Offers name function :=
  ⟨alike.functions.trans offers.bound, alike.prices.trans offers.unpriced,
    (congrArg Option.isSome alike.scopes).trans offers.closed⟩

end Table

/-- The standard library with bindings under names that it gives no function. -/
def Library.ExtendsStandard (library : Library) : Prop :=
  ∃ added : List Binding,
    (∀ binding ∈ added, Standard.table.hasFunction binding.name = false) ∧
      library = (Standard.table.bindAll added).1.toLibrary

namespace Standard

/-- No two bindings of the standard library give a function to one name. -/
theorem nodup_functionNames : (bindings.filterMap Binding.functionName?).Nodup := by
  decide +kernel

theorem isPlain_of_mem : ∀ binding ∈ bindings, binding.isPlain = true := by
  rw [← List.all_eq_true]
  decide +kernel

/-- The standard library has neither prices nor scopes. -/
theorem plain_table : table.prices = [] ∧ table.scopes = [] := by
  rw [table]
  exact Table.bindAll_plain .empty bindings isPlain_of_mem rfl rfl

theorem get?_table {name : String} {function : Function}
    (member : .function name function ∈ bindings) :
    Entries.get? name table.functions = some function := by
  rw [table]
  exact Table.get?_bindAll_of_mem .empty nodup_functionNames member

theorem hasFunction_table {name : String}
    (absent : name ∉ bindings.filterMap Binding.functionName?) :
    table.hasFunction name = false := by
  have missing : Entries.get? name table.functions = none := by
    rw [table]
    exact Table.get?_bindAll_of_ne .empty bindings name fun binding member same =>
      absent (List.mem_filterMap.mpr ⟨binding, member, same⟩)
  rw [Table.hasFunction, missing, Option.isSome_none]

theorem extendsStandard_library : library.ExtendsStandard := by
  refine ⟨[], by simp, ?_⟩
  rw [Table.bindAll, library]

/-- An extension offers the functions of the standard library. -/
theorem offers_of_mem {library : Library} (extended : library.ExtendsStandard) {name : String}
    {function : Function} (member : .function name function ∈ bindings) :
    library.Offers name function := by
  obtain ⟨added, fresh, rfl⟩ := extended
  have found := get?_table member
  have alike := table.alikeAt_bindAll added name fun binding inside same => by
    have absent := fresh binding inside
    rw [same, Table.hasFunction, found] at absent
    cases absent
  exact alike.offers (Table.offers_of_get? plain_table.1 plain_table.2 found)

/-- An extension by plain bindings offers what they bind. -/
theorem offers_added {added : List Binding}
    (distinct : (added.filterMap Binding.functionName?).Nodup)
    (plain : ∀ binding ∈ added, binding.isPlain = true) {name : String} {function : Function}
    (member : .function name function ∈ added) :
    (table.bindAll added).1.toLibrary.Offers name function := by
  obtain ⟨unpriced, closed⟩ := table.bindAll_plain added plain plain_table.1 plain_table.2
  exact Table.offers_of_get? unpriced closed (Table.get?_bindAll_of_mem table distinct member)

end Standard

end Reduct
