import Mathlib.Tactic
import Reduct.Library.Table

namespace Reduct

/-- A result that needs no world leaves it as it is. -/
theorem Action.run_lift {α : Type} (result : Except Error α) (world : World) :
    (Action.lift result).run world = (result, world) := by
  cases result <;> rfl

/-- An action that reads the world first is what it does with the world. -/
theorem Action.run_get_bind {α : Type} (next : World → Action α) (world : World) :
    (get >>= next : Action α).run world = (next world).run world :=
  rfl

/-- An inserted value is found under its key, and the other keys keep their values. -/
theorem Entries.get?_insert {α : Type*} (key other : String) (value : α)
    (entries : List (String × α)) :
    get? other (insert key value entries) =
      if other = key then some value else get? other entries := by
  induction entries with
  | nil =>
    by_cases same : other = key
    · simp [get?, insert, same]
    · simp [get?, insert, same, List.lookup_cons, beq_eq_false_iff_ne.mpr same]
  | cons entry entries inductionHypothesis =>
    simp only [get?, insert] at inductionHypothesis ⊢
    split_ifs with before same <;> grind

def Binding.functionName? : Binding → Option String
  | .function name _ => some name
  | .aliasFunction name _ => some name
  | .scope name _ _ => some name
  | _ => none

namespace Table

theorem get?_bindFunction (table : Table) (name other : String) (function : Function)
    (different : name ≠ other) :
    Entries.get? other (table.bindFunction name function).1.functions =
      Entries.get? other table.functions := by
  rw [bindFunction, Entries.get?_insert, if_neg different.symm]

/-- A binding leaves the functions of other names as they are. -/
theorem get?_bind_of_ne (table : Table) (binding : Binding) (name : String)
    (different : binding.functionName? ≠ some name) :
    Entries.get? name (table.bind binding).1.functions = Entries.get? name table.functions := by
  cases binding with
  | function other function =>
    rw [bind]
    exact table.get?_bindFunction other name function fun same => different (congrArg some same)
  | aliasFunction aliasName other =>
    rw [bind]
    split
    · rw [get?_bindFunction _ _ _ _ fun same => different (congrArg some same), copyPrice]
      split <;> rfl
    · rfl
  | scope other function bindings =>
    rw [bind]
    exact get?_bindFunction _ other name function fun same => different (congrArg some same)
  | aliasCaster aliasName other =>
    rw [bind]
    split <;> rfl
  | caster other caster => rw [bind]
  | constant other value => rw [bind]
  | preprocessor other preprocessor => rw [bind]
  | price other price => rw [bind]

theorem bindAll_append (table : Table) (first second : List Binding) :
    (table.bindAll (first ++ second)).1 = ((table.bindAll first).1.bindAll second).1 := by
  induction first generalizing table with
  | nil => rw [List.nil_append, bindAll]
  | cons binding later inductionHypothesis =>
    rw [List.cons_append, bindAll, bindAll]
    exact inductionHypothesis _

theorem get?_bindAll_of_ne (table : Table) (bindings : List Binding) (name : String)
    (different : ∀ binding ∈ bindings, binding.functionName? ≠ some name) :
    Entries.get? name (table.bindAll bindings).1.functions = Entries.get? name table.functions := by
  induction bindings generalizing table with
  | nil => rw [bindAll]
  | cons binding later inductionHypothesis =>
    rw [bindAll]
    exact (inductionHypothesis _ fun other inside => different other (.tail binding inside)).trans
      (table.get?_bind_of_ne binding name (different binding (.head later)))

/-- The last binding of a name decides. -/
theorem function?_bindAll (earlier later : List Binding) (name : String) (function : Function)
    (different : ∀ binding ∈ later, binding.functionName? ≠ some name) :
    ((empty.bindAll (earlier ++ .function name function :: later)).1.toLibrary).function? name
      .global = some function := by
  have found (table : Table) :
      Entries.get? name (table.bindAll (earlier ++ .function name function :: later)).1.functions =
        some function := by
    induction earlier generalizing table with
    | nil =>
      rw [List.nil_append, bindAll]
      refine (get?_bindAll_of_ne _ later name different).trans ?_
      rw [bind, bindFunction, Entries.get?_insert, if_pos rfl]
    | cons binding rest inductionHypothesis =>
      rw [List.cons_append, bindAll]
      exact inductionHypothesis _
  exact found empty

end Table

def Binding.casterName? : Binding → Option String
  | .caster name _ => some name
  | .aliasCaster name _ => some name
  | _ => none

namespace Table

/-- A binding leaves the casters of other names as they are. -/
theorem get?_casters_bind_of_ne (table : Table) (binding : Binding) (name : String)
    (different : binding.casterName? ≠ some name) :
    Entries.get? name (table.bind binding).1.casters = Entries.get? name table.casters := by
  cases binding with
  | caster other caster =>
      rw [bind]
      exact (Entries.get?_insert _ _ _ _).trans
        (if_neg fun same => different (congrArg some same.symm))
  | aliasCaster aliasName other =>
      rw [bind]
      cases Entries.get? other table.casters with
      | none => rfl
      | some caster =>
          exact (Entries.get?_insert _ _ _ _).trans
            (if_neg fun same => different (congrArg some same.symm))
  | aliasFunction aliasName other =>
      rw [bind]
      cases Entries.get? other table.functions with
      | none => rfl
      | some function =>
          simp only [bindFunction, copyPrice]
          cases Entries.get? other table.prices <;> rfl
  | _ => rfl

theorem get?_casters_bindAll_of_ne (table : Table) (bindings : List Binding) (name : String)
    (different : ∀ binding ∈ bindings, binding.casterName? ≠ some name) :
    Entries.get? name (table.bindAll bindings).1.casters = Entries.get? name table.casters := by
  induction bindings generalizing table with
  | nil => rw [bindAll]
  | cons binding later inductionHypothesis =>
      rw [bindAll]
      exact (inductionHypothesis _ fun other inside => different other (.tail binding inside)).trans
        (table.get?_casters_bind_of_ne binding name (different binding (.head later)))

/-- A caster that is bound to a name once is the caster of the name. -/
theorem get?_casters_bindAll_of_mem (table : Table) {bindings : List Binding}
    (distinct : (bindings.filterMap Binding.casterName?).Nodup) {name : String} {caster : Caster}
    (member : .caster name caster ∈ bindings) :
    Entries.get? name (table.bindAll bindings).1.casters = some caster := by
  induction bindings generalizing table with
  | nil => cases member
  | cons binding later inductionHypothesis =>
      rw [bindAll]
      rcases List.mem_cons.mp member with rfl | inside
      · rw [List.filterMap_cons_some (by rfl), List.nodup_cons] at distinct
        refine (get?_casters_bindAll_of_ne _ later name fun other member same => ?_).trans ?_
        · exact distinct.1 (List.mem_filterMap.mpr ⟨other, member, same⟩)
        · rw [bind, Entries.get?_insert, if_pos rfl]
      · refine inductionHypothesis _ (distinct.sublist ?_) inside
        exact (List.sublist_cons_self binding later).filterMap _

theorem caster?_global (table : Table) (name : String) :
    table.toLibrary.caster? name .global = Entries.get? name table.casters := rfl

end Table

end Reduct
