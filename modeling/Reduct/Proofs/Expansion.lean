import Mathlib.Tactic
import Reduct.Proofs.Run
import Reduct.Standard
/-! This file says which calls are left of a program when its definitions are expanded. Definitions
are expanded in the forms after them all, one after another, so a call that the body of a later
definition brings back is not expanded any more. -/

namespace Reduct

namespace Node

mutual

/-- A name heads a list of the node, at any depth through lists and quotes. -/
def calls : Node → String → Bool
  | .list items, name => headName? items == some name || itemsCall items name
  | .quote inner, name => calls inner name
  | _, _ => false

/-- A name heads a list among some items or inside of them. -/
def itemsCall : List Node → String → Bool
  | [], _ => false
  | item :: rest, name => calls item name || itemsCall rest name

end

theorem calls_list_iff (name : String) (items : List Node) :
    (Node.list items).calls name = true ↔
      headName? items = some name ∨ itemsCall items name = true := by
  rw [calls, Bool.or_eq_true, beq_iff_eq]

theorem itemsCall_append (name : String) (first second : List Node) :
    itemsCall (first ++ second) name = (itemsCall first name || itemsCall second name) := by
  induction first with
  | nil => rfl
  | cons item rest inductionHypothesis =>
      rw [List.cons_append, itemsCall, itemsCall, inductionHypothesis, Bool.or_assoc]

end Node

namespace Definition

open Node

variable {definition : Definition}

def NamesParameters (definition : Definition) : Prop :=
  ∀ parameter ∈ definition.parameters, ∃ text, parameter = .string text

theorem texts_of_parametersAndBody? {nodes parameters : List Node} {body : Node}
    (read : parametersAndBody? nodes = some (parameters, body)) :
    ∀ parameter ∈ parameters, ∃ text, parameter = .string text := by
  induction nodes generalizing parameters with
  | nil => cases read
  | cons node rest inductionHypothesis =>
      cases node with
      | string text =>
          obtain ⟨⟨others, ending⟩, found, same⟩ := Option.map_eq_some_iff.mp read
          obtain ⟨rfl, rfl⟩ := Prod.mk.inj same
          exact List.forall_mem_cons.mpr ⟨⟨text, rfl⟩, inductionHypothesis found⟩
      | quote inner =>
          cases inner with
          | list items =>
              obtain ⟨rfl, -⟩ := Prod.mk.inj (Option.some.inj read)
              exact List.forall_mem_nil _
          | _ => cases read
      | _ => cases read

/-- A form that is read has texts for parameters. -/
theorem namesParameters_of_ofForm {form : List Node} (read : ofForm form = .ok definition) :
    definition.NamesParameters := by
  unfold ofForm at read
  split at read
  · split at read
    · rename_i parameters body found
      cases read
      exact texts_of_parametersAndBody? found
    · cases read
  · cases read

/-- Texts call nothing. -/
theorem NamesParameters.itemsCall (named : definition.NamesParameters) (name : String) :
    Node.itemsCall definition.parameters name = false := by
  have silent (parameters : List Node)
      (texts : ∀ parameter ∈ parameters, ∃ text, parameter = .string text) :
      Node.itemsCall parameters name = false := by
    induction parameters with
    | nil => rfl
    | cons parameter rest inductionHypothesis =>
        obtain ⟨⟨text, rfl⟩, others⟩ := List.forall_mem_cons.mp texts
        exact inductionHypothesis others
  exact silent definition.parameters named

/-- Expansion keeps the head of a list. -/
theorem headName?_applyItems (definition : Definition) (items : List Node) :
    headName? (definition.applyItems items) = headName? items := by
  cases items with
  | nil => rfl
  | cons item rest => cases item <;> rfl

/-- A call that is expanded leaves the calls of the body and of its arguments. -/
theorem itemsCall_expandCall {name : String}
    (quiet : Node.itemsCall definition.parameters name = false) (items : List Node) :
    Node.itemsCall (definition.expandCall items) name = true ↔
      (headName? items = some definition.name ∧ definition.body.calls name = true) ∨
        Node.itemsCall items name = true := by
  unfold expandCall
  split_ifs with expanded
  · obtain ⟨first, rest, rfl⟩ : ∃ first rest, items = first :: rest := by
      cases items with
      | nil => cases expanded
      | cons first rest => exact ⟨first, rest, rfl⟩
    have text : first = .string definition.name := by
      cases first with
      | string text => exact congrArg Node.string (Option.some.inj expanded)
      | _ => cases expanded
    subst text
    simp [Node.itemsCall, Node.calls, itemsCall_append, quiet, expanded]
  · simp [expanded]

theorem headName?_expandCall (definition : Definition) (items : List Node) :
    headName? (definition.expandCall items) =
      if headName? items = some definition.name then some Standard.lambdaName
      else headName? items := by
  unfold expandCall
  split_ifs <;> rfl

mutual

/-- The expansion of a definition leaves the calls of other names, and for a call of its own name
those of its body, when its parameters call nothing. -/
theorem calls_apply_iff {name : String}
    (quiet : Node.itemsCall definition.parameters name = false)
    (other : name ≠ Standard.lambdaName) :
    ∀ node : Node, (definition.apply node).calls name = true ↔
      (node.calls name = true ∧ name ≠ definition.name) ∨
        (node.calls definition.name = true ∧ definition.body.calls name = true)
  | .list items => by
    have inside := itemsCall_applyItems_iff quiet other items
    rw [apply, calls_list_iff, itemsCall_expandCall quiet, headName?_expandCall,
      headName?_applyItems, calls_list_iff, calls_list_iff, inside]
    by_cases own : headName? items = some definition.name
    · have unnamed : some Standard.lambdaName ≠ some name := fun same =>
        other (Option.some.inj same).symm
      have renamed : headName? items = some name → name = definition.name := fun head =>
        Option.some.inj (head.symm.trans own)
      rw [if_pos own]
      grind
    · have apart : headName? items = some name → name ≠ definition.name := by
        rintro head rfl
        exact own head
      rw [if_neg own]
      grind
  | .quote inner => by
    rw [apply, calls, calls, calls, calls_apply_iff quiet other inner]
  | .null | .bool _ | .number _ | .string _ | .map _ => by
    simp [apply, calls]

theorem itemsCall_applyItems_iff {name : String}
    (quiet : Node.itemsCall definition.parameters name = false)
    (other : name ≠ Standard.lambdaName) :
    ∀ items : List Node, Node.itemsCall (definition.applyItems items) name = true ↔
      (Node.itemsCall items name = true ∧ name ≠ definition.name) ∨
        (Node.itemsCall items definition.name = true ∧ definition.body.calls name = true)
  | [] => by simp [applyItems, Node.itemsCall]
  | item :: rest => by
    simp only [applyItems, Node.itemsCall, Bool.or_eq_true, calls_apply_iff quiet other item,
      itemsCall_applyItems_iff quiet other rest]
    grind

end

/-- Definitions are expanded one after another. -/
def expandAll (definitions : List Definition) (program : List Node) : List Node :=
  definitions.foldl (fun program definition => definition.applyItems program) program

theorem headName?_expandAll (definitions : List Definition) (program : List Node) :
    headName? (expandAll definitions program) = headName? program := by
  induction definitions generalizing program with
  | nil => rfl
  | cons definition later inductionHypothesis =>
      exact (inductionHypothesis _).trans (definition.headName?_applyItems program)

/-- From what is called at first, the expansion of definitions in their order comes to one of them
and leaves the definitions after it: it is called at first, or a definition before it is, and the
expansion comes to it from what the body of that definition calls. -/
inductive Reaches : (String → Bool) → List Definition → Definition → List Definition → Prop
  | here {called : String → Bool} {definition : Definition} (later : List Definition)
      (own : called definition.name = true) : Reaches called (definition :: later) definition later
  | through {called : String → Bool} {first definition : Definition}
      {rest later : List Definition} (own : called first.name = true)
      (further : Reaches first.body.calls rest definition later) :
      Reaches called (first :: rest) definition later
  | past {called : String → Bool} (first : Definition) {definition : Definition}
      {rest later : List Definition} (further : Reaches called rest definition later) :
      Reaches called (first :: rest) definition later

theorem not_reaches_nil {called : String → Bool} {definition : Definition}
    {later : List Definition} : ¬ Reaches called [] definition later :=
  nofun

theorem reaches_cons_iff {called : String → Bool} {first definition : Definition}
    {rest later : List Definition} :
    Reaches called (first :: rest) definition later ↔
      (called first.name = true ∧ definition = first ∧ later = rest) ∨
        (called first.name = true ∧
          Reaches first.body.calls rest definition later) ∨
        Reaches called rest definition later := by
  constructor
  · intro reaches
    cases reaches with
    | here _ own => exact .inl ⟨own, rfl, rfl⟩
    | through own further => exact .inr (.inl ⟨own, further⟩)
    | past _ further => exact .inr (.inr further)
  · rintro (⟨own, rfl, rfl⟩ | ⟨own, further⟩ | further)
    · exact .here _ own
    · exact .through own further
    · exact .past first further

/-- What is called in one of two ways is reached from one of them. -/
theorem reaches_or_iff {called left right : String → Bool} {definitions later : List Definition}
    {definition : Definition}
    (split : ∀ other ∈ definitions,
      called other.name = true ↔ left other.name = true ∨ right other.name = true) :
    Reaches called definitions definition later ↔
      Reaches left definitions definition later ∨ Reaches right definitions definition later := by
  induction definitions with
  | nil => simp only [not_reaches_nil, or_false]
  | cons first rest inductionHypothesis =>
      obtain ⟨own, others⟩ := List.forall_mem_cons.mp split
      rw [reaches_cons_iff, reaches_cons_iff, reaches_cons_iff, own, inductionHypothesis others]
      grind

/-- The calls after the expansion of the first definition reach what the program reaches past it,
and what its body reaches when it is called. -/
theorem reaches_applyItems_iff {first definition : Definition} {rest later : List Definition}
    (named : first.NamesParameters)
    (distinct : first.name ∉ rest.map Definition.name)
    (unreserved : ∀ other ∈ rest, other.name ≠ Standard.lambdaName) (program : List Node) :
    Reaches (Node.itemsCall (first.applyItems program)) rest definition later ↔
      (Node.itemsCall program first.name = true ∧
        Reaches first.body.calls rest definition later) ∨
      Reaches (Node.itemsCall program) rest definition later := by
  have step (other : Definition) (member : other ∈ rest) :
      Node.itemsCall (first.applyItems program) other.name = true ↔
        (Node.itemsCall program first.name = true ∧ first.body.calls other.name = true) ∨
          Node.itemsCall program other.name = true := by
    have apart : other.name ≠ first.name := fun same =>
      distinct (same ▸ List.mem_map_of_mem member)
    rw [itemsCall_applyItems_iff (named.itemsCall _) (unreserved other member) program]
    tauto
  cases expanded : Node.itemsCall program first.name with
  | true =>
      have split : ∀ other ∈ rest, Node.itemsCall (first.applyItems program) other.name = true ↔
          first.body.calls other.name = true ∨ Node.itemsCall program other.name = true := by
        intro other member
        simp [step other member, expanded]
      rw [reaches_or_iff split]
      simp
  | false =>
      have split : ∀ other ∈ rest, Node.itemsCall (first.applyItems program) other.name = true ↔
          Node.itemsCall program other.name = true ∨ Node.itemsCall program other.name = true := by
        intro other member
        simp [step other member, expanded]
      rw [reaches_or_iff split]
      simp

/-- The calls that are left of a program are its own calls of other names, and those that a
definition brings back when it is expanded and that no later definition expands. -/
theorem itemsCall_expandAll_iff {definitions : List Definition} {name : String}
    (named : ∀ definition ∈ definitions, definition.NamesParameters)
    (distinct : (definitions.map Definition.name).Nodup)
    (unreserved : ∀ definition ∈ definitions, definition.name ≠ Standard.lambdaName)
    (other : name ≠ Standard.lambdaName) (program : List Node) :
    Node.itemsCall (expandAll definitions program) name = true ↔
      (Node.itemsCall program name = true ∧ ∀ definition ∈ definitions, definition.name ≠ name) ∨
        ∃ definition later,
          Reaches (Node.itemsCall program) definitions definition later ∧
            definition.body.calls name = true ∧ ∀ next ∈ later, next.name ≠ name := by
  induction definitions generalizing program with
  | nil =>
      refine ⟨fun left => .inl ⟨left, List.forall_mem_nil _⟩, ?_⟩
      rintro (⟨own, -⟩ | ⟨definition, later, reaches, -⟩)
      · exact own
      · exact absurd reaches not_reaches_nil
  | cons first rest inductionHypothesis =>
      rw [List.forall_mem_cons] at named unreserved
      rw [List.map_cons, List.nodup_cons] at distinct
      have expanded := inductionHypothesis named.2 distinct.2 unreserved.2
        (first.applyItems program)
      simp only [reaches_applyItems_iff named.1 distinct.1 unreserved.2 program,
        itemsCall_applyItems_iff (named.1.itemsCall name) other program] at expanded
      change Node.itemsCall (expandAll rest (first.applyItems program)) name = true ↔ _
      rw [expanded]
      simp only [reaches_cons_iff, List.forall_mem_cons]
      constructor
      · rintro (⟨⟨own, apart⟩ | ⟨called, brought⟩, unexpanded⟩ |
          ⟨definition, later, ⟨called, reached⟩ | reached, brought⟩)
        · exact .inl ⟨own, apart.symm, unexpanded⟩
        · exact .inr ⟨first, rest, .inl ⟨called, rfl, rfl⟩, brought, unexpanded⟩
        · exact .inr ⟨definition, later, .inr (.inl ⟨called, reached⟩), brought⟩
        · exact .inr ⟨definition, later, .inr (.inr reached), brought⟩
      · rintro (⟨own, apart, unexpanded⟩ | ⟨definition, later,
          ⟨called, rfl, rfl⟩ | ⟨called, reached⟩ | reached, brought⟩)
        · exact .inl ⟨.inl ⟨own, apart.symm⟩, unexpanded⟩
        · exact .inl ⟨.inr ⟨called, brought.1⟩, brought.2⟩
        · exact .inr ⟨definition, later, .inl ⟨called, reached⟩, brought⟩
        · exact .inr ⟨definition, later, .inr reached, brought⟩

theorem Reaches.subset {called : String → Bool} {definitions later : List Definition}
    {definition : Definition} (reaches : Reaches called definitions definition later) :
    later ⊆ definitions := by
  induction reaches with
  | here later _ => exact List.subset_cons_self _ later
  | through _ _ inductionHypothesis => exact List.subset_cons_of_subset _ inductionHypothesis
  | past _ _ inductionHypothesis => exact List.subset_cons_of_subset _ inductionHypothesis

/-- A definition is called after the expansion when the expansion has come to a definition whose
body calls it and that it does not follow. -/
theorem itemsCall_expandAll_of_mem {definitions : List Definition} {definition : Definition}
    (named : ∀ definition ∈ definitions, definition.NamesParameters)
    (distinct : (definitions.map Definition.name).Nodup)
    (unreserved : ∀ definition ∈ definitions, definition.name ≠ Standard.lambdaName)
    (member : definition ∈ definitions) (program : List Node) :
    Node.itemsCall (expandAll definitions program) definition.name = true ↔
      ∃ bringing later,
        Reaches (Node.itemsCall program) definitions bringing later ∧
          bringing.body.calls definition.name = true ∧ definition ∉ later := by
  rw [itemsCall_expandAll_iff named distinct unreserved (unreserved definition member)]
  constructor
  · rintro (⟨-, absent⟩ | ⟨bringing, later, reaches, brought, unexpanded⟩)
    · exact absurd rfl (absent definition member)
    · exact ⟨bringing, later, reaches, brought, fun inside => unexpanded definition inside rfl⟩
  · rintro ⟨bringing, later, reaches, brought, earlier⟩
    refine .inr ⟨bringing, later, reaches, brought, fun next inside same => earlier ?_⟩
    rwa [← List.inj_on_of_nodup_map distinct (reaches.subset inside) member same]

end Definition

namespace Engine

open Reduction Definition

variable {engine : Engine} {forms : List (List Node)} {definitions : List Definition}
  {rest : List Node}

/-- A form that defines is headed by `define` and reads as a definition. -/
def Defines (form : List Node) (definition : Definition) : Prop :=
  Node.headName? form = some "define" ∧ Definition.ofForm form = .ok definition

theorem namesParameters_of_defining (defining : List.Forall₂ Defines forms definitions) :
    ∀ definition ∈ definitions, definition.NamesParameters := by
  induction defining with
  | nil => exact List.forall_mem_nil _
  | cons defines _ inductionHypothesis =>
      exact List.forall_mem_cons.mpr ⟨namesParameters_of_ofForm defines.2, inductionHypothesis⟩

/-- No preprocessor claims the first form of a program. -/
def Unclaimed (engine : Engine) (program : List Node) : Prop :=
  ∀ form later, program = .list form :: later → ∀ name, Node.headName? form = some name →
    engine.library.preprocessor? name .global = none

theorem leadingForms_unclaimed (unclaimed : engine.Unclaimed rest) :
    engine.leadingForms rest = ([], rest) := by
  cases rest with
  | nil => rfl
  | cons node later =>
      cases node with
      | list form =>
          have none : ((Node.headName? form).bind fun name =>
              engine.library.preprocessor? name .global) = none := by
            rw [Option.bind_eq_none_iff]
            exact unclaimed form later rfl
          rw [leadingForms, none]
      | _ => rfl

/-- The forms that define lead a program whose next form no preprocessor claims. -/
theorem leadingForms_defining
    (bound : engine.library.preprocessor? "define" .global = some Standard.expandDefinition)
    (defining : List.Forall₂ Defines forms definitions) (unclaimed : engine.Unclaimed rest) :
    engine.leadingForms (forms.map .list ++ rest) =
      (forms.map (Prod.mk Standard.expandDefinition), rest) := by
  induction defining with
  | nil => exact leadingForms_unclaimed unclaimed
  | @cons form definition others _ defines _ inductionHypothesis =>
      have claimed : ((Node.headName? form).bind fun name =>
          engine.library.preprocessor? name .global) = some Standard.expandDefinition := by
        rw [defines.1, Option.bind_some, bound]
      rw [List.map_cons, List.cons_append, leadingForms, claimed, inductionHypothesis]
      rfl

/-- Forms that define are expanded one after another. -/
theorem on_expandForms_defining (context : Preprocessing)
    (defining : List.Forall₂ Defines forms definitions) (program : List Node) (state : State) :
    ((expandForms context (forms.map (Prod.mk Standard.expandDefinition)) program).on state).1 =
      .ok (expandAll definitions program) := by
  induction defining generalizing program state with
  | nil => rfl
  | @cons form definition others _ defines _ inductionHypothesis =>
      have expanded : (perform (Standard.expandDefinition context form program)).on state =
          (.ok (definition.applyItems program), state.noting (.expanding definition.name)) := by
        rw [Standard.expandDefinition, defines.2]
        rfl
      rw [List.map_cons, expandForms, on_bind, expanded]
      exact inductionHypothesis (definition.applyItems program) _

theorem on_preprocess_defining (inputs : Inputs) (state : State)
    (bound : engine.library.preprocessor? "define" .global = some Standard.expandDefinition)
    (defining : List.Forall₂ Defines forms definitions) (unclaimed : engine.Unclaimed rest) :
    ((engine.preprocess inputs (forms.map .list ++ rest)).on state).1 =
      .ok (expandAll definitions rest) := by
  have run : (engine.preprocess inputs (forms.map .list ++ rest)).on state =
      (expandForms ⟨state.counter, engine.seed, inputs.argv, inputs.event⟩
        (engine.leadingForms (forms.map .list ++ rest)).1
        (engine.leadingForms (forms.map .list ++ rest)).2).on state := rfl
  rw [run, leadingForms_defining bound defining unclaimed]
  exact on_expandForms_defining _ defining rest state

/-- A program that starts with definitions is expanded. No list of it is headed by a defined name
any more exactly when none heads the program itself, and every definition that the expansion comes
to calls in its body only definitions after it. -/
theorem preprocess_expands_all_iff (engine : Engine) (inputs : Inputs) (forms : List (List Node))
    (definitions : List Definition) (rest : List Node) (state : State)
    (bound : engine.library.preprocessor? "define" .global = some Standard.expandDefinition)
    (defining : List.Forall₂ Defines forms definitions)
    (distinct : (definitions.map Definition.name).Nodup)
    (unreserved : ∀ definition ∈ definitions, definition.name ≠ Standard.lambdaName)
    (unclaimed : engine.Unclaimed rest) :
    ∃ expanded,
      ((engine.preprocess inputs (forms.map .list ++ rest)).on state).1 = .ok expanded ∧
      ((∀ definition ∈ definitions, (Node.list expanded).calls definition.name = false) ↔
        (∀ definition ∈ definitions, Node.headName? rest ≠ some definition.name) ∧
          ∀ bringing later, Reaches (Node.itemsCall rest) definitions bringing later →
            ∀ definition ∈ definitions,
              bringing.body.calls definition.name = true → definition ∈ later) := by
  have called (definition : Definition) (member : definition ∈ definitions) :
      (Node.list (expandAll definitions rest)).calls definition.name = true ↔
        Node.headName? rest = some definition.name ∨
          ∃ bringing later, Reaches (Node.itemsCall rest) definitions bringing later ∧
            bringing.body.calls definition.name = true ∧ definition ∉ later := by
    rw [Node.calls_list_iff, headName?_expandAll, itemsCall_expandAll_of_mem
      (namesParameters_of_defining defining) distinct unreserved member]
  refine ⟨_, on_preprocess_defining inputs state bound defining unclaimed, ?_, ?_⟩
  · intro complete
    constructor
    · intro definition member head
      have uncalled := complete definition member
      rw [(called definition member).mpr (.inl head)] at uncalled
      cases uncalled
    · intro bringing later reaches definition member brought
      by_contra earlier
      have uncalled := complete definition member
      rw [(called definition member).mpr (.inr ⟨bringing, later, reaches, brought, earlier⟩)]
        at uncalled
      cases uncalled
  · rintro ⟨unheaded, forward⟩ definition member
    rw [← Bool.not_eq_true, called definition member]
    rintro (head | ⟨bringing, later, reaches, brought, earlier⟩)
    · exact unheaded definition member head
    · exact earlier (forward bringing later reaches definition member brought)

end Engine

def Binding.preprocessor? : Binding → Option (String × Preprocessor)
  | .preprocessor name expand => some (name, expand)
  | _ => none

/-- The preprocessors of a table are those that are bound. -/
theorem Table.preprocessors_bindAll (table : Table) (bindings : List Binding) :
    (table.bindAll bindings).1.preprocessors =
      (bindings.filterMap Binding.preprocessor?).foldl
        (fun entries entry => Entries.insert entry.1 entry.2 entries) table.preprocessors := by
  induction bindings generalizing table with
  | nil =>
      rw [bindAll]
      rfl
  | cons binding later inductionHypothesis =>
      rw [bindAll]
      refine (inductionHypothesis _).trans ?_
      cases binding with
      | aliasFunction aliasName name =>
          rw [bind]
          cases Entries.get? name table.functions with
          | none => rfl
          | some function =>
              simp only [bindFunction, copyPrice]
              cases Entries.get? name table.prices <;> rfl
      | aliasCaster aliasName name =>
          rw [bind]
          cases Entries.get? name table.casters <;> rfl
      | _ =>
          rw [bind]
          rfl

theorem Table.preprocessor?_global (table : Table) (name : String) :
    table.toLibrary.preprocessor? name .global = Entries.get? name table.preprocessors := rfl

namespace Standard

/-- The standard library has one preprocessor. -/
theorem preprocessors_table : table.preprocessors = [("define", expandDefinition)] := by
  rw [table, Table.preprocessors_bindAll]
  rfl

theorem preprocessor?_library (name : String) :
    library.preprocessor? name .global = Entries.get? name [("define", expandDefinition)] := by
  rw [library, Table.preprocessor?_global, preprocessors_table]

end Standard

namespace Engine

open Definition

def nextForm : List Node :=
  [.string "define", .string "next", .string "x", .quotedList [.string "inc", .string "x"]]

def incForm : List Node :=
  [.string "define", .string "inc", .string "y",
    .quotedList [.string "+", .string "y", .number 1.0]]

def next : Definition :=
  ⟨"next", [.string "x"], .quotedList [.string "inc", .string "x"]⟩

def inc : Definition :=
  ⟨"inc", [.string "y"], .quotedList [.string "+", .string "y", .number 1.0]⟩

theorem defines_next : Defines nextForm next := ⟨rfl, rfl⟩

theorem defines_inc : Defines incForm inc := ⟨rfl, rfl⟩

def callsNext : List Node :=
  [.list [.string "next", .number 3.0]]

def standardEngine : Engine :=
  ⟨{}, Standard.library, 0⟩

theorem bound_define :
    standardEngine.library.preprocessor? "define" .global = some Standard.expandDefinition :=
  Standard.preprocessor?_library "define"

theorem unclaimed_callsNext : standardEngine.Unclaimed callsNext := by
  rintro form later ⟨⟩ name ⟨⟩
  exact Standard.preprocessor?_library "next"

/-- The first state of a session. -/
def fresh : State :=
  (Session.start Standard.library {} .empty 0 0).state

/-- The definition that calls the other one stands before it, and both are expanded. -/
theorem next_before_inc_expanded :
    ∃ expanded,
      ((standardEngine.preprocess ⟨[], none⟩
        ([nextForm, incForm].map .list ++ callsNext)).on fresh).1 = .ok expanded ∧
      ∀ definition ∈ [next, inc], (Node.list expanded).calls definition.name = false := by
  obtain ⟨expanded, ran, complete⟩ := preprocess_expands_all_iff standardEngine ⟨[], none⟩
    [nextForm, incForm] [next, inc] callsNext fresh bound_define
    (.cons defines_next (.cons defines_inc .nil)) (by decide) (by decide) unclaimed_callsNext
  refine ⟨expanded, ran, complete.mpr ⟨by decide, fun bringing later reaches => ?_⟩⟩
  simp only [reaches_cons_iff, not_reaches_nil, and_false, or_false] at reaches
  rw [List.forall_mem_cons, List.forall_mem_singleton]
  rcases reaches with ⟨-, rfl, rfl⟩ | ⟨-, -, rfl, rfl⟩ | ⟨called, -⟩
  · exact ⟨fun brought => absurd brought (by decide), fun _ => .head _⟩
  · exact ⟨fun brought => absurd brought (by decide), fun brought => absurd brought (by decide)⟩
  · exact absurd called (by decide)

/-- The definition that is called stands before the one that calls it: the call that the other
definition brings back is left. -/
theorem inc_before_next_left :
    List.Forall₂ Defines [incForm, nextForm] [inc, next] ∧
      ([inc, next].map Definition.name).Nodup ∧
      inc.body.calls "inc" = false ∧ inc.body.calls "next" = false ∧
      next.body.calls "next" = false ∧
      ∃ expanded,
        ((standardEngine.preprocess ⟨[], none⟩
          ([incForm, nextForm].map .list ++ callsNext)).on fresh).1 = .ok expanded ∧
        (Node.list expanded).calls "inc" = true := by
  have defining : List.Forall₂ Defines [incForm, nextForm] [inc, next] :=
    .cons defines_inc (.cons defines_next .nil)
  refine ⟨defining, by decide, by decide, by decide, by decide, _,
    on_preprocess_defining _ _ bound_define defining unclaimed_callsNext, by decide⟩

end Engine

end Reduct
