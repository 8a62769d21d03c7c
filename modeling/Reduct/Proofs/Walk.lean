import Reduct.Proofs.Run

namespace Reduct

/-- A manner of walking over a program: how a list is entered and pays its bill, what a list without
items to reduce comes to, what becomes of the items of a sequence, and what any other node is. -/
structure Manner (m : Type → Type) (ρ : Type) where
  enter : Scope → List Node → m Nat
  pay : List Float → List Node → m Unit
  single : Scope → Nat → List Node → Node.Shape → m ρ
  join : Scope → List Node → List (m ρ) → m ρ
  value : Node → m ρ

namespace Engine

open Reduction

section

variable {m : Type → Type} [Monad m] {ρ : Type} (engine : Engine) (manner : Manner m ρ)

mutual

/-- A list is entered, pays its bill, and goes on by its shape. The items of a sequence are walked
in the scope of the sequence. -/
def walk : Scope → Node → m ρ
  | scope, .list items => do
    let id ← manner.enter scope items
    manner.pay (engine.bill scope items.length (Node.shape items)) items
    match Node.shape items with
    | .sequence =>
      manner.join (engine.library.innerScope scope items) items
        (walkItems (engine.library.innerScope scope items) items)
    | shape => manner.single scope id items shape
  | _, other => manner.value other

def walkItems : Scope → List Node → List (m ρ)
  | _, [] => []
  | scope, item :: rest => walk scope item :: walkItems scope rest

end

/-- What follows the bill of a list. -/
def walkList (scope : Scope) (id : Nat) (items : List Node) : Node.Shape → m ρ
  | .sequence =>
    manner.join (engine.library.innerScope scope items) items
      (engine.walkItems manner (engine.library.innerScope scope items) items)
  | shape => manner.single scope id items shape

theorem walk_list (scope : Scope) (items : List Node) :
    engine.walk manner scope (.list items) = (do
      let id ← manner.enter scope items
      manner.pay (engine.bill scope items.length (Node.shape items)) items
      engine.walkList manner scope id items (Node.shape items)) := by
  rw [walk]
  rfl

theorem walk_other (scope : Scope) (node : Node) (other : node.isList = false) :
    engine.walk manner scope node = manner.value node := by
  cases node with
  | list items => simp [Node.isList] at other
  | _ =>
      rw [walk]
      intro items equal
      cases equal

theorem walkItems_eq_map (scope : Scope) (items : List Node) :
    engine.walkItems manner scope items = items.map (engine.walk manner scope) := by
  induction items with
  | nil => rw [walkItems, List.map_nil]
  | cons item rest inductionHypothesis =>
      rw [walkItems, inductionHypothesis, List.map_cons]

/-- One pass over a program, given what becomes of its list and of any other node. -/
def passBy (lift : {α : Type} → Reduction α → m α) (list value : Node → m ρ) (inputs : Inputs)
    (appendArgv : Bool) (program : Node) : m ρ :=
  if program.isNull then lift (fail .badInput)
  else
    match program.denest with
    | .list items => do
      let expanded ← lift (engine.preprocess inputs items)
      list (joined inputs appendArgv expanded)
    | other => value other

theorem passBy_list (lift : {α : Type} → Reduction α → m α) (list value : Node → m ρ)
    (inputs : Inputs) (appendArgv : Bool) {program : Node} {items : List Node}
    (denested : program.denest = .list items) :
    engine.passBy lift list value inputs appendArgv program =
      lift (engine.preprocess inputs items) >>= fun expanded =>
        list (joined inputs appendArgv expanded) := by
  unfold passBy
  rw [Node.isNull_of_denest denested, if_neg Bool.false_ne_true, denested]

/-- Every part is tried in its turn, whether or not an earlier one fails. -/
def inTurn {n : Type → Type} [Monad n] (attempt : m ρ → n (Except Error ρ)) :
    List (m ρ) → n (List (Except Error ρ))
  | [] => pure []
  | part :: later => do
    let result ← attempt part
    let results ← inTurn attempt later
    pure (result :: results)

end

variable (engine : Engine)

/-- A list is counted as the next step, and the step may be announced. -/
def enter (scope : Scope) (items : List Node) : Reduction Nat := do
  let id ← nextStep
  engine.announce scope id items
  pure id

theorem on_entering (scope : Scope) (items : List Node) (state : State) :
    (engine.enter scope items).on state =
      (.ok (state.counter + 1), engine.entered scope items state) := by
  unfold enter announce entered
  split_ifs <;> rfl

theorem run_inTurn_cons (reduction : Reduction Node) (later : List (Reduction Node))
    (state : State) :
    (inTurn ExceptT.run (reduction :: later)).run state =
      let outcome := reduction.on state
      let others := (inTurn ExceptT.run later).run outcome.2
      (outcome.1 :: others.1, others.2) := rfl

/-- The items of a sequence are reduced in their turn. -/
theorem run_inTurn_branches (inputs : Inputs) (scope : Scope) (items : List Node) (state : State) :
    (inTurn ExceptT.run (items.map (engine.branch inputs scope))).run state =
      engine.results inputs scope items state := by
  induction items generalizing state with
  | nil =>
      rw [results_nil]
      rfl
  | cons item rest inductionHypothesis =>
      rw [List.map_cons, run_inTurn_cons, results_cons]
      simp only [inductionHypothesis]

end Engine

end Reduct
