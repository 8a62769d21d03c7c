import Reduct.Proofs.Walk

namespace Reduct

/-- A schedule orders the items of every list. A list is named by the positions on the way to it,
and every position of its items comes once. -/
structure Schedule where
  order : List Nat → Nat → List Nat
  complete : ∀ path count, (order path count).Perm (List.range count)

namespace Schedule

def leftToRight : Schedule := ⟨fun _ count => List.range count, fun _ _ => .refl _⟩

def rightToLeft : Schedule :=
  ⟨fun _ count => (List.range count).reverse, fun _ _ => List.reverse_perm _⟩

end Schedule

namespace Reduction

/-- Reductions are run at the given positions, and each result is written to its position. -/
def runAt (reductions : List (Reduction Node)) :
    List Nat → List (Except Error Node) → StateM State (List (Except Error Node))
  | [], results => pure results
  | position :: later, results =>
    match reductions[position]? with
    | none => runAt reductions later results
    | some reduction => do
      let result ← reduction.run
      runAt reductions later (results.set position result)

/-- Results that are still to be written. -/
def unwritten (count : Nat) : List (Except Error Node) :=
  List.replicate count (.ok .null)

/-- All reductions are run in an order, and their results are gathered by position. -/
def runInOrder (order : List Nat) (reductions : List (Reduction Node)) : Reduction Node := do
  let results ← runAt reductions order (unwritten reductions.length)
  match Engine.gather results with
  | .ok reduced => pure (Engine.sequenceResult reduced)
  | .error error => throw error

theorem on_runInOrder (order : List Nat) (reductions : List (Reduction Node)) (state : State) :
    (runInOrder order reductions).on state =
      let outcome := (runAt reductions order (unwritten reductions.length)).run state
      ((Engine.gather outcome.1).map Engine.sequenceResult, outcome.2) := by
  change Reduction.on (match Engine.gather
      ((runAt reductions order (unwritten reductions.length)).run state).1 with
    | .ok reduced => pure (Engine.sequenceResult reduced)
    | .error error => throw error)
      ((runAt reductions order (unwritten reductions.length)).run state).2 = _
  dsimp only
  cases Engine.gather ((runAt reductions order (unwritten reductions.length)).run state).1 <;> rfl

end Reduction

namespace Engine

open Reduction

variable (engine : Engine) (inputs : Inputs) (schedule : Schedule)

/-- The walk knows the positions on its way, and the items of a sequence are reduced in the order of
the schedule. -/
def scheduled : Manner (ReaderT (List Nat) Reduction) Node where
  enter scope items := engine.enter scope items
  pay amounts items := chargeAll amounts items
  single scope id items shape := engine.reduceList inputs scope id items shape
  join _ _ parts := fun path =>
    runInOrder (schedule.order path parts.length)
      (parts.mapIdx fun position part => part (path ++ [position]))
  value node := pure node

def branchIn (path : List Nat) (scope : Scope) (node : Node) : Reduction Node :=
  engine.walk (engine.scheduled inputs schedule) scope node path

/-- The reductions of items, each with its own position. -/
def itemsIn (path : List Nat) (scope : Scope) (items : List Node) : List (Reduction Node) :=
  items.mapIdx fun position => engine.branchIn inputs schedule (path ++ [position]) scope

/-- The reduction of a list by its shape, with the order of a schedule in every sequence. -/
def reduceListIn (path : List Nat) (scope : Scope) (id : Nat) (items : List Node) :
    Node.Shape → Reduction Node
  | .sequence =>
    runInOrder (schedule.order path items.length)
      (engine.itemsIn inputs schedule path (engine.library.innerScope scope items) items)
  | shape => engine.reduceList inputs scope id items shape

/-- A list that is no sequence has no items to order. -/
theorem reduceListIn_single (path : List Nat) (scope : Scope) (id : Nat) (items : List Node)
    {shape : Node.Shape} (single : shape ≠ .sequence) :
    engine.reduceListIn inputs schedule path scope id items shape =
      engine.reduceList inputs scope id items shape := by
  cases shape with
  | sequence => exact absurd rfl single
  | _ => rfl

theorem walkList_scheduled (path : List Nat) (scope : Scope) (id : Nat) (items : List Node)
    (shape : Node.Shape) :
    engine.walkList (engine.scheduled inputs schedule) scope id items shape path =
      engine.reduceListIn inputs schedule path scope id items shape := by
  cases shape with
  | sequence =>
      have reductions : ((engine.walkItems (engine.scheduled inputs schedule)
          (engine.library.innerScope scope items) items).mapIdx fun position part =>
            part (path ++ [position])) =
              engine.itemsIn inputs schedule path (engine.library.innerScope scope items)
                items := by
        apply List.ext_getElem?
        intro position
        rw [walkItems_eq_map, itemsIn, List.getElem?_mapIdx, List.getElem?_mapIdx,
          List.getElem?_map, Option.map_map]
        rfl
      have length := congrArg List.length reductions
      rw [List.length_mapIdx, itemsIn, List.length_mapIdx] at length
      rw [reduceListIn, ← reductions, ← length]
      rfl
  | _ => rfl

/-- A node that is no list stays as it is. -/
theorem branchIn_other (path : List Nat) (scope : Scope) (node : Node)
    (other : node.isList = false) (state : State) :
    (engine.branchIn inputs schedule path scope node).on state = (.ok node, state) := by
  rw [branchIn, engine.walk_other _ scope node other]
  rfl

/-- A list is counted, pays its bill, and is then reduced by its shape. -/
theorem branchIn_list (path : List Nat) (scope : Scope) (items : List Node) (state : State) :
    (engine.branchIn inputs schedule path scope (.list items)).on state =
      (chargeAll (engine.bill scope items.length (Node.shape items)) items >>= fun _ =>
        engine.reduceListIn inputs schedule path scope (state.counter + 1) items
          (Node.shape items)).on (engine.entered scope items state) := by
  rw [branchIn, walk_list]
  change (engine.enter scope items >>= fun id =>
    chargeAll (engine.bill scope items.length (Node.shape items)) items >>= fun _ =>
      engine.walkList (engine.scheduled inputs schedule) scope id items
        (Node.shape items) path).on state = _
  rw [on_bind, on_entering]
  simp only [walkList_scheduled]

/-- One pass over a program, with the order of a schedule in every list. -/
def passIn (scope : Scope) (appendArgv : Bool) (program : Node) : Reduction Node :=
  engine.passBy id (engine.branchIn inputs schedule [] scope) pure inputs appendArgv program

/-- The reductions of items, one by one. -/
theorem itemsIn_getElem? (path : List Nat) (scope : Scope) (items : List Node) (position : Nat) :
    (engine.itemsIn inputs schedule path scope items)[position]? =
      items[position]?.map (engine.branchIn inputs schedule (path ++ [position]) scope) :=
  List.getElem?_mapIdx

@[simp] theorem length_itemsIn (path : List Nat) (scope : Scope) (items : List Node) :
    (engine.itemsIn inputs schedule path scope items).length = items.length :=
  List.length_mapIdx

omit inputs schedule in
/-- Reductions that are run one position after the other are run in their turn. -/
theorem runAt_range (before later : List (Reduction Node)) (done : List (Except Error Node))
    (same : before.length = done.length) (state : State) :
    (runAt (before ++ later) (List.range' done.length later.length)
        (done ++ unwritten later.length)).run state =
      let outcome := (inTurn ExceptT.run later).run state
      (done ++ outcome.1, outcome.2) := by
  induction later generalizing before done state with
  | nil => rfl
  | cons reduction rest inductionHypothesis =>
      have found : (before ++ reduction :: rest)[done.length]? = some reduction := by
        rw [← same, List.getElem?_append_right le_rfl, Nat.sub_self, List.getElem?_cons_zero]
      have written (result : Except Error Node) :
          (done ++ unwritten (reduction :: rest).length).set done.length result =
            (done ++ [result]) ++ unwritten rest.length := by
        simp [unwritten, List.replicate_succ]
      have others := inductionHypothesis (before ++ [reduction])
        (done ++ [(reduction.on state).1]) (by simp [same]) (reduction.on state).2
      rw [List.length_cons, List.range'_succ, runAt, found]
      change (runAt _ _ ((done ++ unwritten (reduction :: rest).length).set done.length
        (reduction.on state).1)).run (reduction.on state).2 = _
      rw [written, List.append_cons]
      rw [List.length_append, List.length_singleton] at others
      rw [others, run_inTurn_cons]
      simp only [List.append_assoc, List.singleton_append]

omit schedule in
/-- The order from left to right is that of the engine. -/
theorem branchIn_leftToRight (node : Node) : ∀ (path : List Nat) (scope : Scope),
    engine.branchIn inputs .leftToRight path scope node = engine.branch inputs scope node := by
  induction node using Node.listInduction with
  | other node other =>
      intro path scope
      apply ext_on
      intro state
      rw [engine.branchIn_other inputs _ path scope node other,
        engine.branch_other inputs scope node other]
  | list items inductionHypothesis =>
      intro path scope
      apply ext_on
      intro state
      rw [branchIn_list, branch_list]
      cases shape : Node.shape items with
      | sequence =>
          have reductions : engine.itemsIn inputs .leftToRight path
              (engine.library.innerScope scope items) items =
                items.map (engine.branch inputs (engine.library.innerScope scope items)) := by
            apply List.ext_getElem?
            intro position
            rw [itemsIn_getElem?, List.getElem?_map]
            apply Option.map_congr
            intro item found
            exact inductionHypothesis item (List.mem_of_getElem? found) _ _
          congr 2
          funext _
          apply ext_on
          intro entered
          have run := runAt_range []
            (items.map (engine.branch inputs (engine.library.innerScope scope items))) [] rfl
            entered
          rw [reduceListIn, on_runInOrder, reductions, List.length_map]
          rw [List.nil_append, List.nil_append, List.length_nil, List.length_map,
            ← List.range_eq_range'] at run
          rw [Schedule.leftToRight, run, run_inTurn_branches]
          exact (engine.on_reduceItems inputs _ items entered).symm
      | _ => rfl

omit schedule in
/-- A pass from left to right is a pass of the engine. -/
theorem passIn_leftToRight (scope : Scope) (appendArgv : Bool) (program : Node) :
    engine.passIn inputs .leftToRight scope appendArgv program =
      engine.pass inputs scope appendArgv program := by
  unfold passIn passBy pass
  simp only [branchIn_leftToRight]
  rfl

end Engine

end Reduct
