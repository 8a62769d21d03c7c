import Reduct.Proofs.Calculation
/-! This file shows what a let replaces. It waits until the lists in its body are values, and the
name stands for nothing in them until then; so its run is the run of the body in which only the
items of the body itself are replaced. -/

namespace Reduct

namespace Node

/-- Items that agree are as many. -/
theorem length_eq_of_agreeItems {related : Float → Float → Bool} {lefts rights : List Node}
    (same : agreeItems related lefts rights = true) : lefts.length = rights.length := by
  induction lefts generalizing rights with
  | nil =>
      cases rights with
      | nil => rfl
      | cons right rest => cases same
  | cons left lefts inductionHypothesis =>
      cases rights with
      | nil => cases same
      | cons right rest =>
          rw [agreeItems, Bool.and_eq_true] at same
          rw [List.length_cons, List.length_cons, inductionHypothesis same.2]

/-- Items behind the same items agree when they agree without them. -/
theorem agreeItems_append_left {related : Float → Float → Bool}
    (reflexive : ∀ number, related number number = true) (before lefts rights : List Node) :
    agreeItems related (before ++ lefts) (before ++ rights) =
      agreeItems related lefts rights := by
  induction before with
  | nil => rfl
  | cons item rest inductionHypothesis =>
      rw [List.cons_append, List.cons_append, agreeItems, agree_self related reflexive,
        Bool.true_and, inductionHypothesis]

end Node

/-- The nodes in slots, with one and the same node in the empty ones. -/
def filled (hole : Node) (slots : List (Option Node)) : List Node :=
  slots.map (·.getD hole)

namespace Slots

variable {hole other : Node} {slots next : List (Option Node)}

/-- Whether a slot is kept when nulls are dropped. -/
def isKept (slot : Option Node) : Bool :=
  slot.all (!·.isNull)

/-- Slots of which the same ones are empty. -/
def Fit (next slots : List (Option Node)) : Prop :=
  List.Forall₂ (fun left right => left.isNone = right.isNone) next slots

theorem filled_filter (full : hole.isNull = false) (slots : List (Option Node)) :
    (filled hole slots).filter (!·.isNull) = filled hole (slots.filter isKept) := by
  rw [filled, List.filter_map, filled]
  congr 2
  funext slot
  cases slot with
  | none => simp [isKept, full]
  | some node => rfl

/-- Slots that fit agree with one node in the empty ones when they do with another. -/
theorem agreeItems_filled {related : Float → Float → Bool}
    (reflexive : ∀ number, related number number = true) (fit : Fit next slots)
    (same : Node.agreeItems related (filled hole next) (filled hole slots) = true) :
    Node.agreeItems related (filled other next) (filled other slots) = true := by
  induction fit with
  | nil => rfl
  | @cons left right lefts rights paired _ inductionHypothesis =>
      rw [filled, filled, List.map_cons, List.map_cons, Node.agreeItems, Bool.and_eq_true] at same
      rw [filled, filled, List.map_cons, List.map_cons, Node.agreeItems, Bool.and_eq_true]
      refine ⟨?_, inductionHypothesis same.2⟩
      cases left with
      | none =>
          obtain rfl : right = none := Option.isNone_iff_eq_none.mp paired.symm
          exact Node.agree_self related reflexive other
      | some node =>
          cases right with
          | none => cases paired
          | some original => exact same.1

/-- The same holds when nulls have been dropped, for then none have. -/
theorem agreeItems_filled_filter {related : Float → Float → Bool}
    (reflexive : ∀ number, related number number = true) (fit : Fit next slots)
    (same : Node.agreeItems related (filled hole (next.filter isKept)) (filled hole slots) = true) :
    Node.agreeItems related (filled other (next.filter isKept)) (filled other slots) = true := by
  -- Lists that agree are as long, and dropping nulls would have made one shorter.
  have length := Node.length_eq_of_agreeItems same
  rw [filled, List.length_map, filled, List.length_map, ← fit.length_eq,
    List.length_filter_eq_length_iff, ← List.filter_eq_self] at length
  rw [length] at same ⊢
  exact agreeItems_filled reflexive fit same

/-- The first error by position, or all nodes in their slots. -/
def gather : List (Option (Except Error Node)) → Except Error (List (Option Node))
  | [] => .ok []
  | none :: rest => (gather rest).map (none :: ·)
  | some (.error error) :: _ => .error error
  | some (.ok node) :: rest => (gather rest).map (some node :: ·)

theorem exists_of_map_cons {entry : Option Node} {gathered : Except Error (List (Option Node))}
    (mapped : gathered.map (entry :: ·) = .ok next) :
    ∃ others, gathered = .ok others ∧ next = entry :: others := by
  cases gathered with
  | error error => cases mapped
  | ok others =>
      cases mapped
      exact ⟨others, rfl, rfl⟩

/-- A node in the empty slots is gathered as it is. -/
theorem gather_map_getD (results : List (Option (Except Error Node))) (hole : Node) :
    Engine.gather (results.map (·.getD (.ok hole))) = (gather results).map (filled hole) := by
  induction results with
  | nil => rfl
  | cons result rest inductionHypothesis =>
      rw [List.map_cons]
      cases result with
      | none =>
          rw [Option.getD_none, Engine.gather_ok_cons, inductionHypothesis, gather]
          cases gather rest <;> rfl
      | some result =>
          cases result with
          | error error => rfl
          | ok node =>
              rw [Option.getD_some, Engine.gather_ok_cons, inductionHypothesis, gather]
              cases gather rest <;> rfl

end Slots

/-- A frame is a list that a name leads, with some items before its slots and a node for the empty
ones, all of which a pass leaves as they are. -/
structure Frame where
  name : String
  before : List Node
  hole : Node
  unquoted : Node.isQuoteName name = false
  plain : ∀ item ∈ before, item.isList = false ∧ item.isNull = false
  plainHole : hole.isList = false ∧ hole.isNull = false

namespace Frame

variable (frame : Frame)

def items (slots : List (Option Node)) : List Node :=
  .string frame.name :: (frame.before ++ filled frame.hole slots)

def program (slots : List (Option Node)) : Node :=
  .list (frame.items slots)

theorem length_items (slots : List (Option Node)) :
    (frame.items slots).length = frame.before.length + 1 + slots.length := by
  rw [items, List.length_cons, List.length_append, filled, List.length_map]
  omega

theorem compacted_items (slots : List (Option Node)) :
    Engine.compacted (frame.items slots) = frame.program (slots.filter Slots.isKept) := by
  have kept : frame.before.filter (!·.isNull) = frame.before := by
    rw [List.filter_eq_self]
    intro item member
    rw [(frame.plain item member).2]
    rfl
  rw [Engine.compacted, items, List.filter_cons_of_pos (by rfl), List.filter_append, kept,
    Slots.filled_filter frame.plainHole.2, program, items]

/-- Whether a list has changed depends on its slots alone. -/
theorem sameStructure_program_iff (left right : Frame) {slots next : List (Option Node)}
    (fit : Slots.Fit next slots) :
    (left.program (next.filter Slots.isKept)).sameStructure (left.program slots) = true ↔
      (right.program (next.filter Slots.isKept)).sameStructure (right.program slots) = true := by
  have reflexive (number : Float) : (number == number || number.isNaN && number.isNaN) = true :=
    Node.sameStructure_self (.number number)
  have stripped (frame : Frame) (first second : List (Option Node)) :
      (frame.program first).sameStructure (frame.program second) =
        Node.agreeItems (fun a b => a == b || (a.isNaN && b.isNaN)) (filled frame.hole first)
          (filled frame.hole second) := by
    rw [program, program, Node.sameStructure, Node.agree, items, items, ← List.cons_append,
      ← List.cons_append, Node.agreeItems_append_left reflexive]
  rw [stripped, stripped]
  exact ⟨Slots.agreeItems_filled_filter reflexive fit, Slots.agreeItems_filled_filter reflexive fit⟩

end Frame

namespace Standard

/-- A let of a name for a value in a body that another name leads. -/
def letOf (name : String) (value : Node) (head : String) (items : List Node) : Node :=
  .list (.string "let" :: .string name :: value :: .string head :: items)

/-- A name is replaced where the node is the name itself, and not inside of lists. -/
def replaceOwn (name : String) (value : Node) : Node → Node
  | .string text => if text = name then value else .string text
  | other => other

/-- The slot of an item of a body, which is empty for the name. -/
def slotOf (name : String) : Node → Option Node
  | .string text => if text = name then none else some (.string text)
  | other => some other

variable {name head : String} {value : Node}

theorem getD_slotOf (name : String) (value node : Node) :
    (slotOf name node).getD value = replaceOwn name value node := by
  cases node with
  | string text =>
      rw [slotOf, replaceOwn]
      split_ifs <;> rfl
  | _ => rfl

theorem replaceOwn_self (name : String) (node : Node) :
    replaceOwn name (.string name) node = node := by
  cases node with
  | string text =>
      rw [replaceOwn]
      split_ifs with same
      · rw [same]
      · rfl
  | _ => rfl

theorem filled_slotOf (name : String) (value : Node) (items : List Node) :
    filled value (items.map (slotOf name)) = items.map (replaceOwn name value) := by
  rw [filled, List.map_map]
  exact List.map_congr_left fun item _ => getD_slotOf name value item

theorem isKept_slotOf {node : Node} (full : node.isNull = false) :
    Slots.isKept (slotOf name node) = true := by
  cases node with
  | null => cases full
  | string text =>
      rw [slotOf]
      split_ifs <;> rfl
  | _ => rfl

/-- A name is not among items in which it is replaced by an operand. -/
theorem notMem_map_replaceOwn (operand : value.isOperand = true) (items : List Node) :
    .string name ∉ items.map (replaceOwn name value) := by
  rw [List.mem_map]
  rintro ⟨item, -, same⟩
  cases item with
  | string text =>
      rw [replaceOwn] at same
      split_ifs at same with own
      · rw [same] at operand
        cases operand
      · exact own (Node.string.inj same)
  | _ => cases same

/-- An operand weighs no more than a name. -/
theorem weights_map_replaceOwn_le (operand : value.isOperand = true) (items : List Node) :
    Node.weights (items.map (replaceOwn name value)) ≤ Node.weights items := by
  have light := Node.weight_of_isValue (Node.isValue_of_isOperand operand)
  have each (item : Node) : (replaceOwn name value item).weight ≤ item.weight := by
    cases item with
    | string text =>
        rw [replaceOwn, Node.weight]
        split_ifs
        · exact light
        · rw [Node.weight]
    | _ => exact le_refl _
  induction items with
  | nil => exact le_refl _
  | cons item rest inductionHypothesis =>
      have first := each item
      rw [List.map_cons, Node.weights, Node.weights]
      omega

/-- An operand takes the place of the name, and calculations stay what they are. -/
theorem isValue_or_isCalculation_replaceOwn (operand : value.isOperand = true) {item : Node}
    {text : String} (calculation : IsCalculation text item) :
    (replaceOwn name value item).isValue = true ∨
      IsCalculation text (replaceOwn name value item) := by
  cases item with
  | string text =>
      refine .inl ?_
      rw [replaceOwn]
      split_ifs
      · exact Node.isValue_of_isOperand operand
      · rfl
  | _ => exact .inr calculation

/-- To replace a name everywhere is to replace it among the items, when there is nothing to replace
in the lists. -/
theorem replaceOwn_eq_replaceName {node : Node}
    (fixed : node.isList = true → replaceName name value node = node) :
    replaceOwn name value node = replaceName name value node := by
  cases node with
  | list items => exact (fixed rfl).symm
  | _ => simp [replaceOwn, replaceName]

theorem replaceNameItems_eq_map (name : String) (value : Node) (items : List Node) :
    replaceNameItems name value items = items.map (replaceName name value) := by
  induction items with
  | nil => simp [replaceNameItems]
  | cons item rest inductionHypothesis =>
      rw [replaceNameItems, inductionHypothesis, List.map_cons]

/-- A value that is not the name has nothing to replace in it. -/
theorem replaceName_of_isValue {node : Node} (ready : node.isValue = true)
    (other : node ≠ .string name) : replaceName name value node = node := by
  cases node with
  | list items =>
      obtain rfl := List.isEmpty_iff.mp ready
      simp [replaceName, replaceNameItems]
  | string text =>
      have different : text ≠ name := fun same => other (congrArg _ same)
      simp [replaceName, different]
  | _ => simp [replaceName]

/-- The frame of a let, whose empty slots hold the name. -/
def letFrame (name head : String) {value : Node} (operand : value.isOperand = true) : Frame where
  name := "let"
  before := [.string name, value, .string head]
  hole := .string name
  unquoted := by decide
  plain := by
    have plain : value.isList = false ∧ value.isNull = false := by
      cases value with
      | number | quote => exact ⟨rfl, rfl⟩
      | _ => cases operand
    simpa [Node.isList, Node.isNull] using plain
  plainHole := ⟨rfl, rfl⟩

/-- The frame of a body, whose empty slots hold the value. -/
def bodyFrame {head : String} (unquoted : Node.isQuoteName head = false) {value : Node}
    (operand : value.isOperand = true) : Frame where
  name := head
  before := []
  hole := value
  unquoted := unquoted
  plain := by simp
  plainHole := by
    cases value with
    | number | quote => exact ⟨rfl, rfl⟩
    | _ => cases operand

theorem program_letFrame (operand : value.isOperand = true) (items : List Node) :
    (letFrame name head operand).program (items.map (slotOf name)) =
      letOf name value head items := by
  have items : filled (.string name) (items.map (slotOf name)) = items := by
    rw [filled_slotOf]
    exact (List.map_congr_left fun item _ => replaceOwn_self name item).trans (List.map_id items)
  rw [Frame.program, Frame.items]
  exact congrArg (fun rest => letOf name value head rest) items

theorem program_bodyFrame (unquoted : Node.isQuoteName head = false)
    (operand : value.isOperand = true) (items : List Node) :
    (bodyFrame unquoted operand).program (items.map (slotOf name)) =
      .list (.string head :: items.map (replaceOwn name value)) := by
  rw [← filled_slotOf]
  rfl

/-- Values are replaced in a let as they stand in the body. -/
theorem bindName_letFrame (unquoted : Node.isQuoteName head = false)
    (operand : value.isOperand = true) (different : head ≠ name) {slots : List (Option Node)}
    (ready : ∀ node, some node ∈ slots → node.isValue = true ∧ node ≠ .string name) :
    bindName ((letFrame name head operand).items slots) =
      .ok ((bodyFrame unquoted operand).program slots) := by
  have replaced : replaceNameItems name value (.string head :: filled (.string name) slots) =
      .string head :: filled value slots := by
    rw [replaceNameItems_eq_map, List.map_cons, filled, List.map_map]
    refine congrArg₂ List.cons (by simp [replaceName, different])
      (List.map_congr_left fun slot member => ?_)
    cases slot with
    | none => simp [replaceName]
    | some node =>
        obtain ⟨settled, other⟩ := ready node member
        exact replaceName_of_isValue settled other
  exact congrArg (fun items => Except.ok (Node.list items)) replaced

theorem mem_bindings_let : acts "let" (.ofTags ["string", "..."])
    (fun call _ => Action.lift (bindName call.list)) ∈ bindings := by
  simp only [bindings, control, List.mem_append, List.mem_cons, true_or, or_true]

end Standard

namespace Engine

open Reduction Standard

/-- The results of the nodes in slots, and the state after the last one. -/
def slotResults (engine : Engine) (inputs : Inputs) :
    List (Option Node) → State → List (Option (Except Error Node)) × State
  | [], state => ([], state)
  | none :: rest, state =>
    let others := slotResults engine inputs rest state
    (none :: others.1, others.2)
  | some node :: rest, state =>
    let first := (engine.branch inputs .global node).on state
    let others := slotResults engine inputs rest first.2
    (some first.1 :: others.1, others.2)

variable {engine : Engine} {inputs : Inputs} {slots next : List (Option Node)}

/-- A node that is no list stays in the empty slots. -/
theorem results_filled {hole : Node} (unlisted : hole.isList = false)
    (slots : List (Option Node)) (state : State) :
    engine.results inputs .global (filled hole slots) state =
      ((engine.slotResults inputs slots state).1.map (·.getD (.ok hole)),
        (engine.slotResults inputs slots state).2) := by
  induction slots generalizing state with
  | nil => exact results_nil ..
  | cons slot rest inductionHypothesis =>
      rw [filled, List.map_cons, results_cons, ← filled]
      dsimp only
      rw [inductionHypothesis]
      cases slot with
      | none =>
          rw [Option.getD_none, engine.branch_other inputs .global hole unlisted]
          rfl
      | some node => rfl

/-- Nodes that are no lists stay as they are. -/
theorem results_plain_append {plain : List Node} (unlisted : ∀ item ∈ plain, item.isList = false)
    (rest : List Node) (state : State) :
    engine.results inputs .global (plain ++ rest) state =
      (plain.map .ok ++ (engine.results inputs .global rest state).1,
        (engine.results inputs .global rest state).2) := by
  induction plain with
  | nil => rfl
  | cons item others inductionHypothesis =>
      rw [List.forall_mem_cons] at unlisted
      rw [List.cons_append, results_cons, engine.branch_other inputs .global item unlisted.1]
      dsimp only
      rw [inductionHypothesis unlisted.2]
      rfl

theorem gather_plain_append (plain : List Node) (results : List (Except Error Node)) :
    gather (plain.map .ok ++ results) = (gather results).map (plain ++ ·) := by
  induction plain with
  | nil =>
      rw [List.map_nil, List.nil_append]
      cases gather results <;> rfl
  | cons item rest inductionHypothesis =>
      rw [List.map_cons, List.cons_append, gather_ok_cons, inductionHypothesis]
      cases gather results <;> rfl

/-- Slots have the same results in states that resemble each other. -/
theorem resembles_slotResults (heedless : engine.library.Heedless) (inputs : Inputs)
    (slots : List (Option Node)) {left right : State} (resembles : left.Resembles right) :
    (engine.slotResults inputs slots left).1 = (engine.slotResults inputs slots right).1 ∧
      (engine.slotResults inputs slots left).2.Resembles
        (engine.slotResults inputs slots right).2 := by
  induction slots generalizing left right with
  | nil => exact ⟨rfl, resembles⟩
  | cons slot rest inductionHypothesis =>
      cases slot with
      | none =>
          obtain ⟨same, after⟩ := inductionHypothesis resembles
          exact ⟨congrArg (none :: ·) same, after⟩
      | some node =>
          obtain ⟨result, middle⟩ := resembles_branch heedless inputs node .global _ _ resembles
          obtain ⟨same, after⟩ := inductionHypothesis middle
          exact ⟨congrArg₂ (some · :: ·) result same, after⟩

/-- What is gathered from slots fits them. -/
theorem fit_of_gather {state : State}
    (gathered : Slots.gather (engine.slotResults inputs slots state).1 = .ok next) :
    Slots.Fit next slots := by
  induction slots generalizing next state with
  | nil =>
      cases gathered
      exact .nil
  | cons slot rest inductionHypothesis =>
      cases slot with
      | none =>
          obtain ⟨others, later, rfl⟩ := Slots.exists_of_map_cons gathered
          exact .cons rfl (inductionHypothesis later)
      | some node =>
          cases first : ((engine.branch inputs .global node).on state).1 with
          | error error =>
              simp only [slotResults, first, Slots.gather] at gathered
              cases gathered
          | ok reduced =>
              simp only [slotResults, first, Slots.gather] at gathered
              obtain ⟨others, later, rfl⟩ := Slots.exists_of_map_cons gathered
              exact .cons rfl (inductionHypothesis later)

/-- A pass over a frame with a list to reduce gathers the results of its slots. -/
theorem on_pass_frame (frame : Frame) (noArguments : inputs.argv = [])
    (closed : engine.library.opensScope frame.name .global = false) {node : Node}
    (member : some node ∈ slots) (unready : node.isValue = false)
    (payable : Payable [engine.settings.sequenceAmount *
      Float.ofNat (frame.before.length + 1 + slots.length)]) (first : Bool) (state : State) :
    (engine.pass inputs .global first (frame.program slots)).on (state.holding endless) =
      let reduced := engine.slotResults inputs slots
        ((engine.entered .global (frame.items slots) state).holding endless)
      ((Slots.gather reduced.1).map frame.program, reduced.2) := by
  have inside : node ∈ frame.before ++ filled frame.hole slots :=
    List.mem_append_right _ (List.mem_map.mpr ⟨some node, member, rfl⟩)
  have shape : Node.shape (frame.items slots) = .sequence :=
    Node.shape_sequence frame.unquoted inside unready
  have plain : ∀ item ∈ Node.string frame.name :: frame.before, item.isList = false :=
    List.forall_mem_cons.mpr ⟨rfl, fun item member => (frame.plain item member).1⟩
  have bill : Payable (engine.bill .global (frame.items slots).length .sequence) := by
    rw [frame.length_items]
    exact payable
  rw [Frame.program, Frame.items, on_pass_named engine noArguments, ← Frame.items,
    on_branch_endless (by rw [shape]; exact bill), shape, reduceList,
    Frame.items, innerScope_closed closed, on_reduceItems, ← List.cons_append,
    results_plain_append plain, results_filled frame.plainHole.1, gather_plain_append,
    Slots.gather_map_getD]
  dsimp only
  generalize Slots.gather _ = gathered
  cases gathered <;> rfl

theorem settle_frame (frame : Frame) (slots next : List (Option Node)) :
    engine.settle (frame.program slots) (frame.program next) =
      if engine.settings.irreducibleCheck &&
          (frame.program (next.filter Slots.isKept)).sameStructure (frame.program slots) then
        (do note (.irreducible (frame.program (next.filter Slots.isKept)))
            pure (.done (frame.program (next.filter Slots.isKept))))
      else pure (.again (frame.program (next.filter Slots.isKept))) := by
  rw [← frame.compacted_items]
  exact settle_cons ..

/-- The outcomes of rounds of two frames that go in step: both fail alike, both go around again with
the same slots, or both are done. -/
inductive InStep (left right : Frame) (count : Nat) :
    Except Error Settled → Except Error Settled → Prop
  | failed (error : Error) : InStep left right count (.error error) (.error error)
  | again {next : List (Option Node)} (kept : ∀ slot ∈ next, Slots.isKept slot = true)
      (fewer : next.length ≤ count) :
      InStep left right count (.ok (.again (left.program next))) (.ok (.again (right.program next)))
  | done (leftValue rightValue : Node) :
      InStep left right count (.ok (.done leftValue)) (.ok (.done rightValue))

/-- Two frames over the same slots settle in step. -/
theorem inStep_settle (left right : Frame) (fit : Slots.Fit next slots)
    {leftState rightState : State} (resembles : leftState.Resembles rightState) :
    let leftEnd := (engine.settle (left.program slots) (left.program next)).on leftState
    let rightEnd := (engine.settle (right.program slots) (right.program next)).on rightState
    InStep left right slots.length leftEnd.1 rightEnd.1 ∧ leftEnd.2.Resembles rightEnd.2 := by
  have same := left.sameStructure_program_iff right fit
  rw [settle_frame, settle_frame, Bool.eq_iff_iff.mpr same]
  split_ifs
  · exact ⟨.done _ _, resembles.noting _ _⟩
  · refine ⟨.again (fun slot member => (List.mem_filter.mp member).2) ?_, resembles⟩
    exact (List.length_filter_le _ _).trans fit.length_eq.le

/-- The rounds of two frames over the same slots go in step. -/
theorem inStep_round (heedless : engine.library.Heedless) (noArguments : inputs.argv = [])
    {left right : Frame} (closedLeft : engine.library.opensScope left.name .global = false)
    (closedRight : engine.library.opensScope right.name .global = false) {node : Node}
    (member : some node ∈ slots) (unready : node.isValue = false)
    (payableLeft : Payable [engine.settings.sequenceAmount *
      Float.ofNat (left.before.length + 1 + slots.length)])
    (payableRight : Payable [engine.settings.sequenceAmount *
      Float.ofNat (right.before.length + 1 + slots.length)])
    {leftState rightState : State} (resembles : leftState.Resembles rightState) :
    let leftEnd := (engine.round inputs false (left.program slots)).on (leftState.holding endless)
    let rightEnd :=
      (engine.round inputs false (right.program slots)).on (rightState.holding endless)
    InStep left right slots.length leftEnd.1 rightEnd.1 ∧ leftEnd.2.Resembles rightEnd.2 := by
  have entered : ((engine.entered .global (left.items slots) leftState).holding endless).Resembles
      ((engine.entered .global (right.items slots) rightState).holding endless) :=
    ((engine.resembles_entered .global (left.items slots) leftState).trans
      (resembles.trans (engine.resembles_entered .global (right.items slots)
        rightState).symm)).withMeter _
  obtain ⟨same, after⟩ := resembles_slotResults heedless inputs slots entered
  dsimp only
  rw [round, round, on_bind, on_bind,
    on_pass_frame left noArguments closedLeft member unready payableLeft,
    on_pass_frame right noArguments closedRight member unready payableRight]
  dsimp only
  rw [same]
  cases gathered : Slots.gather (engine.slotResults inputs slots
      ((engine.entered .global (right.items slots) rightState).holding endless)).1 with
  | error error => exact ⟨.failed error, after⟩
  | ok reduced => exact inStep_settle left right (fit_of_gather gathered) after

/-- The amounts that are charged for a let over some count of items, or over fewer. -/
def letAmounts (engine : Engine) (count : Nat) : List Float :=
  engine.settings.invokeAmount ::
    (List.range (count + 5)).map fun length => engine.settings.sequenceAmount * Float.ofNat length

theorem payable_letAmounts {count length : Nat} (payable : Payable (engine.letAmounts count))
    (short : length ≤ count + 4) :
    Payable [engine.settings.sequenceAmount * Float.ofNat length] := by
  intro amount charged
  obtain rfl := List.mem_singleton.mp charged
  exact payable _ (List.mem_cons_of_mem _
    (List.mem_map.mpr ⟨length, List.mem_range.mpr (by omega), rfl⟩))

theorem payable_letAmounts_of_le {count fewer : Nat} (payable : Payable (engine.letAmounts count))
    (le : fewer ≤ count) : Payable (engine.letAmounts fewer) := by
  intro amount charged
  rcases List.mem_cons.mp charged with rfl | sequence
  · exact payable _ (.head _)
  · obtain ⟨length, short, rfl⟩ := List.mem_map.mp sequence
    exact payable_letAmounts payable (by rw [List.mem_range] at short; omega) _ (.head _)

/-- A list whose items come to values within some number of rounds, none of which is the name, or
one of which fails on the way. -/
inductive Awaits (engine : Engine) (inputs : Inputs) (name : String) :
    Nat → List Node → State → Prop
  | ready {limit : Nat} {items : List Node} {state : State}
      (ready : Node.isCallReady items = true) (absent : .string name ∉ items) :
      Awaits engine inputs name limit items state
  | failed {limit : Nat} {items : List Node} {state after : State} {error : Error}
      (unready : Node.isCallReady items = false)
      (failed : (engine.round inputs false (.list items)).on state = (.error error, after)) :
      Awaits engine inputs name (limit + 1) items state
  | again {limit : Nat} {items next : List Node} {state after : State}
      (unready : Node.isCallReady items = false)
      (went : (engine.round inputs false (.list items)).on state =
        (.ok (.again (.list next)), after))
      (later : Awaits engine inputs name limit next after) :
      Awaits engine inputs name (limit + 1) items state

section

variable {name head : String} {value : Node} (standard : engine.library = Standard.library)
  (operand : value.isOperand = true) (unquoted : Node.isQuoteName head = false)

include standard

/-- A let over values is reduced to its body. -/
theorem on_branch_letFrame (payable : Payable [engine.settings.invokeAmount])
    (ready : ∀ node, some node ∈ slots → node.isValue = true ∧ node ≠ .string name)
    (different : head ≠ name) (inputs : Inputs) (state : State) :
    (engine.branch inputs .global ((letFrame name head operand).program slots)).on
        (state.holding endless) =
      (.ok ((bodyFrame unquoted operand).program slots),
        (engine.entered .global ((letFrame name head operand).items slots) state).holding
          endless) := by
  have offers : engine.library.Offers "let" _ :=
    offers_of_mem (standard ▸ extendsStandard_library) mem_bindings_let
  have values : ∀ item ∈ (letFrame name head operand).before ++
      filled (letFrame name head operand).hole slots, item.isValue = true := by
    refine List.forall_mem_append.mpr ⟨?_, List.forall_mem_map.mpr fun slot member => ?_⟩
    · exact List.forall_mem_cons.mpr ⟨rfl, List.forall_mem_cons.mpr
        ⟨Node.isValue_of_isOperand operand, List.forall_mem_singleton.mpr rfl⟩⟩
    · cases slot with
      | none => rfl
      | some node => exact (ready node member).1
  have shape : Node.shape ((letFrame name head operand).items slots) = .call "let" :=
    Node.shape_call (letFrame name head operand).unquoted values
  have bill : Payable (engine.bill .global ((letFrame name head operand).items slots).length
      (.call "let")) := by
    rw [bill, priceCharges_offered offers]
    exact payable
  have counted (count : Nat) : engine.checkArity .global "let" count = pure () :=
    checkArity_of_bound offers.bound fun _ => rfl
  have permitted := checkPurity_of_calm offers.bound rfl
  rw [Frame.program, on_branch_endless (by rw [shape]; exact bill), shape]
  simp only [reduceList, resolve?, offers.bound, callFunction, counted, permitted, pure_bind,
    on_perform, Action.run_lift, bindName_letFrame unquoted operand different ready]
  rfl

/-- A round of a let over values leaves its body. -/
theorem on_round_letFrame (noArguments : inputs.argv = [])
    (payable : Payable [engine.settings.invokeAmount])
    (ready : ∀ node, some node ∈ slots → node.isValue = true ∧ node ≠ .string name)
    (kept : ∀ slot ∈ slots, Slots.isKept slot = true) (different : head ≠ name) (state : State) :
    (engine.round inputs false ((letFrame name head operand).program slots)).on
        (state.holding endless) =
      (.ok (.again ((bodyFrame unquoted operand).program slots)),
        (engine.entered .global ((letFrame name head operand).items slots) state).holding
          endless) := by
  have full : compacted ((bodyFrame unquoted operand).items slots) =
      (bodyFrame unquoted operand).program slots := by
    rw [Frame.compacted_items, List.filter_eq_self.mpr kept]
  have shorter : ((bodyFrame unquoted operand).program slots).sameStructure
      ((letFrame name head operand).program slots) = false := by
    rw [← Bool.not_eq_true, Frame.program, Frame.program, Node.sameStructure, Node.agree]
    intro same
    have length := Node.length_eq_of_agreeItems same
    rw [Frame.length_items, Frame.length_items] at length
    simp only [bodyFrame, letFrame, List.length_cons, List.length_nil] at length
    omega
  have settles : engine.settle ((letFrame name head operand).program slots)
      ((bodyFrame unquoted operand).program slots) =
        pure (.again (compacted ((bodyFrame unquoted operand).items slots))) :=
    settle_changed (List.cons_ne_nil _ _) (by rw [full, shorter])
  rw [full] at settles
  have branched := on_branch_letFrame standard operand unquoted payable ready different inputs state
  rw [Frame.program, Frame.items, ← on_pass_named engine noArguments false, ← Frame.items,
    ← Frame.program] at branched
  rw [round, on_bind, branched]
  dsimp only
  rw [settles]
  rfl

omit standard in
theorem exists_unready
    (unready : Node.isCallReady ((bodyFrame unquoted operand).items slots) = false) :
    ∃ node, some node ∈ slots ∧ node.isValue = false := by
  obtain ⟨item, member, waiting⟩ := List.all_eq_false.mp unready
  obtain ⟨slot, inside, rfl⟩ := List.mem_map.mp member
  cases slot with
  | none => exact absurd (Node.isValue_of_isOperand operand) waiting
  | some node => exact ⟨node, inside, Bool.eq_false_iff.mpr waiting⟩

/-- As long as there are lists to reduce, a let goes in step with its body. -/
theorem inStep_let (name : String) (noArguments : inputs.argv = [])
    (closed : engine.library.opensScope head .global = false)
    (payable : Payable (engine.letAmounts slots.length))
    (unready : Node.isCallReady ((bodyFrame unquoted operand).items slots) = false)
    {left right : State} (resembles : left.Resembles right) :
    let leftEnd := (engine.round inputs false ((letFrame name head operand).program slots)).on
      (left.holding endless)
    let rightEnd := (engine.round inputs false ((bodyFrame unquoted operand).program slots)).on
      (right.holding endless)
    InStep (letFrame name head operand) (bodyFrame unquoted operand) slots.length leftEnd.1
        rightEnd.1 ∧ leftEnd.2.Resembles rightEnd.2 := by
  obtain ⟨node, member, waiting⟩ := exists_unready operand unquoted unready
  have closedLet : engine.library.opensScope (letFrame name head operand).name .global = false :=
    (offers_of_mem (standard ▸ extendsStandard_library) mem_bindings_let).closed
  have four : (letFrame name head operand).before.length + 1 + slots.length ≤
      slots.length + 4 := (Nat.add_comm 4 slots.length).le
  have one : (bodyFrame unquoted operand).before.length + 1 + slots.length ≤
      slots.length + 4 := by
    change 0 + 1 + slots.length ≤ slots.length + 4
    omega
  exact inStep_round (standard ▸ heedless_library) noArguments closedLet closed member waiting
    (payable_letAmounts payable four) (payable_letAmounts payable one) resembles

omit standard in
/-- A round that goes around again keeps the endless balance. -/
theorem holding_of_round (noArguments : inputs.argv = []) {first : Bool} {name : String}
    {rest : List Node} {settled : Settled} {state after : State}
    (went : (engine.round inputs first (.list (.string name :: rest))).on (state.holding endless) =
      (.ok settled, after)) : after.holding endless = after := by
  obtain ⟨reduced, middle, passed, settles⟩ := on_bind_eq_ok went
  rw [on_pass_named engine noArguments] at passed
  obtain ⟨-, held⟩ := engine.payable_of_branch inputs _ .global _ _ _ passed
  have meter := (engine.ignoresMeter_settle (.list (.string name :: rest)) reduced).meter_eq middle
  rw [settles, ← held] at meter
  exact State.holding_of_meter meter

/-- The rounds of a let are those of its body, one round later: as long as there are lists to
reduce both go in step, and then the let is reduced to the body. -/
theorem agree_rounds_let (noArguments : inputs.argv = []) (different : head ≠ name)
    (closed : engine.library.opensScope head .global = false)
    (payable : Payable (engine.letAmounts slots.length))
    (kept : ∀ slot ∈ slots, Slots.isKept slot = true) {limit : Nat} {left right : State}
    (awaits : engine.Awaits inputs name limit ((bodyFrame unquoted operand).items slots)
      (right.holding endless)) (resembles : left.Resembles right) :
    Agree
      ((engine.rounds inputs (limit + 1) false ((letFrame name head operand).program slots)).on
        (left.holding endless))
      ((engine.rounds inputs limit false ((bodyFrame unquoted operand).program slots)).on
        (right.holding endless)) := by
  have heedless : engine.library.Heedless := standard ▸ heedless_library
  -- The induction is on the rounds of the body; the slots and both states change in each of them.
  generalize body : (bodyFrame unquoted operand).items slots = items at awaits
  generalize start : right.holding endless = state at awaits
  induction awaits generalizing slots left right with
  | @ready limit items state ready absent =>
      subst body start
      have settled : ∀ node, some node ∈ slots → node.isValue = true ∧ node ≠ .string name := by
        intro node member
        have inside : node ∈ filled value slots := List.mem_map.mpr ⟨some node, member, rfl⟩
        refine ⟨List.all_eq_true.mp ready node inside, ?_⟩
        rintro rfl
        exact absent (List.mem_cons_of_mem _ inside)
      have invoke : Payable [engine.settings.invokeAmount] :=
        fun amount charged => payable amount (List.mem_singleton.mp charged ▸ .head _)
      rw [rounds_succ, on_bind, on_round_letFrame standard operand unquoted noArguments invoke
        settled kept different]
      refine resembles_rounds heedless inputs limit false _ _ _ ?_
      exact ((engine.resembles_entered .global _ left).trans resembles).withMeter _
  | @failed limit items state after error unready failed =>
      subst body start
      obtain ⟨paired, resembles⟩ := inStep_let standard operand unquoted name noArguments closed
        payable unready resembles
      rw [← Frame.program] at failed
      rcases ended : (engine.round inputs false ((letFrame name head operand).program slots)).on
        (left.holding endless) with ⟨result, leftAfter⟩
      rw [ended, failed] at paired resembles
      rw [rounds_succ, rounds_succ, on_bind, on_bind, ended, failed]
      cases paired with
      | failed error => exact ⟨rfl, resembles⟩
  | @again limit items next state after unready went later inductionHypothesis =>
      subst body start
      obtain ⟨paired, resembles⟩ := inStep_let standard operand unquoted name noArguments closed
        payable unready resembles
      have held : after.holding endless = after := holding_of_round noArguments went
      rw [← Frame.program] at went
      rcases ended : (engine.round inputs false ((letFrame name head operand).program slots)).on
        (left.holding endless) with ⟨result, leftAfter⟩
      rw [ended, went] at paired resembles
      rw [rounds_succ, rounds_succ, on_bind, on_bind, ended, went]
      -- The body goes around again, so the let does as well, and with the same slots.
      generalize settled : (Except.ok (.again (.list next)) : Except Error Settled) = outcome
        at paired
      cases paired with
      | failed error => cases settled
      | done leftValue rightValue => cases settled
      | again kept fewer =>
          cases settled
          have heldLeft : leftAfter.holding endless = leftAfter :=
            State.holding_of_meter (resembles.meter.trans (congrArg State.meter held).symm)
          have followed := inductionHypothesis (payable_letAmounts_of_le payable fewer) kept
            resembles rfl held
          rw [heldLeft] at followed
          exact followed

end

/-- A list of values and calculations comes to values in as many rounds as it weighs, unless it
fails before. -/
theorem awaits_of_calculations (standard : engine.library = Standard.library)
    (noArguments : inputs.argv = []) {name head : String} (different : head ≠ name)
    {function : Function}
    (found : engine.library.function? head .global = some function) {items : List Node}
    (each : ∀ item ∈ items, item.isValue = true ∨ IsCalculation name item)
    (absent : .string name ∉ items) {limit : Nat} (enough : Node.weights items ≤ limit)
    (state : State) :
    engine.Awaits inputs name limit (.string head :: items) (state.holding endless) := by
  have missing {items : List Node} (absent : .string name ∉ items) :
      .string name ∉ .string head :: items := by
    rw [List.mem_cons, not_or]
    exact ⟨fun same => different (Node.string.inj same).symm, absent⟩
  induction limit generalizing items state with
  | zero =>
      have none : items = [] := by
        by_contra filled
        exact absurd (Node.weights_pos filled) (by omega)
      subst none
      exact .ready rfl (missing absent)
  | succ limit inductionHypothesis =>
      cases ready : Node.isCallReady (.string head :: items) with
      | true => exact .ready ready (missing absent)
      | false =>
          rcases went : (engine.round inputs false (.list (.string head :: items))).on
            (state.holding endless) with ⟨error | settled, after⟩
          · exact .failed ready went
          · obtain ⟨item, member, unready⟩ := List.all_eq_false.mp ready
            have waiting : ∃ item ∈ items, item.isValue = false :=
              ⟨item, member, Bool.eq_false_iff.mpr unready⟩
            obtain ⟨others, shrunk, rfl⟩ :=
              exists_again standard noArguments found each waiting went
            have less := (weights_of_shrinks shrunk).2 waiting
            have kept := Node.weights_filter_le (!·.isNull) others
            have left := forall_mem_of_shrinks (fun _ => Or.inr) shrunk each
            have later : engine.Awaits inputs name limit
                (.string head :: others.filter (!·.isNull)) (after.holding endless) :=
              inductionHypothesis (fun item member => left item (List.mem_of_mem_filter member))
                (fun member => notMem_of_shrinks shrunk absent (List.mem_of_mem_filter member))
                (by omega) after
            rw [holding_of_round noArguments went] at later
            exact .again ready went later

end Engine

namespace Session

open Standard

section

variable {session : Session} {inputs : Inputs} {name head : String} {value : Node}
  {items : List Node} {limit : Nat}

/-- The run of a let ends as the run of its body in which its own items are replaced. -/
theorem run_letOf (standard : session.engine.library = Standard.library)
    (noArguments : inputs.argv = []) (operand : value.isOperand = true)
    (bound : (Standard.library.function? head .global).isSome = true) (different : head ≠ name)
    (body : ∀ item ∈ items, item.isNull = false ∧ IsCalculation name item)
    (payable : Payable (session.engine.letAmounts items.length))
    (enough : Node.weights items ≤ limit) :
    ((session.withBalance none).run inputs (limit + 1) (letOf name value head items)).1 =
      ((session.withBalance none).run inputs limit
        (.list (.string head :: items.map (replaceOwn name value)))).1 := by
  obtain ⟨function, found⟩ := Option.isSome_iff_exists.mp bound
  obtain ⟨offers, unquoted⟩ := offers_of_function? found
  have replaced : ∀ item ∈ items.map (replaceOwn name value),
      item.isValue = true ∨ IsCalculation name item :=
    List.forall_mem_map.mpr fun item member =>
      isValue_or_isCalculation_replaceOwn operand (body item member).2
  have light : Node.weights (items.map (replaceOwn name value)) ≤ limit :=
    (weights_map_replaceOwn_le operand items).trans enough
  have kept : ∀ slot ∈ items.map (slotOf name), Slots.isKept slot = true :=
    List.forall_mem_map.mpr fun item member => isKept_slotOf (body item member).1
  rw [← standard] at found offers
  refine run_eq_of_agree fun left right resembles => ?_
  have awaits := Engine.awaits_of_calculations standard noArguments different found replaced
    (notMem_map_replaceOwn operand items) light right
  rw [Engine.rounds_first noArguments, Engine.rounds_first noArguments limit,
    ← program_letFrame operand, ← program_bodyFrame unquoted operand]
  rw [← filled_slotOf] at awaits
  exact Engine.agree_rounds_let standard operand unquoted noArguments different offers.closed
    (by rwa [List.length_map]) kept awaits resembles

end

/-- A let replaces its name among the items of its body, and nowhere else: nested calls of
arithmetic are reduced before, and the name is an ordinary text in them, which none of them hands
back. With an unlimited balance that pays the charges its run ends as the run of the body with these
items replaced, one pass later; and as the run of the body in which the name is replaced everywhere,
when no nested call mentions it. -/
theorem let_replaces_own_items (session : Session) (inputs : Inputs) (name head : String)
    (value : Node) (items : List Node) (limit : Nat)
    (standard : session.engine.library = Standard.library) (noArguments : inputs.argv = [])
    (operand : value.isOperand = true)
    (bound : (Standard.library.function? head .global).isSome = true) (different : head ≠ name)
    (body : ∀ item ∈ items, item.isNull = false ∧ IsCalculation name item)
    (payable : Payable (session.engine.letAmounts items.length))
    (enough : Node.weights items ≤ limit) :
    let result (limit : Nat) (program : Node) :=
      ((session.withBalance none).run inputs limit program).1
    result (limit + 1) (letOf name value head items) =
        result limit (.list (.string head :: items.map (replaceOwn name value))) ∧
      ((∀ item ∈ items, item.isList = true → replaceName name value item = item) →
        result (limit + 1) (letOf name value head items) =
          result limit (.list (replaceNameItems name value (.string head :: items)))) := by
  intro result
  have own := run_letOf standard noArguments operand bound different body payable enough
  refine ⟨own, fun fixed => ?_⟩
  have everywhere : replaceNameItems name value (.string head :: items) =
      .string head :: items.map (replaceOwn name value) := by
    rw [replaceNameItems_eq_map, List.map_cons, replaceName, if_neg different]
    exact congrArg _ (List.map_congr_left fun item member =>
      (replaceOwn_eq_replaceName (fixed item member)).symm)
  rw [everywhere]
  exact own

theorem mem_bindings_plus : joint "+" twoNumbers Node.add ∈ bindings := by
  simp only [bindings, arithmetic, operators, List.mem_append, List.mem_cons, true_or, or_true]

theorem mem_bindings_times : binary "*" (· * ·) ∈ bindings := by
  simp only [bindings, arithmetic, operators, List.mem_append, List.mem_cons, true_or, or_true]

def sumWith (number : Float) : Enclosure where
  name := "+"
  before := [.number number]
  after := []
  unquoted := by decide
  plainBefore := Enclosure.unlisted_number number
  plainAfter := Enclosure.unlisted_nil

def productOf (factor : Node) (number : Float) : Node :=
  .list [.string "*", factor, .number number]

/-- A sum of a product takes two passes. -/
theorem run_sum {factor : Node} {other : Float} (ready : factor.isValue = true)
    (given : (standing {}).engine.arguments .global [.string "*", factor, .number other] =
      [factor, .number other]) (number : Float) {limit : Nat} (enough : 2 ≤ limit) :
    (((standing {}).withBalance none).run ⟨[], none⟩ limit
        ((sumWith number).around (productOf factor other))).1 =
      .ok (some (.number (number + factor.toNumber * other))) := by
  have extended : (standing {}).engine.library.ExtendsStandard := extendsStandard_library
  have closes : (standing {}).engine.Closes (sumWith number) :=
    (offers_of_mem extended mem_bindings_plus).closed
  have productShape : Node.shape [.string "*", factor, .number other] = .call "*" :=
    Node.shape_call (by decide) (List.forall_mem_cons.mpr ⟨ready, by simp [Node.isValue]⟩)
  have sumShape (added : Float) :
      Node.shape [.string "+", .number number, .number added] = .call "+" :=
    Node.shape_call (by decide) (by simp [Node.isValue])
  have multiplies : (standing {}).engine.Makes ⟨[], none⟩ (productOf factor other)
      (.number (factor.toNumber * other)) _ :=
    .call productShape given
      (Engine.applies_of_mem extended mem_bindings_times (by decide) rfl rfl)
  have adds : (standing {}).engine.Makes ⟨[], none⟩
      (.list [.string "+", .number number, .number (factor.toNumber * other)])
      (.number (number + factor.toNumber * other)) _ :=
    .call (sumShape _) rfl (Engine.applies_of_mem extended mem_bindings_plus (by decide) rfl rfl)
  have lighter : ((sumWith number).around (.number (factor.toNumber * other))).weight ≠
      ((sumWith number).around (productOf factor other)).weight := by
    refine ((sumWith number).weight_around_lt ?_).ne
    simp [productOf, Node.weight, Node.weights]
  have form (inner : Node) (full : inner.isNull = false) : ((sumWith number).around inner).IsForm :=
    Enclosure.isForm_around (by simp [Enclosure.IsFull, sumWith, Node.isNull]) full
  have completes := Engine.Completes.step_form rfl (form _ rfl) (multiplies.around closes rfl)
    (Engine.settle_form (form _ rfl) lighter) (.last rfl adds rfl)
  have payable : Payable ((standing {}).engine.charges .global
      ((sumWith number).around (productOf factor other)) ++ (standing {}).engine.charges .global
        (.list [.string "+", .number number, .number (factor.toNumber * other)])) := by
    have size : (sumWith number).size = 3 := rfl
    rw [Engine.charges_around closes rfl, size, productOf, Engine.charges_call productShape,
      Engine.charges_call (sumShape _),
      Engine.priceCharges_offered (offers_of_mem extended mem_bindings_plus),
      Engine.priceCharges_offered (offers_of_mem extended mem_bindings_times)]
    unfold Payable
    decide +kernel
  have ran := (run_completes completes payable limit).1
  rwa [if_neg (by omega)] at ran

theorem isSome_plus : (Standard.library.function? "+" .global).isSome = true := by
  rw [(offers_of_mem extendsStandard_library mem_bindings_plus).bound]
  rfl

theorem payable_letAmounts_two : Payable ((standing {}).engine.letAmounts 2) := by
  unfold Payable
  decide +kernel

theorem isCalculation_of_isAtom {factor : Node} (atom : factor.isAtom 1 = true) :
    ∀ item ∈ [.string "x", productOf factor 2.0],
      item.isNull = false ∧ IsCalculation "x" item := by
  have multiplies : IsCalculation "x" (productOf factor 2.0) :=
    .call (by decide +kernel) (fun _ => rfl)
      (List.forall_mem_cons.mpr ⟨.atom atom, List.forall_mem_singleton.mpr (.atom rfl)⟩)
  exact List.forall_mem_cons.mpr
    ⟨⟨rfl, .atom rfl⟩, List.forall_mem_singleton.mpr ⟨rfl, multiplies⟩⟩

/-- A let adds its value to a product that does not mention its name. -/
theorem let_adds_product :
    (((standing {}).withBalance none).run ⟨[], none⟩ 10 (letOf "x" (.number 5.0) "+"
        [.string "x", productOf (.number 3.0) 2.0])).1 =
      .ok (some (.number 11.0)) := by
  have fixed : ∀ item ∈ [.string "x", productOf (.number 3.0) 2.0], item.isList = true →
      replaceName "x" (.number 5.0) item = item := by
    simp [productOf, replaceName, replaceNameItems, Node.isList]
  have replaced := (let_replaces_own_items (standing {}) ⟨[], none⟩ "x" "+" (.number 5.0)
    [.string "x", productOf (.number 3.0) 2.0] 9 rfl rfl rfl isSome_plus (by decide)
    (isCalculation_of_isAtom rfl) payable_letAmounts_two (by decide)).2 fixed
  exact replaced.trans (run_sum rfl rfl 5.0 (by decide))

/-- The name in a product is multiplied as a text, which is no number; to replace it everywhere is
to multiply the value. -/
theorem let_multiplies_name :
    (((standing {}).withBalance none).run ⟨[], none⟩ 10 (letOf "x" (.number 5.0) "+"
        [.string "x", productOf (.string "x") 2.0])).1 =
      .ok (some (.number (5.0 + Number.ofText "x" * 2.0))) ∧
    (5.0 + Number.ofText "x" * 2.0).isNaN = true ∧
    (((standing {}).withBalance none).run ⟨[], none⟩ 9 (.list (replaceNameItems "x" (.number 5.0)
        [.string "+", .string "x", productOf (.string "x") 2.0]))).1 =
      .ok (some (.number 15.0)) := by
  have stands : library.valueOf .global (.string "x") = .string "x" :=
    valueOf_string (by decide +kernel)
  have given : (standing {}).engine.arguments .global [.string "*", .string "x", .number 2.0] =
      [.string "x", .number 2.0] :=
    congrArg (fun first : Node => [first, .number 2.0]) stands
  have replaced : (((standing {}).withBalance none).run ⟨[], none⟩ 10 (letOf "x" (.number 5.0) "+"
      [.string "x", productOf (.string "x") 2.0])).1 =
        (((standing {}).withBalance none).run ⟨[], none⟩ 9
          ((sumWith 5.0).around (productOf (.string "x") 2.0))).1 :=
    run_letOf rfl rfl rfl isSome_plus (by decide) (isCalculation_of_isAtom rfl)
      payable_letAmounts_two (by decide)
  refine ⟨replaced.trans (run_sum rfl given 5.0 (by decide)), by decide +kernel, ?_⟩
  have everywhere : Node.list (replaceNameItems "x" (.number 5.0)
      [.string "+", .string "x", productOf (.string "x") 2.0]) =
        (sumWith 5.0).around (productOf (.number 5.0) 2.0) := by
    simp [replaceNameItems, replaceName, productOf, sumWith, Enclosure.around, Enclosure.items]
  rw [everywhere]
  exact run_sum rfl rfl 5.0 (by decide)

end Session

end Reduct
