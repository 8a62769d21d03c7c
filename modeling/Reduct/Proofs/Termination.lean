import Reduct.Proofs.Weight

namespace Reduct

/-- Functions and casters yield values, constants are values other than texts, and there are no
preprocessors. -/
structure Library.YieldsValues (library : Library) : Prop where
  function : ∀ name scope function, library.function? name scope = some function →
    ∀ call arguments world node after,
      (function.call call arguments).run world = (.ok node, after) → node.isValue = true
  caster : ∀ name scope caster, library.caster? name scope = some caster →
    ∀ arguments node, caster arguments = .ok node → node.isValue = true
  constant : ∀ name scope constant, library.constant? name scope = some constant →
    constant.isValue = true ∧ constant.string? = none
  preprocessor : ∀ name scope, library.preprocessor? name scope = none

namespace Node

theorem weight_le_two_of_isValue {node : Node} (value : node.isValue = true) :
    node.weight ≤ 2 := by
  cases node with
  | list items =>
      obtain rfl : items = [] := List.isEmpty_iff.mp value
      simp [weight, weights]
  | _ => simp [weight]

theorem weight_eq_one_of_isValue {node : Node} (value : node.isValue = true)
    (other : node.string? = none) : node.weight = 1 := by
  cases node with
  | list items =>
      obtain rfl : items = [] := List.isEmpty_iff.mp value
      simp [weight, weights]
  | string text => cases other
  | _ => simp [weight]

/-- The last of some items weighs no more than all of them. -/
theorem weight_getLast_le (items : List Node) :
    (items.getLast?.getD .null).weight ≤ max 1 (weights items) := by
  cases equal : items.getLast? with
  | none => simp [weight]
  | some last =>
      have member : last.weight ∈ items.map weight :=
        List.mem_map_of_mem (List.mem_of_getLast? equal)
      have lower := List.single_le_sum (fun _ _ => Nat.zero_le _) _ member
      rw [weights_eq_sum, Option.getD_some]
      exact lower.trans (le_max_right _ _)

/-- Items with a name in front are that name and its arguments. -/
theorem exists_rest_of_headName? {items : List Node} {name : String}
    (head : headName? items = some name) : ∃ rest, items = .string name :: rest := by
  cases items with
  | nil => cases head
  | cons first rest =>
      cases first <;> cases head
      exact ⟨rest, rfl⟩

end Node

namespace Engine

open Reduction Node

variable {engine : Engine} (inputs : Inputs)

/-- A call yields a node that is lighter, unless its name is unknown and it has arguments. -/
theorem lightened_call (values : engine.library.YieldsValues) (scope : Scope) (id : Nat)
    {items : List Node} {requested : String} (head : headName? items = some requested)
    {state after : State} {reduced : Node}
    (succeeds : (engine.reduceList inputs scope id items (.call requested)).on state =
      (.ok reduced, after)) :
    Lightened (.list items) reduced := by
  obtain ⟨rest, rfl⟩ := exists_rest_of_headName? head
  have weighs : (list (.string requested :: rest)).weight = 3 + weights rest := by
    simp only [weight, weights]
    omega
  have light {node : Node} (value : node.isValue = true) :
      Lightened (.list (.string requested :: rest)) node := by
    have low := weight_le_two_of_isValue value
    exact .inl (by omega)
  simp only [reduceList] at succeeds
  split at succeeds
  · rename_i name function resolved
    obtain ⟨_, _, _, checked⟩ := on_bind_eq_ok succeeds
    obtain ⟨_, middle, _, performed⟩ := on_bind_eq_ok checked
    rw [on_perform] at performed
    have found : ∃ name, engine.library.function? name scope = some function := by
      unfold resolve? at resolved
      split at resolved
      · rename_i found
        cases resolved
        exact ⟨_, found⟩
      · obtain ⟨other, found, same⟩ := Option.map_eq_some_iff.mp resolved
        cases same
        exact ⟨_, found⟩
    obtain ⟨name, found⟩ := found
    exact light (values.function name scope function found _ _ _ _ _
      (Prod.ext (of_on_orFail_eq_ok performed) rfl))
  · unfold invokeOther at succeeds
    split at succeeds
    · rename_i caster found
      exact light (values.caster requested scope caster found _ _ (of_on_orFail_eq_ok succeeds))
    · split at succeeds
      · rename_i constant found
        obtain ⟨value, other⟩ := values.constant requested scope constant found
        cases succeeds
        split_ifs
        · exact light value
        · have one := weight_eq_one_of_isValue value other
          left
          rw [weighs, weight, List.drop_one, List.tail_cons, weights]
          omega
      · cases succeeds
        split_ifs
        · exact light rfl
        · exact .inr rfl

/-- A quote form yields its last item or withholds it, and is heavier than that. -/
theorem lightened_quote (scope : Scope) (id : Nat) {items : List Node} (filled : items ≠ [])
    {state after : State} {reduced : Node}
    (succeeds : (engine.reduceList inputs scope id items .quote).on state = (.ok reduced, after)) :
    Lightened (.list items) reduced := by
  have lower := weight_getLast_le items
  have least := weights_pos filled
  cases succeeds
  left
  split_ifs
  · rw [weight]
    omega
  · rw [weight, weight]
    · omega
    all_goals simp

/-- Items that are all reduced are together lighter, unless none of them has changed. -/
theorem lightened_results (scope : Scope) (items nodes : List Node)
    (each : ∀ item ∈ items, ∀ (state after : State) (node : Node),
      (engine.branch inputs scope item).on state = (.ok node, after) → Lightened item node)
    (state after : State)
    (reduced : engine.results inputs scope items state = (nodes.map .ok, after)) :
    weights nodes < weights items ∨ nodes = items := by
  induction items generalizing nodes state with
  | nil =>
      rw [results_nil] at reduced
      obtain ⟨nothing, -⟩ := Prod.mk.inj reduced
      exact .inr (List.map_eq_nil_iff.mp nothing.symm)
  | cons item rest inductionHypothesis =>
      obtain ⟨node, others, middle, rfl, branched, later⟩ :=
        engine.results_cons_eq_ok inputs scope reduced
      have first := each item (.head rest) state middle node branched
      have second := inductionHypothesis others
        (fun item member => each item (.tail _ member)) middle later
      have lower := first.weight_le
      rw [weights, weights]
      rcases first with less | rfl <;> rcases second with fewer | rfl
      · exact .inl (by omega)
      · exact .inl (by omega)
      · exact .inl (by omega)
      · exact .inr rfl

/-- A sequence stays a list of its reduced items or becomes the last of them. -/
theorem lightened_sequenceResult {items nodes : List Node} (filled : items ≠ [])
    (lighter : weights nodes < weights items ∨ nodes = items) :
    Lightened (.list items) (sequenceResult nodes) := by
  have least := weights_pos filled
  unfold sequenceResult
  split_ifs
  · rcases lighter with less | rfl
    · left
      simp only [weight]
      omega
    · exact .inr rfl
  · left
    have lower := weight_getLast_le nodes
    have most : weights nodes ≤ weights items := by
      rcases lighter with less | rfl
      · exact less.le
      · exact le_rfl
    rw [weight]
    omega

/-- Every node is reduced to a lighter one or stays the same. -/
theorem lightened_branch (values : engine.library.YieldsValues) (node : Node) :
    ∀ (scope : Scope) (state after : State) (reduced : Node),
      (engine.branch inputs scope node).on state = (.ok reduced, after) →
        Lightened node reduced := by
  induction node using Node.listInduction with
  | other node other =>
      intro scope state after reduced succeeds
      rw [engine.branch_other inputs scope node other] at succeeds
      cases succeeds
      exact .inr rfl
  | list items inductionHypothesis =>
      intro scope state after reduced succeeds
      rw [branch_list] at succeeds
      obtain ⟨_, middle, _, further⟩ := on_bind_eq_ok succeeds
      cases shape : Node.shape items with
      | quote =>
          rw [shape] at further
          refine lightened_quote inputs scope _ ?_ further
          rintro rfl
          cases shape
      | call requested =>
          rw [shape] at further
          exact lightened_call inputs values scope _ (of_shape_eq_call shape).1 further
      | empty =>
          rw [shape] at further
          cases further
          exact .inr (congrArg list ((shape_eq_empty_iff items).mp shape).symm)
      | sequence =>
          rw [shape] at further
          obtain ⟨nodes, results, rfl⟩ := engine.on_reduceItems_eq_ok inputs _ further
          apply lightened_sequenceResult
          · rintro rfl
            cases shape
          · exact lightened_results inputs _ items nodes
              (fun item member => inductionHypothesis item member _) middle after results

/-- Without preprocessors a program has no leading forms. -/
theorem preprocess_eq_pure (values : engine.library.YieldsValues) (program : List Node) :
    engine.preprocess inputs program = pure program :=
  ext_on (engine.on_preprocess_unclaimed inputs values.preprocessor program)

/-- A pass over a list yields a node that is no heavier than the list it reduces. -/
theorem lightened_pass (values : engine.library.YieldsValues) (first : Bool) (items : List Node)
    {state after : State} {reduced : Node}
    (succeeds : (engine.pass inputs .global first (.list items)).on state =
      (.ok reduced, after)) :
    ∃ inner, Lightened (.list items) (.list inner) ∧
      Lightened (joined inputs first inner) reduced := by
  obtain ⟨inner, denested⟩ := exists_denest_list items
  refine ⟨inner, ?_, ?_⟩
  · rw [← denested]
    exact lightened_denest _
  · rw [engine.pass_list inputs .global first items inner denested,
      preprocess_eq_pure inputs values] at succeeds
    exact lightened_branch inputs values _ .global state after reduced succeeds

/-- A round that leaves a program to do makes it lighter, apart from the arguments of the run that
join it in the first round. -/
theorem weight_lt_of_again (values : engine.library.YieldsValues)
    (checks : engine.settings.irreducibleCheck = true) {first : Bool} {program next : Node}
    {state after : State}
    (again : (engine.round inputs first program).on state = (.ok (.again next), after)) :
    if first then next.weight ≤ program.weight + weights inputs.argv
    else next.weight < program.weight := by
  obtain ⟨head, rest, middle, passed, rfl, -, changed⟩ := engine.of_round_again inputs again
  cases program with
  | null => cases passed
  | list items =>
      obtain ⟨inner, denested, branched⟩ := lightened_pass inputs values first items passed
      have reduced := branched.trans (lightened_compacted (head :: rest))
      cases first with
      | true =>
          have lower := reduced.weight_le
          have outer := denested.weight_le
          simp only [joined, if_true, weight, weights_append] at lower outer ⊢
          omega
      | false =>
          rcases denested.trans reduced with less | same
          · exact less
          · -- An unchanged program would have been found irreducible.
            have different := changed checks
            rw [same, sameStructure_self] at different
            cases different
  | _ => cases passed

end Engine

namespace Session

/-- A run ends when calls yield values alone and lists that have stopped changing are returned. The
weights of the program and of the arguments bound its passes. -/
theorem run_ends_on_values (session : Session) (inputs : Inputs) (program : Node)
    (values : session.engine.library.YieldsValues)
    (checks : session.engine.settings.irreducibleCheck = true) (bound : Nat)
    (enough : program.weight + Node.weights inputs.argv + 2 ≤ bound) :
    (session.run inputs bound program).1 ≠ .ok none := by
  rw [run_eq]
  apply session.engine.rounds_end inputs (fun _ => True) fun first program _ =>
    if first then program.weight + Node.weights inputs.argv + 1 else program.weight
  · intro first program state next after _ again
    have lighter := Engine.weight_lt_of_again inputs values checks again
    cases first with
    | true => exact ⟨trivial, Nat.lt_succ_of_le lighter⟩
    | false => exact ⟨trivial, lighter⟩
  · trivial
  · exact enough

/-- A session with a function, a caster and a constant, all of which yield values. -/
def valued : Session :=
  .start
    { function? := fun name _ =>
        if name = "f" then some ⟨none, false, fun _ _ => pure (.number 5.0)⟩ else none
      caster? := fun name _ => if name = "t" then some fun _ => .ok (.list []) else none
      constant? := fun name _ => if name = "c" then some .null else none
      preprocessor? := fun _ _ => none
      price? := fun _ _ => none
      opensScope := fun _ _ => false }
    {} .empty 0 0

theorem valued_yieldsValues : valued.engine.library.YieldsValues where
  function name scope function found := by
    change (if name = "f" then _ else none) = _ at found
    split_ifs at found
    cases found
    intro call arguments world node after yields
    cases yields
    rfl
  caster name scope caster found := by
    change (if name = "t" then _ else none) = _ at found
    split_ifs at found
    cases found
    intro arguments node yields
    cases yields
    rfl
  constant name scope constant found := by
    change (if name = "c" then _ else none) = _ at found
    split_ifs at found
    cases found
    exact ⟨rfl, rfl⟩
  preprocessor _ _ := rfl

/-- A constant in front of unknown names and a call, with an argument of the run, is done within
twenty passes. -/
theorem valued_ends :
    (valued.run ⟨[.number (0.0 / 0.0)], none⟩ 20
      (.list [.list [.string "c", .number 1.0], .list [.string "x"], .list [.string "f"],
        .string "y", .null])).1 ≠ .ok none :=
  run_ends_on_values valued _ _ valued_yieldsValues rfl 20 (by decide)

end Session

end Reduct
