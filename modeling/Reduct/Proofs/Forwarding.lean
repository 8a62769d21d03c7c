import Reduct.Proofs.Leader
import Reduct.Proofs.ListFunctions
import Reduct.Proofs.Resemblance
/-! This file follows a call that hands its arguments on to a list. Its run is the run of the list
with the arguments behind it, and there they have lost their quotes. -/

namespace Reduct

namespace Node

/-- A number, or a list that is quoted. -/
def isOperand : Node → Bool
  | .number _ => true
  | .quote (.list _) => true
  | _ => false

variable {node : Node}

theorem isValue_of_isOperand (operand : node.isOperand = true) : node.isValue = true := by
  cases node with
  | list => cases operand
  | _ => rfl

/-- An operand without its quote is a number or a list. -/
theorem unquoted_of_isOperand (operand : node.isOperand = true) :
    (∃ number, node.unquoted = .number number) ∨ ∃ items, node.unquoted = .list items := by
  cases node with
  | number value => exact .inl ⟨value, rfl⟩
  | quote inner =>
      cases inner with
      | list items => exact .inr ⟨items, rfl⟩
      | _ => cases operand
  | _ => cases operand

/-- Further quotes and names of constants are not found in an operand without its quote. -/
theorem valueOf_unquoted (operand : node.isOperand = true) (library : Library) (scope : Scope) :
    library.valueOf scope node.unquoted = node.unquoted ∧
      library.valueOf scope node.unquoted.unquoted = node.unquoted := by
  rcases unquoted_of_isOperand operand with ⟨number, equal⟩ | ⟨items, equal⟩
  · rw [equal]
    exact ⟨rfl, rfl⟩
  · rw [equal]
    exact ⟨rfl, rfl⟩

/-- A quote around an empty list makes no difference to the arguments of a call. -/
theorem isBare_unquoted (operand : node.isOperand = true)
    (blank : ∀ items, node = .quotedList items → items = []) : node.unquoted.isBare = true := by
  cases node with
  | number value => rfl
  | quote inner =>
      cases inner with
      | list items =>
          obtain rfl := blank items rfl
          rfl
      | _ => cases operand
  | _ => cases operand

theorem isValue_of_isBare (bare : node.isBare = true) : node.isValue = true := by
  cases node with
  | list items => exact bare
  | _ => rfl

/-- Items among which there is no quote do not agree with items that start with one. -/
theorem agreeItems_quote {related : Float → Float → Bool} {items : List Node}
    (plain : ∀ item ∈ items, ∀ inner, item ≠ .quote inner) (inner : Node) (rest : List Node) :
    agreeItems related items (.quote inner :: rest) = false := by
  cases items with
  | nil => rfl
  | cons item others =>
      have different : agree related item (.quote inner) = false := by
        cases item with
        | quote content => exact absurd rfl (plain _ (.head others) content)
        | _ => rfl
      rw [agreeItems, different, Bool.false_and]

/-- A list has the structure of a list that a name leads only when the name leads it as well. -/
theorem leader?_of_sameStructure {items rest : List Node} {name : String}
    (same : (Engine.compacted items).sameStructure (.list (.string name :: rest)) = true) :
    (Node.list items).leader? = some name := by
  rw [Engine.compacted, sameStructure, agree] at same
  rw [leader?]
  cases kept : items.filter (!·.isNull) with
  | nil =>
      rw [kept] at same
      cases same
  | cons first others =>
      rw [kept, agreeItems, Bool.and_eq_true] at same
      cases first with
      | string text =>
          have equal : text = name := by simpa [agree] using same.1
          rw [equal]
          rfl
      | _ => simp [agree] at same

end Node

namespace Table

variable {table : Table} {name : String} {function : Function}

theorem hasFunction_of_function? (found : table.toLibrary.function? name .global = some function) :
    table.hasFunction name = true :=
  congrArg Option.isSome found

theorem offers_of_function? (unpriced : table.prices = []) (closed : table.scopes = [])
    (found : table.toLibrary.function? name .global = some function) :
    table.toLibrary.Offers name function :=
  offers_of_get? unpriced closed found

end Table

namespace Standard

/-- A name of a function in the standard library has no price, opens no scope and is no name of a
quote. -/
theorem offers_of_function? {name : String} {function : Function}
    (found : library.function? name .global = some function) :
    library.Offers name function ∧ Node.isQuoteName name = false := by
  have absent : ∀ quoting ∈ ["quote", Node.quoteKey],
      quoting ∉ bindings.filterMap Binding.functionName? := by
    decide +kernel
  rw [library] at found ⊢
  refine ⟨Table.offers_of_function? plain_table.1 plain_table.2 found, ?_⟩
  rw [← Bool.not_eq_true, Node.isQuoteName, Bool.or_eq_true, beq_iff_eq, beq_iff_eq]
  intro quoting
  have missing := hasFunction_table (absent name (by simpa using quoting))
  rw [Table.hasFunction_of_function? found] at missing
  cases missing

end Standard

namespace Engine

open Reduction Standard

variable {engine : Engine} {inputs : Inputs}

/-- A run without arguments starts with a pass like any other. -/
theorem rounds_first (noArguments : inputs.argv = []) (limit : Nat) (first : Bool)
    (program : Node) :
    engine.rounds inputs limit first program = engine.rounds inputs limit false program := by
  have pass : engine.pass inputs .global first program =
      engine.pass inputs .global false program := by
    cases first with
    | false => rfl
    | true => simp [Engine.pass, noArguments]
  cases limit with
  | zero => rfl
  | succ limit => rw [rounds_succ, rounds_succ, round, round, pass]

theorem on_pass_named (engine : Engine) (noArguments : inputs.argv = []) (first : Bool)
    (name : String) (rest : List Node) (state : State) :
    (engine.pass inputs .global first (.list (.string name :: rest))).on state =
      (engine.branch inputs .global (.list (.string name :: rest))).on state := by
  rw [← unwatched_watchPass, Watched.on_unwatched, engine.watchPass_named noArguments,
    ← Watched.on_unwatched, unwatched_watchBranch]

/-- A list whose bill is payable is reduced under the endless balance. -/
theorem on_branch_endless {items : List Node}
    (payable : Payable (engine.bill .global items.length (Node.shape items))) (state : State) :
    (engine.branch inputs .global (.list items)).on (state.holding endless) =
      (engine.reduceList inputs .global (state.counter + 1) items (Node.shape items)).on
        ((engine.entered .global items state).holding endless) := by
  have entered : engine.entered .global items (state.holding endless) =
      (engine.entered .global items state).holding endless :=
    engine.entered_withMeter .global items state _
  rw [branch_list, on_bind, entered, on_chargeAll_endless payable]
  rfl

/-- A finite amount for calls is payable. -/
theorem payable_invoke (valid : engine.settings.validate = .ok ()) :
    Payable [engine.settings.invokeAmount] := by
  have finite : engine.settings.invokeAmount.isFinite = true := by
    unfold Settings.validate at valid
    split_ifs at valid with _ amounts
    simp only [Bool.and_eq_true] at amounts
    exact amounts.1.2
  intro amount charged
  obtain rfl := List.mem_singleton.mp charged
  change 0.0 < 1.0 / 0.0 + engine.settings.invokeAmount
  rw [Number.infinite_add _ finite]
  exact Number.zero_lt_infinite

/-- A function of its arguments alone is called without a change to the state. -/
theorem on_reduceList_computes (inputs : Inputs) {name : String} {signature : Signature}
    {compute : List Node → Except Error Node} {items : List Node} {result : Node}
    (extended : engine.library.ExtendsStandard)
    (member : computes name signature compute ∈ bindings)
    (arity : Signature.check (some signature) (engine.arguments .global items).length = .ok ())
    (computed : compute (engine.arguments .global items) = .ok result) (id : Nat) (state : State) :
    (engine.reduceList inputs .global id items (.call name)).on state = (.ok result, state) := by
  have bound := (offers_of_mem extended member).bound
  simp only [reduceList, resolve?, bound, callFunction, checkArity_of_bound bound fun _ => arity,
    checkPurity_of_calm bound rfl, pure_bind, on_perform, Action.run_lift, computed]
  rfl

section

variable {name : String} {numbers : List Float} {arguments : List Node}

/-- No item of the list that a call leaves is null or a quote. -/
theorem forwarded_items (numbers : List Float)
    (operands : ∀ argument ∈ arguments, argument.isOperand = true) :
    ∀ item ∈ numbers.map Node.number ++ arguments.map Node.unquoted,
      item.isNull = false ∧ ∀ inner, item ≠ .quote inner := by
  intro item member
  rcases List.mem_append.mp member with own | given
  · obtain ⟨number, -, rfl⟩ := List.mem_map.mp own
    exact ⟨rfl, nofun⟩
  · obtain ⟨argument, inside, rfl⟩ := List.mem_map.mp given
    rcases Node.unquoted_of_isOperand (operands argument inside) with
      ⟨number, equal⟩ | ⟨list, equal⟩
    · rw [equal]
      exact ⟨rfl, nofun⟩
    · rw [equal]
      exact ⟨rfl, nofun⟩

/-- The list that a call leaves is another program. -/
theorem settle_forwarded (engine : Engine) (name : String) (numbers : List Float)
    (operands : ∀ argument ∈ arguments, argument.isOperand = true) :
    engine.settle (callOf (.string name :: numbers.map .number) arguments)
        (.list (.string name :: (numbers.map .number ++ arguments.map .unquoted))) =
      pure (.again (.list (.string name :: (numbers.map .number ++ arguments.map .unquoted)))) := by
  have items := forwarded_items numbers operands
  have kept : compacted (.string name :: (numbers.map .number ++ arguments.map .unquoted)) =
      .list (.string name :: (numbers.map .number ++ arguments.map .unquoted)) := by
    rw [compacted, List.filter_eq_self.mpr]
    refine List.forall_mem_cons.mpr ⟨rfl, fun item member => ?_⟩
    rw [(items item member).1]
    rfl
  have different : (Node.list (.string name ::
      (numbers.map .number ++ arguments.map .unquoted))).sameStructure
        (callOf (.string name :: numbers.map .number) arguments) = false := by
    rw [callOf, Node.sameStructure, Node.agree, Node.agreeItems, Node.quotedList,
      Node.agreeItems_quote fun item member => (items item member).2, Bool.and_false]
  rw [settle_cons, kept, different, Bool.and_false]
  rfl

/-- The first round of a call leaves the list with the arguments behind it. -/
theorem agree_round_callOf (name : String) (numbers : List Float)
    (extended : engine.library.ExtendsStandard)
    (payable : Payable [engine.settings.invokeAmount]) (noArguments : inputs.argv = [])
    (operands : ∀ argument ∈ arguments, argument.isOperand = true) (first : Bool)
    {left right : State} (resembles : left.Resembles right) :
    Agree
      ((engine.round inputs first
        (callOf (.string name :: numbers.map .number) arguments)).on (left.holding endless))
      ((pure (.again (.list (.string name ::
        (numbers.map .number ++ arguments.map .unquoted)))) : Reduction Settled).on
          (right.holding endless)) := by
  let items := .string "call" :: .quotedList (.string name :: numbers.map .number) :: arguments
  have shape : Node.shape items = .call "call" := by
    refine Node.shape_call (by decide) (List.forall_mem_cons.mpr ⟨rfl, fun item member => ?_⟩)
    exact Node.isValue_of_isOperand (operands item member)
  have bill : Payable (engine.bill .global items.length (.call "call")) := by
    rw [Engine.bill, priceCharges_offered (offers_of_mem extended mem_bindings_call)]
    exact payable
  have given : engine.arguments .global items =
      .list (.string name :: numbers.map .number) :: arguments.map .unquoted := by
    rw [Engine.arguments, List.drop_one, List.tail_cons, List.map_cons]
    exact congrArg₂ List.cons rfl (List.map_congr_left fun argument member =>
      (Node.valueOf_unquoted (operands argument member) _ _).1)
  have computed : Standard.call (engine.arguments .global items) =
      .ok (.list (.string name :: (numbers.map .number ++ arguments.map .unquoted))) := by
    rw [given]
    rfl
  have passed := engine.on_pass_named noArguments first "call"
    (.quotedList (.string name :: numbers.map .number) :: arguments) (left.holding endless)
  rw [on_branch_endless (by rw [shape]; exact bill), shape, on_reduceList_computes inputs extended
    mem_bindings_call (by rw [given]; rfl) computed] at passed
  rw [round, on_bind, callOf, passed]
  dsimp only
  rw [← callOf, engine.settle_forwarded name numbers operands]
  exact ⟨rfl, ((engine.resembles_entered .global items left).trans resembles).withMeter _⟩

end

theorem resembles_goOn (heedless : engine.library.Heedless) (inputs : Inputs) (limit : Nat)
    (settled : Settled) :
    Resembles (engine.goOn inputs limit settled) (engine.goOn inputs limit settled) := by
  cases settled with
  | done value => exact .pure (some value)
  | again next => exact resembles_rounds heedless inputs limit false next

section

variable {name : String} {function : Function} {items others : List Node}

/-- Programs that one name leads settle alike when it does not lead what they leave. -/
theorem settle_unled (engine : Engine) {node : Node} (unled : node.leader? ≠ some name)
    (rest others : List Node) :
    engine.settle (.list (.string name :: rest)) node =
      engine.settle (.list (.string name :: others)) node := by
  cases node with
  | list items =>
      cases items with
      | nil => rfl
      | cons first items =>
          have different (rest : List Node) :
              (compacted (first :: items)).sameStructure (.list (.string name :: rest)) =
                false := by
            rw [← Bool.not_eq_true]
            exact fun same => unled (Node.leader?_of_sameStructure same)
          rw [settle_cons, settle_cons, different, different]
  | _ => rfl

/-- A call that leaves a node has been answered with it. -/
theorem exists_answer (found : engine.library.function? name .global = some function)
    (shape : Node.shape items = .call name) {state after : State} {node : Node}
    (reduced : (engine.branch inputs .global (.list items)).on state = (.ok node, after)) :
    ∃ (call : Call) (world : World),
      ((function.call call (engine.arguments .global items)).run world).1 = .ok node := by
  rw [branch_list, shape] at reduced
  obtain ⟨-, charged, -, calling⟩ := on_bind_eq_ok reduced
  simp only [reduceList, resolve?, found, callFunction] at calling
  obtain ⟨-, counted, -, permitting⟩ := on_bind_eq_ok calling
  obtain ⟨-, permitted, -, performed⟩ := on_bind_eq_ok permitting
  rw [on_perform] at performed
  exact ⟨_, permitted.world, of_on_orFail_eq_ok performed⟩

/-- Two calls with the same arguments agree when the function ignores its call. -/
theorem agree_branch_call (inputs : Inputs) (heedless : engine.library.Heedless)
    (found : engine.library.function? name .global = some function)
    (ignores : function.IgnoresCall)
    (payable : ∀ length, Payable (engine.bill .global length (.call name)))
    (shape : Node.shape items = .call name) (otherShape : Node.shape others = .call name)
    (same : engine.arguments .global items = engine.arguments .global others)
    {left right : State} (resembles : left.Resembles right) :
    Agree ((engine.branch inputs .global (.list items)).on (left.holding endless))
      ((engine.branch inputs .global (.list others)).on (right.holding endless)) := by
  have acts (call other : Call) : (function.call call (engine.arguments .global others)).Resembles
      (function.call other (engine.arguments .global others)) := by
    rw [ignores other call]
    exact heedless.function name .global function found call call.id _
  have entered : (engine.entered .global items left).Resembles
      (engine.entered .global others right) :=
    (engine.resembles_entered .global items left).trans
      (resembles.trans (engine.resembles_entered .global others right).symm)
  rw [on_branch_endless (by rw [shape]; exact payable _), shape,
    on_branch_endless (by rw [otherShape]; exact payable _), otherShape]
  simp only [reduceList, resolve?, found, callFunction, same]
  have called : ∀ call other : Call, Resembles (do
      engine.checkArity .global name (engine.arguments .global others).length
      engine.checkPurity .global name
      perform (function.call call (engine.arguments .global others))) (do
      engine.checkArity .global name (engine.arguments .global others).length
      engine.checkPurity .global name
      perform (function.call other (engine.arguments .global others))) := fun call other =>
    .bind (engine.resembles_checkArity .global name _) fun _ =>
      .bind (engine.resembles_checkPurity .global name) fun _ => .perform (acts call other)
  exact called _ _ _ _ (entered.withMeter _)

end

section

variable {name : String} {function : Function} {numbers : List Float} {arguments : List Node}

/-- Numbers and operands are the arguments of a call with or without the quotes of the operands. -/
theorem arguments_operands (engine : Engine) (name : String) (numbers : List Float)
    (operands : ∀ argument ∈ arguments, argument.isOperand = true) :
    engine.arguments .global (.string name :: (numbers.map .number ++ arguments)) =
        numbers.map .number ++ arguments.map .unquoted ∧
      engine.arguments .global
          (.string name :: (numbers.map .number ++ arguments.map .unquoted)) =
        numbers.map .number ++ arguments.map .unquoted := by
  constructor
  · rw [Engine.arguments, List.drop_one, List.tail_cons, List.map_append, List.map_map]
    exact congrArg₂ _ rfl (List.map_congr_left fun argument member =>
      (Node.valueOf_unquoted (operands argument member) _ _).1)
  · rw [Engine.arguments, List.drop_one, List.tail_cons, List.map_append, List.map_map,
      List.map_map]
    exact congrArg₂ _ rfl (List.map_congr_left fun argument member =>
      (Node.valueOf_unquoted (operands argument member) _ _).2)

/-- A round over numbers and empty lists does not see the quotes of the lists. -/
theorem agree_round_unquoted (standard : engine.library = Standard.library)
    (payable : Payable [engine.settings.invokeAmount]) (noArguments : inputs.argv = [])
    (found : engine.library.function? name .global = some function)
    (ignores : function.IgnoresCall)
    (operands : ∀ argument ∈ arguments, argument.isOperand = true)
    (blank : ∀ items, .quotedList items ∈ arguments → items = []) (first : Bool)
    {left right : State} (resembles : left.Resembles right) :
    Agree
      ((engine.round inputs first (.list (.string name ::
        (numbers.map .number ++ arguments.map .unquoted)))).on (left.holding endless))
      ((engine.round inputs first
        (.list (.string name :: (numbers.map .number ++ arguments)))).on
          (right.holding endless)) := by
  have heedless : engine.library.Heedless := standard ▸ heedless_library
  obtain ⟨offers, unquoted⟩ := offers_of_function? (standard ▸ found)
  have bill (length : Nat) : Payable (engine.bill .global length (.call name)) := by
    rw [Engine.bill, priceCharges_offered (standard ▸ offers)]
    exact payable
  have bare : ∀ item ∈ numbers.map Node.number ++ arguments.map Node.unquoted,
      item.isBare = true := by
    refine List.forall_mem_append.mpr ⟨List.forall_mem_map.mpr fun _ _ => rfl,
      List.forall_mem_map.mpr fun argument member => ?_⟩
    refine Node.isBare_unquoted (operands argument member) fun items equal => ?_
    exact blank items (equal ▸ member)
  have shape : Node.shape (.string name ::
      (numbers.map .number ++ arguments.map .unquoted)) = .call name :=
    Node.shape_call unquoted fun item member => Node.isValue_of_isBare (bare item member)
  have quotedShape : Node.shape (.string name :: (numbers.map .number ++ arguments)) =
      .call name :=
    Node.shape_call unquoted (List.forall_mem_append.mpr
      ⟨List.forall_mem_map.mpr fun _ _ => rfl,
        fun item member => Node.isValue_of_isOperand (operands item member)⟩)
  obtain ⟨quoted, plain⟩ := engine.arguments_operands name numbers operands
  have branched := agree_branch_call inputs heedless found ignores bill shape quotedShape
    (plain.trans quoted.symm) resembles
  rw [← engine.on_pass_named noArguments first, ← engine.on_pass_named noArguments first]
    at branched
  refine branched.bind fun node after passed => ?_
  rw [engine.on_pass_named noArguments] at passed
  obtain ⟨call, world, answered⟩ := exists_answer found shape passed
  rw [plain] at answered
  have unled : node.leader? ≠ some name :=
    unled_of_function? (standard ▸ found) ignores call _ world node bare answered name (.head _)
  rw [engine.settle_unled unled _ (numbers.map .number ++ arguments)]
  exact engine.resembles_settle _ node

end

end Engine

namespace Session

open Reduction Standard

variable {session : Session} {inputs : Inputs} {program other : Node}

/-- Runs without a limit end alike when their rounds agree in states that resemble each other. -/
theorem run_eq_of_agree {limit more : Nat}
    (agree : ∀ left right : State, left.Resembles right →
      Agree ((session.engine.rounds inputs more true program).on (left.holding endless))
        ((session.engine.rounds inputs limit true other).on (right.holding endless))) :
    ((session.withBalance none).run inputs more program).1 =
      ((session.withBalance none).run inputs limit other).1 := by
  have opened : (session.engine.opened program session.state).Resembles
      (session.engine.opened other session.state) :=
    (session.engine.resembles_opened program session.state).trans
      (session.engine.resembles_opened other session.state).symm
  have agreed := (agree _ _ opened).result
  rw [← opened_unlimited, ← opened_unlimited] at agreed
  rw [run_eq, run_eq]
  exact agreed

/-- A call is transparent up to the quotes of its arguments. With an unlimited balance its run ends
as the run of the list with the arguments behind it, one pass later; but there the arguments stand
without their quotes, which makes no difference to numbers and empty lists. -/
theorem run_call_forwards (session : Session) (inputs : Inputs) (name : String)
    (numbers : List Float) (arguments : List Node)
    (standard : session.engine.library = Standard.library)
    (valid : session.engine.settings.validate = .ok ()) (noArguments : inputs.argv = [])
    (operands : ∀ argument ∈ arguments, argument.isOperand = true) :
    let result (limit : Nat) (program : Node) :=
      ((session.withBalance none).run inputs limit program).1
    let list := .string name :: numbers.map .number
    (∀ limit, result (limit + 1) (callOf list arguments) =
      result limit (.list (list ++ arguments.map .unquoted))) ∧
    ∀ function, Standard.library.function? name .global = some function → function.IgnoresCall →
      (∀ items, .quotedList items ∈ arguments → items = []) →
        ∀ limit, result (limit + 1) (callOf list arguments) =
          result limit (.list (list ++ arguments)) := by
  intro result list
  have heedless : session.engine.library.Heedless := standard ▸ heedless_library
  have extended : session.engine.library.ExtendsStandard := standard ▸ extendsStandard_library
  have payable := Engine.payable_invoke valid
  have forwards (limit : Nat) : result (limit + 1) (callOf list arguments) =
      result limit (.list (list ++ arguments.map .unquoted)) := by
    refine run_eq_of_agree fun left right resembles => ?_
    rw [Engine.rounds_succ, Engine.rounds_first noArguments limit true]
    have left := Engine.agree_round_callOf name numbers extended payable noArguments operands true
      resembles
    have followed := left.bind fun settled _ _ =>
      Engine.resembles_goOn heedless inputs limit settled
    rw [pure_bind] at followed
    exact followed
  refine ⟨forwards, fun function found ignores blank limit => (forwards limit).trans ?_⟩
  refine run_eq_of_agree fun left right resembles => ?_
  cases limit with
  | zero => exact Engine.resembles_rounds heedless inputs 0 true _ _ _ (resembles.withMeter _)
  | succ limit =>
      rw [Engine.rounds_succ, Engine.rounds_succ]
      exact (Engine.agree_round_unquoted standard payable noArguments (standard ▸ found) ignores
        operands blank true resembles).bind fun settled _ _ =>
          Engine.resembles_goOn heedless inputs limit settled

theorem mem_bindings_concat :
    yields "str.concat" .any (fun arguments => .string (String.join (arguments.map Node.toText))) ∈
      bindings := by
  simp only [bindings, words, List.mem_append, List.mem_cons, true_or, or_true]

/-- A number and the text of an empty list are joined by a call as they are without it, and a filled
list loses its quote. -/
theorem concat_forwarded :
    (((standing {}).withBalance none).run ⟨[], none⟩ 4
        (callOf [.string "str.concat", .number 1.0] [.quotedList [], .number 2.0])).1 =
      (((standing {}).withBalance none).run ⟨[], none⟩ 3
        (.list [.string "str.concat", .number 1.0, .quotedList [], .number 2.0])).1 ∧
    (((standing {}).withBalance none).run ⟨[], none⟩ 4
        (callOf [.string "str.concat"] [.quotedList [.number 1.0, .number 2.0]])).1 =
      (((standing {}).withBalance none).run ⟨[], none⟩ 3
        (.list [.string "str.concat", .list [.number 1.0, .number 2.0]])).1 := by
  have valid : (standing {}).engine.settings.validate = .ok () := by
    rfl
  constructor
  · refine (run_call_forwards (standing {}) ⟨[], none⟩ "str.concat" [1.0]
      [.quotedList [], .number 2.0] rfl valid rfl ?_).2 _
        (offers_of_mem extendsStandard_library mem_bindings_concat).bound (fun _ _ _ => rfl) ?_ 3
    · simp [Node.isOperand, Node.quotedList]
    · simp [Node.quotedList]
  · refine (run_call_forwards (standing {}) ⟨[], none⟩ "str.concat" []
      [.quotedList [.number 1.0, .number 2.0]] rfl valid rfl ?_).1 3
    simp [Node.isOperand, Node.quotedList]

theorem mem_bindings_length :
    computes "list.length" (.ofTags ["list"]) (fun arguments => do
      pure (.number (Float.ofNat (← listArgument arguments 0).length))) ∈ bindings := by
  simp only [bindings, lists, listFunctions, List.mem_append, List.mem_cons, true_or, or_true]

/-- Two numbers and a quoted list of one number. -/
def threeItems : List Node :=
  [.number 1.0, .number 2.0, .quotedList [.number 3.0]]

section

variable {engine : Engine} (extended : engine.library.ExtendsStandard)

include extended

/-- The length of a quoted list takes one pass. -/
theorem completes_length (noArguments : inputs.argv = []) (items : List Node) :
    engine.Completes inputs (.list [.string "list.length", .quotedList items])
      (.number (Float.ofNat items.length)) 1 [("list.length", [.list items])]
      [engine.settings.invokeAmount] := by
  have shape : Node.shape [.string "list.length", .quotedList items] = .call "list.length" :=
    Node.shape_call (by decide) (by simp [Node.quotedList, Node.isValue])
  have completes : engine.Completes inputs _ (.number (Float.ofNat items.length)) 1 _ _ :=
    .last noArguments (.call shape rfl
      (Engine.applies_of_mem extended mem_bindings_length (by decide) rfl rfl)) rfl
  rwa [Engine.charges_call shape,
    Engine.priceCharges_offered (offers_of_mem extended mem_bindings_length)] at completes

/-- Without its quote the list is reduced to its last item, and a quoted list is left of it. -/
theorem completes_length_unquoted (noArguments : inputs.argv = []) :
    engine.Completes inputs (.list [.string "list.length", .list threeItems])
      (.number (Float.ofNat 1)) 2 [("list.length", [.list [.number 3.0]])]
      [engine.settings.sequenceAmount * Float.ofNat 2,
        engine.settings.sequenceAmount * Float.ofNat 3, engine.settings.invokeAmount] := by
  have closed : engine.library.innerScope .global
      [.string "list.length", .list threeItems] = .global := by
    simp [Library.innerScope, Node.headName?, Node.string?,
      (offers_of_mem extended mem_bindings_length).closed]
  have shape : Node.shape [.string "list.length", .list threeItems] = .sequence :=
    Node.shape_sequence (by decide) (.head _) rfl
  have inner : engine.Makes inputs (.list threeItems) (.quotedList [.number 3.0]) [] := by
    have items : List.Forall₂ (fun node outcome => engine.Makes inputs node outcome.1 outcome.2)
        threeItems (threeItems.map fun item => (item, [])) :=
      .cons (.other rfl) (.cons (.other rfl) (.cons (.other rfl) .nil))
    exact .sequence rfl rfl items
  have outer : engine.Makes inputs (.list [.string "list.length", .list threeItems])
      (.list [.string "list.length", .quotedList [.number 3.0]]) [] := by
    have items : List.Forall₂ (fun node outcome => engine.Makes inputs node outcome.1 outcome.2)
        [.string "list.length", .list threeItems]
        [(.string "list.length", []), (.quotedList [.number 3.0], [])] :=
      .cons (.other rfl) (.cons inner .nil)
    exact .sequence shape closed items
  have settles : engine.settle (.list [.string "list.length", .list threeItems])
      (.list [.string "list.length", .quotedList [.number 3.0]]) =
        pure (.again (.list [.string "list.length", .quotedList [.number 3.0]])) := by
    have different : (Engine.compacted [.string "list.length",
        .quotedList [.number 3.0]]).sameStructure
          (.list [.string "list.length", .list threeItems]) = false := rfl
    rw [Engine.settle_cons, different, Bool.and_false]
    rfl
  have charged : engine.charges .global (.list [.string "list.length", .list threeItems]) =
      [engine.settings.sequenceAmount * Float.ofNat 2,
        engine.settings.sequenceAmount * Float.ofNat 3] := by
    rw [Engine.charges, shape, closed]
    rfl
  have completes := Engine.Completes.step noArguments outer settles
    (completes_length extended noArguments [.number 3.0])
  rwa [charged] at completes

end

/-- A call reduces the list that its argument quotes, and finds another length than the function
itself. -/
theorem call_reduces_argument :
    (((standing {}).withBalance none).run ⟨[], none⟩ 3
        (callOf [.string "list.length"] [.quotedList threeItems])).1 =
      .ok (some (.number (Float.ofNat 1))) ∧
    (((standing {}).withBalance none).run ⟨[], none⟩ 3
        (.list [.string "list.length", .quotedList threeItems])).1 =
      .ok (some (.number (Float.ofNat 3))) ∧
    Float.ofNat 1 ≠ Float.ofNat 3 := by
  have extended : (standing {}).engine.library.ExtendsStandard := extendsStandard_library
  have shape : Node.shape [.string "call", .quotedList [.string "list.length"],
      .quotedList threeItems] = .call "call" :=
    Node.shape_call (by decide) (by simp [Node.quotedList, Node.isValue])
  have calls : (standing {}).engine.Makes ⟨[], none⟩
      (callOf [.string "list.length"] [.quotedList threeItems])
      (.list [.string "list.length", .list threeItems])
      [("call", [.list [.string "list.length"], .list threeItems])] :=
    .call shape rfl (Engine.applies_of_mem extended Engine.mem_bindings_call (by decide) rfl rfl)
  have settles : (standing {}).engine.settle
      (callOf [.string "list.length"] [.quotedList threeItems])
      (.list [.string "list.length", .list threeItems]) =
        pure (.again (.list [.string "list.length", .list threeItems])) :=
    (standing {}).engine.settle_forwarded "list.length" []
      (by simp [Node.isOperand, Node.quotedList])
  have forwarded := Engine.Completes.step rfl calls settles
    (completes_length_unquoted extended rfl)
  rw [Engine.charges_call shape,
    Engine.priceCharges_offered (offers_of_mem extended Engine.mem_bindings_call)] at forwarded
  have direct : (standing {}).engine.Completes ⟨[], none⟩ _ _ _ _ _ :=
    completes_length extended rfl threeItems
  refine ⟨(run_completes forwarded ?_ 3).1, (run_completes direct ?_ 3).1, ?_⟩
  · unfold Payable
    decide +kernel
  · unfold Payable
    decide +kernel
  · decide +kernel

end Session

end Reduct
