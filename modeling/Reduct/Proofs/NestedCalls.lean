import Reduct.Proofs.Expression
import Reduct.Proofs.Unlimited
import Reduct.Standard.Arithmetic

namespace Reduct

/-- A name that stands for a function on numbers: it is bound in the global scope without a price,
opens no scope, takes the count of arguments, and yields a number that depends on them alone. -/
structure Engine.Callable (engine : Engine) (meaning : String → List Float → Float)
    (name : String) (count : Nat) : Prop where
  unquoted : Node.isQuoteName name = false
  closed : engine.library.opensScope name .global = false
  unpriced : engine.library.price? name .global = none
  bound : ∃ function, engine.library.function? name .global = some function ∧
    function.impure = false ∧
    (engine.settings.arityCheck = true → Signature.check function.signature count = .ok ()) ∧
    ∀ (call : Call) (values : List Float) (world : World), values.length = count →
      ((function.call call (values.map .number)).run world).1 = .ok (.number (meaning name values))

/-- Every name in an expression stands for a function on numbers. -/
def Expression.IsBound (engine : Engine) (meaning : String → List Float → Float) :
    Expression → Prop
  | .number _ => True
  | .call name count arguments =>
    engine.Callable meaning name count ∧ ∀ index, (arguments index).IsBound engine meaning

namespace Engine

open Reduction

variable (engine : Engine) (inputs : Inputs) (meaning : String → List Float → Float)

theorem isValue_toNode (expression : Expression) :
    expression.toNode.isValue = expression.isNumber := by
  cases expression <;> rfl

/-- A call on numbers is ready, and any other call is a sequence. -/
theorem shape_toNode (name : String) (count : Nat) (arguments : Fin count → Expression)
    (unquoted : Node.isQuoteName name = false) :
    Node.shape (.string name :: List.ofFn fun index => (arguments index).toNode) =
      if ∀ index, (arguments index).isNumber then .call name else .sequence := by
  have ready : Node.isCallReady (.string name :: List.ofFn fun index => (arguments index).toNode) =
      decide (∀ index, (arguments index).isNumber) := by
    rw [Bool.eq_iff_iff]
    simp [Node.isCallReady, List.all_eq_true, List.mem_ofFn, isValue_toNode]
  have plain : Node.isQuoteForm
      (.string name :: List.ofFn fun index => (arguments index).toNode) = false := unquoted
  unfold Node.shape
  rw [plain, ready]
  by_cases numbers : ∀ index, (arguments index).isNumber <;>
    simp [numbers, Node.headName?, Node.string?]

/-- The arguments of a call on numbers are those numbers. -/
theorem arguments_toNode (name : String) (count : Nat) (arguments : Fin count → Expression)
    (numbers : ∀ index, (arguments index).isNumber = true) :
    engine.arguments .global (.string name :: List.ofFn fun index => (arguments index).toNode) =
      (List.ofFn fun index => (arguments index).value meaning).map .number := by
  rw [Engine.arguments, List.drop_one, List.tail_cons, List.map_ofFn, List.map_ofFn]
  congr 1
  funext index
  have number := numbers index
  simp only [Function.comp_apply]
  cases equal : arguments index with
  | number value => rfl
  | call inner arity deeper =>
      rw [equal] at number
      cases number

/-- A name that stands for a function is resolved to it, checked and called. -/
theorem reduceList_call {name : String} {count : Nat}
    (callable : engine.Callable meaning name count) (id : Nat) (items : List Node)
    (values : List Float) (length : values.length = count)
    (arguments : engine.arguments .global items = values.map .number) (state : State) :
    ((engine.reduceList inputs .global id items (.call name)).on state).1 =
      .ok (.number (meaning name values)) := by
  obtain ⟨function, found, pure, arity, yields⟩ := callable.bound
  have resolved : engine.resolve? .global name = some (name, function) := by
    rw [resolve?, found]
  have checked : engine.checkArity .global name (values.map Node.number).length = Pure.pure () := by
    rw [checkArity, List.length_map, length]
    split_ifs with checks
    · simp only [Library.inputs?, found, Option.bind_some, arity checks]
    · rfl
  have permitted : engine.checkPurity .global name = Pure.pure () := by
    rw [checkPurity, Library.isImpure, found, Option.any_some, pure]
    rfl
  simp only [reduceList, resolved, callFunction, arguments, checked, permitted, pure_bind]
  rw [on_perform]
  have result := yields
    { id := id, seed := engine.seed, name := name, list := items, argv := inputs.argv,
      event := inputs.event, scope := .global } values state.world length
  rw [result]
  rfl

/-- A call without a price is charged the amount of calls. -/
theorem bill_call {name : String} {count : Nat} (callable : engine.Callable meaning name count)
    (length : Nat) : engine.bill .global length (.call name) = [engine.settings.invokeAmount] := by
  obtain ⟨function, found, -⟩ := callable.bound
  simp [bill, priceCharges, resolve?, found, callable.unpriced]

theorem innerScope_callable {name : String} {count : Nat}
    (callable : engine.Callable meaning name count) (rest : List Node) :
    engine.library.innerScope .global (.string name :: rest) = .global := by
  simp [Library.innerScope, Node.headName?, Node.string?, callable.closed]

/-- A ready call is charged once, and any other call by its length and for its arguments. -/
theorem mem_charges_toNode {name : String} {count : Nat} {arguments : Fin count → Expression}
    (callable : engine.Callable meaning name count) (amount : Float) :
    amount ∈ engine.charges .global (Expression.call name count arguments).toNode ↔
      if ∀ index, (arguments index).isNumber then amount = engine.settings.invokeAmount
      else amount = engine.settings.sequenceAmount * Float.ofNat (count + 1) ∨
        ∃ index, amount ∈ engine.charges .global (arguments index).toNode := by
  rw [Expression.toNode, charges, shape_toNode name count arguments callable.unquoted]
  split_ifs with numbers
  · rw [engine.bill_call meaning callable]
    simp
  · rw [engine.innerScope_callable meaning callable]
    simp [bill, mem_itemCharges_iff, engine.charges_other .global (.string name) rfl]

/-- Reducing a call adds no charges. -/
theorem mem_charges_reduce (expression : Expression) (bound : expression.IsBound engine meaning) :
    (expression.isNumber = false →
      engine.settings.invokeAmount ∈ engine.charges .global expression.toNode) ∧
      ∀ amount ∈ engine.charges .global (expression.reduce meaning).toNode,
        amount ∈ engine.charges .global expression.toNode := by
  induction expression with
  | number value => simp [Expression.isNumber, Expression.reduce]
  | call name count arguments inductionHypothesis =>
      obtain ⟨callable, bound⟩ := bound
      have each := fun index => inductionHypothesis index (bound index)
      have invoked : engine.settings.invokeAmount ∈
          engine.charges .global (Expression.call name count arguments).toNode := by
        rw [mem_charges_toNode engine meaning callable]
        split_ifs with numbers
        · rfl
        · obtain ⟨index, nested⟩ := not_forall.mp numbers
          exact .inr ⟨index, (each index).1 (by simpa using nested)⟩
      refine ⟨fun _ => invoked, fun amount charged => ?_⟩
      rw [Expression.reduce] at charged
      split_ifs at charged with numbers
      · simp [Expression.toNode, charges] at charged
      · rw [mem_charges_toNode engine meaning callable] at charged
        split_ifs at charged with reduced
        · rw [charged]
          exact invoked
        · rw [mem_charges_toNode engine meaning callable, if_neg numbers]
          rcases charged with own | ⟨index, deeper⟩
          · exact .inl own
          · exact .inr ⟨index, (each index).2 amount deeper⟩

theorem isBound_reduce (expression : Expression) (bound : expression.IsBound engine meaning) :
    (expression.reduce meaning).IsBound engine meaning := by
  induction expression with
  | number value => trivial
  | call name count arguments inductionHypothesis =>
      rw [Expression.reduce]
      split_ifs
      · trivial
      · exact ⟨bound.1, fun index => inductionHypothesis index (bound.2 index)⟩

/-- A pass over an expression reduces every call on numbers. -/
theorem reducesTo_toNode (expression : Expression) (bound : expression.IsBound engine meaning) :
    engine.ReducesTo inputs .global expression.toNode (expression.reduce meaning).toNode := by
  induction expression with
  | number value => exact .other rfl
  | call name count arguments inductionHypothesis =>
      obtain ⟨callable, bound⟩ := bound
      have shape := shape_toNode name count arguments callable.unquoted
      rw [Expression.toNode, Expression.reduce]
      split_ifs at shape ⊢ with numbers
      · apply ReducesTo.single
        · rw [shape]
          simp
        · intro id state
          rw [shape]
          exact engine.reduceList_call inputs meaning callable id _ _ List.length_ofFn
            (engine.arguments_toNode meaning name count arguments numbers) state
      · have each : List.Forall₂ (engine.ReducesTo inputs .global)
            (List.ofFn fun index => (arguments index).toNode)
            (List.ofFn fun index => ((arguments index).reduce meaning).toNode) := by
          rw [List.forall₂_iff_get]
          refine ⟨by simp, fun position _ _ => ?_⟩
          simp only [List.get_ofFn]
          exact inductionHypothesis _ (bound _)
        have items := List.Forall₂.cons (.other rfl : engine.ReducesTo inputs .global
          (.string name) (.string name)) each
        rw [← engine.innerScope_callable meaning callable] at items
        exact .sequence shape items

/-- Neither denesting nor leading forms nor the arguments of the run touch an expression. -/
theorem on_pass_toNode (noArguments : inputs.argv = []) (appendArgv : Bool)
    (expression : Expression) (state : State) :
    (engine.pass inputs .global appendArgv expression.toNode).on state =
      (engine.branch inputs .global expression.toNode).on state := by
  cases expression with
  | number value => exact (engine.branch_other inputs .global (.number value) rfl state).symm
  | call name count arguments =>
      rw [Expression.toNode]
      generalize (List.ofFn fun index => (arguments index).toNode) = rest
      have denested : Node.denest (.list (.string name :: rest)) =
          .list (.string name :: rest) := by
        cases rest <;> rfl
      have plain (program : List Node) : joined inputs appendArgv program = .list program := by
        cases appendArgv <;> simp [joined, noArguments]
      rw [engine.pass_list inputs .global appendArgv _ _ denested]
      simp only [plain]
      rfl

theorem isNull_toNode (expression : Expression) : expression.toNode.isNull = false := by
  cases expression <;> rfl

/-- Nothing is lost from a call, which has no nulls. -/
theorem compacted_toNode (name : String) (count : Nat) (arguments : Fin count → Expression) :
    compacted (.string name :: List.ofFn fun index => (arguments index).toNode) =
      (Expression.call name count arguments).toNode := by
  rw [compacted, List.filter_eq_self.mpr, Expression.toNode]
  intro item member
  rw [List.mem_cons, List.mem_ofFn] at member
  rcases member with rfl | ⟨index, rfl⟩
  · rfl
  · rw [isNull_toNode]
    rfl

theorem settle_call (program : Node) (name : String) (count : Nat)
    (arguments : Fin count → Expression)
    (different : (Expression.call name count arguments).toNode.sameStructure program = false) :
    engine.settle program (Expression.call name count arguments).toNode =
      pure (.again (Expression.call name count arguments).toNode) := by
  have settled := engine.settle_cons program (.string name)
    (List.ofFn fun index => (arguments index).toNode)
  rw [compacted_toNode, different, Bool.and_false] at settled
  exact settled

/-- A call on numbers is done after a pass, and any other call goes around again. -/
theorem on_settle_toNode (expression : Expression) (nested : expression.isNumber = false)
    (state : State) :
    (engine.settle expression.toNode (expression.reduce meaning).toNode).on state =
      (.ok (if expression.height ≤ 1 then .done (.number (expression.value meaning))
        else .again (expression.reduce meaning).toNode), state) := by
  have different := Expression.sameStructure_reduce meaning expression nested
  cases expression with
  | number value => cases nested
  | call name count arguments =>
      rw [Expression.reduce] at different ⊢
      simp only [Expression.height_le_one_iff]
      split_ifs at different ⊢ with numbers
      · rfl
      · rw [engine.settle_call _ _ _ _ different]
        rfl

/-- Rounds take as many passes as an expression is high. -/
theorem rounds_toNode (noArguments : inputs.argv = []) (limit : Nat) (first : Bool)
    (expression : Expression) (nested : expression.isNumber = false)
    (bound : expression.IsBound engine meaning)
    (payable : Payable (engine.charges .global expression.toNode)) (state : State) :
    ((engine.rounds inputs limit first expression.toNode).on (state.holding endless)).1 =
      .ok (if limit < expression.height then none
        else some (.number (expression.value meaning))) := by
  have filled : expression.height ≠ 0 := by
    rw [Ne, ← Expression.isNumber_iff_height, nested]
    exact Bool.false_ne_true
  induction limit generalizing first expression state with
  | zero =>
      rw [if_pos (Nat.pos_of_ne_zero filled)]
      rfl
  | succ limit inductionHypothesis =>
      obtain ⟨after, passed⟩ :=
        engine.reducesTo_toNode inputs meaning expression bound payable state
      rw [← engine.on_pass_toNode inputs noArguments first] at passed
      rw [rounds_succ, on_bind, round, on_bind, passed]
      dsimp only
      rw [on_settle_toNode engine meaning expression nested]
      by_cases low : expression.height ≤ 1
      · rw [if_pos low, if_neg (by omega)]
        rfl
      · have height := Expression.height_reduce meaning expression
        have stillNested : (expression.reduce meaning).isNumber = false := by
          rw [← Bool.not_eq_true, Expression.isNumber_iff_height]
          omega
        rw [if_neg low]
        refine (inductionHypothesis false (expression.reduce meaning) stillNested
          (engine.isBound_reduce meaning expression bound) ?_ after (by omega)).trans ?_
        · intro amount charged
          exact payable amount
            ((engine.mem_charges_reduce meaning expression bound).2 amount charged)
        · rw [Expression.value_reduce, height]
          congr 2
          rw [eq_iff_iff]
          omega

end Engine

namespace Session

/-- A program after some steps, each of which reduces the result of the one before it. -/
def steps (session : Session) (inputs : Inputs) : Nat → Node → Except Error Node × Session
  | 0, program => (.ok program, session)
  | count + 1, program =>
    match session.step inputs .global program with
    | (.ok next, after) => steps after inputs count next
    | (.error error, after) => (.error error, after)

/-- Each step collapses one more level of an expression. -/
theorem steps_toNode (session : Session) (inputs : Inputs)
    (meaning : String → List Float → Float) (noArguments : inputs.argv = []) (count : Nat)
    (expression : Expression) (bound : expression.IsBound session.engine meaning)
    (payable : Payable (session.engine.charges .global expression.toNode))
    (unlimited : session.state.holding endless = session.state) :
    (session.steps inputs count expression.toNode).1 =
      .ok (expression.collapse meaning count).toNode := by
  induction count generalizing session expression with
  | zero =>
      rw [Expression.collapse_zero]
      rfl
  | succ count inductionHypothesis =>
      obtain ⟨after, passed⟩ :=
        session.engine.reducesTo_toNode inputs meaning expression bound payable session.state
      rw [← session.engine.on_pass_toNode inputs noArguments true, unlimited] at passed
      have stepped : session.step inputs .global expression.toNode =
          (.ok (expression.reduce meaning).toNode,
            { session with state := after.holding endless }) :=
        congrArg (fun outcome => (outcome.1, { session with state := outcome.2 })) passed
      rw [steps, stepped, ← Expression.collapse_reduce]
      exact inductionHypothesis { session with state := after.holding endless }
        (expression.reduce meaning)
        (session.engine.isBound_reduce meaning expression bound)
        (fun amount charged => payable amount
          ((session.engine.mem_charges_reduce meaning expression bound).2 amount charged)) rfl

/-- An unlimited balance evaluates nested calls from the bottom up, in as many passes as they are
high, exactly when it can pay the charges of the first pass: none of them is minus infinity or no
number. -/
theorem payable_iff_evaluates (session : Session) (inputs : Inputs)
    (meaning : String → List Float → Float) (expression : Expression)
    (noArguments : inputs.argv = []) (nested : expression.isNumber = false)
    (bound : expression.IsBound session.engine meaning) :
    Payable (session.engine.charges .global expression.toNode) ↔
      (∀ count, ((session.withBalance none).steps inputs count expression.toNode).1 =
        .ok (expression.collapse meaning count).toNode) ∧
      ∀ limit, ((session.withBalance none).run inputs limit expression.toNode).1 =
        .ok (if limit < expression.height then none
          else some (.number (expression.value meaning))) := by
  constructor
  · intro payable
    constructor
    · intro count
      exact (session.withBalance none).steps_toNode inputs meaning noArguments count expression
        bound payable rfl
    · intro limit
      have opens := session.engine.opened_withMeter expression.toNode session.state ⟨endless, none⟩
      rw [run_eq]
      change ((session.engine.rounds inputs limit true expression.toNode).on
        (session.engine.opened expression.toNode (session.state.withMeter ⟨endless, none⟩))).1 = _
      rw [opens]
      exact session.engine.rounds_toNode inputs meaning noArguments limit true expression nested
        bound payable _
  · rintro ⟨stepped, -⟩
    have first := stepped 1
    rw [steps] at first
    have equal := session.engine.on_pass_toNode inputs noArguments true expression
      (session.state.holding endless)
    cases outcome : (session.engine.branch inputs .global expression.toNode).on
        (session.state.holding endless) with
    | mk result after =>
        rw [outcome] at equal
        have step : (session.withBalance none).step inputs .global expression.toNode =
            (result, { session with state := after }) :=
          congrArg (fun outcome => (outcome.1, { session with state := outcome.2 })) equal
        rw [step] at first
        cases result with
        | error error => cases first
        | ok node =>
            exact (session.engine.payable_of_branch inputs _ .global _ _ _ outcome).1

def product (left right : Expression) : Expression :=
  .call "*" 2 ![left, right]

/-- Every name means the product of the first two arguments. -/
def multiply (_ : String) (values : List Float) : Float :=
  values[0]?.getD 0.0 * values[1]?.getD 0.0

/-- A session whose library has the operators alone. -/
def operating (settings : Settings) : Session :=
  .start (Table.empty.bindAll Standard.operators).1.toLibrary settings .empty 0 0

theorem callable_product (settings : Settings) :
    (operating settings).engine.Callable multiply "*" 2 where
  unquoted := by decide
  closed := rfl
  unpriced := rfl
  bound := by
    refine ⟨⟨some Standard.twoNumbers, false, _⟩, rfl, rfl, fun _ => rfl, ?_⟩
    intro call values world length
    obtain ⟨left, right, rfl⟩ := List.length_eq_two.mp length
    rfl

theorem isBound_product (settings : Settings) (left right : Expression)
    (leftBound : left.IsBound (operating settings).engine multiply)
    (rightBound : right.IsBound (operating settings).engine multiply) :
    (product left right).IsBound (operating settings).engine multiply := by
  refine ⟨callable_product settings, fun index => ?_⟩
  fin_cases index
  · exact leftBound
  · exact rightBound

/-- Two times three times four is evaluated in two passes. -/
theorem evaluates_product :
    (((operating {}).withBalance none).run ⟨[], none⟩ 2
        (product (product (.number 2.0) (.number 3.0)) (.number 4.0)).toNode).1 =
      .ok (some (.number (2.0 * 3.0 * 4.0))) := by
  have bound := isBound_product {} _ (.number 4.0)
    (isBound_product {} (.number 2.0) (.number 3.0) trivial trivial) trivial
  have payable : Payable ((operating {}).engine.charges .global
      (product (product (.number 2.0) (.number 3.0)) (.number 4.0)).toNode) := by
    unfold Payable
    decide +kernel
  have evaluates := (payable_iff_evaluates (operating {}) ⟨[], none⟩ multiply _ rfl rfl bound).mp
    payable
  exact evaluates.2 2

def isOutOfGas (outcome : Except Error (Option Node) × Session) : Bool :=
  match outcome.1 with
  | .error (.outOfGas _) => true
  | _ => false

/-- A finite amount that overflows when it is charged for each item ends an unlimited balance. -/
theorem product_out_of_gas :
    (product (product (.number 2.0) (.number 3.0)) (.number 4.0)).IsBound
        (operating { sequenceAmount := -1e308 }).engine multiply ∧
      isOutOfGas (((operating { sequenceAmount := -1e308 }).withBalance none).run ⟨[], none⟩ 2
        (product (product (.number 2.0) (.number 3.0)) (.number 4.0)).toNode) = true := by
  refine ⟨isBound_product _ _ (.number 4.0)
    (isBound_product _ (.number 2.0) (.number 3.0) trivial trivial) trivial, ?_⟩
  decide +kernel

end Session

end Reduct
