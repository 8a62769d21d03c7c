import Reduct.Proofs.Enclosure
import Reduct.Proofs.ListFunctions
/-! This file shows that a fold of numbers is a left fold. It leaves a nest of calls around the
starting number, and two passes for each number reduce the innermost call to a partial fold. -/

namespace Reduct

namespace Standard

/-- A fold of numbers by the name of a function, from a starting number. -/
def folding (numbers : List Float) (closure : String) (start : Float) : Node :=
  .list [.string "list.reduce", .quotedList (numbers.map .number), .quotedList [.string closure],
    .number start]

/-- The call of a closure that waits for the partial fold before a number. -/
def foldCall (closure : String) (number : Float) : Enclosure where
  name := "call"
  before := [.quotedList [.string closure]]
  after := [.number number]
  unquoted := by decide
  plainBefore := by simp [Node.quotedList, Node.isList]
  plainAfter := Enclosure.unlisted_number number

/-- The calls of a closure for some numbers around a partial fold. -/
def foldCalls (closure : String) (numbers : List Float) (partialFold : Node) : Node :=
  Enclosure.nest (numbers.map (foldCall closure)) partialFold

theorem isFull_foldCall (closure : String) (number : Float) :
    (foldCall closure number).IsFull := by
  simp [Enclosure.IsFull, foldCall, Node.quotedList, Node.isNull]

/-- A fold of numbers is a nest of calls. -/
theorem fold_numbers (numbers : List Float) (closure : String) (start : Float) :
    fold [.list (numbers.map .number), .list [.string closure], .number start] =
      .ok (foldCalls closure numbers (.number start)) := by
  change Except.ok ((numbers.map Node.number).foldl (fun accumulator item =>
    callOf [.string closure] [accumulator, item.withheld]) (.number start)) = _
  rw [foldCalls, Enclosure.nest, List.foldl_map, List.foldl_map]
  rfl

theorem mem_bindings_reduce :
    computes "list.reduce" (.ofTags ["list", "list", "*"]) fold ∈ bindings := by
  simp only [bindings, lists, listFunctions, List.mem_append, List.mem_cons, true_or, or_true]

end Standard

namespace Engine

open Standard

/-- The amounts that are charged for a fold of some count of numbers by a name. -/
def foldingAmounts (engine : Engine) (closure : String) (count : Nat) : List Float :=
  engine.settings.invokeAmount ::
    ((if count = 0 then [] else engine.priceCharges .global closure) ++
      if count ≤ 1 then [] else [engine.settings.sequenceAmount * Float.ofNat 4])

variable {engine : Engine} {inputs : Inputs} {closure : String} {combine : Float → Float → Float}

/-- The application of a closure to a partial fold and the next number. -/
def application (closure : String) (left right : Float) : Node :=
  .list [.string closure, .number left, .number right]

section

variable (extended : engine.library.ExtendsStandard)

include extended

theorem closes_foldCall (number : Float) : engine.Closes (foldCall closure number) :=
  (offers_of_mem extended mem_bindings_call).closed

theorem closes_foldCalls (numbers : List Float) :
    ∀ enclosure ∈ numbers.map (foldCall closure), engine.Closes enclosure :=
  List.forall_mem_map.mpr fun number _ => closes_foldCall extended number

/-- The innermost call becomes an application. -/
theorem makes_foldCall (left right : Float) :
    engine.Makes inputs ((foldCall closure right).around (.number left))
      (application closure left right)
      [("call", [.list [.string closure], .number left, .number right])] := by
  refine .call (Node.shape_call (foldCall closure right).unquoted ?_) rfl
    (applies_of_mem extended mem_bindings_call (by decide) rfl rfl)
  simp [foldCall, Node.quotedList, Node.isValue]

theorem charges_foldCall (left right : Float) :
    engine.charges .global ((foldCall closure right).around (.number left)) =
      [engine.settings.invokeAmount] := by
  rw [Enclosure.around, Enclosure.items,
    charges_call (Node.shape_call (foldCall closure right).unquoted ?_)]
  · exact congrArg _ (priceCharges_offered (offers_of_mem extended mem_bindings_call))
  · simp [foldCall, Node.quotedList, Node.isValue]

/-- The first pass of a fold leaves its calls. -/
theorem makes_folding (numbers : List Float) (start : Float) :
    engine.Makes inputs (folding numbers closure start)
      (foldCalls closure numbers (.number start))
      [("list.reduce", [.list (numbers.map .number), .list [.string closure], .number start])] := by
  refine .call (Node.shape_call (by decide) ?_) rfl (applies_of_mem extended mem_bindings_reduce
    (by decide) rfl (fold_numbers numbers closure start))
  simp [Node.quotedList, Node.isValue]

theorem charges_folding (numbers : List Float) (start : Float) :
    engine.charges .global (folding numbers closure start) = [engine.settings.invokeAmount] := by
  rw [folding, charges_call (Node.shape_call (by decide) ?_),
    priceCharges_offered (offers_of_mem extended mem_bindings_reduce)]
  simp [Node.quotedList, Node.isValue]

end

/-- A name that stands for a function of two numbers. -/
def Combines (engine : Engine) (closure : String) (combine : Float → Float → Float) : Prop :=
  ∀ left right, engine.Applies closure [.number left, .number right] (.number (combine left right))

theorem shape_application_numbers (combines : engine.Combines closure combine)
    (left right : Float) :
    Node.shape [.string closure, .number left, .number right] = .call closure := by
  obtain ⟨function, admits, -⟩ := combines left right
  exact Node.shape_call admits.unquoted (by simp [Node.isValue])

/-- The application becomes the next partial fold. -/
theorem makes_application_numbers (combines : engine.Combines closure combine)
    (left right : Float) :
    engine.Makes inputs (application closure left right) (.number (combine left right))
      [(closure, [.number left, .number right])] :=
  .call (shape_application_numbers combines left right) rfl (combines left right)

theorem isForm_application (closure : String) (left right : Float) :
    (application closure left right).IsForm :=
  ⟨closure, _, rfl, by simp [Node.isNull]⟩

/-- The passes of a nest with a call to make are paid by these amounts. -/
theorem payable_foldCalls_iff (extended : engine.library.ExtendsStandard)
    (combines : engine.Combines closure combine) (numbers : List Float) (left right : Float) :
    Payable (engine.charges .global
          (foldCalls closure numbers ((foldCall closure right).around (.number left))) ++
        engine.charges .global (foldCalls closure numbers (application closure left right))) ↔
      Payable (engine.foldingAmounts closure (numbers.length + 1)) := by
  have called : ∀ enclosure ∈ numbers.map (foldCall closure), engine.Closes enclosure :=
    closes_foldCalls extended numbers
  have applied : engine.charges .global (application closure left right) =
      engine.settings.invokeAmount :: engine.priceCharges .global closure :=
    charges_call (shape_application_numbers combines left right)
  have sizes : (∀ enclosure ∈ numbers.map (foldCall closure),
      Payable [engine.settings.sequenceAmount * Float.ofNat enclosure.size]) ↔
        Payable (if numbers.length + 1 ≤ 1 then []
          else [engine.settings.sequenceAmount * Float.ofNat 4]) := by
    cases numbers with
    | nil => simp [Payable]
    | cons number rest =>
        rw [if_neg (by simp), List.forall_mem_map]
        exact ⟨fun each => each number (.head rest), fun once _ _ => once⟩
  rw [payable_append, foldCalls, foldCalls, payable_nest_iff called rfl,
    payable_nest_iff called rfl, charges_foldCall extended, applied, sizes, foldingAmounts,
    if_neg (Nat.succ_ne_zero _), payable_cons _ (_ ++ _), payable_append,
    payable_cons _ (engine.priceCharges _ _)]
  tauto

/-- The amounts of a fold cover those of a shorter one. -/
theorem payable_foldingAmounts_of_succ {count : Nat}
    (payable : Payable (engine.foldingAmounts closure (count + 1))) :
    Payable (engine.foldingAmounts closure count) := by
  intro amount charged
  refine payable amount ?_
  simp only [foldingAmounts, List.mem_cons, List.mem_append] at charged ⊢
  rcases charged with invoke | price | sequence
  · exact .inl invoke
  · split_ifs at price
    · cases price
    · exact .inr (.inl (by simpa using price))
  · split_ifs at sequence with few
    · cases sequence
    · exact .inr (.inr (by rwa [if_neg (by omega)]))

theorem isForm_foldCalls (numbers : List Float) {inner : Node} (form : inner.IsForm) :
    (foldCalls closure numbers inner).IsForm :=
  Enclosure.isForm_nest (List.forall_mem_map.mpr fun number _ => isFull_foldCall closure number)
    form

/-- A nest with a call to make takes one pass more than the nest with the application. -/
theorem completes_foldCall (noArguments : inputs.argv = [])
    (extended : engine.library.ExtendsStandard) {numbers : List Float} {left right : Float}
    {value : Node} {passes : Nat} {made : List (String × List Node)} {amounts : List Float}
    (completes : engine.Completes inputs
      (foldCalls closure numbers (application closure left right)) value passes made amounts) :
    ∃ made, engine.Completes inputs (foldCalls closure (right :: numbers) (.number left)) value
      (passes + 1) made
      (engine.charges .global
        (foldCalls closure numbers ((foldCall closure right).around (.number left))) ++
          amounts) := by
  have called : engine.Makes inputs
      (foldCalls closure numbers ((foldCall closure right).around (.number left)))
      (foldCalls closure numbers (application closure left right)) _ :=
    (makes_foldCall extended left right).nest (closes_foldCalls extended numbers) rfl
  have lighter : (foldCalls closure numbers (application closure left right)).weight <
      (foldCalls closure numbers ((foldCall closure right).around (.number left))).weight := by
    refine Enclosure.weight_nest_lt ?_ _
    simp [application, Enclosure.around, Enclosure.items, foldCall, Node.weight, Node.weights,
      Node.quotedList]
  have form : (foldCalls closure numbers
      ((foldCall closure right).around (.number left))).IsForm :=
    isForm_foldCalls numbers (Enclosure.isForm_around (isFull_foldCall closure right) rfl)
  have changed : (foldCalls closure numbers (application closure left right)).IsForm :=
    isForm_foldCalls numbers (isForm_application closure left right)
  exact ⟨_, .step_form noArguments form called (settle_form changed lighter.ne) completes⟩

/-- Two passes for each number take a nest of calls to the fold. -/
theorem completes_foldCalls (noArguments : inputs.argv = [])
    (extended : engine.library.ExtendsStandard) (combines : engine.Combines closure combine)
    (numbers : List Float) (left right : Float) :
    ∃ made, engine.Completes inputs (foldCalls closure (right :: numbers) (.number left))
      (.number ((right :: numbers).foldl combine left)) (2 * (numbers.length + 1)) made
      (engine.foldingAmounts closure (numbers.length + 1)) := by
  have paid := payable_foldCalls_iff extended combines
  have makes : engine.Makes inputs (application closure left right) _ _ :=
    makes_application_numbers combines left right
  induction numbers generalizing left right with
  | nil =>
      have applied : engine.Completes inputs (application closure left right)
          (.number (combine left right)) 1 _ _ := .last noArguments makes rfl
      obtain ⟨made, completes⟩ : ∃ made, engine.Completes inputs
          (foldCalls closure [right] (.number left)) (.number (combine left right)) 2 made _ :=
        completes_foldCall noArguments extended applied
      exact ⟨made, completes.congr (paid [] left right)⟩
  | cons number rest inductionHypothesis =>
      -- The partial fold takes the place of the application, and the next call is ready.
      have applied : engine.Makes inputs
          (foldCalls closure (number :: rest) (application closure left right))
          (foldCalls closure (number :: rest) (.number (combine left right))) _ :=
        makes.nest (closes_foldCalls extended (number :: rest)) rfl
      have lighter : (foldCalls closure (number :: rest) (.number (combine left right))).weight <
          (foldCalls closure (number :: rest) (application closure left right)).weight := by
        refine Enclosure.weight_nest_lt ?_ _
        simp [application, Node.weight, Node.weights]
      have form : (foldCalls closure (number :: rest) (.number (combine left right))).IsForm :=
        isForm_foldCalls rest (Enclosure.isForm_around (isFull_foldCall closure number) rfl)
      obtain ⟨later, next⟩ := inductionHypothesis (combine left right) number
        (makes_application_numbers combines _ _)
      have completes := Completes.step_form noArguments
        (isForm_foldCalls _ (isForm_application closure left right)) applied
        (settle_form form lighter.ne) next
      obtain ⟨made, called⟩ := completes_foldCall noArguments extended completes
      refine ⟨made, called.congr ?_⟩
      rw [← List.append_assoc, payable_append, paid (number :: rest) left right]
      exact and_iff_left_of_imp payable_foldingAmounts_of_succ

/-- The calls that a fold leaves are another program. -/
theorem settle_folding (engine : Engine) (number : Float) (rest : List Float) (start : Float) :
    engine.settle (folding (number :: rest) closure start)
        (foldCalls closure (number :: rest) (.number start)) =
      pure (.again (foldCalls closure (number :: rest) (.number start))) := by
  obtain ⟨name, items, equal, full⟩ : (foldCalls closure (number :: rest) (.number start)).IsForm :=
    isForm_foldCalls rest (Enclosure.isForm_around (isFull_foldCall closure number) rfl)
  have led : name = "call" := by
    obtain ⟨init, last, split⟩ := (number :: rest).eq_nil_or_concat.resolve_left (by simp)
    rw [split, foldCalls, List.concat_eq_append, List.map_append, List.map_singleton,
      Enclosure.nest_concat] at equal
    injection equal with equal
    injection equal with equal
    injection equal with equal
    exact equal.symm
  rw [equal, folding, settle_renamed (by rw [led]; decide),
    compacted_of_full (List.forall_mem_cons.mpr ⟨rfl, full⟩)]

/-- A fold of numbers takes one pass for itself and two for each number. -/
theorem completes_folding (noArguments : inputs.argv = [])
    (extended : engine.library.ExtendsStandard) (combines : engine.Combines closure combine)
    (numbers : List Float) (start : Float) :
    ∃ made, engine.Completes inputs (folding numbers closure start)
      (.number (numbers.foldl combine start)) (2 * numbers.length + 1) made
      (engine.foldingAmounts closure numbers.length) := by
  have folds : engine.Makes inputs (folding numbers closure start)
      (foldCalls closure numbers (.number start)) _ := makes_folding extended numbers start
  cases numbers with
  | nil =>
      have completes : engine.Completes inputs (folding [] closure start) (.number start) 1 _ _ :=
        .last noArguments folds rfl
      rw [← folding, charges_folding extended] at completes
      exact ⟨_, completes⟩
  | cons number rest =>
      obtain ⟨made, completes⟩ :=
        completes_foldCalls noArguments extended combines rest start number
      have all := Completes.step noArguments folds (settle_folding engine number rest start)
        completes
      rw [← folding, charges_folding extended] at all
      refine ⟨_, all.congr ?_⟩
      rw [payable_append]
      exact and_iff_right_of_imp fun payable amount charged =>
        payable amount (List.mem_singleton.mp charged ▸ .head _)

end Engine

namespace Session

open Standard

/-- An unlimited balance lets a fold of numbers be their left fold, in one pass and two more for
each number, exactly when it can pay the charges: none of them is minus infinity or no number. -/
theorem payable_iff_folds (session : Session) (inputs : Inputs) (closure : String)
    (numbers : List Float) (start : Float) (combine : Float → Float → Float)
    (noArguments : inputs.argv = []) (extended : session.engine.library.ExtendsStandard)
    (combines : session.engine.Combines closure combine) :
    Payable (session.engine.foldingAmounts closure numbers.length) ↔
      ∀ limit, ((session.withBalance none).run inputs limit
          (folding numbers closure start)).1 =
        .ok (if limit < 2 * numbers.length + 1 then none
          else some (.number (numbers.foldl combine start))) := by
  obtain ⟨made, completes⟩ :=
    session.engine.completes_folding noArguments extended combines numbers start
  constructor
  · intro payable limit
    exact (run_completes completes payable limit).1
  · intro folds
    exact payable_of_run completes (le_refl _) (folds (2 * numbers.length + 1))

theorem mem_bindings_minus : binary "-" (· - ·) ∈ bindings := by
  simp only [bindings, arithmetic, operators, List.mem_append, List.mem_cons, true_or, or_true]

theorem combines_minus (settings : Settings) :
    (standing settings).engine.Combines "-" (· - ·) := fun _ _ =>
  Engine.applies_of_mem extendsStandard_library mem_bindings_minus (by decide) rfl rfl

/-- Numbers are taken away from the left, one after another. -/
theorem folds_minus :
    (((standing {}).withBalance none).run ⟨[], none⟩ 5 (folding [1.0, 2.0] "-" 10.0)).1 =
      .ok (some (.number (10.0 - 1.0 - 2.0))) := by
  have free : (standing {}).engine.priceCharges .global "-" = [] :=
    Engine.priceCharges_offered (offers_of_mem extendsStandard_library mem_bindings_minus)
  have payable : Payable ((standing {}).engine.foldingAmounts "-" 2) := by
    rw [Engine.foldingAmounts, free]
    unfold Payable
    decide +kernel
  exact (payable_iff_folds (standing {}) ⟨[], none⟩ "-" [1.0, 2.0] 10.0 (· - ·) rfl
    extendsStandard_library (combines_minus {})).mp payable 5

/-- A finite amount that overflows when it is charged for each item keeps an unlimited balance from
folding two numbers. -/
theorem minus_never_folded :
    (standing { sequenceAmount := -1e308 }).engine.Combines "-" (· - ·) ∧
      ∀ value, (((standing { sequenceAmount := -1e308 }).withBalance none).run ⟨[], none⟩ 5
        (folding [1.0, 2.0] "-" 10.0)).1 ≠ .ok (some value) := by
  refine ⟨combines_minus _, fun value ran => ?_⟩
  have noArguments : (⟨[], none⟩ : Inputs).argv = [] := rfl
  obtain ⟨made, completes⟩ :=
    (standing { sequenceAmount := -1e308 }).engine.completes_folding noArguments
      extendsStandard_library (combines_minus _) [1.0, 2.0] 10.0
  have positive := payable_of_run completes (le_refl 5) ran (-1e308 * Float.ofNat 4)
    (List.mem_cons_of_mem _ (List.mem_append_right _ (.head _)))
  revert positive
  decide +kernel

end Session

end Reduct
