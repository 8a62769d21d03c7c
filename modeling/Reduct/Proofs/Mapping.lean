import Reduct.Proofs.Extension
import Reduct.Proofs.Invocation
import Reduct.Proofs.Weight
/-! This file follows a function that takes a closure through its passes: it leaves one call for
each element, the calls become applications, the applications become results, and the finalizer
joins them. -/

namespace Reduct

namespace Node

/-- A datum is handed on by a call as it is, and a pass leaves it alone. -/
def isDatum : Node → Bool
  | .bool _ => true
  | .number _ => true
  | .map _ => true
  | .list items => items.isEmpty
  | _ => false

variable {node : Node}

theorem isValue_of_isDatum (datum : node.isDatum = true) : node.isValue = true := by
  cases node with
  | list items => exact datum
  | _ => rfl

theorem isNull_of_isDatum (datum : node.isDatum = true) : node.isNull = false := by
  cases node with
  | null => cases datum
  | _ => rfl

theorem weight_of_isDatum (datum : node.isDatum = true) : node.weight = 1 := by
  cases node with
  | string => cases datum
  | list items =>
      obtain rfl := List.isEmpty_iff.mp datum
      simp [weight, weights]
  | _ => simp [weight]

theorem weight_of_isNull (null : node.isNull = true) : node.weight = 1 := by
  cases node with
  | null => simp [weight]
  | _ => cases null

theorem valueOf_of_isDatum (datum : node.isDatum = true) (library : Library) (scope : Scope) :
    library.valueOf scope node.unquoted = node := by
  cases node with
  | string | quote => cases datum
  | _ => rfl

theorem shape_call {name : String} {rest : List Node} (unquoted : isQuoteName name = false)
    (ready : ∀ item ∈ rest, item.isValue = true) : shape (.string name :: rest) = .call name := by
  have plain : isQuoteForm (.string name :: rest) = false := unquoted
  have values : isCallReady (.string name :: rest) = true := List.all_eq_true.mpr ready
  simp [shape, plain, values, headName?, string?]

theorem shape_sequence {name : String} {rest : List Node} {item : Node}
    (unquoted : isQuoteName name = false) (member : item ∈ rest) (unready : item.isValue = false) :
    shape (.string name :: rest) = .sequence := by
  have plain : isQuoteForm (.string name :: rest) = false := unquoted
  have values : isCallReady (.string name :: rest) = false := by
    rw [← Bool.not_eq_true]
    intro ready
    have value := List.all_eq_true.mp ready item member
    rw [unready] at value
    cases value
  rw [shape_eq_sequence_iff, isOneStep, plain, values]
  simp

theorem weights_filter_le (keep : Node → Bool) (items : List Node) :
    weights (items.filter keep) ≤ weights items := by
  induction items with
  | nil => simp
  | cons item rest inductionHypothesis =>
      rw [List.filter_cons]
      split_ifs
      · rw [weights, weights]
        omega
      · rw [weights]
        omega

/-- Items that are lighter one by one are lighter together. -/
theorem weights_map_lt {elements : List Node} {light heavy : Node → Node} (filled : elements ≠ [])
    (each : ∀ element ∈ elements, (light element).weight < (heavy element).weight) :
    weights (elements.map light) < weights (elements.map heavy) := by
  induction elements with
  | nil => exact absurd rfl filled
  | cons element rest inductionHypothesis =>
      have first := each element (.head rest)
      rw [List.map_cons, List.map_cons, weights, weights]
      cases rest with
      | nil =>
          simp only [List.map_nil, weights]
          omega
      | cons next others =>
          have later := inductionHypothesis (by simp)
            fun element member => each element (.tail _ member)
          omega

end Node

namespace Standard

/-- A function of the standard library that takes a closure. -/
structure IsMapper (name : String) (combine : List Node → List Node → Node) : Prop where
  unquoted : Node.isQuoteName name = false
  unquotedFinalizer : Node.isQuoteName (finalizerName name) = false
  bound : ∀ binding ∈ mapper name combine, binding ∈ bindings

/-- A function that takes a closure, applied to elements and to a name. -/
def mapping (name : String) (elements : List Node) (closure : String) : Node :=
  .list [.string name, .quotedList elements, .quotedList [.string closure]]

/-- The finalizer around calls or results, with the elements at the end. -/
def awaiting (name : String) (elements calls : List Node) : Node :=
  .list (.string (finalizerName name) :: (calls ++ [.quotedList elements]))

theorem weight_awaiting (name : String) (elements calls : List Node) :
    (awaiting name elements calls).weight = 4 + Node.weights calls := by
  simp only [awaiting, Node.weight, Node.weights, Node.weights_append, Node.quotedList]
  omega

end Standard

namespace Engine

open Reduction Standard

/-- A name that yields a datum or null for each of some data. -/
structure Maps (engine : Engine) (closure : String) (elements : List Node)
    (result : Node → Node) : Prop where
  data : ∀ element ∈ elements, element.isDatum = true
  applies : ∀ element ∈ elements, engine.Applies closure [element] (result element)
  settled : ∀ element ∈ elements,
    (result element).isDatum = true ∨ (result element).isNull = true

/-- The amounts that are charged for a name over some number of elements. -/
def mappingAmounts (engine : Engine) (closure : String) (count : Nat) : List Float :=
  engine.settings.invokeAmount ::
    if count = 0 then []
    else engine.settings.sequenceAmount * Float.ofNat (count + 2) ::
      engine.priceCharges .global closure

variable {engine : Engine} {inputs : Inputs}

theorem charges_call {name : String} {rest : List Node}
    (shape : Node.shape (.string name :: rest) = .call name) :
    engine.charges .global (.list (.string name :: rest)) =
      engine.settings.invokeAmount :: engine.priceCharges .global name := by
  rw [charges, shape, bill, List.append_nil]

theorem priceCharges_offered {name : String} {function : Function}
    (offers : engine.library.Offers name function) : engine.priceCharges .global name = [] := by
  simp [priceCharges, resolve?, offers.bound, offers.unpriced]

/-- A pure function that is offered applies to arguments for which it yields a result. -/
theorem applies_of_offers {name : String} {function : Function} {arguments : List Node}
    {result : Node} (offers : engine.library.Offers name function)
    (unquoted : Node.isQuoteName name = false) (pure : function.impure = false)
    (arity : Signature.check function.signature arguments.length = .ok ())
    (yields : ∀ (call : Call) (world : World),
      ((function.call call arguments).run world).1 = .ok result) :
    engine.Applies name arguments result :=
  ⟨function, ⟨unquoted, offers.bound, fun impure => absurd impure (by simp [pure]),
    fun _ => arity⟩, yields⟩

/-- A function of the standard library applies to arguments that it computes with. -/
theorem applies_of_mem {name : String} {signature : Signature}
    {compute : List Node → Except Error Node} {arguments : List Node} {result : Node}
    (extended : engine.library.ExtendsStandard)
    (member : computes name signature compute ∈ bindings)
    (unquoted : Node.isQuoteName name = false)
    (arity : Signature.check (some signature) arguments.length = .ok ())
    (computed : compute arguments = .ok result) : engine.Applies name arguments result := by
  refine applies_of_offers (offers_of_mem extended member) unquoted rfl arity fun call world => ?_
  simp only [computed]
  rfl

/-- A list that is lighter or heavier than the program goes around again. -/
theorem settle_awaiting {program : Node} {name : String} {elements calls : List Node}
    (changed : 4 + Node.weights (calls.filter (!·.isNull)) ≠ program.weight) :
    engine.settle program (awaiting name elements calls) =
      pure (.again (awaiting name elements (calls.filter (!·.isNull)))) := by
  have left : compacted (.string (finalizerName name) :: (calls ++ [.quotedList elements])) =
      awaiting name elements (calls.filter (!·.isNull)) := by
    rw [compacted, List.filter_cons_of_pos (by rfl), List.filter_append]
    rfl
  have different :
      (awaiting name elements (calls.filter (!·.isNull))).sameStructure program = false := by
    rw [← Bool.not_eq_true]
    intro same
    apply changed
    rw [← Node.weight_eq_of_sameStructure same, weight_awaiting]
  rw [awaiting, settle_cons, left, different, Bool.and_false]
  rfl

section

variable {name : String} {combine : List Node → List Node → Node} {elements : List Node}
  (extended : engine.library.ExtendsStandard) (mapper : IsMapper name combine)

include extended mapper

theorem offers_mapper : ∃ function, engine.library.Offers name function :=
  ⟨_, offers_of_mem extended (mapper.bound _ (.head _))⟩

theorem offers_finalizer : ∃ function, engine.library.Offers (finalizerName name) function :=
  ⟨_, offers_of_mem extended (mapper.bound _ (.tail _ (.head _)))⟩

/-- The first pass leaves a call for each element. -/
theorem makes_mapping (closure : String) :
    engine.Makes inputs (mapping name elements closure)
      (awaiting name elements (elements.map fun element => callOf [.string closure] [element]))
      [(name, [.list elements, .list [.string closure]])] := by
  refine .call (Node.shape_call mapper.unquoted ?_) rfl ?_
  · simp [Node.quotedList, Node.isValue]
  · exact applies_of_mem extended (mapper.bound _ (.head _)) mapper.unquoted rfl rfl

theorem charges_mapping (closure : String) :
    engine.charges .global (mapping name elements closure) = [engine.settings.invokeAmount] := by
  obtain ⟨function, offers⟩ := offers_mapper extended mapper
  rw [mapping, charges_call (Node.shape_call mapper.unquoted ?_), priceCharges_offered offers]
  simp [Node.quotedList, Node.isValue]

/-- Calls that wait under the finalizer make a sequence. -/
theorem shape_awaiting {call : Node → Node} (filled : elements ≠ [])
    (unready : ∀ element ∈ elements, (call element).isValue = false) :
    Node.shape (.string (finalizerName name) :: (elements.map call ++ [.quotedList elements])) =
        .sequence ∧
      engine.library.innerScope .global
        (.string (finalizerName name) :: (elements.map call ++ [.quotedList elements])) =
          .global := by
  obtain ⟨first, member⟩ := List.exists_mem_of_ne_nil elements filled
  obtain ⟨function, offers⟩ := offers_finalizer extended mapper
  constructor
  · exact Node.shape_sequence mapper.unquotedFinalizer
      (List.mem_append_left _ (List.mem_map_of_mem member)) (unready first member)
  · simp [Library.innerScope, Node.headName?, Node.string?, offers.closed]

/-- A pass over calls of each element reduces them all. -/
theorem makes_awaiting {call reduced : Node → Node} {made : Node → String × List Node}
    (filled : elements ≠ []) (unready : ∀ element ∈ elements, (call element).isValue = false)
    (each : ∀ element ∈ elements,
      engine.Makes inputs (call element) (reduced element) [made element]) :
    engine.Makes inputs (awaiting name elements (elements.map call))
      (awaiting name elements (elements.map reduced)) (elements.map made) := by
  obtain ⟨shape, closed⟩ := shape_awaiting extended mapper filled unready
  have items : List.Forall₂ (fun node outcome => engine.Makes inputs node outcome.1 outcome.2)
      (.string (finalizerName name) :: (elements.map call ++ [.quotedList elements]))
      ((.string (finalizerName name), []) ::
        (elements.map (fun element => (reduced element, [made element])) ++
          [(.quotedList elements, [])])) := by
    refine .cons (.other rfl) (List.rel_append ?_ (.cons (.other rfl) .nil))
    rw [List.forall₂_map_left_iff, List.forall₂_map_right_iff, List.forall₂_same]
    exact each
  have makes := Makes.sequence shape closed items
  have invocations : elements.map made = elements.flatMap fun element => [made element] :=
    List.map_eq_flatMap
  rw [invocations]
  simpa [awaiting, sequenceResult, Node.isInvocable, Node.headName?, Node.string?,
    Function.comp_def, List.flatMap_map] using makes

/-- A pass over calls charges its length and what the calls charge. -/
theorem payable_awaiting_iff {call : Node → Node} (filled : elements ≠ [])
    (unready : ∀ element ∈ elements, (call element).isValue = false) :
    Payable (engine.charges .global (awaiting name elements (elements.map call))) ↔
      Payable [engine.settings.sequenceAmount * Float.ofNat (elements.length + 2)] ∧
        ∀ element ∈ elements, Payable (engine.charges .global (call element)) := by
  obtain ⟨shape, closed⟩ := shape_awaiting extended mapper filled unready
  rw [awaiting, charges, shape, closed, payable_append]
  refine and_congr ?_ ?_
  · simp [bill]
  · simp only [Payable, mem_itemCharges_iff, List.mem_cons, List.mem_append, List.mem_map,
      List.not_mem_nil, or_false]
    constructor
    · intro payable element member amount charged
      exact payable amount ⟨_, .inr (.inl ⟨element, member, rfl⟩), charged⟩
    · rintro payable amount ⟨item, rfl | ⟨element, member, rfl⟩ | rfl, charged⟩
      · rw [engine.charges_other .global _ rfl] at charged
        cases charged
      · exact payable element member amount charged
      · rw [engine.charges_other .global _ rfl] at charged
        cases charged

/-- The last pass joins the results. -/
theorem makes_finalizer {results : List Node} (data : ∀ result ∈ results, result.isDatum = true) :
    engine.Makes inputs (awaiting name elements results) (combine elements results)
      [(finalizerName name, results ++ [.list elements])] := by
  refine .call (Node.shape_call mapper.unquotedFinalizer ?_) ?_ ?_
  · intro item member
    rcases List.mem_append.mp member with inside | last
    · exact Node.isValue_of_isDatum (data item inside)
    · obtain rfl := List.mem_singleton.mp last
      rfl
  · rw [arguments, List.drop_one, List.tail_cons, List.map_append]
    refine congrArg (· ++ _) ((List.map_congr_left ?_).trans (List.map_id results))
    exact fun result member => Node.valueOf_of_isDatum (data result member) _ _
  · refine applies_of_mem extended (mapper.bound _ (.tail _ (.head _))) mapper.unquotedFinalizer
      rfl ?_
    simp [finalize]

theorem charges_finalizer {results : List Node}
    (data : ∀ result ∈ results, result.isDatum = true) :
    engine.charges .global (awaiting name elements results) = [engine.settings.invokeAmount] := by
  obtain ⟨function, offers⟩ := offers_finalizer extended mapper
  rw [awaiting, charges_call (Node.shape_call mapper.unquotedFinalizer ?_),
    priceCharges_offered offers]
  intro item member
  rcases List.mem_append.mp member with inside | last
  · exact Node.isValue_of_isDatum (data item inside)
  · obtain rfl := List.mem_singleton.mp last
    rfl

end

section

variable {closure : String} {element : Node}

theorem mem_bindings_call :
    computes "call" (.ofTags ["list", "..."]) Standard.call ∈ Standard.bindings := by
  simp only [bindings, closures, List.mem_append, List.mem_cons, true_or, or_true]

theorem shape_callOf (datum : element.isDatum = true) :
    Node.shape [.string "call", .quotedList [.string closure], element] = .call "call" := by
  refine Node.shape_call (by decide) ?_
  rintro item (_ | ⟨_, _ | ⟨_, ⟨⟩⟩⟩)
  · rfl
  · exact Node.isValue_of_isDatum datum

/-- The call of a closure becomes its application. -/
theorem makes_callOf (extended : engine.library.ExtendsStandard) (datum : element.isDatum = true) :
    engine.Makes inputs (callOf [.string closure] [element]) (.list [.string closure, element])
      [("call", [.list [.string closure], element])] := by
  refine .call (shape_callOf datum) ?_
    (applies_of_mem extended mem_bindings_call (by decide) rfl rfl)
  exact congrArg (fun argument => [.list [.string closure], argument])
    (Node.valueOf_of_isDatum datum _ _)

theorem charges_callOf (extended : engine.library.ExtendsStandard)
    (datum : element.isDatum = true) :
    engine.charges .global (callOf [.string closure] [element]) =
      [engine.settings.invokeAmount] := by
  rw [callOf, charges_call (shape_callOf datum),
    priceCharges_offered (offers_of_mem extended mem_bindings_call)]

theorem shape_application {result : Node} (applies : engine.Applies closure [element] result)
    (datum : element.isDatum = true) :
    Node.shape [.string closure, element] = .call closure := by
  obtain ⟨function, admits, -⟩ := applies
  refine Node.shape_call admits.unquoted ?_
  simp [Node.isValue_of_isDatum datum]

/-- The application of a closure becomes its result. -/
theorem makes_application {result : Node} (applies : engine.Applies closure [element] result)
    (datum : element.isDatum = true) :
    engine.Makes inputs (.list [.string closure, element]) result [(closure, [element])] :=
  .call (shape_application applies datum)
    (congrArg (fun argument => [argument]) (Node.valueOf_of_isDatum datum _ _)) applies

end

theorem filter_calls (elements : List Node) (call : Node → Node)
    (calls : ∀ element, (call element).isNull = false) :
    (elements.map call).filter (!·.isNull) = elements.map call := by
  rw [List.filter_eq_self]
  intro item member
  obtain ⟨element, -, rfl⟩ := List.mem_map.mp member
  rw [calls element]
  rfl

/-- Calls are no mapping. -/
theorem settle_mapping (name closure : String) (elements : List Node) :
    engine.settle (mapping name elements closure)
        (awaiting name elements (elements.map fun element => callOf [.string closure] [element])) =
      pure (.again (awaiting name elements
        (elements.map fun element => callOf [.string closure] [element]))) := by
  have calls := filter_calls elements (fun element => callOf [.string closure] [element])
    fun _ => rfl
  rw [settle_awaiting, calls]
  rw [calls]
  cases elements with
  | nil => simp [mapping, Node.weight, Node.weights, Node.quotedList]
  | cons first rest =>
      simp only [mapping, callOf, List.map_cons, Node.weight, Node.weights, Node.quotedList]
      omega

/-- Applications weigh less than calls. -/
theorem settle_calls (name closure : String) {elements : List Node} (filled : elements ≠ []) :
    engine.settle
        (awaiting name elements (elements.map fun element => callOf [.string closure] [element]))
        (awaiting name elements (elements.map fun element => .list [.string closure, element])) =
      pure (.again (awaiting name elements
        (elements.map fun element => .list [.string closure, element]))) := by
  have calls := filter_calls elements (fun element => .list [.string closure, element]) fun _ => rfl
  have lighter : Node.weights (elements.map fun element => .list [.string closure, element]) <
      Node.weights (elements.map fun element => callOf [.string closure] [element]) := by
    refine Node.weights_map_lt filled fun element _ => ?_
    simp only [callOf, Node.weight, Node.weights, Node.quotedList]
    omega
  rw [settle_awaiting, calls]
  rw [calls, weight_awaiting]
  omega

/-- Results weigh less than applications. -/
theorem settle_applications (name : String) {closure : String} {elements : List Node}
    {result : Node → Node} (maps : engine.Maps closure elements result) (filled : elements ≠ []) :
    engine.settle
        (awaiting name elements (elements.map fun element => .list [.string closure, element]))
        (awaiting name elements (elements.map result)) =
      pure (.again (awaiting name elements ((elements.map result).filter (!·.isNull)))) := by
  have lighter : Node.weights (elements.map result) <
      Node.weights (elements.map fun element => .list [.string closure, element]) := by
    refine Node.weights_map_lt filled fun element member => ?_
    have light : (result element).weight = 1 := by
      rcases maps.settled element member with datum | null
      · exact Node.weight_of_isDatum datum
      · exact Node.weight_of_isNull null
    simp only [light, Node.weight, Node.weights]
    omega
  have fewer := Node.weights_filter_le (!·.isNull) (elements.map result)
  rw [settle_awaiting]
  rw [weight_awaiting]
  omega

/-- The amounts of four passes over some elements. -/
theorem payable_mapping_iff {name closure : String} {combine : List Node → List Node → Node}
    {elements kept : List Node} {result : Node → Node}
    (extended : engine.library.ExtendsStandard) (mapper : IsMapper name combine)
    (maps : engine.Maps closure elements result)
    (data : ∀ result ∈ kept, result.isDatum = true) (filled : elements ≠ []) :
    Payable (engine.charges .global (mapping name elements closure) ++
        (engine.charges .global (awaiting name elements
            (elements.map fun element => callOf [.string closure] [element])) ++
          (engine.charges .global (awaiting name elements
              (elements.map fun element => .list [.string closure, element])) ++
            engine.charges .global (awaiting name elements kept)))) ↔
      Payable (engine.mappingAmounts closure elements.length) := by
  have application : ∀ element ∈ elements,
      engine.charges .global (.list [.string closure, element]) =
        engine.settings.invokeAmount :: engine.priceCharges .global closure := fun element member =>
    charges_call (shape_application (maps.applies element member) (maps.data element member))
  have call : ∀ element ∈ elements, engine.charges .global (callOf [.string closure] [element]) =
      [engine.settings.invokeAmount] := fun element member =>
    charges_callOf extended (maps.data element member)
  obtain ⟨first, member⟩ := List.exists_mem_of_ne_nil elements filled
  rw [payable_append, payable_append, payable_append,
    payable_awaiting_iff extended mapper filled fun _ _ => rfl,
    payable_awaiting_iff extended mapper filled fun _ _ => rfl,
    charges_mapping extended mapper, charges_finalizer extended mapper data, mappingAmounts,
    if_neg (by simpa using filled)]
  constructor
  · rintro ⟨invoke, ⟨sequence, -⟩, ⟨-, applications⟩, -⟩
    have prices := applications first member
    rw [application first member] at prices
    simp only [Payable, List.mem_cons, forall_eq_or_imp] at invoke sequence prices ⊢
    exact ⟨invoke.1, sequence.1, prices.2⟩
  · intro payable
    simp only [Payable, List.mem_cons, forall_eq_or_imp] at payable
    obtain ⟨invoke, sequence, prices⟩ := payable
    have once : Payable [engine.settings.invokeAmount] := by simpa [Payable] using invoke
    have length :
        Payable [engine.settings.sequenceAmount * Float.ofNat (elements.length + 2)] := by
      simpa [Payable] using sequence
    refine ⟨once, ⟨length, fun element member => ?_⟩, ⟨length, fun element member => ?_⟩, once⟩
    · rw [call element member]
      exact once
    · rw [application element member]
      simp only [Payable, List.mem_cons, forall_eq_or_imp]
      exact ⟨invoke, prices⟩

/-- A mapping is completed by joining the results that are not null with the elements. -/
theorem completes_mapping {name closure : String} {combine : List Node → List Node → Node}
    {elements : List Node} {result : Node → Node} {value : Node}
    (noArguments : inputs.argv = []) (extended : engine.library.ExtendsStandard)
    (mapper : IsMapper name combine) (maps : engine.Maps closure elements result)
    (answers : ∀ program, engine.settle program
      (combine elements ((elements.map result).filter (!·.isNull))) = pure (.done value)) :
    engine.Completes inputs (mapping name elements closure) value
      (if elements.isEmpty then 2 else 4)
      ((name, [.list elements, .list [.string closure]]) ::
        (elements.map (fun element => ("call", [.list [.string closure], element])) ++
          (elements.map (fun element => (closure, [element])) ++
            [(finalizerName name,
              (elements.map result).filter (!·.isNull) ++ [.list elements])])))
      (engine.mappingAmounts closure elements.length) := by
  have data : ∀ kept ∈ (elements.map result).filter (!·.isNull), kept.isDatum = true := by
    intro kept member
    obtain ⟨inside, filled⟩ := List.mem_filter.mp member
    obtain ⟨element, within, rfl⟩ := List.mem_map.mp inside
    rcases maps.settled element within with datum | null
    · exact datum
    · rw [null] at filled
      cases filled
  have joined : engine.Makes inputs (awaiting name elements _) _ _ :=
    makes_finalizer extended mapper data
  have finished := Completes.last noArguments joined (answers _)
  have called : engine.Makes inputs (mapping name elements closure) _ _ :=
    makes_mapping extended mapper closure
  by_cases filled : elements = []
  · subst filled
    refine (Completes.step noArguments called (settle_mapping name closure []) finished).congr ?_
    rw [← mapping, ← awaiting, charges_mapping extended mapper,
      charges_finalizer extended mapper data]
    simp [mappingAmounts, Payable]
  · have applied : engine.Makes inputs (awaiting name elements
        (elements.map fun element => callOf [.string closure] [element])) _ _ :=
      makes_awaiting extended mapper filled (fun _ _ => rfl)
        fun element member => makes_callOf extended (maps.data element member)
    have yielded : engine.Makes inputs (awaiting name elements
        (elements.map fun element => .list [.string closure, element])) _ _ :=
      makes_awaiting extended mapper filled (fun _ _ => rfl)
        fun element member =>
          makes_application (maps.applies element member) (maps.data element member)
    have completes := Completes.step noArguments called (settle_mapping name closure elements)
      (Completes.step noArguments applied (settle_calls name closure filled)
        (Completes.step noArguments yielded (settle_applications name maps filled) finished))
    rw [if_neg (by simpa using filled)]
    exact completes.congr (payable_mapping_iff extended mapper maps data filled)

/-- A function on numbers as a function on nodes. -/
def onNumbers (result : Float → Node) (node : Node) : Node :=
  (node.number?.map result).getD .null

theorem map_onNumbers (result : Float → Node) (numbers : List Float) :
    (numbers.map .number).map (onNumbers result) = numbers.map result := by
  rw [List.map_map]
  rfl

/-- A name maps numbers when it yields a datum or null for each of them. -/
theorem maps_numbers {closure : String} {numbers : List Float} {result : Float → Node}
    (applies : ∀ number ∈ numbers, engine.Applies closure [.number number] (result number))
    (settled : ∀ number ∈ numbers,
      (result number).isDatum = true ∨ (result number).isNull = true) :
    engine.Maps closure (numbers.map .number) (onNumbers result) where
  data := List.forall_mem_map.mpr fun _ _ => rfl
  applies := List.forall_mem_map.mpr applies
  settled := List.forall_mem_map.mpr settled

end Engine

end Reduct
