import Reduct.Proofs.Steps
/-! This file shows in which order a sequence performs its steps. It nests the steps into a chain of
identities, and one pass calls them all from the outside in: the last step comes first. The passes
after it collapse the chain to the value of the last step, or of the one before it when that is
null. -/

namespace Reduct

namespace Standard

def sequenceOf (steps : List Step) : Node :=
  .list (.string "sequence" :: steps.map fun step => .quote step.toNode)

/-- A chain of identities around some core, of which the first is outermost. -/
def chain (core : List Node) : List Node → List Node
  | [] => core
  | node :: rest => [.list (.string "identity" :: node :: chain core rest)]

/-- The value that stays of the values in a chain. -/
def kept : List Node → Node
  | [] => .null
  | [value] => value
  | value :: next :: _ => if value.isNull then next else value

theorem weights_chain (core nodes : List Node) :
    Node.weights (chain core nodes) =
      Node.weights core + 3 * nodes.length + Node.weights nodes := by
  induction nodes with
  | nil => simp [chain, Node.weights]
  | cons node rest inductionHypothesis =>
      simp only [chain, Node.weights, Node.weight, List.length_cons, inductionHypothesis]
      omega

/-- A sequence nests its steps from the last one. -/
theorem chain_reverse (first : Node) (later : List Node) :
    chain [] (first :: later).reverse = [sequence (first :: later)] := by
  induction later using List.reverseRecOn with
  | nil => rfl
  | append_singleton earlier last inductionHypothesis =>
      rw [← List.cons_append, List.reverse_concat, chain, inductionHypothesis]
      simp only [List.cons_append, sequence, List.foldl_append, List.foldl_cons, List.foldl_nil]

/-- A chain inside of an identity that has some items before it. -/
def linked (top core nodes : List Node) : Node :=
  .list (.string "identity" :: (top ++ chain core nodes))

/-- An identity that waits for the chain behind some plain items. -/
def linkAround (top : List Node) (plain : ∀ item ∈ top, item.isPlain = true) : Enclosure where
  name := "identity"
  before := top
  after := []
  unquoted := by decide
  plainBefore item member := Node.isList_of_isPlain (plain item member)
  plainAfter := Enclosure.unlisted_nil

/-- What is left behind the top of a chain when it has collapsed. -/
def remains (core : List Node) : List Node → List Node
  | [] => core
  | node :: _ => [node]

theorem weight_linked (top core nodes : List Node) :
    (linked top core nodes).weight =
      3 + Node.weights top + Node.weights core + 3 * nodes.length + Node.weights nodes := by
  rw [linked, Node.weight, Node.weights, Node.weights_append, weights_chain, Node.weight]
  omega

/-- A chain of plain values is lighter than the chain of the steps that have them. -/
theorem weight_linked_lt (last : Step) (earlier : List Step) {value : Node} {rest : List Node}
    (counted : (value :: rest).length = (last :: earlier).length)
    (plain : ∀ item ∈ value :: rest, item.isPlain = true) :
    (linked [value] [] rest).weight <
      (linked [last.toNode] [] (earlier.map Step.toNode)).weight := by
  obtain ⟨ready, others⟩ := List.forall_mem_cons.mp plain
  have light : Node.weights rest = rest.length := by
    rw [Node.weights_eq_sum, List.map_congr_left fun item member =>
      Node.weight_of_isPlain (others item member), List.map_const', List.sum_replicate]
    simp
  have heavy : earlier.length ≤ Node.weights (earlier.map Step.toNode) := by
    rw [Node.weights_eq_sum, List.map_map]
    refine (List.length_map _).symm.trans_le (List.length_le_sum_of_one_le _ ?_)
    intro weight member
    obtain ⟨step, -, rfl⟩ := List.mem_map.mp member
    exact step.toNode.weight_pos
  have one := Node.weight_of_isPlain ready
  have three := last.weight_toNode
  rw [List.length_cons, List.length_cons] at counted
  rw [weight_linked, weight_linked, light, List.length_map]
  simp only [Node.weights]
  omega

/-- A null last item makes no difference to the first one. -/
theorem argument_filter_append (top : List Node) (last : Node) :
    argument (top ++ [last].filter (!·.isNull)) 0 = argument (top ++ [last]) 0 := by
  cases top with
  | cons item rest => rfl
  | nil => cases last <;> rfl

/-- A chain that loses its nulls is a chain with the same first item in the end. -/
theorem exists_compacted_linked {top : List Node} {last : Node} (plain : last.isPlain = true)
    (full : ∀ item ∈ top, item.isNull = false) (nodes : List Node) :
    ∃ core, (∀ item ∈ core, item.isPlain = true) ∧
      Engine.compacted (.string "identity" :: (top ++ chain [last] nodes)) =
        linked top core nodes ∧
      ∀ other, argument (top ++ remains core nodes) 0 =
        argument (top ++ remains other (nodes ++ [last])) 0 := by
  have kept : top.filter (!·.isNull) = top := by
    rw [List.filter_eq_self]
    intro item member
    rw [full item member]
    rfl
  cases nodes with
  | nil =>
      refine ⟨[last].filter (!·.isNull), fun item member => ?_, ?_, fun _ => ?_⟩
      · obtain rfl := List.mem_singleton.mp (List.mem_of_mem_filter member)
        exact plain
      · rw [Engine.compacted, List.filter_cons_of_pos (by rfl), List.filter_append, kept]
        rfl
      · exact argument_filter_append top last
  | cons node rest =>
      refine ⟨[last], List.forall_mem_singleton.mpr plain, ?_, fun _ => rfl⟩
      rw [Engine.compacted, List.filter_cons_of_pos (by rfl), List.filter_append, kept]
      rfl

/-- The first item of a chain without a null top is the value that stays. -/
theorem argument_eq_kept (value : Node) (values : List Node) :
    argument ([value].filter (!·.isNull) ++ remains [] values) 0 = kept (value :: values) := by
  cases values with
  | nil => cases value <;> rfl
  | cons next rest => cases value <;> rfl

/-- A chain behind a null loses the null and nothing else. -/
theorem compacted_linked (node : Node) (nodes : List Node) :
    Engine.compacted (.string "identity" :: node :: chain [] nodes) =
      linked ([node].filter (!·.isNull)) [] nodes := by
  have links : (chain [] nodes).filter (!·.isNull) = chain [] nodes := by cases nodes <;> rfl
  have split : (node :: chain [] nodes).filter (!·.isNull) =
      [node].filter (!·.isNull) ++ chain [] nodes := by
    rw [← List.singleton_append, List.filter_append, links]
  rw [Engine.compacted, List.filter_cons_of_pos (by rfl), split, linked]

theorem isPlain_argument {items : List Node} (plain : ∀ item ∈ items, item.isPlain = true) :
    (argument items 0).isPlain = true := by
  cases items with
  | nil => rfl
  | cons item rest => exact plain item (.head rest)

theorem mem_bindings_sequence : yields "sequence" .any sequence ∈ bindings := by
  simp only [bindings, control, List.mem_append, List.mem_cons, true_or, or_true]

theorem mem_bindings_identity :
    yields "identity" .any (fun arguments => argument arguments 0) ∈ bindings := by
  simp only [bindings, control, List.mem_append, List.mem_cons, true_or, or_true]

end Standard

namespace Engine

open Deed Watched Standard

def sequenceAmounts (engine : Engine) (steps : List Step) : List Float :=
  [engine.settings.invokeAmount] ++ ([engine.settings.sequenceAmount * Float.ofNat 2] ++
    ((if steps.length ≤ 1 then [] else [engine.settings.sequenceAmount * Float.ofNat 3]) ++
      steps.flatMap fun step => engine.priceCharges .global step.name))

variable {engine : Engine} {inputs : Inputs}

theorem settle_plain {value : Node} (plain : value.isPlain = true) (program : Node) :
    engine.settle program value = pure (.done value) := by
  cases value with
  | string | list | quote => cases plain
  | _ => rfl

/-- Items have results, whether or not these are errors. -/
theorem exists_watchItems_eq (engine : Engine) (inputs : Inputs) (scope : Scope)
    (items : List Node) (state : State) :
    ∃ results after log,
      engine.watchItems inputs scope items state = ⟨.ok results, after, log⟩ := by
  induction items generalizing state with
  | nil => exact ⟨[], state, [], engine.watchItems_nil inputs scope state⟩
  | cons item rest inductionHypothesis =>
      obtain ⟨results, after, log, equal⟩ :=
        inductionHypothesis (engine.watchBranch inputs scope item state).state
      rw [watchItems_cons]
      dsimp only
      rw [equal]
      exact ⟨_, _, _, rfl⟩

theorem watchItems_singleton (engine : Engine) (inputs : Inputs) (scope : Scope) (node : Node)
    (state : State) :
    engine.watchItems inputs scope [node] state =
      let reduced := engine.watchBranch inputs scope node state
      ⟨.ok [reduced.result], reduced.state, reduced.log⟩ := by
  rw [watchItems_cons]
  dsimp only
  rw [watchItems_nil, List.append_nil]
  rfl

/-- A pass over a link reduces its node first and then the links inside of it. -/
theorem watchItems_chain_cons (extended : engine.library.ExtendsStandard) (inputs : Inputs)
    {node : Node} (unready : node.isValue = false) (core rest : List Node)
    (payable : Payable [engine.settings.sequenceAmount *
      Float.ofNat ((chain core rest).length + 2)]) (state : State) :
    ∃ (charges : List Deed) (entered : State) (results : List (Except Error Node)),
      invocations charges = [] ∧ entered.world.storage = state.world.storage ∧
        let first := engine.watchBranch inputs .global node (entered.holding endless)
        let others := engine.watchItems inputs .global (chain core rest) first.state
        others.result = .ok results ∧
          engine.watchItems inputs .global (chain core (node :: rest)) (state.holding endless) =
            ⟨.ok [(gather (.ok (.string "identity") :: first.result :: results)).map
              sequenceResult], others.state, charges ++ (first.log ++ others.log)⟩ := by
  let items := .string "identity" :: node :: chain core rest
  have shape : Node.shape items = .sequence := Node.shape_sequence (by decide) (.head _) unready
  have closed : engine.library.innerScope .global items = .global :=
    innerScope_closed (offers_of_mem extended mem_bindings_identity).closed _
  obtain ⟨charges, free, reduces⟩ := watchBranch_sequence inputs shape closed payable state
  let entered := engine.entered .global items state
  let first := engine.watchBranch inputs .global node (entered.holding endless)
  obtain ⟨results, after, log, reduced⟩ :=
    engine.exists_watchItems_eq inputs .global (chain core rest) first.state
  refine ⟨charges, entered, results, free, (still_entered .global items state).memory.storage,
    congrArg Outcome.result reduced, ?_⟩
  have inside : engine.watchItems inputs .global (node :: chain core rest)
      (entered.holding endless) = ⟨.ok (first.result :: results), after, first.log ++ log⟩ := by
    rw [watchItems_cons]
    dsimp only
    rw [reduced]
    rfl
  have led : ∀ item ∈ [Node.string "identity"], item.isList = false :=
    List.forall_mem_singleton.mpr rfl
  have gathered : engine.watchItems inputs .global items (entered.holding endless) = _ :=
    watchItems_plain_append led inside
  rw [chain, watchItems_singleton, reduces _ _ _ gathered]
  dsimp only
  rw [reduced]
  rfl

/-- One pass over a chain of steps performs them from the outside in. -/
theorem performs_chain (extended : engine.library.ExtendsStandard) (inputs : Inputs)
    (steps : List Step) (admitted : engine.AdmitsAll steps)
    (two : Payable [engine.settings.sequenceAmount * Float.ofNat 2])
    (three : 1 < steps.length → Payable [engine.settings.sequenceAmount * Float.ofNat 3])
    (each : ∀ step ∈ steps, Payable (engine.charges .global step.toNode)) (state : State)
    (answered : engine.AnswersAll steps (engine.watchItems inputs .global
      (chain [] (steps.map Step.toNode)) (state.holding endless)).log) :
    ∃ (values : List Node) (after : State) (log : List Deed),
      engine.watchItems inputs .global (chain [] (steps.map Step.toNode)) (state.holding endless) =
          ⟨.ok ((chain [] values).map .ok), after.holding endless, log⟩ ∧
        engine.Performs state.world.storage steps (invoking log) values after.world.storage ∧
        ∀ value ∈ values, value.isPlain = true := by
  induction steps generalizing state with
  | nil => exact ⟨[], state, [], engine.watchItems_nil inputs .global _, .nil _, nofun⟩
  | cons step rest inductionHypothesis =>
      obtain ⟨⟨function, admits⟩, others⟩ := List.forall_mem_cons.mp admitted
      obtain ⟨payable, further⟩ := List.forall_mem_cons.mp each
      have sequence : Payable [engine.settings.sequenceAmount *
          Float.ofNat ((chain [] (rest.map Step.toNode)).length + 2)] := by
        cases rest with
        | nil => exact two
        | cons next later => exact three (by simp)
      have unready : step.toNode.isValue = false := rfl
      obtain ⟨charges, entered, results, free, kept, inner, reduces⟩ :=
        watchItems_chain_cons extended inputs unready [] (rest.map Step.toNode) sequence state
      rw [List.map_cons] at answered ⊢
      rw [reduces] at answered ⊢
      obtain ⟨paid, deed, unpaid, calls, storage, logged, answers⟩ :=
        watchBranch_step admits inputs payable entered
      obtain ⟨value, world, answer, plain⟩ := answered deed
        (by simp [logged]) step (.head rest) calls
      obtain ⟨middle, rfl, called⟩ := answers value world answer
      rw [called] at answered inner ⊢
      obtain ⟨values, after, log, reduced, performs, plains⟩ := inductionHypothesis others
        (fun many => three (by rw [List.length_cons]; omega)) further middle
        (answered.mono (List.subset_cons_self _ _)
          (fun _ member => List.mem_append_right _ (List.mem_append_right _ member)))
      rw [reduced] at inner ⊢
      obtain rfl := Except.ok.inj inner
      have gathered : gather (.ok (.string "identity") :: .ok value :: (chain [] values).map .ok) =
          .ok (.string "identity" :: value :: chain [] values) :=
        gather_map_ok (.string "identity" :: value :: chain [] values)
      dsimp only
      rw [gathered]
      refine ⟨value :: values, after, _, rfl, ?_, List.forall_mem_cons.mpr ⟨plain, plains⟩⟩
      rw [invoking_append, invoking_append, invoking_append, invoking_of_nil free,
        invoking_of_nil unpaid, calls.invoking, ← kept, ← storage]
      exact .cons calls answer performs

section

variable (extended : engine.library.ExtendsStandard)

include extended

theorem closes_linkAround {top : List Node} (plain : ∀ item ∈ top, item.isPlain = true) :
    engine.Closes (linkAround top plain) :=
  (offers_of_mem extended mem_bindings_identity).closed

/-- An identity of plain items is the first of them. -/
theorem rewrites_identity {items : List Node} (plain : ∀ item ∈ items, item.isPlain = true) :
    engine.Rewrites inputs ["identity"] (.list (.string "identity" :: items))
      (argument items 0) := by
  refine rewrites_computes extended mem_bindings_identity (by simp) (by decide)
    (fun item member => Node.isValue_of_isPlain (plain item member)) ?_ rfl rfl
  rw [arguments, List.drop_one, List.tail_cons]
  exact (List.map_congr_left fun item member =>
    Node.valueOf_of_isPlain (plain item member) _ _).trans (List.map_id items)

theorem charges_identity {items : List Node} (plain : ∀ item ∈ items, item.isPlain = true) :
    engine.charges .global (.list (.string "identity" :: items)) =
      [engine.settings.invokeAmount] := by
  rw [charges_call (Node.shape_call (by decide) fun item member =>
      Node.isValue_of_isPlain (plain item member)),
    priceCharges_offered (offers_of_mem extended mem_bindings_identity)]

/-- A pass over a chain of values takes its innermost link away. -/
theorem rewrites_linked {top core nodes : List Node} {last : Node}
    (plainTop : ∀ item ∈ top, item.isPlain = true)
    (plainCore : ∀ item ∈ last :: core, item.isPlain = true)
    (plain : ∀ node ∈ nodes, node.isPlain = true) :
    engine.Rewrites inputs ["identity"] (linked top core (nodes ++ [last]))
      (linked top [last] nodes) := by
  induction nodes generalizing top with
  | nil =>
      have identity : engine.Rewrites inputs ["identity"]
          (.list (.string "identity" :: last :: core)) last :=
        rewrites_identity extended plainCore
      exact identity.around (closes_linkAround extended plainTop) rfl
  | cons node rest inductionHypothesis =>
      obtain ⟨first, others⟩ := List.forall_mem_cons.mp plain
      exact (inductionHypothesis (List.forall_mem_singleton.mpr first) others).around
        (closes_linkAround extended plainTop) rfl

/-- The pass is charged for its links and for one call. -/
theorem payable_linked (invoke : Payable [engine.settings.invokeAmount])
    (two : Payable [engine.settings.sequenceAmount * Float.ofNat 2])
    (three : Payable [engine.settings.sequenceAmount * Float.ofNat 3])
    {top core nodes : List Node} {last : Node} (short : top.length ≤ 1)
    (plainTop : ∀ item ∈ top, item.isPlain = true)
    (plainCore : ∀ item ∈ last :: core, item.isPlain = true)
    (plain : ∀ node ∈ nodes, node.isPlain = true) :
    Payable (engine.charges .global (linked top core (nodes ++ [last]))) := by
  have size {top : List Node} (short : top.length ≤ 1)
      (plainTop : ∀ item ∈ top, item.isPlain = true) :
      Payable [engine.settings.sequenceAmount * Float.ofNat (linkAround top plainTop).size] := by
    have counted : (linkAround top plainTop).size = top.length + 2 := rfl
    rw [counted]
    rcases Nat.le_one_iff_eq_zero_or_eq_one.mp short with none | one
    · rw [none]
      exact two
    · rw [one]
      exact three
  induction nodes generalizing top with
  | nil =>
      have around : engine.charges .global ((linkAround top plainTop).around
          (.list (.string "identity" :: last :: core))) = _ :=
        charges_around (closes_linkAround extended plainTop) rfl
      rw [charges_identity extended plainCore] at around
      exact around ▸ (payable_cons _ _).mpr ⟨size short plainTop, invoke⟩
  | cons node rest inductionHypothesis =>
      obtain ⟨first, others⟩ := List.forall_mem_cons.mp plain
      have around : engine.charges .global ((linkAround top plainTop).around
          (linked [node] core (rest ++ [last]))) = _ :=
        charges_around (closes_linkAround extended plainTop) rfl
      exact around ▸ (payable_cons _ _).mpr ⟨size short plainTop,
        inductionHypothesis (le_refl 1) (List.forall_mem_singleton.mpr first) others⟩

/-- The passes over a chain of values collapse it and leave the store as it is. -/
theorem watchRounds_linked (noArguments : inputs.argv = [])
    (invoke : Payable [engine.settings.invokeAmount])
    (two : Payable [engine.settings.sequenceAmount * Float.ofNat 2]) {top core nodes : List Node}
    (three : nodes ≠ [] → Payable [engine.settings.sequenceAmount * Float.ofNat 3])
    (short : top.length ≤ 1) (plainTop : ∀ item ∈ top, item.isPlain = true)
    (full : ∀ item ∈ top, item.isNull = false)
    (plainCore : ∀ item ∈ core, item.isPlain = true)
    (plain : ∀ node ∈ nodes, node.isPlain = true) (spare : Nat) (first : Bool) (state : State) :
    ∃ (after : State) (log : List Deed),
      engine.watchRounds inputs (spare + nodes.length + 1) first (linked top core nodes)
          (state.holding endless) =
        ⟨.ok (some (argument (top ++ remains core nodes) 0)), after, log⟩ ∧
      InvokesOnly ["identity"] log ∧ after.world.storage = state.world.storage := by
  induction nodes using List.reverseRecOn generalizing core first state with
  | nil =>
      have items : ∀ item ∈ top ++ core, item.isPlain = true :=
        List.forall_mem_append.mpr ⟨plainTop, plainCore⟩
      obtain ⟨after, log, branched, only, storage⟩ := rewrites_identity extended items
        (by rwa [charges_identity extended items]) state
      have settles : engine.settle (linked top core []) (argument (top ++ core) 0) =
          pure (.done (argument (top ++ core) 0)) := settle_plain (isPlain_argument items) _
      exact ⟨_, log, watchRounds_done noArguments branched settles spare, only, storage⟩
  | append_singleton nodes last inductionHypothesis =>
      obtain ⟨others, ready⟩ := List.forall_mem_append.mp plain
      have plainLast : last.isPlain = true := ready last (.head [])
      have inner : ∀ item ∈ last :: core, item.isPlain = true :=
        List.forall_mem_cons.mpr ⟨plainLast, plainCore⟩
      have triple := three (by simp)
      have rewrites : engine.Rewrites inputs ["identity"] (linked top core (nodes ++ [last]))
          (linked top [last] nodes) := rewrites_linked extended plainTop inner others
      obtain ⟨middle, log, branched, only, storage⟩ := rewrites
        (payable_linked extended invoke two triple short plainTop inner others) state
      obtain ⟨next, plainNext, compact, same⟩ :=
        exists_compacted_linked plainLast full nodes
      have lighter : (linked top [last] nodes).weight <
          (linked top core (nodes ++ [last])).weight := by
        rw [weight_linked, weight_linked, List.length_append, Node.weights_append]
        simp only [Node.weights, List.length_singleton]
        omega
      have settles : engine.settle (linked top core (nodes ++ [last])) (linked top [last] nodes) =
          pure (.again (linked top next nodes)) := compact ▸ settle_lighter (by simp) lighter
      obtain ⟨after, later, ran, onlyLater, kept⟩ := inductionHypothesis (fun _ => triple) plainNext
        others false middle
      refine ⟨after, log ++ later, ?_, only.append onlyLater, kept.trans storage⟩
      have passes : spare + (nodes ++ [last]).length + 1 = spare + nodes.length + 1 + 1 := by
        rw [List.length_append, List.length_singleton]
        omega
      have taken : engine.watchRounds inputs (spare + nodes.length + 1 + 1) first
          (linked top core (nodes ++ [last])) (state.holding endless) = _ :=
        watchRounds_again noArguments branched settles (spare + nodes.length + 1)
      rw [passes, taken, ran, same core]

/-- The first pass of a sequence leaves the chain of its steps, the last one outermost. -/
theorem rewrites_sequence {steps earlier : List Step} {last : Step}
    (reversed : steps.reverse = last :: earlier) :
    engine.Rewrites inputs ["sequence"] (sequenceOf steps)
      (linked [last.toNode] [] (earlier.map Step.toNode)) := by
  have given : engine.arguments .global
      (.string "sequence" :: steps.map fun step => .quote step.toNode) =
        steps.map Step.toNode := by
    rw [arguments, List.drop_one, List.tail_cons, List.map_map]
    rfl
  have nested : sequence (steps.map Step.toNode) =
      linked [last.toNode] [] (earlier.map Step.toNode) := by
    obtain ⟨first, later, rfl⟩ := List.exists_cons_of_ne_nil
      (l := steps) (by rintro rfl; cases reversed)
    have chained := chain_reverse first.toNode (later.map Step.toNode)
    rw [← List.map_cons, ← List.map_reverse, reversed] at chained
    injection chained with chained
    exact chained.symm
  rw [← nested]
  refine rewrites_computes extended mem_bindings_sequence (by simp) (by decide) ?_ given rfl rfl
  simp [Node.isValue]

theorem charges_sequence (steps : List Step) :
    engine.charges .global (sequenceOf steps) = [engine.settings.invokeAmount] := by
  rw [sequenceOf, charges_call (Node.shape_call (by decide) ?_),
    priceCharges_offered (offers_of_mem extended mem_bindings_sequence)]
  simp [Node.isValue]

/-- The rounds of a chain of steps perform them from the outside in, and then collapse the chain of
their values. -/
theorem performs_linked (noArguments : inputs.argv = []) {last : Step} {earlier : List Step}
    (admitted : engine.AdmitsAll (last :: earlier))
    (invoke : Payable [engine.settings.invokeAmount])
    (two : Payable [engine.settings.sequenceAmount * Float.ofNat 2])
    (three : earlier ≠ [] → Payable [engine.settings.sequenceAmount * Float.ofNat 3])
    (each : ∀ step ∈ last :: earlier, Payable (engine.charges .global step.toNode)) (spare : Nat)
    (first : Bool) (state : State)
    (answered : engine.AnswersAll (last :: earlier) (engine.watchRounds inputs
      (spare + earlier.length + 1 + 1) first (linked [last.toNode] [] (earlier.map Step.toNode))
      (state.holding endless)).log) :
    ∃ (values : List Node) (after : State) (called closing : List Deed),
      engine.watchRounds inputs (spare + earlier.length + 1 + 1) first
          (linked [last.toNode] [] (earlier.map Step.toNode)) (state.holding endless) =
        ⟨.ok (some (kept values)), after, called ++ closing⟩ ∧
      InvokesOnly ["identity"] closing ∧
      engine.Performs state.world.storage (last :: earlier) (invoking called) values
        after.world.storage := by
  have single := engine.watchItems_singleton inputs .global
    (linked [last.toNode] [] (earlier.map Step.toNode)) (state.holding endless)
  have earliest : engine.AnswersAll (last :: earlier) (engine.watchItems inputs .global
      (chain [] ((last :: earlier).map Step.toNode)) (state.holding endless)).log :=
    answered.mono (List.Subset.refl _) fun deed member =>
      mem_log_watchRounds noArguments (congrArg Outcome.log single ▸ member) _
  obtain ⟨values, middle, called, reduced, performs, plain⟩ := performs_chain extended inputs
    (last :: earlier) admitted two (fun many => three (by rintro rfl; simp at many)) each state
    earliest
  obtain ⟨value, rest, rfl⟩ := List.exists_cons_of_length_eq_add_one performs.length_eq
  have branched : engine.watchBranch inputs .global
      (linked [last.toNode] [] (earlier.map Step.toNode)) (state.holding endless) =
        ⟨.ok (linked [value] [] rest), middle.holding endless, called⟩ := by
    have same := single.symm.trans reduced
    rcases outcome : engine.watchBranch inputs .global
      (linked [last.toNode] [] (earlier.map Step.toNode)) (state.holding endless) with
        ⟨result, after, log⟩
    rw [outcome] at same
    cases same
    rfl
  have settles : engine.settle (linked [last.toNode] [] (earlier.map Step.toNode))
      (linked [value] [] rest) = pure (.again (linked ([value].filter (!·.isNull)) [] rest)) :=
    compacted_linked value rest ▸ settle_lighter (by simp)
      (weight_linked_lt last earlier performs.length_eq plain)
  obtain ⟨ready, others⟩ := List.forall_mem_cons.mp plain
  have top : ∀ item ∈ [value].filter (!·.isNull), item.isPlain = true ∧ item.isNull = false := by
    intro item member
    obtain ⟨inside, full⟩ := List.mem_filter.mp member
    exact ⟨List.mem_singleton.mp inside ▸ ready, by simpa using full⟩
  have counted : rest.length = earlier.length := Nat.succ.inj performs.length_eq
  have triple (filled : rest ≠ []) :
      Payable [engine.settings.sequenceAmount * Float.ofNat 3] :=
    three (by rwa [← List.length_pos_iff, ← counted, List.length_pos_iff])
  have bare : ∀ item ∈ ([] : List Node), item.isPlain = true := nofun
  obtain ⟨after, closing, ran, only, storage⟩ := watchRounds_linked extended noArguments invoke two
    triple (List.length_filter_le _ [value]) (fun item member => (top item member).1)
    (fun item member => (top item member).2) bare others spare false middle
  rw [counted, argument_eq_kept] at ran
  have taken : engine.watchRounds inputs (spare + earlier.length + 1 + 1) first
      (linked [last.toNode] [] (earlier.map Step.toNode)) (state.holding endless) = _ :=
    watchRounds_again noArguments branched settles (spare + earlier.length + 1)
  refine ⟨value :: rest, after, called, closing, ?_, only, storage ▸ performs⟩
  rw [taken, ran]

/-- A sequence performs its steps from the last one to the first, and then collapses to the value
of the last step, or of the one before it when that is null. -/
theorem performs_sequence (noArguments : inputs.argv = []) {steps : List Step}
    (filled : steps ≠ []) (admitted : engine.AdmitsAll steps)
    (payable : Payable (engine.sequenceAmounts steps)) (spare : Nat) (first : Bool) (state : State)
    (answered : engine.AnswersAll steps (engine.watchRounds inputs
      (spare + steps.length + 1 + 1) first (sequenceOf steps) (state.holding endless)).log) :
    ∃ (values : List Node) (after : State) (opening called closing : List Deed),
      engine.watchRounds inputs (spare + steps.length + 1 + 1) first (sequenceOf steps)
          (state.holding endless) =
        ⟨.ok (some (kept values)), after, opening ++ (called ++ closing)⟩ ∧
      InvokesOnly ["sequence"] opening ∧ InvokesOnly ["identity"] closing ∧
      engine.Performs state.world.storage steps.reverse (invoking called) values
        after.world.storage := by
  obtain ⟨last, earlier, reversed⟩ :=
    List.exists_cons_of_ne_nil (List.reverse_ne_nil_iff.mpr filled)
  have counted : steps.length = earlier.length + 1 := by
    rw [← List.length_reverse, reversed, List.length_cons]
  simp only [sequenceAmounts, payable_append] at payable
  obtain ⟨invoke, two, more, prices⟩ := payable
  -- The first pass leaves the chain of the steps.
  have nests : engine.Rewrites inputs ["sequence"] (sequenceOf steps)
      (linked [last.toNode] [] (earlier.map Step.toNode)) := rewrites_sequence extended reversed
  obtain ⟨middle, opening, branched, only, storage⟩ :=
    nests (by rwa [charges_sequence extended]) state
  have settles : engine.settle (sequenceOf steps)
      (linked [last.toNode] [] (earlier.map Step.toNode)) =
        pure (.again (linked [last.toNode] [] (earlier.map Step.toNode))) :=
    (settle_renamed (by decide) _ _).trans
      (congrArg (pure ∘ Settled.again) (compacted_linked last.toNode (earlier.map Step.toNode)))
  have nested : engine.watchRounds inputs (spare + steps.length + 1 + 1) first (sequenceOf steps)
      (state.holding endless) = _ :=
    watchRounds_again noArguments branched settles (spare + steps.length + 1)
  rw [nested] at answered ⊢
  rw [counted] at answered more ⊢
  -- The passes after it perform the steps and collapse the chain.
  have three (filled : earlier ≠ []) :
      Payable [engine.settings.sequenceAmount * Float.ofNat 3] := by
    rwa [if_neg (by simpa using filled)] at more
  have each : ∀ step ∈ last :: earlier, Payable (engine.charges .global step.toNode) := by
    intro step member
    rw [← reversed, List.mem_reverse] at member
    obtain ⟨function, admits⟩ := admitted step member
    rw [Step.toNode, charges_call (Node.shape_call admits.unquoted step.isValue_arguments),
      payable_cons]
    exact ⟨invoke, fun amount charged =>
      prices amount (List.mem_flatMap.mpr ⟨step, member, charged⟩)⟩
  have same : last :: earlier ⊆ steps := by
    rw [← reversed]
    exact fun step member => List.mem_reverse.mp member
  obtain ⟨values, after, called, closing, ran, onlyLater, performs⟩ := performs_linked extended
    noArguments (fun step member => admitted step (same member)) invoke two three each spare false
    middle (answered.mono same (List.subset_append_right _ _))
  refine ⟨values, after, opening, called, closing, ?_, only, onlyLater, ?_⟩
  · rw [← Nat.add_assoc, ran]
  · rw [reversed, ← storage]
    exact performs

end

end Engine

namespace Session

open Deed Standard

/-- A sequence calls each of its steps once, but from the last one to the first, each in the store
that the one after it in the program left. It answers with the value of the last step, unless that
is null and there is a step before it, whose value it has then. -/
theorem sequence_performs_reversed (session : Session) (inputs : Inputs) (steps : List Step)
    (limit : Nat) (filled : steps ≠ []) (noArguments : inputs.argv = [])
    (extended : session.engine.library.ExtendsStandard)
    (admitted : session.engine.AdmitsAll steps)
    (payable : Payable (session.engine.sequenceAmounts steps))
    (enough : steps.length + 2 ≤ limit)
    (answered : session.engine.AnswersAll steps
      ((session.withBalance none).runLog inputs limit (sequenceOf steps))) :
    ∃ (values : List Node) (opening called closing : List Deed),
      ((session.withBalance none).run inputs limit (sequenceOf steps)).1 =
        .ok (some (kept values)) ∧
      (session.withBalance none).runLog inputs limit (sequenceOf steps) =
        opening ++ (called ++ closing) ∧
      InvokesOnly ["sequence"] opening ∧ InvokesOnly ["identity"] closing ∧
      session.engine.Performs session.storage steps.reverse (invoking called) values
        ((session.withBalance none).run inputs limit (sequenceOf steps)).2.storage := by
  obtain ⟨spare, rfl⟩ := Nat.exists_eq_add_of_le' enough
  obtain ⟨result, storage, log⟩ :=
    session.run_unlimited inputs (spare + (steps.length + 2)) (sequenceOf steps)
  rw [log] at answered ⊢
  rw [result, storage]
  have opened : (session.engine.opened (sequenceOf steps) session.state).world.storage =
      session.storage := (Engine.still_opened (sequenceOf steps) session.state).memory.storage
  obtain ⟨values, after, opening, called, closing, ran, only, onlyLater, performs⟩ :=
    Engine.performs_sequence extended noArguments filled admitted payable spare true
      (session.engine.opened (sequenceOf steps) session.state) answered
  refine ⟨values, opening, called, closing, ?_, ?_, only, onlyLater, ?_⟩
  · exact congrArg Outcome.result ran
  · exact congrArg Outcome.log ran
  · rw [← opened]
    exact ran ▸ performs

/-- Of two numbers that a sequence puts into the store, the first one stays there. -/
theorem sequence_puts :
    ((recording.withBalance none).run ⟨[], none⟩ 4
        (sequenceOf [⟨"put", [1.0]⟩, ⟨"put", [2.0]⟩])).1 = .ok (some (.number 2.0)) ∧
      ((recording.withBalance none).run ⟨[], none⟩ 4
        (sequenceOf [⟨"put", [1.0]⟩, ⟨"put", [2.0]⟩])).2.storage =
          ⟨[("last", .number 1.0)]⟩ := by
  have applies : ∀ step ∈ [(⟨"put", [1.0]⟩ : Step), ⟨"put", [2.0]⟩], ∃ value,
      recording.engine.Applies step.name step.arguments value ∧ value.isPlain = true :=
    List.forall_mem_cons.mpr ⟨⟨_, applies_put 1.0, rfl⟩,
      List.forall_mem_singleton.mpr ⟨_, applies_put 2.0, rfl⟩⟩
  have payable : Payable (recording.engine.sequenceAmounts
      [⟨"put", [1.0]⟩, ⟨"put", [2.0]⟩]) := by
    simp only [Engine.sequenceAmounts, List.flatMap_cons, List.flatMap_nil,
      Engine.priceCharges_offered (offers_recording (.head _))]
    unfold Payable
    decide +kernel
  obtain ⟨values, opening, called, closing, ran, -, -, -, performs⟩ :=
    sequence_performs_reversed recording ⟨[], none⟩ [⟨"put", [1.0]⟩, ⟨"put", [2.0]⟩] 4 (by simp) rfl
      extendsStandard_recording (Engine.admitsAll_of_applies applies) payable (le_refl 4)
      (Engine.answersAll_of_applies applies _)
  rw [List.reverse_cons, List.reverse_singleton, List.singleton_append] at performs
  obtain ⟨_, first, _, _, _, -, rfl, two, answers, performs⟩ := performs.exists_of_cons
  obtain ⟨_, second, _, _, _, -, rfl, one, answered, performs⟩ := performs.exists_of_cons
  obtain ⟨-, rfl, stored⟩ := performs.eq_of_nil
  rw [answer?_put two] at answers
  rw [answer?_put one] at answered
  cases answers
  cases answered
  exact ⟨ran, stored⟩

/-- A sequence whose last step is answered with null has the value of the step before it. -/
theorem sequence_passes_null_over :
    ((recording.withBalance none).run ⟨[], none⟩ 4
        (sequenceOf [⟨"put", [1.0]⟩, ⟨"none", []⟩])).1 = .ok (some (.number 1.0)) ∧
      recording.engine.Applies "none" [] .null := by
  have applies : ∀ step ∈ [(⟨"put", [1.0]⟩ : Step), ⟨"none", []⟩], ∃ value,
      recording.engine.Applies step.name step.arguments value ∧ value.isPlain = true :=
    List.forall_mem_cons.mpr ⟨⟨_, applies_put 1.0, rfl⟩,
      List.forall_mem_singleton.mpr ⟨_, applies_none, rfl⟩⟩
  have payable : Payable (recording.engine.sequenceAmounts [⟨"put", [1.0]⟩, ⟨"none", []⟩]) := by
    simp only [Engine.sequenceAmounts, List.flatMap_cons, List.flatMap_nil,
      Engine.priceCharges_offered (offers_recording (.head _)),
      Engine.priceCharges_offered (offers_recording (.tail _ (.head _)))]
    unfold Payable
    decide +kernel
  have noArguments : (⟨[], none⟩ : Inputs).argv = [] := rfl
  obtain ⟨values, after, opening, called, closing, ran, -, -, performs⟩ :=
    Engine.performs_sequence extendsStandard_recording noArguments (by simp)
      (Engine.admitsAll_of_applies applies) payable 0 true
      (recording.engine.opened _ recording.state) (Engine.answersAll_of_applies applies _)
  rw [List.reverse_cons, List.reverse_singleton, List.singleton_append] at performs
  obtain ⟨_, first, _, _, _, -, rfl, none, answers, performs⟩ := performs.exists_of_cons
  obtain ⟨_, second, _, _, _, -, rfl, one, answered, performs⟩ := performs.exists_of_cons
  rw [answer?_none none] at answers
  rw [answer?_put one] at answered
  cases answers
  cases answered
  refine ⟨?_, applies_none⟩
  rw [(run_unlimited _ _ _ _).1]
  exact congrArg Outcome.result ran

end Session

end Reduct
