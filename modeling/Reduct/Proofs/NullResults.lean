import Reduct.Proofs.ListFunctions
/-! This file follows the null results of a predicate. They are dropped before the results are
paired with the elements, so that each later result counts for an earlier element. -/

namespace Reduct

/-- A verdict as a node: null when there is none. -/
def Node.ofVerdict : Option Bool → Node
  | some verdict => .bool verdict
  | none => .null

namespace Standard

variable (verdict : Float → Option Bool)

/-- The numbers that stand where the verdicts that are left say true. -/
def shifted (numbers : List Float) (verdicts : List Bool) : List Float :=
  ((numbers.zip verdicts).filter (·.2)).map (·.1)

/-- What a filter joins when null results are gone. -/
theorem select_verdicts (numbers : List Float) :
    select true (numbers.map .number)
        ((numbers.map fun number => Node.ofVerdict (verdict number)).filter (!·.isNull)) =
      (shifted numbers (numbers.filterMap verdict)).map .number := by
  have left : (numbers.map fun number => Node.ofVerdict (verdict number)).filter (!·.isNull) =
      (numbers.filterMap verdict).map .bool := by
    induction numbers with
    | nil => rfl
    | cons number rest inductionHypothesis =>
        cases given : verdict number with
        | none =>
            rw [List.filterMap_cons_none given, List.map_cons, given]
            exact inductionHypothesis
        | some answer =>
            rw [List.filterMap_cons_some given, List.map_cons, given]
            exact congrArg (_ :: ·) inductionHypothesis
  rw [left, select, shifted, List.zip_map, List.filter_map, List.map_map, List.map_map]
  simp [Function.comp_def, Node.truthy]

@[simp] theorem shifted_cons (number : Float) (numbers : List Float) (answer : Bool)
    (verdicts : List Bool) :
    shifted (number :: numbers) (answer :: verdicts) =
      if answer then number :: shifted numbers verdicts else shifted numbers verdicts := by
  cases answer <;> rfl

/-- Verdicts that come too early choose the right numbers only when none of them is true. -/
theorem shifted_waiting_iff (waiting numbers : List Float) (filled : waiting ≠ [])
    (untrue : ∀ number ∈ waiting, verdict number ≠ some true) :
    shifted (waiting ++ numbers) (numbers.filterMap verdict) =
        numbers.filter (fun number => verdict number == some true) ↔
      ∀ number ∈ numbers, verdict number ≠ some true := by
  induction numbers generalizing waiting with
  | nil => simp [shifted]
  | cons number rest inductionHypothesis =>
      obtain ⟨first, others, rfl⟩ := List.exists_cons_of_ne_nil filled
      rw [List.forall_mem_cons] at untrue
      -- A number that is not true waits with the others.
      have joined (before : List Float) (still : ∀ other ∈ before, verdict other ≠ some true)
          (given : verdict number ≠ some true) :
          shifted (before ++ number :: rest) (rest.filterMap verdict) =
              rest.filter (fun number => verdict number == some true) ↔
            ∀ number ∈ rest, verdict number ≠ some true := by
        rw [List.append_cons]
        refine inductionHypothesis (before ++ [number]) (by simp) ?_
        rintro other member
        rcases List.mem_append.mp member with earlier | last
        · exact still other earlier
        · rwa [List.mem_singleton.mp last]
      rcases given : verdict number with _ | _ | _
      · rw [List.filterMap_cons_none given, List.filter_cons_of_neg (by simp [given]),
          joined _ (List.forall_mem_cons.mpr untrue) (by simp [given])]
        simp [given]
      · rw [List.filterMap_cons_some given, List.filter_cons_of_neg (by simp [given]),
          List.cons_append, shifted_cons, if_neg Bool.false_ne_true,
          joined others untrue.2 (by simp [given])]
        simp [given]
      · rw [List.filterMap_cons_some given, List.filter_cons_of_pos (by simp [given]),
          List.cons_append, shifted_cons, if_pos rfl]
        refine iff_of_false (fun same => untrue.1 ?_) (fun none => none number (.head rest) given)
        rw [(List.cons.inj same).1, given]

/-- The verdicts that are left choose the right numbers exactly when no number without a verdict
stands before a true one. -/
theorem shifted_iff (numbers : List Float) :
    shifted numbers (numbers.filterMap verdict) =
        numbers.filter (fun number => verdict number == some true) ↔
      numbers.Pairwise fun earlier later => verdict earlier = none → verdict later ≠ some true := by
  induction numbers with
  | nil => simp [shifted]
  | cons number rest inductionHypothesis =>
      rw [List.pairwise_cons]
      rcases given : verdict number with _ | _ | _
      · have alone := shifted_waiting_iff verdict [number] rest (by simp) (by simp [given])
        rw [List.filterMap_cons_none given, List.filter_cons_of_neg (by simp [given])]
        refine alone.trans ⟨fun untrue => ⟨fun later member _ => untrue later member, ?_⟩,
          fun apart later member => apart.1 later member rfl⟩
        exact List.pairwise_of_forall_mem_list fun _ _ later member _ => untrue later member
      · rw [List.filterMap_cons_some given, List.filter_cons_of_neg (by simp [given]), shifted_cons,
          if_neg Bool.false_ne_true, inductionHypothesis]
        simp
      · rw [List.filterMap_cons_some given, List.filter_cons_of_pos (by simp [given]), shifted_cons,
          if_pos rfl, List.cons_inj_right, inductionHypothesis]
        simp

end Standard

namespace Session

open Standard

variable {session : Session} {numbers : List Float}

/-- A filter whose charges are paid keeps the numbers at the places of the verdicts that are
left. -/
theorem run_filter_verdicts (inputs : Inputs) {closure : String} (verdict : Float → Option Bool)
    (noArguments : inputs.argv = []) (extended : session.engine.library.ExtendsStandard)
    (applies : ∀ number ∈ numbers,
      session.engine.Applies closure [.number number] (.ofVerdict (verdict number)))
    (payable : Payable (session.engine.mappingAmounts closure numbers.length)) {limit : Nat}
    (enough : 4 ≤ limit) :
    ((session.withBalance none).run inputs limit
        (mapping "list.filter" (numbers.map .number) closure)).1 =
      .ok (some (.list ((shifted numbers (numbers.filterMap verdict)).map .number))) := by
  have maps := Engine.maps_numbers applies fun number _ => by
    cases verdict number
    · exact .inr rfl
    · exact .inl rfl
  have answers (program : Node) : session.engine.settle program (.quotedList (select true
      (numbers.map .number)
      (((numbers.map .number).map (Engine.onNumbers fun number =>
        .ofVerdict (verdict number))).filter (!·.isNull)))) =
      pure (.done (.list ((shifted numbers (numbers.filterMap verdict)).map .number))) := by
    rw [Engine.map_onNumbers, select_verdicts]
    rfl
  have completes :=
    Engine.completes_mapping noArguments extended isMapper_listMappers.2.1 maps answers
  rw [List.length_map] at completes
  rw [(run_completes completes payable limit).1, if_neg]
  split <;> omega

/-- A predicate and the one that says false in place of null filter the same numbers exactly when
no number without a verdict stands before a true one. -/
theorem filter_null_as_false_iff (session : Session) (inputs : Inputs) (numbers : List Float)
    (predicate settled : String) (verdict : Float → Option Bool) (noArguments : inputs.argv = [])
    (extended : session.engine.library.ExtendsStandard)
    (applies : ∀ number ∈ numbers,
      session.engine.Applies predicate [.number number] (.ofVerdict (verdict number)))
    (settles : ∀ number ∈ numbers,
      session.engine.Applies settled [.number number] (.bool ((verdict number).getD false)))
    (payable : Payable (session.engine.mappingAmounts predicate numbers.length))
    (settledPayable : Payable (session.engine.mappingAmounts settled numbers.length))
    (limit : Nat) (enough : 4 ≤ limit) :
    ((session.withBalance none).run inputs limit
        (mapping "list.filter" (numbers.map .number) predicate)).1 =
      .ok (some (.list ((shifted numbers (numbers.filterMap verdict)).map .number))) ∧
    ((session.withBalance none).run inputs limit
        (mapping "list.filter" (numbers.map .number) settled)).1 =
      .ok (some (.list ((numbers.filter fun number => verdict number == some true).map .number))) ∧
    (((session.withBalance none).run inputs limit
        (mapping "list.filter" (numbers.map .number) predicate)).1 =
      ((session.withBalance none).run inputs limit
        (mapping "list.filter" (numbers.map .number) settled)).1 ↔
      numbers.Pairwise fun earlier later =>
        verdict earlier = none → verdict later ≠ some true) := by
  have first := run_filter_verdicts inputs verdict noArguments extended applies payable enough
  have second := run_filter_verdicts inputs (fun number => some ((verdict number).getD false))
    noArguments extended settles settledPayable enough
  have decided := (shifted_iff (fun number => some ((verdict number).getD false)) numbers).mpr
    (List.pairwise_of_forall fun _ _ none => nomatch none)
  have same : (fun number => some ((verdict number).getD false) == some true) =
      fun number => verdict number == some true := by
    funext number
    rcases verdict number with _ | _ | _ <;> rfl
  rw [decided, same] at second
  refine ⟨first, second, ?_⟩
  rw [first, second, ← shifted_iff verdict numbers]
  constructor
  · intro equal
    injection equal with equal
    injection equal with equal
    injection equal with equal
    exact List.map_injective_iff.mpr (fun _ _ => Node.number.inj) equal
  · intro equal
    rw [equal]

/-- A predicate that is true except at zero, where it has no verdict. -/
def unlessZero (number : Float) : Option Bool :=
  if number == 0.0 then none else some true

/-- That predicate under the name `p`, and the one that says false in place of null under the name
`q`. -/
def verdictBindings : List Binding :=
  [ .function "p" ⟨none, false, fun _ arguments =>
      pure (.ofVerdict (unlessZero (argument arguments 0).toNumber))⟩,
    .function "q" ⟨none, false, fun _ arguments =>
      pure (.bool ((unlessZero (argument arguments 0).toNumber).getD false))⟩ ]

def judging : Session :=
  .start (table.bindAll verdictBindings).1.toLibrary {} .empty 0 0

theorem extendsStandard_judging : judging.engine.library.ExtendsStandard := by
  refine ⟨verdictBindings, fun binding member => hasFunction_table ?_, rfl⟩
  revert binding
  decide +kernel

theorem offers_judging {name : String} {function : Function}
    (member : .function name function ∈ verdictBindings) :
    judging.engine.library.Offers name function :=
  offers_added (by decide) (by decide) member

theorem applies_predicate (number : Float) :
    judging.engine.Applies "p" [.number number] (.ofVerdict (unlessZero number)) :=
  Engine.applies_of_offers (offers_judging (.head _)) (by decide) rfl rfl fun _ _ => rfl

theorem applies_settled (number : Float) :
    judging.engine.Applies "q" [.number number] (.bool ((unlessZero number).getD false)) :=
  Engine.applies_of_offers (offers_judging (.tail _ (.head _))) (by decide) rfl rfl fun _ _ => rfl

theorem payable_judging {name : String} {function : Function}
    (member : .function name function ∈ verdictBindings) :
    Payable (judging.engine.mappingAmounts name 2) := by
  rw [Engine.mappingAmounts, Engine.priceCharges_offered (offers_judging member)]
  unfold Payable
  decide +kernel

/-- Both predicates keep one of two numbers when null comes last. -/
theorem filter_null_last :
    ((judging.withBalance none).run ⟨[], none⟩ 4
        (mapping "list.filter" ([1.0, 0.0].map .number) "p")).1 =
      ((judging.withBalance none).run ⟨[], none⟩ 4
        (mapping "list.filter" ([1.0, 0.0].map .number) "q")).1 := by
  have law := filter_null_as_false_iff judging ⟨[], none⟩ [1.0, 0.0] "p" "q" unlessZero rfl
    extendsStandard_judging (fun number _ => applies_predicate number)
    (fun number _ => applies_settled number) (payable_judging (.head _))
    (payable_judging (.tail _ (.head _))) 4 (le_refl 4)
  refine law.2.2.mpr ?_
  decide +kernel

/-- A null result that comes first makes the filter keep the number that it stands for. -/
theorem filter_null_first :
    ((judging.withBalance none).run ⟨[], none⟩ 4
        (mapping "list.filter" ([0.0, 1.0].map .number) "p")).1 =
      .ok (some (.list [.number 0.0])) ∧
    ((judging.withBalance none).run ⟨[], none⟩ 4
        (mapping "list.filter" ([0.0, 1.0].map .number) "q")).1 =
      .ok (some (.list [.number 1.0])) := by
  have zero : unlessZero 0.0 = none := by decide +kernel
  have one : unlessZero 1.0 = some true := by decide +kernel
  have first := run_filter_verdicts ⟨[], none⟩ unlessZero rfl extendsStandard_judging
    (fun number (_ : number ∈ [0.0, 1.0]) => applies_predicate number) (payable_judging (.head _))
    (le_refl 4)
  have second := run_filter_verdicts ⟨[], none⟩
    (fun number => some ((unlessZero number).getD false)) rfl extendsStandard_judging
    (fun number (_ : number ∈ [0.0, 1.0]) => applies_settled number)
    (payable_judging (.tail _ (.head _))) (le_refl 4)
  simp only [List.filterMap_cons, List.filterMap_nil, zero, one] at first second
  exact ⟨first, second⟩

end Session

end Reduct
