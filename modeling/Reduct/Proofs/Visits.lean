import Reduct.Proofs.StepCount

namespace Reduct

/-- A list that a pass enters, and the scope in which it is reduced. -/
structure Visit where
  scope : Scope
  items : List Node

namespace Library

variable (library : Library)

mutual

/-- The lists that a pass can enter in a node, from left to right and outer lists first. -/
def visits : Scope → Node → List Visit
  | scope, .list items =>
    ⟨scope, items⟩ ::
      if Node.isOneStep items then [] else itemVisits (library.innerScope scope items) items
  | _, _ => []

def itemVisits : Scope → List Node → List Visit
  | _, [] => []
  | scope, item :: rest => visits scope item ++ itemVisits scope rest

end

theorem itemVisits_eq_flatMap (scope : Scope) (items : List Node) :
    library.itemVisits scope items = items.flatMap (library.visits scope) := by
  induction items with
  | nil => simp [itemVisits]
  | cons item rest inductionHypothesis =>
      rw [itemVisits, inductionHypothesis, List.flatMap_cons]

theorem visits_other (scope : Scope) (node : Node) (other : node.isList = false) :
    library.visits scope node = [] := by
  cases node with
  | list items => simp [Node.isList] at other
  | _ => simp [visits]

end Library

namespace Reduction.KeepsCounter

theorem charge (amount : Float) (items : List Node) :
    (Reduction.charge amount items).KeepsCounter := by
  intro state
  rw [on_charge]
  split_ifs <;> rfl

theorem chargeAll (amounts : List Float) (items : List Node) :
    (Reduction.chargeAll amounts items).KeepsCounter := by
  induction amounts with
  | nil => exact .pure ()
  | cons amount rest inductionHypothesis => exact .bind (.charge amount items) fun _ =>
      inductionHypothesis

theorem announce (engine : Engine) (scope : Scope) (id : Nat) (items : List Node) :
    (engine.announce scope id items).KeepsCounter := by
  unfold Engine.announce
  split_ifs
  · exact .note _
  · exact .pure ()

end Reduction.KeepsCounter

/-- A followed reduction also changes the record of the visits so far. -/
abbrev Followed := ExceptT Error (StateM (State × List Visit))

namespace Followed

open Reduction

variable {α β : Type}

/-- A reduction that enters no list. -/
def lift (reduction : Reduction α) : Followed α :=
  fun start => ((reduction.on start.1).1, (reduction.on start.1).2, start.2)

/-- A list is entered as the next step. -/
def enter (visit : Visit) : Followed Nat :=
  fun start => ((nextStep.on start.1).1, (nextStep.on start.1).2, start.2 ++ [visit])

/-- A followed reduction does what the reduction does. It enters some of the given lists in their
order, and each of them counts as one step. -/
def Follows (followed : Followed α) (reduction : Reduction α) (visits : List Visit) : Prop :=
  ∀ (state : State) (before : List Visit), ∃ entered : List Visit,
    followed (state, before) =
        ((reduction.on state).1, (reduction.on state).2, before ++ entered) ∧
      (reduction.on state).2.counter = state.counter + entered.length ∧
      entered.Sublist visits

theorem run_bind (followed : Followed α) (next : α → Followed β) (start : State × List Visit) :
    (followed >>= next) start =
      ExceptT.bindCont next (followed start).1 (followed start).2 :=
  rfl

theorem run_monadLift_bind (action : StateM (State × List Visit) α) (next : α → Followed β)
    (start : State × List Visit) :
    ((monadLift action : Followed α) >>= next) start = next (action start).1 (action start).2 :=
  rfl

namespace Follows

theorem lift {reduction : Reduction α} (kept : reduction.KeepsCounter) :
    Follows (Followed.lift reduction) reduction [] := by
  intro state before
  exact ⟨[], by rw [List.append_nil]; rfl, kept state, .refl []⟩

theorem pure (value : α) : Follows (Pure.pure value) (Pure.pure value) [] :=
  .lift (.pure value)

theorem enter (visit : Visit) : Follows (Followed.enter visit) nextStep [visit] :=
  fun _ _ => ⟨[visit], rfl, rfl, .refl [visit]⟩

/-- The lists of the second part are entered after those of the first, unless that one fails. -/
theorem bind {followed : Followed α} {reduction : Reduction α} {next : α → Followed β}
    {following : α → Reduction β} {visits others : List Visit}
    (first : Follows followed reduction visits)
    (second : ∀ value, Follows (next value) (following value) others) :
    Follows (followed >>= next) (reduction >>= following) (visits ++ others) := by
  intro state before
  obtain ⟨entered, ran, counted, within⟩ := first state before
  rw [run_bind, ran, on_bind]
  rcases outcome : reduction.on state with ⟨error | value, middle⟩
  all_goals rw [outcome] at counted
  · exact ⟨entered, rfl, counted, within.trans (List.sublist_append_left visits others)⟩
  · obtain ⟨later, continued, total, inside⟩ := second value middle (before ++ entered)
    refine ⟨entered ++ later, ?_, ?_, within.append inside⟩
    · rw [← List.append_assoc]
      exact continued
    · rw [List.length_append, ← Nat.add_assoc, ← counted]
      exact total

theorem lift_bind {reduction : Reduction α} {next : α → Followed β} {following : α → Reduction β}
    {visits : List Visit} (kept : reduction.KeepsCounter)
    (second : ∀ value, Follows (next value) (following value) visits) :
    Follows (Followed.lift reduction >>= next) (reduction >>= following) visits :=
  (Follows.lift kept).bind second

end Follows

end Followed

/-- What becomes of a call. -/
inductive Fate where
  | function (name : String) (function : Function)
  | caster (caster : Caster)
  | constant (value : Node)
  | unknown

namespace Engine

open Reduction Followed

variable (engine : Engine) (inputs : Inputs) (scope : Scope)

/-- A function or the fallback comes before a caster, and a caster comes before a constant. -/
def fate (requested : String) : Fate :=
  match engine.resolve? scope requested with
  | some (name, function) => .function name function
  | none =>
    match engine.library.caster? requested scope with
    | some caster => .caster caster
    | none =>
      match engine.library.constant? requested scope with
      | some value => .constant value
      | none => .unknown

/-- A call meets its fate. An unknown name becomes a text, and an unknown call is left in place. -/
def meet (id : Nat) (requested : String) (items : List Node) : Fate → Reduction Node
  | .function name function => engine.callFunction inputs scope id requested name function items
  | .caster caster => orFail (caster (engine.arguments scope items))
  | .constant value =>
    pure (if (engine.arguments scope items).isEmpty then value else .list (value :: items.drop 1))
  | .unknown =>
    pure (if (engine.arguments scope items).isEmpty then .string requested else .list items)

theorem reduceList_eq_meet (id : Nat) (requested : String) (items : List Node) :
    engine.reduceList inputs scope id items (.call requested) =
      engine.meet inputs scope id requested items (engine.fate scope requested) := by
  simp only [reduceList, fate]
  cases engine.resolve? scope requested with
  | some found => rfl
  | none =>
      simp only [invokeOther]
      cases engine.library.caster? requested scope with
      | some caster => rfl
      | none => cases engine.library.constant? requested scope <;> rfl

/-- A name is unknown when neither itself nor the fallback is bound to anything that is called. -/
theorem fate_eq_unknown_iff (requested : String) :
    engine.fate scope requested = .unknown ↔
      engine.library.function? requested scope = none ∧
        engine.library.function? engine.settings.fallback scope = none ∧
        engine.library.caster? requested scope = none ∧
        engine.library.constant? requested scope = none := by
  unfold fate resolve?
  cases engine.library.function? requested scope with
  | some function => simp
  | none =>
      cases engine.library.function? engine.settings.fallback scope with
      | some function => simp
      | none =>
          cases engine.library.caster? requested scope with
          | some caster => simp
          | none => cases engine.library.constant? requested scope <;> simp

/-- The walk records every list that it enters. -/
def following : Manner Followed Node where
  enter scope items := do
    let id ← Followed.enter ⟨scope, items⟩
    lift (engine.announce scope id items)
    pure id
  pay amounts items := lift (chargeAll amounts items)
  single scope id items
    | .call requested =>
      lift (engine.meet inputs scope id requested items (engine.fate scope requested))
    | shape => lift (engine.reduceList inputs scope id items shape)
  join _ _ parts := do
    let results ← (inTurn ExceptT.run parts : StateM (State × List Visit) _)
    match gather results with
    | .ok reduced => pure (sequenceResult reduced)
    | .error error => throw error
  value node := pure node

def followBranch (scope : Scope) (node : Node) : Followed Node :=
  engine.walk (engine.following inputs) scope node

def followItems (scope : Scope) (items : List Node) :
    StateM (State × List Visit) (List (Except Error Node)) :=
  inTurn ExceptT.run (items.map (engine.followBranch inputs scope))

def followSequence (items : List Node) : Followed Node := do
  let results ← engine.followItems inputs scope items
  match gather results with
  | .ok reduced => pure (sequenceResult reduced)
  | .error error => throw error

/-- The reduction of a list by its shape, once its charges are paid. -/
def followList (id : Nat) (items : List Node) : Node.Shape → Followed Node
  | .sequence => engine.followSequence inputs (engine.library.innerScope scope items) items
  | .call requested =>
    lift (engine.meet inputs scope id requested items (engine.fate scope requested))
  | shape => lift (engine.reduceList inputs scope id items shape)

def followPass (appendArgv : Bool) (program : Node) : Followed Node :=
  engine.passBy lift (engine.followBranch inputs scope) pure inputs appendArgv program

/-- A list is counted, announced and billed, and is then reduced by its shape. -/
theorem branch_eq (items : List Node) :
    engine.branch inputs scope (.list items) = (do
      let id ← nextStep
      engine.announce scope id items
      chargeAll (engine.bill scope items.length (Node.shape items)) items
      engine.reduceList inputs scope id items (Node.shape items)) := by
  apply ext_on
  intro state
  symm
  exact (engine.on_enter scope items _ state).trans
    (engine.branch_list inputs scope items state).symm

theorem followBranch_eq (items : List Node) :
    engine.followBranch inputs scope (.list items) = (do
      let id ← Followed.enter ⟨scope, items⟩
      lift (engine.announce scope id items)
      lift (chargeAll (engine.bill scope items.length (Node.shape items)) items)
      engine.followList inputs scope id items (Node.shape items)) := by
  have after (id : Nat) (shape : Node.Shape) :
      engine.walkList (engine.following inputs) scope id items shape =
        engine.followList inputs scope id items shape := by
    cases shape with
    | sequence =>
        rw [walkList, walkItems_eq_map]
        rfl
    | _ => rfl
  rw [followBranch, walk_list]
  simp only [after]
  simp only [following, bind_assoc, pure_bind]

/-- Items enter their lists one after another, whether or not an earlier one fails. -/
theorem follows_items (items : List Node)
    (each : ∀ item ∈ items, Follows (engine.followBranch inputs scope item)
      (engine.branch inputs scope item) (engine.library.visits scope item))
    (state : State) (before : List Visit) :
    ∃ entered : List Visit,
      engine.followItems inputs scope items (state, before) =
          ((engine.results inputs scope items state).1,
            (engine.results inputs scope items state).2, before ++ entered) ∧
        (engine.results inputs scope items state).2.counter = state.counter + entered.length ∧
        entered.Sublist (engine.library.itemVisits scope items) := by
  induction items generalizing state before with
  | nil =>
      rw [results_nil]
      exact ⟨[], by rw [List.append_nil]; rfl, rfl, List.nil_sublist _⟩
  | cons item rest inductionHypothesis =>
      obtain ⟨entered, ran, counted, within⟩ := each item (.head rest) state before
      obtain ⟨later, continued, total, inside⟩ :=
        inductionHypothesis (fun other member => each other (.tail item member))
          ((engine.branch inputs scope item).on state).2 (before ++ entered)
      have run : engine.followItems inputs scope (item :: rest) (state, before) =
          let first := engine.followBranch inputs scope item (state, before)
          let others := engine.followItems inputs scope rest first.2
          (first.1 :: others.1, others.2) := rfl
      rw [run, ran, results_cons, Library.itemVisits]
      dsimp only
      rw [continued]
      refine ⟨entered ++ later, ?_, ?_, within.append inside⟩
      · rw [List.append_assoc]
      · rw [List.length_append]
        omega

theorem follows_sequence (items : List Node)
    (each : ∀ item ∈ items, Follows (engine.followBranch inputs scope item)
      (engine.branch inputs scope item) (engine.library.visits scope item)) :
    Follows (engine.followSequence inputs scope items) (engine.reduceItems inputs scope items)
      (engine.library.itemVisits scope items) := by
  intro state before
  obtain ⟨entered, ran, counted, within⟩ :=
    engine.follows_items inputs scope items each state before
  rw [followSequence, on_reduceItems]
  refine ⟨entered, ?_, counted, within⟩
  rw [run_monadLift_bind, ran]
  cases gather (engine.results inputs scope items state).1 <;> rfl

/-- A list that is no sequence enters no further list. -/
theorem follows_list_single (id : Nat) (items : List Node) {shape : Node.Shape}
    (single : shape ≠ .sequence) :
    Follows (engine.followList inputs scope id items shape)
      (engine.reduceList inputs scope id items shape) [] := by
  have kept := engine.keepsCounter_reduceList inputs scope id items single
  cases shape with
  | sequence => exact absurd rfl single
  | call requested =>
      rw [reduceList_eq_meet] at kept ⊢
      exact .lift kept
  | quote => exact .lift kept
  | empty => exact .lift kept

/-- A followed branch does what the branch does and enters lists that it can enter. -/
theorem follows_branch (node : Node) :
    ∀ scope, Follows (engine.followBranch inputs scope node) (engine.branch inputs scope node)
      (engine.library.visits scope node) := by
  induction node using Node.listInduction with
  | other node other =>
      intro scope
      have followed : engine.followBranch inputs scope node = pure node :=
        engine.walk_other _ scope node other
      have kept : engine.branch inputs scope node = pure node :=
        ext_on (engine.branch_other inputs scope node other)
      rw [followed, kept, engine.library.visits_other scope node other]
      exact .pure node
  | list items inductionHypothesis =>
      intro scope
      have inner (id : Nat) : Follows
          (engine.followList inputs scope id items (Node.shape items))
          (engine.reduceList inputs scope id items (Node.shape items))
          (if Node.isOneStep items then []
            else engine.library.itemVisits (engine.library.innerScope scope items) items) := by
        -- Only a sequence goes on inside its items, and it does so in its inner scope.
        by_cases sequence : Node.shape items = .sequence
        · rw [(Node.shape_eq_sequence_iff items).mp sequence, sequence, if_neg Bool.false_ne_true]
          exact engine.follows_sequence inputs _ items fun item member =>
            inductionHypothesis item member _
        · have single := sequence
          rw [Node.shape_eq_sequence_iff, Bool.not_eq_false] at single
          rw [single, if_pos rfl]
          exact engine.follows_list_single inputs scope id items sequence
      rw [followBranch_eq, branch_eq, Library.visits]
      exact (Follows.enter ⟨scope, items⟩).bind fun id =>
        .lift_bind (.announce engine scope id items) fun _ =>
          .lift_bind (.chargeAll _ items) fun _ => inner id

/-- Without preprocessors a followed pass does what the pass does. It enters lists of the denested
program and of the arguments that join it. -/
theorem follows_pass (unclaimed : ∀ name scope, engine.library.preprocessor? name scope = none)
    (appendArgv : Bool) {program : Node} {items : List Node}
    (denested : program.denest = .list items) :
    Follows (engine.followPass inputs scope appendArgv program)
      (engine.pass inputs scope appendArgv program)
      (engine.library.visits scope (joined inputs appendArgv items)) := by
  have plain : engine.preprocess inputs items = pure items :=
    ext_on (engine.on_preprocess_unclaimed inputs unclaimed items)
  have passed : engine.pass inputs scope appendArgv program =
      engine.branch inputs scope (joined inputs appendArgv items) := by
    simp only [pass, Node.isNull_of_denest denested, denested, plain]
    rfl
  have followed : engine.followPass inputs scope appendArgv program =
      engine.followBranch inputs scope (joined inputs appendArgv items) := by
    simp only [followPass, passBy, Node.isNull_of_denest denested, denested, plain]
    rfl
  rw [passed, followed]
  exact engine.follows_branch inputs _ scope

/-- Without preprocessors and arguments a followed pass enters lists of the denested program. -/
theorem follows_pass_alone
    (unclaimed : ∀ name scope, engine.library.preprocessor? name scope = none)
    (event : Option Event) (appendArgv : Bool) (program : Node) :
    Follows (engine.followPass ⟨[], event⟩ scope appendArgv program)
      (engine.pass ⟨[], event⟩ scope appendArgv program)
      (engine.library.visits scope program.denest) := by
  cases program with
  | list items =>
      obtain ⟨inner, denested⟩ := Node.exists_denest_list items
      have alone : joined ⟨[], event⟩ appendArgv inner = .list inner := by
        simp [joined]
      rw [denested, ← alone]
      exact engine.follows_pass ⟨[], event⟩ scope unclaimed appendArgv denested
  | null => exact .lift fun _ => rfl
  | _ => exact .pure _

end Engine

end Reduct
