import Reduct.Proofs.Bindings
import Reduct.Proofs.Visits
/-! This file shows that a program without unknown names has none in its first pass. The search for
unknown names and the pass walk through the program on their own, and both reach every list in the
same scope. -/

namespace Reduct

namespace Library

variable (library : Library)

mutual

/-- The heads of the lists of a node in their scopes, from left to right and outer lists first.
Lists inside quotes are among them. -/
def heads : Scope → Node → List (Scope × String)
  | scope, .list items =>
    (Node.headName? items).toList.map (Prod.mk scope) ++
      itemHeads (library.innerScope scope items) items
  | scope, .quote inner => heads scope inner
  | _, _ => []

def itemHeads : Scope → List Node → List (Scope × String)
  | _, [] => []
  | scope, item :: rest => heads scope item ++ itemHeads scope rest

end

theorem itemHeads_eq_flatMap (scope : Scope) (items : List Node) :
    library.itemHeads scope items = items.flatMap (library.heads scope) := by
  induction items with
  | nil => simp [itemHeads]
  | cons item rest inductionHypothesis =>
      rw [itemHeads, inductionHypothesis, List.flatMap_cons]

/-- A head needs no report when it is a quote name or resolves in its scope. -/
def isCleared (head : Scope × String) : Bool :=
  Node.isQuoteName head.2 || library.resolves head.2 head.1

/-- A head that is not cleared is added once. -/
def report (found : List String) (head : Scope × String) : List String :=
  if library.isCleared head || found.contains head.2 then found else found ++ [head.2]

theorem reportHead_eq_foldl (scope : Scope) (items : List Node) (found : List String) :
    library.reportHead scope items found =
      ((Node.headName? items).toList.map (Prod.mk scope)).foldl library.report found := by
  unfold reportHead
  cases Node.headName? items <;> rfl

mutual

/-- The search reports the heads of a node one after another. -/
theorem unresolvedIn_eq_foldl (scope : Scope) :
    ∀ (node : Node) (found : List String),
      library.unresolvedIn scope node found = (library.heads scope node).foldl library.report found
  | .list items, found => by
    rw [unresolvedIn, heads, List.foldl_append, ← reportHead_eq_foldl,
      unresolvedItems_eq_foldl]
  | .quote inner, found => by
    rw [unresolvedIn, heads, unresolvedIn_eq_foldl scope inner found]
  | .null, _ | .bool _, _ | .number _, _ | .string _, _ | .map _, _ => by
    simp [unresolvedIn, heads]

theorem unresolvedItems_eq_foldl (scope : Scope) :
    ∀ (items : List Node) (found : List String),
      library.unresolvedItems scope items found =
        (library.itemHeads scope items).foldl library.report found
  | [], found => by simp [unresolvedItems, itemHeads]
  | item :: rest, found => by
    rw [unresolvedItems, itemHeads, List.foldl_append, unresolvedIn_eq_foldl scope item found,
      unresolvedItems_eq_foldl scope rest]

end

theorem report_eq_nil_iff (found : List String) (head : Scope × String) :
    library.report found head = [] ↔ found = [] ∧ library.isCleared head = true := by
  unfold report
  cases library.isCleared head with
  | true => simp
  | false =>
      split_ifs with again
      · have filled : found ≠ [] := by
          rintro rfl
          cases again
        simp [filled]
      · simp

theorem foldl_report_eq_nil_iff (heads : List (Scope × String)) (found : List String) :
    heads.foldl library.report found = [] ↔
      found = [] ∧ ∀ head ∈ heads, library.isCleared head = true := by
  induction heads generalizing found with
  | nil => simp
  | cons head rest inductionHypothesis =>
      rw [List.foldl_cons, inductionHypothesis, report_eq_nil_iff, List.forall_mem_cons, and_assoc]

/-- Nothing is reported when every head of the program is cleared. -/
theorem preflight_eq_nil_iff (program : Node) :
    library.preflight program = [] ↔
      ∀ head ∈ library.heads .global program, library.isCleared head = true := by
  rw [preflight, unresolvedIn_eq_foldl, foldl_report_eq_nil_iff]
  simp

/-- A list whose only item is a list has the heads of that item. -/
theorem heads_denest (scope : Scope) (node : Node) :
    library.heads scope node.denest = library.heads scope node := by
  fun_induction Node.denest node with
  | case1 inner list inductionHypothesis =>
      have unnamed : Node.headName? [inner] = none := by
        cases inner with
        | string text => cases list
        | _ => rfl
      rw [inductionHypothesis, heads, innerScope, unnamed, itemHeads, itemHeads]
      simp
  | case2 => rfl
  | case3 => rfl

/-- The search reaches every list that a pass can enter, and it does so in the same scope. -/
theorem mem_heads_of_mem_visits (node : Node) :
    ∀ (scope : Scope) (visit : Visit) (name : String), visit ∈ library.visits scope node →
      Node.headName? visit.items = some name →
        (visit.scope, name) ∈ library.heads scope node := by
  induction node using Node.listInduction with
  | other node other =>
      intro scope visit name member
      rw [library.visits_other scope node other] at member
      cases member
  | list items inductionHypothesis =>
      intro scope visit name member head
      rw [visits] at member
      rw [heads, List.mem_append]
      rcases List.mem_cons.mp member with rfl | inside
      · left
        simp only at head
        simp [head]
      · right
        split_ifs at inside
        · cases inside
        · rw [itemVisits_eq_flatMap] at inside
          rw [itemHeads_eq_flatMap]
          obtain ⟨item, among, entered⟩ := List.mem_flatMap.mp inside
          exact List.mem_flatMap.mpr
            ⟨item, among, inductionHypothesis item among _ visit name entered head⟩

end Library

namespace Table

/-- Neither a table nor one of its scopes binds a preprocessor. -/
def HasNoPreprocessors (table : Table) : Prop :=
  table.Holds (fun _ => True) fun _ => False

theorem HasNoPreprocessors.preprocessor?_eq_none {table : Table}
    (plain : table.HasNoPreprocessors) (name : String) (scope : Scope) :
    table.toLibrary.preprocessor? name scope = none :=
  Option.eq_none_iff_forall_not_mem.mpr fun _ found => Holds.preprocessor plain found

/-- A head that is cleared and called is bound to a function, a caster or a constant. -/
theorem HasNoPreprocessors.bound_of_isCleared {table : Table} (plain : table.HasNoPreprocessors)
    {scope : Scope} {items : List Node} {requested : String}
    (call : Node.shape items = .call requested)
    (cleared : table.toLibrary.isCleared (scope, requested) = true) :
    (table.toLibrary.function? requested scope).isSome ∨
      (table.toLibrary.caster? requested scope).isSome ∨
        (table.toLibrary.constant? requested scope).isSome := by
  obtain ⟨head, -, unquoted⟩ := Node.of_shape_eq_call call
  rw [Node.isQuoteForm, head] at unquoted
  simpa [Library.isCleared, Library.resolves, unquoted, plain.preprocessor?_eq_none,
    or_assoc] using cleared

/-- Where the search finds no unknown name, every call of the first pass is made in a scope in
which its head is bound to a function, a caster or a constant, and so none of them is unknown. The
record of the pass holds one list for each step that it counts. -/
theorem calls_known_of_preflight (table : Table) (settings : Settings) (seed : UInt64)
    (event : Option Event) (program : Node) (state : State) (plain : table.HasNoPreprocessors)
    (clear : table.toLibrary.preflight program = []) :
    let engine : Engine := ⟨settings, table.toLibrary, seed⟩
    let outcome := (engine.pass ⟨[], event⟩ .global true program).on state
    ∃ visits : List Visit,
      engine.followPass ⟨[], event⟩ .global true program (state, []) =
          (outcome.1, outcome.2, visits) ∧
        outcome.2.counter = state.counter + visits.length ∧
        ∀ visit ∈ visits, ∀ requested, Node.shape visit.items = .call requested →
          ((engine.library.function? requested visit.scope).isSome ∨
            (engine.library.caster? requested visit.scope).isSome ∨
              (engine.library.constant? requested visit.scope).isSome) ∧
            engine.fate visit.scope requested ≠ .unknown := by
  intro engine outcome
  obtain ⟨visits, followed, counted, within⟩ :=
    engine.follows_pass_alone .global plain.preprocessor?_eq_none event true program state []
  refine ⟨visits, followed, counted, ?_⟩
  intro visit entered requested call
  have reached := table.toLibrary.mem_heads_of_mem_visits program.denest .global visit requested
    (within.subset entered) (Node.of_shape_eq_call call).1
  rw [Library.heads_denest] at reached
  have bound := plain.bound_of_isCleared call
    ((table.toLibrary.preflight_eq_nil_iff program).mp clear _ reached)
  refine ⟨bound, fun unknown => ?_⟩
  obtain ⟨function, -, caster, constant⟩ := (engine.fate_eq_unknown_iff _ requested).mp unknown
  rcases bound with found | found | found
  · exact Option.isSome_iff_ne_none.mp found function
  · exact Option.isSome_iff_ne_none.mp found caster
  · exact Option.isSome_iff_ne_none.mp found constant

/-- A table in which `greet` is bound inside `french` alone. -/
def bilingual : Table :=
  (empty.bindAll
    [.constant "pi" (.number 3),
      .scope "french" ⟨none, false, fun _ _ => pure .null⟩
        [.function "greet" ⟨none, false, fun _ _ => pure (.string "bonjour")⟩]]).1

/-- Calls inside and outside of `french`. -/
def conversation : Node :=
  .list [.list [.string "french", .list [.string "greet"], .list [.string "pi"]],
    .list [.string "pi"]]

/-- The two calls inside `french` are made in its scope, and all three calls are known. -/
theorem conversation_known :
    let library := bilingual.toLibrary
    let session := Session.start library {} .empty 0 0
    let engine : Engine := ⟨{}, library, 0⟩
    let visits := (engine.followPass ⟨[], none⟩ .global true conversation (session.state, [])).2.2
    bilingual.HasNoPreprocessors ∧ library.preflight conversation = [] ∧
      (library.function? "greet" .global).isNone ∧
      visits.map (fun visit => (visit.scope.frames, Node.headName? visit.items)) =
        [([], none), ([], some "french"), (["french"], some "greet"), (["french"], some "pi"),
          ([], some "pi")] ∧
      ∀ visit ∈ visits, ∀ requested, Node.shape visit.items = .call requested →
        ((library.function? requested visit.scope).isSome ∨
          (library.caster? requested visit.scope).isSome ∨
            (library.constant? requested visit.scope).isSome) ∧
          engine.fate visit.scope requested ≠ .unknown := by
  intro library session engine visits
  have plain : bilingual.HasNoPreprocessors :=
    holds_bindAll (by
      simp only [List.forall_mem_cons, List.not_mem_nil, false_imp_iff, implies_true, and_true]
      exact ⟨.constant _ _, .scope _ trivial (List.forall_mem_singleton.mpr
        (.function _ trivial))⟩)
  have clear : library.preflight conversation = [] := by decide +kernel
  obtain ⟨entered, followed, -, known⟩ :=
    calls_known_of_preflight bilingual {} 0 none conversation session.state plain clear
  refine ⟨plain, clear, by decide +kernel, by decide +kernel, ?_⟩
  have same : visits = entered := congrArg (fun outcome => outcome.2.2) followed
  rw [same]
  exact known

end Table

end Reduct
