import Reduct.Proofs.Extension
/-! This file shows that no function of the standard library answers numbers and empty lists with a
list that its own name leads, so that a pass over such a call never leaves a call of that name. -/

namespace Reduct

namespace Node

/-- The name at the front of a list once its nulls are gone. -/
def leader? : Node → Option String
  | .list items => headName? (items.filter (!·.isNull))
  | _ => none

@[simp] theorem leader?_null : leader? .null = none := rfl

@[simp] theorem leader?_bool (value : Bool) : (Node.bool value).leader? = none := rfl

@[simp] theorem leader?_number (value : Float) : (Node.number value).leader? = none := rfl

@[simp] theorem leader?_string (text : String) : (Node.string text).leader? = none := rfl

@[simp] theorem leader?_map (entries : List (String × Node)) :
    (Node.map entries).leader? = none := rfl

@[simp] theorem leader?_quote (inner : Node) : (Node.quote inner).leader? = none := rfl

@[simp] theorem leader?_quotedList (items : List Node) : (quotedList items).leader? = none := rfl

@[simp] theorem leader?_withheld (node : Node) : node.withheld.leader? = none := by
  cases node <;> rfl

@[simp] theorem leader?_add (left right : Node) : (left.add right).leader? = none := by
  unfold add
  dsimp only
  split_ifs <;> rfl

/-- A number, or the list without items. -/
def isBare : Node → Bool
  | .number _ => true
  | .list items => items.isEmpty
  | _ => false

theorem leader?_of_isBare {node : Node} (bare : node.isBare = true) : node.leader? = none := by
  cases node with
  | list items =>
      obtain rfl := List.isEmpty_iff.mp bare
      rfl
  | _ => rfl

theorem string?_of_isBare {node : Node} (bare : node.isBare = true) : node.string? = none := by
  cases node with
  | string text => cases bare
  | _ => rfl

/-- No name leads a list of numbers and empty lists. -/
theorem leader?_list_of_isBare {items : List Node} (bare : ∀ item ∈ items, item.isBare = true) :
    (Node.list items).leader? = none := by
  cases kept : items.filter (!·.isNull) with
  | nil => rw [leader?, kept, headName?]
  | cons first rest =>
      have inside : first ∈ items.filter (!·.isNull) := by simp [kept]
      have member := List.mem_of_mem_filter inside
      rw [leader?, kept, headName?, string?_of_isBare (bare first member)]

end Node

/-- What a binding does to functions and names keeps a property of them. -/
def Binding.Respects (property : String → Function → Prop) : Binding → Prop
  | .function name own => property name own
  | .aliasFunction aliasName name => ∀ own, property name own → property aliasName own
  | .scope name own _ => property name own
  | _ => True

namespace Table

variable {property : String → Function → Prop}

/-- Every function of a table has a property under its name. -/
def Respects (property : String → Function → Prop) (table : Table) : Prop :=
  ∀ name function, Entries.get? name table.functions = some function → property name function

theorem Respects.bindFunction {table : Table} (respects : table.Respects property) {name : String}
    {function : Function} (own : property name function) :
    (table.bindFunction name function).1.Respects property := by
  intro other bound found
  rw [Table.bindFunction, Entries.get?_insert] at found
  split_ifs at found with same
  · cases found
    exact same ▸ own
  · exact respects other bound found

theorem Respects.bind {table : Table} (respects : table.Respects property) {binding : Binding}
    (own : binding.Respects property) : (table.bind binding).1.Respects property := by
  cases binding with
  | function name function =>
      rw [Table.bind]
      exact respects.bindFunction own
  | aliasFunction aliasName name =>
      rw [Table.bind]
      cases found : Entries.get? name table.functions with
      | none => exact respects
      | some function =>
          have copied : (table.copyPrice aliasName name).Respects property := by
            unfold copyPrice
            split
            · exact respects
            · exact respects
          exact copied.bindFunction (own function (respects name function found))
  | scope name function bindings =>
      rw [Table.bind]
      have nested (scopes : List (String × Table)) :
          ({ table with scopes := scopes } : Table).Respects property := respects
      exact (nested _).bindFunction own
  | aliasCaster aliasName name =>
      rw [Table.bind]
      cases Entries.get? name table.casters <;> exact respects
  | _ => exact respects

/-- Bindings that respect a property leave functions that have it under their names. -/
theorem Respects.bindAll {bindings : List Binding}
    (each : ∀ binding ∈ bindings, binding.Respects property) {table : Table}
    (respects : table.Respects property) : (table.bindAll bindings).1.Respects property := by
  induction bindings generalizing table with
  | nil =>
      rw [Table.bindAll]
      exact respects
  | cons binding later inductionHypothesis =>
      rw [Table.bindAll]
      exact inductionHypothesis (fun other member => each other (.tail binding member))
        (respects.bind (each binding (.head later)))

theorem Respects.function? {table : Table} (respects : table.Respects property) {name : String}
    {function : Function} (found : table.toLibrary.function? name .global = some function) :
    property name function :=
  respects name function found

end Table

/-- A function whose action does not depend on who calls it. -/
def Function.IgnoresCall (function : Function) : Prop :=
  ∀ (call other : Call) (arguments : List Node),
    function.call call arguments = function.call other arguments

namespace Standard

/-- The names that stand for functions of other names. -/
def aliases : List String := ["==", stageMark, "$"]

end Standard

/-- A function that answers numbers and empty lists with no list that its name or an alias
leads. -/
def Function.Unled (name : String) (function : Function) : Prop :=
  function.IgnoresCall → ∀ (call : Call) (arguments : List Node) (world : World) (node : Node),
    (∀ argument ∈ arguments, argument.isBare = true) →
      ((function.call call arguments).run world).1 = .ok node →
        ∀ leader ∈ name :: Standard.aliases, node.leader? ≠ some leader

namespace Standard

/-- A result that is no list which a name leads. -/
def Leaderless (result : Except Error Node) : Prop :=
  ∀ node, result = .ok node → node.leader? = none

@[simp] theorem leaderless_ok (node : Node) : Leaderless (.ok node) ↔ node.leader? = none := by
  simp [Leaderless]

@[simp] theorem leaderless_pure (node : Node) : Leaderless (pure node) ↔ node.leader? = none :=
  leaderless_ok node

@[simp] theorem leaderless_error (error : Error) : Leaderless (.error error) :=
  nofun

@[simp] theorem leaderless_bind {α : Type} (result : Except Error α)
    (next : α → Except Error Node) :
    Leaderless (result >>= next) ↔ ∀ value, result = .ok value → Leaderless (next value) := by
  cases result with
  | error error => simp [Leaderless, bind, Except.bind]
  | ok value => simp [bind, Except.bind]

@[simp] theorem leaderless_map {α : Type} (result : Except Error α) (change : α → Node) :
    Leaderless (change <$> result) ↔
      ∀ value, result = .ok value → (change value).leader? = none := by
  rw [← bind_pure_comp, leaderless_bind]
  simp only [leaderless_pure]

@[simp] theorem leader?_found (node : Option Node) : (found node).leader? = none := by
  cases node <;> simp [found]

section

variable {arguments : List Node} (bare : ∀ argument ∈ arguments, argument.isBare = true)

include bare

theorem isBare_argument (index : Nat) :
    (argument arguments index).isBare = true ∨ argument arguments index = .null := by
  rw [argument]
  cases found : arguments[index]? with
  | none => exact .inr rfl
  | some node => exact .inl (bare node (List.mem_of_getElem? found))

theorem leader?_argument (index : Nat) : (argument arguments index).leader? = none := by
  rcases isBare_argument bare index with given | missing
  · exact Node.leader?_of_isBare given
  · rw [missing]
    rfl

theorem textArgument_ne_ok (index : Nat) (text : String) :
    textArgument arguments index ≠ .ok text := by
  rw [textArgument]
  rcases isBare_argument bare index with given | missing
  · cases node : argument arguments index <;> simp_all [Node.isBare]
  · simp [missing]

theorem listArgument_eq_nil {index : Nat} {items : List Node}
    (listed : listArgument arguments index = .ok items) : items = [] := by
  rw [listArgument] at listed
  rcases isBare_argument bare index with given | missing
  · cases node : argument arguments index <;> simp_all [Node.isBare]
  · simp [missing] at listed

end

/-- A binding whose function answers numbers and empty lists with no list that its name leads. -/
abbrev Unled (binding : Binding) : Prop :=
  binding.Respects Function.Unled

theorem unled_of_leaderless (name : String) {function : Function}
    (leaderless : ∀ (call : Call) (arguments : List Node) (world : World),
      (∀ argument ∈ arguments, argument.isBare = true) →
        Leaderless ((function.call call arguments).run world).1) : function.Unled name := by
  intro _ call arguments world node bare answered leader _ led
  rw [leaderless call arguments world bare node answered] at led
  cases led

theorem unled_computes (name : String) (signature : Signature)
    {compute : List Node → Except Error Node}
    (leaderless : ∀ arguments : List Node, (∀ argument ∈ arguments, argument.isBare = true) →
      Leaderless (compute arguments)) : Unled (computes name signature compute) := by
  refine unled_of_leaderless name fun call arguments world bare => ?_
  rw [Action.run_lift]
  exact leaderless arguments bare

theorem unled_yields (name : String) (signature : Signature) {compute : List Node → Node}
    (leaderless : ∀ arguments : List Node, (∀ argument ∈ arguments, argument.isBare = true) →
      (compute arguments).leader? = none) : Unled (yields name signature compute) :=
  unled_computes name signature fun arguments bare =>
    (leaderless_ok _).mpr (leaderless arguments bare)

/-- A list that another name leads is none that the own name or an alias leads. -/
theorem unled_computes_of_leader {name : String} {signature : Signature}
    {compute : List Node → Except Error Node} (leader : String)
    (different : leader ∉ name :: aliases)
    (led : ∀ (arguments : List Node) (node : Node), compute arguments = .ok node →
      node.leader? = none ∨ node.leader? = some leader) :
    Unled (computes name signature compute) := by
  intro _ call arguments world node _ answered other member same
  rw [Action.run_lift] at answered
  rcases led arguments node answered with free | led
  · rw [free] at same
    cases same
  · rw [led] at same
    cases same
    exact different member

theorem unled_aliasFunction (aliasName name : String) (member : aliasName ∈ aliases) :
    Unled (.aliasFunction aliasName name) := by
  intro function unled ignores call arguments world node bare answered leader inside
  refine unled ignores call arguments world node bare answered leader (.tail _ ?_)
  rcases List.mem_cons.mp inside with rfl | other
  · exact member
  · exact other

/-- A body without items leaves no name in front. -/
theorem leaderless_lambda {arguments : List Node}
    (bare : ∀ argument ∈ arguments, argument.isBare = true) : Leaderless (lambda arguments) := by
  unfold lambda
  dsimp only
  split
  · rename_i body parameters dropped
    have member : Node.list body ∈ arguments :=
      (List.dropWhile_suffix _).subset (by rw [dropped]; exact .head _)
    obtain rfl : body = [] := List.isEmpty_iff.mp (bare _ member)
    split
    · exact (leaderless_ok _).mpr rfl
    · exact (leaderless_ok _).mpr rfl
  · exact leaderless_error _

theorem unled_closures : ∀ binding ∈ closures, Unled binding := by
  have handed {arguments function : List Node}
      (bare : ∀ argument ∈ arguments, argument.isBare = true)
      (listed : listArgument arguments 0 = .ok function) :
      (Node.list (function ++ arguments.drop 1)).leader? = none ∧
        (Node.list (function ++ .list function :: arguments.drop 1)).leader? = none := by
    obtain rfl := listArgument_eq_nil bare listed
    have given : ∀ item ∈ arguments.drop 1, item.isBare = true :=
      fun item member => bare item (List.mem_of_mem_drop member)
    refine ⟨Node.leader?_list_of_isBare given, Node.leader?_list_of_isBare ?_⟩
    exact List.forall_mem_cons.mpr ⟨rfl, given⟩
  have called : Unled (computes "call" (.ofTags ["list", "..."]) call) :=
    unled_computes _ _ fun arguments bare =>
      (leaderless_bind _ _).mpr fun function listed =>
        (leaderless_ok _).mpr (handed bare listed).1
  have again : Unled (computes "ycomb" (.ofTags ["list", "..."]) callWithSelf) :=
    unled_computes _ _ fun arguments bare =>
      (leaderless_bind _ _).mpr fun function listed =>
        (leaderless_ok _).mpr (handed bare listed).2
  simp only [closures, List.forall_mem_cons]
  exact ⟨unled_computes _ _ fun _ => leaderless_lambda, called, again, List.forall_mem_nil _⟩

theorem stages_of_isBare {arguments : List Node}
    (bare : ∀ argument ∈ arguments, argument.isBare = true) : stages arguments = [arguments] := by
  induction arguments with
  | nil => rfl
  | cons node rest inductionHypothesis =>
      rw [stages, Node.string?_of_isBare (bare node (.head rest)),
        inductionHypothesis fun argument member => bare argument (.tail node member)]

theorem leader?_sequence (arguments : List Node) :
    (sequence arguments).leader? = none ∨ (sequence arguments).leader? = some "identity" := by
  have nested (later : List Node) (inner : Node) (led : inner.leader? = some "identity") :
      (later.foldl (fun inner step => .list [.string "identity", step, inner]) inner).leader? =
        some "identity" := by
    induction later generalizing inner with
    | nil => exact led
    | cons step later inductionHypothesis => exact inductionHypothesis _ rfl
  cases arguments with
  | nil => exact .inl rfl
  | cons first later => exact .inr (nested later _ rfl)

/-- The reaction to an event is filled in, and has no items to begin with. -/
theorem leaderless_react (event : Option Event) {arguments : List Node}
    (bare : ∀ argument ∈ arguments, argument.isBare = true) :
    Leaderless (react event arguments) := by
  unfold react
  split
  · exact (leaderless_ok _).mpr rfl
  · split_ifs
    · refine (leaderless_bind _ _).mpr fun reaction listed => ?_
      obtain rfl := listArgument_eq_nil bare listed
      exact (leaderless_ok _).mpr rfl
    · exact (leaderless_ok _).mpr rfl

/-- An action that starts with a text fails without one. -/
theorem leaderless_of_text {arguments : List Node}
    (bare : ∀ argument ∈ arguments, argument.isBare = true) (index : Nat)
    (next : String → Action Node) (world : World) :
    Leaderless ((Action.lift (textArgument arguments index) >>= next).run world).1 := by
  cases given : textArgument arguments index with
  | ok text => exact absurd given (textArgument_ne_ok bare index text)
  | error error => exact leaderless_error error

theorem unled_control : ∀ binding ∈ Standard.control, Unled binding := by
  have given (name : String) (signature : Signature) (index : List Node → Nat) :
      Unled (yields name signature fun arguments => argument arguments (index arguments)) :=
    unled_yields _ _ fun _ bare => leader?_argument bare _
  -- A function that ignores its call also ignores the items that it is called with.
  have bound : Unled (acts "let" (.ofTags ["string", "..."]) fun call _ =>
      Action.lift (bindName call.list)) := by
    intro ignores call arguments world node _ answered
    rw [ignores call { call with list := [] } arguments] at answered
    cases answered
  have reacting : Unled (acts "event" (.ofTags ["string", "string", "list"]) fun call arguments =>
      Action.lift (react call.event arguments)) := by
    refine unled_of_leaderless _ fun call arguments world bare => ?_
    rw [Action.run_lift]
    exact leaderless_react call.event bare
  have parsed : Unled (acts "eval" (.ofTags ["string"]) fun _ arguments => evaluate arguments) :=
    unled_of_leaderless _ fun _ _ world bare => leaderless_of_text bare 0 _ world
  have piped : Unled (yields "compose" .any compose) := by
    refine unled_yields _ _ fun arguments bare => ?_
    rw [compose, stages_of_isBare bare]
    exact Node.leader?_list_of_isBare bare
  have stacked : Unled (computes "stack" (.ofTags ["list", "..."]) stack) := by
    refine unled_computes _ _ fun arguments bare => (leaderless_bind _ _).mpr fun steps listed => ?_
    obtain rfl := listArgument_eq_nil bare listed
    exact (leaderless_ok _).mpr rfl
  have serial : Unled (yields "series" .any fun arguments =>
      .list [.string "stack", .quotedList arguments]) := by
    refine unled_computes_of_leader "stack" (by decide) fun arguments node computed => ?_
    cases computed
    exact .inr rfl
  have sequential : Unled (yields "sequence" .any sequence) := by
    refine unled_computes_of_leader "identity" (by decide) fun arguments node computed => ?_
    cases computed
    exact leader?_sequence arguments
  have asserted : Unled (computes "assert" (.ofTags ["*", "..."]) assertion) := by
    refine unled_computes _ _ fun arguments _ => ?_
    unfold assertion
    split_ifs <;> simp
  simp only [Standard.control, List.forall_mem_cons]
  exact ⟨given _ _ fun arguments => if (argument arguments 0).truthy then 1 else 3,
    given _ _ fun _ => 0, bound, reacting, given _ _ fun _ => 1, parsed,
    unled_of_leaderless _ fun _ _ _ _ => (leaderless_ok _).mpr rfl, piped,
    unled_aliasFunction _ _ (by decide), stacked, serial, unled_aliasFunction _ _ (by decide),
    sequential, unled_computes _ _ fun _ _ => leaderless_error _, asserted,
    unled_of_leaderless _ fun _ _ _ bare => (leaderless_ok _).mpr (leader?_argument bare 0),
    List.forall_mem_nil _⟩

theorem unled_arithmetic : ∀ binding ∈ arithmetic, Unled binding := by
  have chosen (name : String) (signature : Signature) {operation : Node → Node → Node}
      (chooses : ∀ left right, operation left right = left ∨ operation left right = right) :
      Unled (joint name signature operation) := by
    refine unled_yields _ _ fun arguments bare => ?_
    rcases chooses (argument arguments 0) (argument arguments 1) with first | second
    · rw [first]
      exact leader?_argument bare 0
    · rw [second]
      exact leader?_argument bare 1
  have both := chosen "and" (.ofTags ["*", "*"])
    fun left right => (ite_eq_or_eq (left.truthy = true) right left).symm
  have either := chosen "or" (.ofTags ["*", "*"])
    fun left right => ite_eq_or_eq (left.truthy = true) left right
  have drawn : Unled (acts "math.rand" .nothing fun _ _ => do
      pure (.number (← Action.random))) :=
    unled_of_leaderless _ fun _ _ _ _ => (leaderless_ok _).mpr rfl
  have calculated : ∀ binding ∈ operators ++ comparisons, Unled binding := by
    simp [operators, comparisons, joint, binary, comparison, yields, unled_computes,
      unled_aliasFunction "==" "=" (by decide)]
  have connected : ∀ binding ∈ connectives, Unled binding := by
    simp only [connectives, List.forall_mem_cons]
    exact ⟨both, either, unled_yields _ _ fun _ _ => rfl, unled_yields _ _ fun _ _ => rfl,
      List.forall_mem_nil _⟩
  have measured : ∀ binding ∈ functionsOfNumbers, Unled binding := by
    have alone (name : String) (operation : Float → Float) : Unled (unary name operation) :=
      unled_yields _ _ fun _ _ => rfl
    have paired (name : String) (operation : Float → Float → Float) :
        Unled (binary name operation) :=
      unled_yields _ _ fun _ _ => rfl
    simpa [functionsOfNumbers, alone, paired] using drawn
  rw [arithmetic, List.forall_mem_append, List.forall_mem_append]
  exact ⟨⟨calculated, connected⟩, measured⟩

/-- A function that takes a closure leaves a list that its finalizer leads. -/
theorem unled_mapper (name : String) {combine : List Node → List Node → Node}
    (different : finalizerName name ∉ name :: aliases)
    (leaderless : ∀ elements results, (combine elements results).leader? = none) :
    ∀ binding ∈ mapper name combine, Unled binding := by
  have mapped : Unled (computes name (.ofTags ["list", "list"]) (mapCalls name)) := by
    refine unled_computes_of_leader _ different fun arguments node computed => ?_
    unfold mapCalls at computed
    cases first : listArgument arguments 0 with
    | error error => simp [first, bind, Except.bind] at computed
    | ok items =>
        cases second : listArgument arguments 1 with
        | error error => simp [first, second, bind, Except.bind] at computed
        | ok function =>
            simp only [first, second, bind, Except.bind, pure, Except.pure] at computed
            cases computed
            exact .inr rfl
  simp only [mapper, List.forall_mem_cons]
  exact ⟨mapped, unled_yields _ _ fun _ _ => leaderless _ _, List.forall_mem_nil _⟩

theorem unled_lists : ∀ binding ∈ lists, Unled binding := by
  have folded : Unled (computes "list.reduce" (.ofTags ["list", "list", "*"]) fold) := by
    refine unled_computes _ _ fun arguments bare => (leaderless_bind _ _).mpr fun items listed => ?_
    obtain rfl := listArgument_eq_nil bare listed
    exact (leaderless_bind _ _).mpr fun _ _ => (leaderless_ok _).mpr (Node.leader?_withheld _)
  have plain : ∀ binding ∈ listFunctions, Unled binding := by
    simpa [listFunctions, unled_computes] using folded
  rw [lists, List.forall_mem_append]
  refine ⟨plain, ?_⟩
  simp only [listMappers, List.forall_mem_append]
  exact ⟨⟨⟨⟨⟨⟨⟨⟨⟨⟨unled_mapper _ (by decide) fun _ _ => rfl,
    unled_mapper _ (by decide) fun _ _ => rfl⟩, unled_mapper _ (by decide) fun _ _ => rfl⟩,
    unled_mapper _ (by decide) fun _ _ => rfl⟩, unled_mapper _ (by decide) fun _ _ => rfl⟩,
    unled_mapper _ (by decide) fun _ _ => leader?_found _⟩,
    unled_mapper _ (by decide) fun _ _ => rfl⟩,
    unled_mapper _ (by decide) fun _ _ => leader?_found _⟩,
    unled_mapper _ (by decide) fun _ _ => rfl⟩, unled_mapper _ (by decide) fun _ _ => rfl⟩,
    unled_mapper _ (by decide) fun _ _ => rfl⟩

theorem unled_hashes : ∀ binding ∈ hashes, Unled binding := by
  have parsed : Unled (computes "hash.from-json" (.ofTags ["string"]) ofWireText) :=
    unled_computes _ _ fun arguments bare => (leaderless_bind _ _).mpr fun text given =>
      absurd given (textArgument_ne_ok bare 0 text)
  simpa [hashes, yields, unled_computes] using parsed

theorem unled_words : ∀ binding ∈ words, Unled binding := by
  have decoded : Unled (computes "str.decode64" oneText decodeBase64) :=
    unled_computes _ _ fun arguments bare => (leaderless_bind _ _).mpr fun text given =>
      absurd given (textArgument_ne_ok bare 0 text)
  have hosted : Unled (computes "uri.host" oneText hostOf) :=
    unled_computes _ _ fun arguments bare => (leaderless_bind _ _).mpr fun text given =>
      absurd given (textArgument_ne_ok bare 0 text)
  have matched : Unled (computes "regexp.exec" twoTexts fun arguments => do
      pure (((← matchOffset arguments).map fun offset =>
        .number (Float.ofNat offset)).getD .null)) :=
    unled_computes _ _ fun arguments _ => (leaderless_bind _ _).mpr fun offset _ => by
      cases offset <;> exact (leaderless_ok _).mpr rfl
  simpa [words, textual, yields, unled_computes] using ⟨decoded, matched, hosted⟩

theorem unled_clock_store : ∀ binding ∈ clock ++ store, Unled binding := by
  simp only [clock, store, List.forall_mem_append, List.forall_mem_cons]
  exact ⟨⟨unled_of_leaderless _ fun _ _ _ _ => (leaderless_ok _).mpr rfl,
    unled_of_leaderless _ fun _ _ _ _ => (leaderless_ok _).mpr rfl, List.forall_mem_nil _⟩,
    unled_of_leaderless _ fun _ _ world bare => leaderless_of_text bare 0 _ world,
    unled_of_leaderless _ fun _ _ world bare => leaderless_of_text bare 0 _ world,
    unled_of_leaderless _ fun _ _ world bare => leaderless_of_text bare 0 _ world,
    List.forall_mem_nil _⟩

/-- No function of the standard library answers numbers and empty lists with a list that its name
leads. -/
theorem unled_of_function? {name : String} {function : Function}
    (found : library.function? name .global = some function) : function.Unled name := by
  have valued : ∀ binding ∈ constants ++ casters ++ definitions, Unled binding := by
    simp [constants, casters, casts, definitions, Unled, Binding.Respects]
  have digested : ∀ binding ∈ digests, Unled binding := by
    simp [digests, textual, yields, unled_computes]
  have each : ∀ binding ∈ bindings, Unled binding := by
    simp only [List.forall_mem_append] at valued
    have timed := unled_clock_store
    rw [List.forall_mem_append] at timed
    simp only [bindings, List.forall_mem_append]
    exact ⟨⟨⟨⟨⟨⟨⟨⟨⟨⟨⟨valued.1.1, valued.1.2⟩, unled_arithmetic⟩, unled_closures⟩, unled_control⟩,
      valued.2⟩, unled_lists⟩, unled_hashes⟩, unled_words⟩, digested⟩, timed.1⟩, timed.2⟩
  have respects : table.Respects Function.Unled := by
    rw [table]
    refine Table.Respects.bindAll each fun name function found => ?_
    cases found
  rw [library] at found
  exact respects.function? found

end Standard

end Reduct
