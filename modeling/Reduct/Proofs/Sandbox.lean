import Reduct.Proofs.Bindings
import Reduct.Proofs.Isolation
import Reduct.Standard

namespace Reduct

namespace Binding

/-- A binding whose function is impure or isolated, or whose preprocessor is isolated. -/
abbrev Isolated (binding : Binding) : Prop :=
  binding.Holds Function.Isolated Preprocessor.Isolated

end Binding

namespace Standard

/-- A function whose action is isolated may see its call and its world. -/
theorem isolated_acts (name : String) (signature : Signature)
    {call : Call → List Node → Action Node}
    (isolated : ∀ context arguments, (call context arguments).Isolated) :
    (acts name signature call).Isolated :=
  .function name fun _ => isolated

/-- An impure function need not be isolated. -/
@[simp] theorem isolated_actsImpurely (name : String) (signature : Signature)
    (call : Call → List Node → Action Node) : (actsImpurely name signature call).Isolated :=
  .function name fun pure => absurd pure (by simp)

@[simp] theorem isolated_computes (name : String) (signature : Signature)
    (compute : List Node → Except Error Node) : (computes name signature compute).Isolated :=
  isolated_acts name signature fun _ arguments => .lift (compute arguments)

@[simp] theorem isolated_yields (name : String) (signature : Signature)
    (compute : List Node → Node) : (yields name signature compute).Isolated :=
  isolated_computes name signature _

@[simp] theorem isolated_aliasFunction (aliasName name : String) :
    (Binding.aliasFunction aliasName name).Isolated :=
  .aliasFunction aliasName name

/-- The random draw is the only function on numbers that needs the world. -/
theorem isolated_arithmetic : ∀ binding ∈ arithmetic, binding.Isolated := by
  have draw : (acts "math.rand" .nothing fun _ _ => do
      pure (.number (← Action.random))).Isolated :=
    isolated_acts _ _ fun _ _ => .bind .random fun _ => .pure _
  simpa [arithmetic, operators, comparisons, connectives, functionsOfNumbers, joint, binary,
    unary, comparison] using draw

/-- Control forms read their call; only the parsed program leaves a note. -/
theorem isolated_control : ∀ binding ∈ control, binding.Isolated := by
  have bound : (acts "let" (.ofTags ["string", "..."]) fun call _ =>
      Action.lift (bindName call.list)).Isolated :=
    isolated_acts _ _ fun _ _ => .lift _
  have reacting : (acts "event" (.ofTags ["string", "string", "list"]) fun call arguments =>
      Action.lift (react call.event arguments)).Isolated :=
    isolated_acts _ _ fun _ _ => .lift _
  have parsed : (acts "eval" (.ofTags ["string"]) fun _ arguments =>
      evaluate arguments).Isolated :=
    isolated_acts _ _ fun _ _ => .bind (.lift _) fun _ => .ofSource _
  have given : (acts "argv" .nothing fun call _ => pure (.quotedList call.argv)).Isolated :=
    isolated_acts _ _ fun _ _ => .pure _
  simp [control, bound, reacting, parsed, given]

theorem isolated_lists : ∀ binding ∈ lists, binding.Isolated := by
  simp [lists, listFunctions, listMappers, mapper]

theorem isolated_words : ∀ binding ∈ words, binding.Isolated := by
  simp [words, textual]

/-- A definition is expanded without a look at the world. -/
theorem isolated_definitions : ∀ binding ∈ definitions, binding.Isolated := by
  intro binding member
  obtain rfl : binding = .preprocessor "define" expandDefinition := by
    simpa [definitions] using member
  exact .preprocessor _ fun _ _ _ =>
    .bind (.lift _) fun _ => .bind (.note _) fun _ => .pure _

theorem isolated_constants : ∀ binding ∈ constants, binding.Isolated := by
  simp [constants, Binding.Holds.constant]

theorem isolated_casters : ∀ binding ∈ casters, binding.Isolated := by
  simp [casters, casts, Binding.Holds.caster, Binding.Holds.aliasCaster]

/-- Every binding of the standard library is impure or isolated. -/
theorem isolated_bindings : ∀ binding ∈ bindings, binding.Isolated := by
  have closing : ∀ binding ∈ closures, binding.Isolated := by simp [closures]
  have hashing : ∀ binding ∈ hashes, binding.Isolated := by simp [hashes]
  have digesting : ∀ binding ∈ digests, binding.Isolated := by simp [digests, textual]
  have timing : ∀ binding ∈ clock, binding.Isolated := by simp [clock]
  have storing : ∀ binding ∈ store, binding.Isolated := by simp [store]
  simp only [bindings, List.forall_mem_append]
  exact ⟨⟨⟨⟨⟨⟨⟨⟨⟨⟨⟨isolated_constants, isolated_casters⟩, isolated_arithmetic⟩, closing⟩,
    isolated_control⟩, isolated_definitions⟩, isolated_lists⟩, hashing⟩, isolated_words⟩,
    digesting⟩, timing⟩, storing⟩

theorem isolated_library : library.Isolated := by
  have holds : table.Holds Function.Isolated Preprocessor.Isolated :=
    Table.holds_bindAll isolated_bindings
  exact ⟨fun _ _ _ found => holds.function found, fun _ _ _ found => holds.preprocessor found⟩

end Standard

namespace Session

/-- Two sessions of the standard library without impure functions that differ in their stores,
counters, clocks and notes run every program alike, and neither touches its store. -/
theorem run_sandboxed (left right : Session) (inputs : Inputs) (bound : Nat) (program : Node)
    (engine : left.engine = right.engine) (standard : left.engine.library = Standard.library)
    (forbidden : left.engine.settings.allowImpure = false)
    (stream : left.state.world.stream = right.state.world.stream)
    (meter : left.state.meter = right.state.meter)
    (timeless : left.state.meter.deadline = none) :
    let leftEnd := left.run inputs bound program
    let rightEnd := right.run inputs bound program
    leftEnd.1 = rightEnd.1 ∧
      leftEnd.2.state.counter = rightEnd.2.state.counter ∧
      leftEnd.2.state.meter = rightEnd.2.state.meter ∧
      leftEnd.2.state.world.stream = rightEnd.2.state.world.stream ∧
      leftEnd.2.storage = left.storage ∧ rightEnd.2.storage = right.storage := by
  obtain ⟨leftEngine, leftState⟩ := left
  obtain ⟨rightEngine, rightState⟩ := right
  obtain rfl : leftEngine = rightEngine := engine
  have isolates : leftEngine.Isolates := by
    refine ⟨forbidden, ?_⟩
    rw [standard]
    exact Standard.isolated_library
  have forwards := isolates.run inputs bound program stream meter timeless
  have backwards := isolates.run inputs bound program stream.symm meter.symm (meter ▸ timeless)
  exact ⟨forwards.result, forwards.alike.counter, forwards.alike.meter, forwards.alike.stream,
    forwards.kept, backwards.kept⟩

/-- A session that forbids impure functions, with some nodes in its store and a counter. -/
def sandboxed (roots : List (String × Node)) (counter : Nat) : Session :=
  let session := start Standard.library { allowImpure := false } ⟨roots⟩ 0 0
  { session with state := { session.state with counter := counter } }

/-- A random draw beside a call that would write to the store. -/
def drawAndStore : Node :=
  .list [.list [.string "math.rand"], .list [.string "store.set", .string "a", .number 1.0]]

/-- Whether the path is taken or not, the two runs end alike and leave it so. -/
theorem drawAndStore_sandboxed :
    (sandboxed [] 0).storage.has "a" = false ∧
      (sandboxed [("a", .number 2.0)] 7).storage.has "a" = true ∧
      let leftEnd := (sandboxed [] 0).run ⟨[], none⟩ 2 drawAndStore
      let rightEnd := (sandboxed [("a", .number 2.0)] 7).run ⟨[], none⟩ 2 drawAndStore
      leftEnd.1 = rightEnd.1 ∧
        leftEnd.2.state.counter = rightEnd.2.state.counter ∧
        leftEnd.2.state.meter = rightEnd.2.state.meter ∧
        leftEnd.2.state.world.stream = rightEnd.2.state.world.stream ∧
        leftEnd.2.storage = (sandboxed [] 0).storage ∧
        rightEnd.2.storage = (sandboxed [("a", .number 2.0)] 7).storage :=
  ⟨by decide, by decide,
    run_sandboxed (sandboxed [] 0) (sandboxed [("a", .number 2.0)] 7) ⟨[], none⟩ 2 drawAndStore
      rfl rfl rfl rfl rfl rfl⟩

end Session

end Reduct
