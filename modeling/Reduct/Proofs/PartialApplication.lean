import Reduct.Proofs.Canonical
import Reduct.Proofs.Lookup
import Reduct.Standard.Closure
/-! This file shows that the parameters of a closure can be given in two portions. The names that
are bound first and those that are bound later are replaced one after the other as if they were
replaced at once. -/

namespace Reduct

namespace Entries

variable {α : Type*}

/-- Pairs that enter later hide the entries before them. -/
theorem get?_foldl_insert (name : String) (pairs entries : List (String × α)) :
    get? name (pairs.foldl (fun entries pair => insert pair.1 pair.2 entries) entries) =
      (get? name (ofPairs pairs)).or (get? name entries) := by
  induction pairs generalizing entries with
  | nil => rfl
  | cons pair pairs inductionHypothesis =>
      rw [ofPairs, List.foldl_cons, List.foldl_cons, inductionHypothesis, inductionHypothesis,
        Option.or_assoc, get?_insert, get?_insert]
      split_ifs <;> rfl

theorem get?_ofPairs_append (name : String) (first second : List (String × α)) :
    get? name (ofPairs (first ++ second)) =
      (get? name (ofPairs second)).or (get? name (ofPairs first)) := by
  rw [ofPairs, List.foldl_append, get?_foldl_insert]
  rfl

/-- A value that is found stands in one of the pairs. -/
theorem mem_of_get?_ofPairs {name : String} {value : α} {pairs : List (String × α)}
    (found : get? name (ofPairs pairs) = some value) : (name, value) ∈ pairs := by
  induction pairs with
  | nil => cases found
  | cons pair pairs inductionHypothesis =>
      rw [← List.singleton_append, get?_ofPairs_append, Option.or_eq_some_iff] at found
      rcases found with later | ⟨-, here⟩
      · exact .tail pair (inductionHypothesis later)
      · rw [ofPairs, List.foldl_cons, List.foldl_nil, get?_insert] at here
        split_ifs at here with same
        · cases here
          rw [same]
          exact .head pairs
        · cases here

end Entries

namespace Standard

open Node (headName?)

theorem substituteItems_eq_map (bindings : List (String × Node)) (items : List Node) :
    substituteItems bindings items = items.map (substitute bindings) := by
  induction items with
  | nil => rfl
  | cons item items inductionHypothesis =>
      exact congrArg (substitute bindings item :: ·) inductionHypothesis

theorem substitute_list (bindings : List (String × Node)) (items : List Node) :
    substitute bindings (.list items) =
      if headName? items = some lambdaName then .list items
      else .list (items.map (substitute bindings)) := by
  rw [← substituteItems_eq_map]
  rfl

theorem substitute_quotedList (bindings : List (String × Node)) (items : List Node) :
    substitute bindings (.quotedList items) = .quotedList (items.map (substitute bindings)) := by
  rw [← substituteItems_eq_map]
  rfl

theorem substitute_string (bindings : List (String × Node)) (name : String) :
    substitute bindings (.string name) = (Entries.get? name bindings).getD (.string name) :=
  rfl

/-- A property of all nodes follows from those that a substitution enters or replaces, and from
those that no substitution changes. -/
theorem substitutionInduction {motive : Node → Prop}
    (list : ∀ items : List Node, (∀ item ∈ items, motive item) → motive (.list items))
    (quoted : ∀ items : List Node, (∀ item ∈ items, motive item) → motive (.quotedList items))
    (string : ∀ name, motive (.string name))
    (other : ∀ node, (∀ bindings, substitute bindings node = node) → motive node) :
    ∀ node, motive node
  | .list items => list items fun item member =>
      have smaller := List.sizeOf_lt_of_mem member
      substitutionInduction list quoted string other item
  | .quote (.list items) => quoted items fun item member =>
      have smaller := List.sizeOf_lt_of_mem member
      substitutionInduction list quoted string other item
  | .string name => string name
  | .null => other _ fun _ => by simp [substitute]
  | .bool value => other _ fun _ => by simp [substitute]
  | .number value => other _ fun _ => by simp [substitute]
  | .map entries => other _ fun _ => by simp [substitute]
  | .quote .null => other _ fun _ => by simp [substitute]
  | .quote (.bool value) => other _ fun _ => by simp [substitute]
  | .quote (.number value) => other _ fun _ => by simp [substitute]
  | .quote (.string text) => other _ fun _ => by simp [substitute]
  | .quote (.map entries) => other _ fun _ => by simp [substitute]
  | .quote (.quote inner) => other _ fun _ => by simp [substitute]

/-- A node without bound names stays as it is. -/
theorem substitute_of_unbound {bindings : List (String × Node)} {node : Node}
    (unbound : ∀ name value, Entries.get? name bindings = some value →
      ¬node.Contains (.string name)) : substitute bindings node = node := by
  induction node using substitutionInduction with
  | list items inductionHypothesis =>
      have same : items.map (substitute bindings) = items.map id :=
        List.map_congr_left fun item member => inductionHypothesis item member
          fun name value bound inside => unbound name value bound (.item member inside)
      rw [substitute_list, same, List.map_id, ite_self]
  | quoted items inductionHypothesis =>
      have same : items.map (substitute bindings) = items.map id :=
        List.map_congr_left fun item member => inductionHypothesis item member
          fun name value bound inside => unbound name value bound (.content (.item member inside))
      rw [substitute_quotedList, same, List.map_id]
  | string name =>
      rw [substitute_string]
      cases bound : Entries.get? name bindings with
      | none => rfl
      | some value => exact absurd (.self _) (unbound name value bound)
  | other node inert => exact inert bindings

section

variable {first second both : List (String × Node)}

/-- The names of a list that opens no closure are replaced by nothing that opens one. -/
theorem headName?_map_substitute
    (plain : ∀ name value, Entries.get? name first = some value → value ≠ .string lambdaName)
    {items : List Node} (opens : headName? (items.map (substitute first)) = some lambdaName) :
    headName? items = some lambdaName := by
  cases items with
  | nil => cases opens
  | cons item rest =>
      rw [List.map_cons, headName?] at opens
      rw [headName?]
      cases item using substitutionInduction with
      | list items _ =>
          rw [substitute_list] at opens
          split_ifs at opens <;> cases opens
      | quoted items _ =>
          rw [substitute_quotedList] at opens
          cases opens
      | string name =>
          rw [substitute_string] at opens
          cases bound : Entries.get? name first with
          | none => rwa [bound] at opens
          | some value =>
              rw [bound, Option.getD_some] at opens
              cases value with
              | string text =>
                  exact absurd (congrArg Node.string (Option.some.inj opens)) (plain name _ bound)
              | _ => cases opens
      | other node inert => rwa [inert] at opens

/-- Names that are replaced one after the other are replaced at once, as long as the nodes that
are put in first hold no name that is replaced later and open no closure. -/
theorem substitute_substitute
    (joined : ∀ name, Entries.get? name both =
      (Entries.get? name first).or (Entries.get? name second))
    (closed : ∀ name value, Entries.get? name first = some value →
      substitute second value = value)
    (plain : ∀ name value, Entries.get? name first = some value → value ≠ .string lambdaName)
    (node : Node) : substitute second (substitute first node) = substitute both node := by
  induction node using substitutionInduction with
  | list items inductionHypothesis =>
      -- The head of a list may be replaced first, but never by the name that shields the list.
      by_cases opens : headName? items = some lambdaName
      · rw [substitute_list, substitute_list, if_pos opens, if_pos opens, substitute_list,
          if_pos opens]
      · have still : headName? (items.map (substitute first)) ≠ some lambdaName :=
          fun opened => opens (headName?_map_substitute plain opened)
        rw [substitute_list, substitute_list, if_neg opens, if_neg opens, substitute_list,
          if_neg still, List.map_map]
        exact congrArg Node.list (List.map_congr_left inductionHypothesis)
  | quoted items inductionHypothesis =>
      rw [substitute_quotedList, substitute_quotedList, substitute_quotedList, List.map_map]
      exact congrArg Node.quotedList (List.map_congr_left inductionHypothesis)
  | string name =>
      rw [substitute_string, substitute_string, joined]
      cases bound : Entries.get? name first with
      | none => rfl
      | some value => exact closed name value bound
  | other node inert => rw [inert, inert, inert]

end

/-- Each name with its parameter; a list among the parameters is withheld. -/
def bindingsOf (names parameters : List Node) : List (String × Node) :=
  (names.map Node.toText).zip (parameters.map Node.withheld)

/-- A body over the names that are left: without names it is reduced, and with them it is a
closure. -/
def closure (names body : List Node) : Node :=
  match names with
  | [] => .list body
  | names => .quotedList (.string lambdaName :: names ++ [.quotedList body])

/-- A closure is applied to the parameters behind its body. -/
theorem lambda_append {names : List Node} (atoms : ∀ name ∈ names, name.isList = false)
    (body parameters : List Node) :
    lambda (names ++ .list body :: parameters) =
      .ok (closure (names.drop parameters.length)
        (body.map (substitute (Entries.ofPairs (bindingsOf names parameters))))) := by
  have before : ∀ name ∈ names, (!name.isList) = true := by
    intro name member
    rw [atoms name member]
    rfl
  have leading : (names ++ .list body :: parameters).takeWhile (fun node => !node.isList) =
      names := by
    rw [List.takeWhile_append_of_pos before, List.takeWhile_cons_of_neg (by simp [Node.isList]),
      List.append_nil]
  have trailing : (names ++ .list body :: parameters).dropWhile (fun node => !node.isList) =
      .list body :: parameters := by
    rw [List.dropWhile_append_of_pos before, List.dropWhile_cons_of_neg (by simp [Node.isList])]
  rw [← substituteItems_eq_map, lambda, leading, trailing]
  cases left : names.drop parameters.length with
  | nil =>
      simp only [left]
      rfl
  | cons name others =>
      simp only [left]
      rfl

/-- Parameters in two portions are given to the first names and to those that are left. -/
theorem bindingsOf_append {names first : List Node} (few : first.length ≤ names.length)
    (second : List Node) :
    bindingsOf names (first ++ second) =
      bindingsOf (names.take first.length) first ++
        bindingsOf (names.drop first.length) second := by
  rw [bindingsOf, bindingsOf, bindingsOf, ← List.zip_append (by simp [few]), ← List.map_append,
    ← List.map_append, List.take_append_drop]

/-- A bound name is the text of one of the names, and its value is one of the parameters. -/
theorem of_get?_bindingsOf {names parameters : List Node} {name : String} {value : Node}
    (bound : Entries.get? name (Entries.ofPairs (bindingsOf names parameters)) = some value) :
    name ∈ names.map Node.toText ∧ ∃ parameter ∈ parameters, parameter.withheld = value := by
  obtain ⟨named, given⟩ := List.of_mem_zip (Entries.mem_of_get?_ofPairs bound)
  exact ⟨named, List.mem_map.mp given⟩

/-- A withheld node holds the texts that the node holds. -/
theorem contains_of_withheld {node : Node} {text : String}
    (inside : node.withheld.Contains (.string text)) : node.Contains (.string text) := by
  rw [Node.withheld] at inside
  split_ifs at inside with isList
  · cases inside with
    | content inside => exact inside
  · exact inside

/-- Distinct names that get their parameters in two portions are each bound in one of them. -/
theorem get?_bindingsOf_append {names first : List Node}
    (distinct : (names.map Node.toText).Nodup) (few : first.length ≤ names.length)
    (second : List Node) (name : String) :
    Entries.get? name (Entries.ofPairs (bindingsOf names (first ++ second))) =
      (Entries.get? name (Entries.ofPairs (bindingsOf (names.take first.length) first))).or
        (Entries.get? name (Entries.ofPairs (bindingsOf (names.drop first.length) second))) := by
  rw [bindingsOf_append few, Entries.get?_ofPairs_append]
  cases early : Entries.get? name
      (Entries.ofPairs (bindingsOf (names.take first.length) first)) with
  | none => rw [Option.or_none, Option.none_or]
  | some value =>
      cases late : Entries.get? name
          (Entries.ofPairs (bindingsOf (names.drop first.length) second)) with
      | none => rfl
      | some other =>
          have taken := (of_get?_bindingsOf early).1
          have dropped := (of_get?_bindingsOf late).1
          rw [List.map_take] at taken
          rw [List.map_drop] at dropped
          exact absurd dropped (List.disjoint_take_drop distinct le_rfl taken)

/-- A closure that is given fewer parameters than it has names is a closure over the names that are
left, and given the others it becomes what it is when all are given at once. The parameters that
come first must not hold the names that are left or open closures of their own. -/
theorem lambda_in_portions {names first : List Node} (body second : List Node)
    (atoms : ∀ name ∈ names, name.isList = false)
    (distinct : (names.map Node.toText).Nodup) (few : first.length < names.length)
    (free : ∀ parameter ∈ first, ∀ name ∈ names.drop first.length,
      ¬parameter.Contains (.string name.toText))
    (plain : ∀ parameter ∈ first, ¬parameter.Contains (.string lambdaName)) :
    ∃ rest, lambda (names ++ .list body :: first) =
        .ok (.quotedList
          (.string lambdaName :: names.drop first.length ++ [.quotedList rest])) ∧
      lambda (names.drop first.length ++ .list rest :: second) =
        lambda (names ++ .list body :: (first ++ second)) := by
  have alone : bindingsOf names first = bindingsOf (names.take first.length) first := by
    simpa [bindingsOf] using bindingsOf_append few.le []
  refine ⟨body.map (substitute
    (Entries.ofPairs (bindingsOf (names.take first.length) first))), ?_, ?_⟩
  · rw [lambda_append atoms, alone]
    cases left : names.drop first.length with
    | nil => exact absurd (List.drop_eq_nil_iff.mp left) (not_le_of_gt few)
    | cons name others => rfl
  · rw [lambda_append fun name member => atoms name (List.mem_of_mem_drop member),
      lambda_append atoms, List.length_append, ← List.drop_drop, List.map_map]
    refine congrArg (fun rest => Except.ok (closure _ rest)) (List.map_congr_left fun node _ => ?_)
    refine substitute_substitute (get?_bindingsOf_append distinct few.le second) ?_ ?_ node
    -- A list among the first parameters is entered again, quoted, by the second substitution.
    · intro name value bound
      obtain ⟨-, parameter, given, rfl⟩ := of_get?_bindingsOf bound
      refine substitute_of_unbound fun other _ later inside => ?_
      obtain ⟨node, left, rfl⟩ := List.mem_map.mp (of_get?_bindingsOf later).1
      exact free parameter given node left (contains_of_withheld inside)
    · intro name value bound equal
      obtain ⟨-, parameter, given, rfl⟩ := of_get?_bindingsOf bound
      exact plain parameter given (contains_of_withheld (equal ▸ .self _))

/-- The names of a closure, one of which is no text. -/
def threeNames : List Node := [.string "a", .null, .string "c"]

/-- A body with its names in a list, in a quoted list and in a closure of its own. -/
def nestedBody : List Node :=
  [.string "f", .string "a", .list [.string "null", .string "c"],
    .quotedList [.string "lambda", .string "a", .string "c"],
    .list [.string "lambda", .string "a", .quotedList [.string "a", .string "c"]]]

/-- The parameter of the first name is a list. -/
def firstParameter : List Node := [.list [.string "x"]]

/-- The parameters of the other two names, one of which is the name of closures. -/
def otherParameters : List Node := [.string "lambda", .list [.string "a"]]

/-- The body with all three parameters in place. -/
def nestedResult : List Node :=
  [.string "f", .quotedList [.string "x"], .list [.string "lambda", .quotedList [.string "a"]],
    .quotedList [.string "lambda", .quotedList [.string "x"], .quotedList [.string "a"]],
    .list [.string "lambda", .string "a", .quotedList [.string "a", .string "c"]]]

/-- The first of three names is bound to a list, and the others get their parameters later. -/
theorem threeNames_in_portions :
    ∃ rest, lambda (threeNames ++ .list nestedBody :: firstParameter) =
        .ok (.quotedList [.string "lambda", .null, .string "c", .quotedList rest]) ∧
      lambda (threeNames.drop 1 ++ .list rest :: otherParameters) = .ok (.list nestedResult) := by
  have only (parameter : Node) (given : parameter ∈ firstParameter) (text : String)
      (inside : parameter.Contains (.string text)) : text = "x" := by
    rw [List.mem_singleton.mp given] at inside
    cases inside with
    | item member inside =>
        rw [List.mem_singleton.mp member] at inside
        cases inside
        rfl
  have free : ∀ parameter ∈ firstParameter, ∀ name ∈ threeNames.drop firstParameter.length,
      ¬parameter.Contains (.string name.toText) := by
    intro parameter given name left inside
    have equal := only parameter given name.toText inside
    revert equal
    fin_cases left <;> decide
  obtain ⟨rest, partially, fully⟩ := lambda_in_portions nestedBody otherParameters (by decide)
    (by decide) (by decide) free
    (fun parameter given inside => absurd (only parameter given lambdaName inside) (by decide))
  exact ⟨rest, partially, fully.trans rfl⟩

end Standard

end Reduct
