import Mathlib.Tactic
import Reduct.Proofs.SourceText
import Reduct.Proofs.WireText

namespace Reduct.Node

open Reduct.Text Token

open Assembly

/-- Some text in front of another is cut into segments that build nodes, whatever was built
before. -/
def Reads (chars : List Char) (nodes : List Node) (rest : List Char) : Prop :=
  ∃ found count, Cuts (chars ++ rest) found rest ∧
    ∀ assembly, Builds found assembly ((nodes.foldl push assembly).balanced count)

theorem Reads.append {first second rest : List Char} {nodes later : List Node}
    (reads : Reads first nodes (second ++ rest)) (after : Reads second later rest) :
    Reads (first ++ second) (nodes ++ later) rest := by
  obtain ⟨found, count, cut, builds⟩ := reads
  obtain ⟨more, other, laterCut, laterBuilds⟩ := after
  refine ⟨found ++ more, count + other, ?_, fun assembly => ?_⟩
  · rw [List.append_assoc]
    exact cut.append laterCut
  · have built := laterBuilds ((nodes.foldl push assembly).balanced count)
    rw [foldl_push_balanced, balanced_balanced, ← List.foldl_append] at built
    exact (builds assembly).append built

/-- A leaf is read from its own segment. -/
theorem reads_leaf {chars rest : List Char} {segment : Segment} {kind : Kind} {leaf : Node}
    (cut : Cuts (chars ++ rest) [segment] rest) (makes : segment.kind? = some kind)
    (inner : kind.isOpen = false ∧ kind.isClose = false)
    (atom : ∀ position token, segment.token? position = some token → ofAtom token = .ok leaf) :
    Reads chars [leaf] rest :=
  ⟨[segment], 0, cut, fun assembly => builds_leaf makes inner atom assembly⟩

/-- A body between quotes is read as what is left of it without the backslashes before quotes. -/
theorem reads_quoted {body text rest : List Char}
    (ends : Rule.stringBody (body ++ '"' :: rest) = some (body.length + 1))
    (unescaped : unescapeQuotes ('"' :: body ++ ['"']) = '"' :: text ++ ['"']) :
    Reads ('"' :: body ++ ['"']) [.string (String.ofList text)] rest := by
  refine reads_leaf (cuts_quoted ends) rfl ⟨rfl, rfl⟩ fun position token made => ?_
  cases made
  rw [ofAtom]
  simp only [unescaped, if_pos]
  simp [stripDelimiters]

/-- A source string is read as its text. -/
theorem reads_string (text : String) (rest : List Char)
    (plain : ∀ char ∈ text.toList, char ≠ '\\') :
    Reads (sourceString text) [.string text] rest := by
  have unescaped : unescapeQuotes (sourceString text) = '"' :: text.toList ++ ['"'] := by
    have body := unescapeQuotes_sourceEscape text.toList ['"'] plain
    rw [sourceString, List.cons_append, unescapeQuotes, body]
    · rfl
    · simp
  have reads := reads_quoted (stringBody_sourceEscape text.toList rest plain) unescaped
  rwa [String.ofList_toList] at reads

/-- The decimal text of an integer is read as its double. -/
theorem reads_integer (units : Int) (small : units.natAbs < 2 ^ 53) {rest : List Char}
    (ends : Ends rest) : Reads (sourceInteger units) [.number (Float.ofInt units)] rest := by
  have body : Rule.numberBody (sourceInteger units) = (sourceInteger units).length := by
    have alone : Ends [] := by simp [Ends]
    have whole := numberBody_sourceInteger units alone
    rwa [List.append_nil] at whole
  have makes : Segment.kind? ⟨.number, sourceInteger units, 0⟩ = some .number := if_pos body
  have literal : Number.literal? (sourceInteger units) = some (Float.ofInt units) :=
    Number.literal?_toString units small
  refine reads_leaf (cuts_sourceInteger units ends) makes ⟨rfl, rfl⟩ fun position token made => ?_
  simp only [Segment.token?, makes, Option.map_some, Option.some_inj] at made
  subst made
  simp [ofAtom, literal]

/-- A list is read from its delimiters and its items, and withheld when it is quoted. -/
theorem reads_list (quoted : Bool) (items : List Node) (chars rest : List Char)
    (reads : Reads chars items (')' :: rest)) :
    Reads ((opening quoted).lexeme ++ chars ++ [')'])
      [if quoted then .quote (.list items) else .list items] rest := by
  obtain ⟨found, count, cut, builds⟩ := reads
  refine ⟨[opening quoted] ++ (found ++ [⟨.close, [')'], 0⟩]), count + 1, ?_, fun assembly => ?_⟩
  · rw [List.append_assoc, List.append_assoc]
    exact (cuts_opening quoted _).append (cut.append (cuts_closing rest))
  · obtain ⟨opened, closed, frames, forms⟩ := assembly
    have inside := builds ⟨opened + 1, closed, ⟨quoted, []⟩ :: frames, forms⟩
    rw [foldl_push_frame] at inside
    have finish := builds_closing ⟨quoted, items.reverse ++ []⟩ frames
      ⟨opened + 1 + count, closed + count, ⟨quoted, items.reverse ++ []⟩ :: frames, forms⟩ rfl
    have built := (builds_opening quoted ⟨opened, closed, frames, forms⟩).append
      (inside.append finish)
    have closes : Frame.close ⟨quoted, items.reverse ++ []⟩ =
        if quoted then .quote (.list items) else .list items := by
      simp [Frame.close]
    rw [closes] at built
    have final (node : Node) :
        push ⟨opened + 1 + count, closed + count + 1, frames, forms⟩ node =
          (push ⟨opened, closed, frames, forms⟩ node).balanced (count + 1) := by
      rw [Nat.add_right_comm opened 1 count]
      exact push_balanced ⟨opened, closed, frames, forms⟩ (count + 1) node
    exact final _ ▸ built

/-- The text of a node starts with no blank and no byte order mark. -/
theorem exists_source_cons {node : Node} (isSource : node.IsSource) :
    ∃ first tail, node.source = first :: tail ∧ isBlank first = false ∧ first.toNat ≠ 0xFEFF := by
  cases isSource with
  | string text plain => exact ⟨'"', _, rfl, rfl, by decide⟩
  | number value units whole small unsigned =>
    obtain ⟨first, tail, written⟩ := List.exists_cons_of_ne_nil (toString_ne_nil units)
    have inside : first ∈ sourceInteger units := by
      rw [sourceInteger, written]
      exact List.mem_cons_self
    refine ⟨first, tail, ?_, (isPlain_of_mem_sourceInteger inside).2.2.2.1, ?_⟩
    · rw [source, sourceNumber, whole, Option.getD_some, sourceInteger, written]
    · exact fun mark => (startsNumber_of_mem_toString inside).ne '\uFEFF' (by decide)
        (Char.toNat_inj.mp mark)
  | list items each => exact ⟨'(', _, rfl, rfl, by decide⟩
  | quote items each => exact ⟨'\x27', _, rfl, rfl, by decide⟩

/-- What follows an item ends it. -/
theorem ends_sourceRest (items : List Node) (rest : List Char) :
    Ends (sourceRest items ++ ')' :: rest) := by
  cases items with
  | nil => simp [sourceRest, Ends]
  | cons item items => simp [sourceRest, Ends]

/-- The later items of a list are read when each of them is. -/
theorem reads_sourceRest (items : List Node) (rest : List Char)
    (each : ∀ item ∈ items, item.IsSource ∧ ∀ rest, Ends rest → Reads item.source [item] rest) :
    Reads (sourceRest items) items (')' :: rest) := by
  induction items with
  | nil => exact ⟨[], 0, .done _, fun assembly => fun _ _ => rfl⟩
  | cons item items inductionHypothesis =>
    obtain ⟨isSource, reads⟩ := each item List.mem_cons_self
    have space : Reads [' '] [] ((item.source ++ sourceRest items) ++ ')' :: rest) := by
      obtain ⟨first, tail, written, visible, -⟩ := exists_source_cons isSource
      rw [written]
      exact ⟨[⟨.blank, [' '], 0⟩], 0, cuts_space _ visible, builds_blank [' ']⟩
    have later := inductionHypothesis fun other inside => each other (List.mem_cons_of_mem _ inside)
    have following := (reads _ (ends_sourceRest items rest)).append later
    exact space.append following

theorem reads_sourceItems (items : List Node) (rest : List Char)
    (each : ∀ item ∈ items, item.IsSource ∧ ∀ rest, Ends rest → Reads item.source [item] rest) :
    Reads (sourceItems items) items (')' :: rest) := by
  cases items with
  | nil => exact ⟨[], 0, .done _, fun assembly => fun _ _ => rfl⟩
  | cons item items =>
    obtain ⟨-, reads⟩ := each item List.mem_cons_self
    exact (reads _ (ends_sourceRest items rest)).append
      (reads_sourceRest items rest fun other inside => each other (List.mem_cons_of_mem _ inside))

/-- The source text of a node is read as that node. -/
theorem reads_source {node : Node} (isSource : node.IsSource) (rest : List Char)
    (ends : Ends rest) : Reads node.source [node] rest := by
  induction isSource generalizing rest with
  | string text plain => exact reads_string text rest fun char inside => (plain char inside).1
  | number value units whole small unsigned =>
    have reads := reads_integer units small ends
    rw [Number.ofInt_of_integer? value units whole small unsigned] at reads
    rwa [source, sourceNumber, whole, Option.getD_some]
  | list items each inductionHypothesis =>
    have inside := reads_sourceItems items rest fun item member =>
      ⟨each item member, inductionHypothesis item member⟩
    exact reads_list false items (sourceItems items) rest inside
  | quote items each inductionHypothesis =>
    have inside := reads_sourceItems items rest fun item member =>
      ⟨each item member, inductionHypothesis item member⟩
    exact reads_list true items (sourceItems items) rest inside

/-- The text of a node ends with no blank. -/
theorem exists_source_last {node : Node} (isSource : node.IsSource) :
    ∃ chars last, node.source = chars ++ [last] ∧ isBlank last = false := by
  cases isSource with
  | string text plain => exact ⟨_, '"', rfl, rfl⟩
  | number value units whole small unsigned =>
    rw [source, sourceNumber, whole, Option.getD_some]
    refine ⟨_, _, (List.dropLast_append_getLast (toString_ne_nil units)).symm, ?_⟩
    exact (isPlain_of_mem_sourceInteger (List.getLast_mem (toString_ne_nil units))).2.2.2.1
  | list items each => exact ⟨'(' :: sourceItems items, ')', rfl, rfl⟩
  | quote items each => exact ⟨'\x27' :: '(' :: sourceItems items, ')', rfl, rfl⟩

theorem mem_sourceRest {items : List Node} {char : Char} (inside : char ∈ sourceRest items) :
    char = ' ' ∨ ∃ item ∈ items, char ∈ item.source := by
  induction items with
  | nil => cases inside
  | cons item items inductionHypothesis =>
    rw [sourceRest, List.cons_append, List.mem_cons, List.mem_append] at inside
    rcases inside with space | head | tail
    · exact .inl space
    · exact .inr ⟨item, List.mem_cons_self, head⟩
    · rcases inductionHypothesis tail with space | ⟨other, member, found⟩
      · exact .inl space
      · exact .inr ⟨other, List.mem_cons_of_mem _ member, found⟩

theorem mem_sourceItems {items : List Node} {char : Char} (inside : char ∈ sourceItems items) :
    char = ' ' ∨ ∃ item ∈ items, char ∈ item.source := by
  cases items with
  | nil => cases inside
  | cons item items =>
    apply mem_sourceRest
    rw [sourceRest]
    exact List.mem_cons_of_mem _ inside

/-- The text of a node has no carriage return. -/
theorem return_notMem_source {node : Node} (isSource : node.IsSource) : '\r' ∉ node.source := by
  have listed (items : List Node) (each : ∀ item ∈ items, '\r' ∉ item.source) :
      '\r' ∉ source (.list items) := by
    simp only [source, List.cons_append, List.mem_cons, List.mem_append, List.not_mem_nil, or_false]
    rintro (opening | inside | closing)
    · cases opening
    · rcases mem_sourceItems inside with space | ⟨item, member, found⟩
      · cases space
      · exact each item member found
    · cases closing
  induction isSource with
  | string text plain =>
    simp only [source, sourceString, List.cons_append, List.mem_cons, List.mem_append,
      List.mem_flatMap, List.not_mem_nil, or_false]
    rintro (opening | ⟨char, member, found⟩ | closing)
    · cases opening
    · unfold sourceEscape at found
      split_ifs at found
      · simp at found
      · exact (plain char member).2 (List.mem_singleton.mp found).symm
    · cases closing
  | number value units whole small unsigned =>
    rw [source, sourceNumber, whole, Option.getD_some]
    exact fun inside => (startsNumber_of_mem_toString inside).ne '\r' (by decide) rfl
  | list items each inductionHypothesis => exact listed items inductionHypothesis
  | quote items each inductionHypothesis =>
    rw [source, List.mem_cons, not_or]
    exact ⟨by decide, listed items inductionHypothesis⟩

/-- The text of a node is clean. -/
theorem clean_source {node : Node} (isSource : node.IsSource) :
    clean node.source = node.source := by
  obtain ⟨first, tail, started, -, unmarked⟩ := exists_source_cons isSource
  obtain ⟨before, last, ended, visible⟩ := exists_source_last isSource
  exact clean_eq_self started unmarked (return_notMem_source isSource) ended visible

/-- A whole number below `2 ^ 53` is an integer on the wire. -/
theorem numberToJson_of_integer? {value : Float} {units : Int}
    (whole : Number.integer? value = some units) (small : units.natAbs < 2 ^ 53) :
    numberToJson value = .number (.integer units) := by
  have below := (Number.abs_lt_iff value units whole).mpr small
  unfold Number.integer? at whole
  split at whole
  · rename_i binary fields
    split at whole
    · rename_i integral
      cases whole
      simp [numberToJson, fields, integral, below]
    · cases whole
  · cases whole

theorem itemsOfJson_itemsToJson (items : List Node) (each : ∀ item ∈ items, item.canonical = item) :
    itemsOfJson (itemsToJson items) = items := by
  induction items with
  | nil => rfl
  | cons item items inductionHypothesis =>
    have head : ofJson item.toJson = item := each item List.mem_cons_self
    rw [itemsToJson, itemsOfJson, head,
      inductionHypothesis fun other inside => each other (List.mem_cons_of_mem _ inside)]

/-- A node that source text can hold is in canonical form. -/
theorem canonical_of_isSource {node : Node} (isSource : node.IsSource) : node.canonical = node := by
  induction isSource with
  | string text plain => rfl
  | number value units whole small unsigned =>
    rw [canonical, toJson, numberToJson_of_integer? whole small, ofJson, Json.Number.toFloat,
      Number.ofInt_of_integer? value units whole small unsigned]
  | list items each inductionHypothesis =>
    rw [canonical, toJson, ofJson, itemsOfJson_itemsToJson items inductionHypothesis]
  | quote items each inductionHypothesis =>
    rw [canonical, toJson, toJson, ofJson, if_pos rfl, ofJson,
      itemsOfJson_itemsToJson items inductionHypothesis]

def sourceText (node : Node) : String :=
  String.ofList node.source

/-- A node is parsed back from its source. -/
theorem parse_sourceText (node : Node) (isSource : node.IsSource) :
    parse node.sourceText = .ok (.list [node]) := by
  obtain ⟨found, count, cut, builds⟩ := reads_source isSource [] (by simp [Ends])
  rw [List.append_nil] at cut
  have parsed := parse_of_builds (clean_source isSource) cut (builds .empty)
  have program : IsSource (.list [node]) := .list [node] (by simpa using isSource)
  rwa [canonical_of_isSource program] at parsed

/-- A list with a string of delimiters, numbers, a quoted list and an empty list. -/
def tangled : Node :=
  .list [.string "a\") ; `'( \n", .number (-42.0), .quote (.list [.number 0.0, .string ""]),
    .list []]

theorem isSource_tangled : tangled.IsSource := by
  have string : IsSource (.string "a\") ; `'( \n") := .string _ (by simp)
  have number : IsSource (.number (-42.0)) :=
    .number _ (-42) (by decide +kernel) (by decide) (by decide +kernel)
  have zero : IsSource (.number 0.0) :=
    .number _ 0 (by decide +kernel) (by decide) (by decide +kernel)
  have empty : IsSource (.string "") := .string _ (by simp)
  refine .list _ ?_
  simp only [List.forall_mem_cons]
  exact ⟨string, number, .quote _ (by simp [zero, empty]), .list [] (by simp), by simp⟩

/-- Delimiters inside a string are no delimiters of the list around it. -/
theorem tangled_parsed :
    tangled.sourceText = "(\"a\\\") ; `'( \n\" -42 '(0 \"\") ())" ∧
      parse tangled.sourceText = .ok (.list [tangled]) :=
  ⟨by decide +kernel, parse_sourceText tangled isSource_tangled⟩

end Reduct.Node
