import Mathlib.Tactic
import Reduct.Node.Parse

namespace Reduct

namespace Token

/-- Segments are cut from the front of a text, and the rest is left. -/
inductive Cuts : List Char → List Segment → List Char → Prop
  | done (chars : List Char) : Cuts chars [] chars
  | step {chars rest : List Char} {segment : Segment} {later : List Segment}
      (next : nextSegment? chars = some segment)
      (cut : Cuts (chars.drop segment.length) later rest) : Cuts chars (segment :: later) rest

theorem Cuts.append {chars middle rest : List Char} {first second : List Segment}
    (cut : Cuts chars first middle) (later : Cuts middle second rest) :
    Cuts chars (first ++ second) rest := by
  induction cut with
  | done chars => exact later
  | step next _ inductionHypothesis => exact .step next (inductionHypothesis later)

theorem nextSegment?_nil : nextSegment? [] = none := by
  decide

/-- A segment takes at least one character. -/
theorem length_pos_of_nextSegment? {chars : List Char} {segment : Segment}
    (next : nextSegment? chars = some segment) : 0 < chars.length ∧ 0 < segment.length := by
  cases chars with
  | nil =>
    rw [nextSegment?_nil] at next
    cases next
  | cons char chars =>
    obtain ⟨rule, found, rfl⟩ := Option.map_eq_some_iff.mp next
    have applies : 0 < rule.span (char :: chars) := by simpa using List.find?_some found
    refine ⟨Nat.succ_pos _, ?_⟩
    simp only [Segment.length, List.length_take, List.length_cons]
    omega

/-- A text that is cut to its end is cut so with its length as the fuel. -/
theorem segments_of_cuts {chars rest : List Char} {found : List Segment}
    (cut : Cuts chars found rest) (ended : rest = []) (fuel : Nat) (enough : chars.length ≤ fuel) :
    segments fuel chars = (found, []) := by
  induction cut generalizing fuel with
  | done chars =>
    subst ended
    cases fuel with
    | zero => rfl
    | succ fuel => rw [segments, nextSegment?_nil]
  | step next _ inductionHypothesis =>
    obtain ⟨some, taken⟩ := length_pos_of_nextSegment? next
    cases fuel with
    | zero => omega
    | succ fuel =>
      have shorter := inductionHypothesis ended fuel (by rw [List.length_drop]; omega)
      rw [segments, next]
      simp only [shorter]

/-- The tokens of two runs of segments stand one after the other. -/
theorem tokensFrom_append (first second : List Segment) (position : Position) (chars : List Char) :
    ∃ place rest, (tokensFrom position chars (first ++ second)).1 =
      (tokensFrom position chars first).1 ++ (tokensFrom place rest second).1 := by
  induction first generalizing position chars with
  | nil => exact ⟨position, chars, rfl⟩
  | cons segment first inductionHypothesis =>
    obtain ⟨place, rest, tokens⟩ := inductionHypothesis
      (position.after (chars.take segment.length)) (chars.drop segment.length)
    refine ⟨place, rest, ?_⟩
    simp only [List.cons_append, tokensFrom, tokens, List.append_assoc]

end Token

namespace Node

open Token (Segment Cuts)

namespace Assembly

theorem steps_append (assembly : Assembly) (first second : List Token) :
    assembly.steps (first ++ second) = (do (← assembly.steps first).steps second) := by
  induction first generalizing assembly with
  | nil => rfl
  | cons token first inductionHypothesis =>
    rw [List.cons_append, steps, steps, bind_assoc]
    congr 1
    funext next
    exact inductionHypothesis next

/-- The tokens of segments lead from one assembly to another, wherever the segments stand. -/
def Builds (found : List Segment) (start final : Assembly) : Prop :=
  ∀ position chars, start.steps (Token.tokensFrom position chars found).1 = .ok final

theorem Builds.append {first second : List Segment} {start middle final : Assembly}
    (built : Builds first start middle) (later : Builds second middle final) :
    Builds (first ++ second) start final := by
  intro position chars
  obtain ⟨place, rest, tokens⟩ := Token.tokensFrom_append first second position chars
  rw [tokens, steps_append, built position chars]
  exact later place rest

/-- An assembly after as many more opening as closing delimiters. -/
def balanced (assembly : Assembly) (count : Nat) : Assembly :=
  { assembly with opened := assembly.opened + count, closed := assembly.closed + count }

theorem balanced_balanced (assembly : Assembly) (first second : Nat) :
    (assembly.balanced first).balanced second = assembly.balanced (first + second) := by
  simp [balanced, Nat.add_assoc]

theorem push_balanced (assembly : Assembly) (count : Nat) (node : Node) :
    (assembly.balanced count).push node = (assembly.push node).balanced count := by
  obtain ⟨opened, closed, frames, forms⟩ := assembly
  cases frames <;> rfl

theorem foldl_push_balanced (assembly : Assembly) (count : Nat) (nodes : List Node) :
    nodes.foldl push (assembly.balanced count) = (nodes.foldl push assembly).balanced count := by
  induction nodes generalizing assembly with
  | nil => rfl
  | cons node nodes inductionHypothesis =>
    rw [List.foldl_cons, push_balanced, inductionHypothesis, List.foldl_cons]

/-- Nodes join the innermost frame in reverse. -/
theorem foldl_push_frame (opened closed : Nat) (frame : Frame) (outer : List Frame)
    (forms nodes : List Node) :
    nodes.foldl push ⟨opened, closed, frame :: outer, forms⟩ =
      ⟨opened, closed, { frame with items := nodes.reverse ++ frame.items } :: outer, forms⟩ := by
  induction nodes generalizing frame with
  | nil => rfl
  | cons node nodes inductionHypothesis =>
    rw [List.foldl_cons, push, inductionHypothesis]
    simp

/-- Blanks build nothing. -/
theorem builds_blank (lexeme : List Char) (assembly : Assembly) :
    Builds [⟨.blank, lexeme, 0⟩] assembly assembly :=
  fun _ _ => rfl

/-- A segment that opens a list, with or without a quote. -/
def opening (quoted : Bool) : Segment :=
  if quoted then ⟨.openQuote, ['\x27', '('], 0⟩ else ⟨.openList, ['('], 0⟩

/-- An opening segment adds a frame. -/
theorem builds_opening (quoted : Bool) (assembly : Assembly) :
    Builds [opening quoted] assembly
      { assembly with
        opened := assembly.opened + 1
        frames := ⟨quoted, []⟩ :: assembly.frames } := by
  intro position chars
  cases quoted <;> rfl

/-- The closing segment turns the innermost frame into a node. -/
theorem builds_closing (frame : Frame) (outer : List Frame) (assembly : Assembly)
    (innermost : assembly.frames = frame :: outer) :
    Builds [⟨.close, [')'], 0⟩] assembly
      (push { assembly with closed := assembly.closed + 1, frames := outer } frame.close) := by
  obtain ⟨opened, closed, frames, forms⟩ := assembly
  subst innermost
  exact fun _ _ => rfl

/-- A segment that makes the token of a leaf adds that leaf. -/
theorem builds_leaf {segment : Segment} {kind : Token.Kind} {leaf : Node}
    (makes : segment.kind? = some kind) (inner : kind.isOpen = false ∧ kind.isClose = false)
    (reads : ∀ position token, segment.token? position = some token → ofAtom token = .ok leaf)
    (assembly : Assembly) : Builds [segment] assembly (assembly.push leaf) := by
  intro position chars
  obtain ⟨token, made, sort⟩ :
      ∃ token, segment.token? position = some token ∧ token.kind = kind := by
    simp [Segment.token?, makes]
  have tokens : (Token.tokensFrom position chars [segment]).1 = [token] := by
    simp [Token.tokensFrom, made]
  rw [tokens, steps, step, sort, inner.1, inner.2, reads position token made]
  rfl

end Assembly

/-- A text that is cut to its end and builds one form is the source of that form. -/
theorem parse_of_builds {chars : List Char} {found : List Segment} {count : Nat} {form : Node}
    (cleaned : Token.clean chars = chars) (cut : Cuts chars found [])
    (built : Assembly.Builds found .empty ((Assembly.empty.push form).balanced count)) :
    parse (String.ofList chars) = .ok (canonical (.list [form])) := by
  have scanned : Token.scan (String.ofList chars) =
      .ok (Token.tokensFrom .start chars found).1 := by
    simp [Token.scan, String.toList_ofList, cleaned, Token.segments_of_cuts cut rfl _ le_rfl]
  rw [parse, scanned]
  change (do
    let assembly ← Assembly.empty.steps (Token.tokensFrom .start chars found).1
    if assembly.closed < assembly.opened then
      Except.error (.mismatchedOpen assembly.closed assembly.opened)
    else pure (canonical (.list assembly.forms.reverse))) = _
  rw [built .start chars]
  change (if 0 + count < 0 + count then _ else _) = _
  rw [if_neg (Nat.lt_irrefl _)]
  rfl

end Node

end Reduct
