import Reduct.Proofs.Segments
/-! This file states the grammar of tokens. Assembly accepts exactly the programs of the grammar,
and otherwise reports the first token that offends against it or the lists that are never closed. -/

namespace Reduct

namespace Token

def opens (tokens : List Token) : Nat :=
  tokens.countP (·.kind.isOpen)

def closes (tokens : List Token) : Nat :=
  tokens.countP (·.kind.isClose)

theorem opens_snoc (tokens : List Token) (token : Token) :
    opens (tokens ++ [token]) = opens tokens + if token.kind.isOpen then 1 else 0 := by
  simp [opens, List.countP_cons]

theorem closes_snoc (tokens : List Token) (token : Token) :
    closes (tokens ++ [token]) = closes tokens + if token.kind.isClose then 1 else 0 := by
  simp [closes, List.countP_cons]

end Token

namespace Node

/-- The tree of some forms after a delimiter that opens a list; quotes and arrays are withheld. -/
def enclosed? : Token.Kind → List Node → Option Node
  | .openList, nodes => some (.list nodes)
  | .openQuote, nodes => some (.quote (.list nodes))
  | .openArray, nodes => some (.quote (.list nodes))
  | _, _ => none

mutual

/-- The tokens of one form, with its tree: a leaf that can be decoded, or forms between a delimiter
that opens a list and any delimiter that closes one. -/
inductive Form : List Token → Node → Prop
  | atom {token : Token} {node : Node} (opens : token.kind.isOpen = false)
      (closes : token.kind.isClose = false) (decoded : ofAtom token = .ok node) :
      Form [token] node
  | enclosed {opening closing : Token} {inner : List Token} {nodes : List Node} {node : Node}
      (forms : Forms inner nodes) (opens : enclosed? opening.kind nodes = some node)
      (closes : closing.kind.isClose = true) : Form (opening :: (inner ++ [closing])) node

/-- The tokens of forms one after another, with their trees in order. -/
inductive Forms : List Token → List Node → Prop
  | nil : Forms [] []
  | cons {first rest : List Token} {node : Node} {nodes : List Node} (form : Form first node)
      (forms : Forms rest nodes) : Forms (first ++ rest) (node :: nodes)

end

/-- A token after others that cannot go on with them: a leaf that cannot be decoded, or a closing
delimiter where every list is closed already. -/
inductive Offends (before : List Token) (token : Token) : Error → Prop
  | atom {error : Error} (opens : token.kind.isOpen = false) (closes : token.kind.isClose = false)
      (undecoded : ofAtom token = .error error) : Offends before token error
  | close (closes : token.kind.isClose = true) (closed : Token.opens before ≤ Token.closes before) :
      Offends before token (.mismatchedClose (Token.opens before + 1) (Token.opens before))

/-- No token offends. -/
def Blameless (tokens : List Token) : Prop :=
  ∀ before token after error, tokens = before ++ token :: after → ¬ Offends before token error

/-- The first token that offends does so with an error. -/
def FirstOffence (tokens : List Token) (error : Error) : Prop :=
  ∃ before token after, tokens = before ++ token :: after ∧ Blameless before ∧
    Offends before token error

/-- What the grammar says of tokens: forms are a program whose tree is the list of theirs in
canonical form. Otherwise the first offence decides the error, and without one more lists are opened
than closed. -/
inductive Verdict (tokens : List Token) : Except Error Node → Prop
  | program {nodes : List Node} (forms : Forms tokens nodes) :
      Verdict tokens (.ok (canonical (.list nodes)))
  | offence {error : Error} (first : FirstOffence tokens error) : Verdict tokens (.error error)
  | unclosed (blameless : Blameless tokens) (more : Token.closes tokens < Token.opens tokens) :
      Verdict tokens (.error (.mismatchedOpen (Token.closes tokens) (Token.opens tokens)))

theorem Forms.append {first second : List Token} {nodes later : List Node}
    (forms : Forms first nodes) (more : Forms second later) :
    Forms (first ++ second) (nodes ++ later) := by
  induction nodes generalizing first with
  | nil =>
      cases forms
      exact more
  | cons node nodes inductionHypothesis =>
      cases forms with
      | cons form rest =>
          rw [List.append_assoc, List.cons_append]
          exact .cons form (inductionHypothesis rest)

theorem Form.forms {tokens : List Token} {node : Node} (form : Form tokens node) :
    Forms tokens [node] := by
  have single : Forms (tokens ++ []) [node] := .cons form .nil
  rwa [List.append_nil] at single

theorem blameless_nil : Blameless [] := by
  intro before token after error split
  simp at split

/-- A token that does not offend leaves the tokens before it blameless together with it. -/
theorem Blameless.snoc {tokens : List Token} {token : Token} (blameless : Blameless tokens)
    (harmless : ∀ error, ¬ Offends tokens token error) : Blameless (tokens ++ [token]) := by
  intro before other after error split offends
  rcases List.eq_nil_or_concat after with rfl | ⟨inner, last, rfl⟩
  · obtain ⟨rfl, same⟩ := List.append_inj' split rfl
    cases same
    exact harmless error offends
  · have regrouped : tokens ++ [token] = (before ++ other :: inner) ++ [last] := by
      simpa using split
    obtain ⟨same, -⟩ := List.append_inj' regrouped rfl
    exact blameless before other inner error same offends

theorem FirstOffence.append {tokens : List Token} {error : Error}
    (offence : FirstOffence tokens error) (more : List Token) :
    FirstOffence (tokens ++ more) error := by
  obtain ⟨before, token, after, rfl, blameless, offends⟩ := offence
  exact ⟨before, token, after ++ more, by simp, blameless, offends⟩

/-- Blameless tokens have no first offence. -/
theorem FirstOffence.not_blameless {tokens : List Token} {error : Error}
    (offence : FirstOffence tokens error) : ¬ Blameless tokens := by
  obtain ⟨before, token, after, split, -, offends⟩ := offence
  exact fun blameless => blameless before token after error split offends

/-- A frame that an opening delimiter starts is closed to the tree of its forms. -/
theorem enclosed?_eq_close {kind : Token.Kind} (opens : kind.isOpen = true) (nodes : List Node) :
    enclosed? kind nodes =
      some (Frame.close ⟨decide (kind ≠ .openList), nodes.reverse⟩) := by
  cases kind <;> simp_all [enclosed?, Frame.close, Token.Kind.isOpen]

theorem isOpen_of_enclosed? {kind : Token.Kind} {nodes : List Node} {node : Node}
    (opens : enclosed? kind nodes = some node) : kind.isOpen = true := by
  cases kind <;> simp_all [enclosed?, Token.Kind.isOpen]

theorem isOpen_eq_false_of_isClose {kind : Token.Kind} (closes : kind.isClose = true) :
    kind.isOpen = false := by
  cases kind <;> simp_all [Token.Kind.isOpen, Token.Kind.isClose]

theorem isClose_eq_false_of_isOpen {kind : Token.Kind} (opens : kind.isOpen = true) :
    kind.isClose = false := by
  cases kind <;> simp_all [Token.Kind.isOpen, Token.Kind.isClose]

namespace Assembly

variable {assembly next : Assembly} {token : Token}

theorem step_opening (assembly : Assembly) (opens : token.kind.isOpen = true) :
    assembly.step token =
      .ok { assembly with
        opened := assembly.opened + 1
        frames := ⟨decide (token.kind ≠ .openList), []⟩ :: assembly.frames } := by
  rw [step, if_pos opens]

/-- A closing delimiter needs an open frame. -/
theorem step_unopened (closes : token.kind.isClose = true) (none : assembly.frames = []) :
    assembly.step token = .error (.mismatchedClose (assembly.closed + 1) assembly.opened) := by
  rw [step, isOpen_eq_false_of_isClose closes, if_neg Bool.false_ne_true, if_pos closes, none]

/-- A closing delimiter turns the innermost frame into a node. -/
theorem step_closing {frame : Frame} {outer : List Frame} (closes : token.kind.isClose = true)
    (innermost : assembly.frames = frame :: outer) :
    assembly.step token =
      .ok (push { assembly with closed := assembly.closed + 1, frames := outer } frame.close) := by
  rw [step, isOpen_eq_false_of_isClose closes, if_neg Bool.false_ne_true, if_pos closes, innermost]

/-- A token that is no delimiter joins the innermost frame when it can be decoded. -/
theorem step_leaf (assembly : Assembly) (opens : token.kind.isOpen = false)
    (closes : token.kind.isClose = false) :
    assembly.step token = (ofAtom token).map assembly.push := by
  rw [step, opens, closes, if_neg Bool.false_ne_true, if_neg Bool.false_ne_true]
  rfl

theorem steps_snoc (assembly : Assembly) (tokens : List Token) (token : Token) :
    assembly.steps (tokens ++ [token]) = (do (← assembly.steps tokens).step token) := by
  rw [steps_append]
  congr 1
  funext middle
  rw [steps]
  exact bind_pure _

/-- What tokens leave behind: forms that are finished, and one frame for every list that is still
open, with the forms inside it. -/
inductive Leaves : List Token → List Frame → List Node → Prop
  | forms {tokens : List Token} {forms : List Node} (derived : Forms tokens forms.reverse) :
      Leaves tokens [] forms
  | frame {before inner : List Token} {opening : Token} {frames : List Frame}
      {forms items : List Node} (outer : Leaves before frames forms)
      (opens : opening.kind.isOpen = true) (derived : Forms inner items.reverse) :
      Leaves (before ++ opening :: inner)
        (⟨decide (opening.kind ≠ .openList), items⟩ :: frames) forms

/-- A further form joins the innermost list. -/
theorem Leaves.push {tokens more : List Token} {node : Node} {frames : List Frame}
    {forms : List Node} (leaves : Leaves tokens frames forms) (form : Form more node)
    (opened closed : Nat) :
    Leaves (tokens ++ more) (Assembly.push ⟨opened, closed, frames, forms⟩ node).frames
      (Assembly.push ⟨opened, closed, frames, forms⟩ node).forms := by
  cases leaves with
  | forms derived =>
      have longer := derived.append form.forms
      rw [← List.reverse_cons] at longer
      exact .forms longer
  | frame outer opens derived =>
      have longer := derived.append form.forms
      rw [← List.reverse_cons] at longer
      rw [List.append_assoc]
      exact .frame outer opens longer

/-- An assembly that tokens lead to counts their delimiters and holds what they leave behind. -/
structure Reached (tokens : List Token) (assembly : Assembly) : Prop where
  opened : assembly.opened = Token.opens tokens
  closed : assembly.closed = Token.closes tokens
  depth : assembly.opened = assembly.closed + assembly.frames.length
  leaves : Leaves tokens assembly.frames assembly.forms

theorem reached_empty : Reached [] .empty :=
  ⟨rfl, rfl, rfl, .forms .nil⟩

@[simp] theorem push_opened (assembly : Assembly) (node : Node) :
    (assembly.push node).opened = assembly.opened := by
  unfold push
  split <;> rfl

@[simp] theorem push_closed (assembly : Assembly) (node : Node) :
    (assembly.push node).closed = assembly.closed := by
  unfold push
  split <;> rfl

@[simp] theorem length_push_frames (assembly : Assembly) (node : Node) :
    (assembly.push node).frames.length = assembly.frames.length := by
  obtain ⟨opened, closed, frames, forms⟩ := assembly
  cases frames <;> rfl

/-- An opening delimiter leaves one more list open. -/
theorem Reached.opening {before : List Token} (reached : Reached before assembly)
    (opens : token.kind.isOpen = true) :
    Reached (before ++ [token])
      { assembly with
        opened := assembly.opened + 1
        frames := ⟨decide (token.kind ≠ .openList), []⟩ :: assembly.frames } where
  opened := by rw [Token.opens_snoc, if_pos opens, reached.opened]
  closed := by
    rw [Token.closes_snoc, isClose_eq_false_of_isOpen opens, if_neg Bool.false_ne_true]
    exact reached.closed
  depth := by
    have depth := reached.depth
    simp only [List.length_cons]
    omega
  leaves := .frame reached.leaves opens .nil

/-- A closing delimiter makes a form of the innermost list. -/
theorem Reached.closing {before : List Token} {frame : Frame} {outer : List Frame}
    (reached : Reached before assembly) (closes : token.kind.isClose = true)
    (innermost : assembly.frames = frame :: outer) :
    Reached (before ++ [token])
      (push { assembly with closed := assembly.closed + 1, frames := outer } frame.close) := by
  obtain ⟨opened, closed, depth, leaves⟩ := reached
  rw [innermost] at depth leaves
  refine ⟨?_, ?_, ?_, ?_⟩
  · rw [push_opened, Token.opens_snoc, isOpen_eq_false_of_isClose closes,
      if_neg Bool.false_ne_true]
    exact opened
  · rw [push_closed, Token.closes_snoc, if_pos closes, closed]
  · rw [push_opened, push_closed, length_push_frames]
    rw [List.length_cons] at depth
    dsimp only
    omega
  · cases leaves with
    | frame outside opens derived =>
        have form := Form.enclosed derived (enclosed?_eq_close opens _) closes
        rw [List.reverse_reverse] at form
        have joined := outside.push form assembly.opened (assembly.closed + 1)
        rwa [List.append_assoc, List.cons_append]

/-- A leaf joins the innermost list. -/
theorem Reached.leaf {before : List Token} {node : Node} (reached : Reached before assembly)
    (opens : token.kind.isOpen = false) (closes : token.kind.isClose = false)
    (decoded : ofAtom token = .ok node) : Reached (before ++ [token]) (assembly.push node) where
  opened := by
    rw [push_opened, Token.opens_snoc, opens, if_neg Bool.false_ne_true]
    exact reached.opened
  closed := by
    rw [push_closed, Token.closes_snoc, closes, if_neg Bool.false_ne_true]
    exact reached.closed
  depth := by
    rw [push_opened, push_closed, length_push_frames]
    exact reached.depth
  leaves := reached.leaves.push (.atom opens closes decoded) assembly.opened assembly.closed

/-- A token is taken, and the longer tokens reach the next assembly, or it offends with the error of
its step. -/
theorem Reached.step {before : List Token} (reached : Reached before assembly) (token : Token) :
    (∃ next, assembly.step token = .ok next ∧ Reached (before ++ [token]) next ∧
      ∀ error, ¬ Offends before token error) ∨
    ∃ error, assembly.step token = .error error ∧ Offends before token error := by
  by_cases opens : token.kind.isOpen = true
  · refine .inl ⟨_, step_opening assembly opens, reached.opening opens, fun error offends => ?_⟩
    cases offends with
    | atom leaf => rw [opens] at leaf; cases leaf
    | close closes => rw [isOpen_eq_false_of_isClose closes] at opens; cases opens
  rw [Bool.not_eq_true] at opens
  by_cases closes : token.kind.isClose = true
  · have depth := reached.depth
    cases frames : assembly.frames with
    | nil =>
        rw [frames, reached.opened, reached.closed, List.length_nil, Nat.add_zero] at depth
        refine .inr ⟨_, step_unopened closes frames, ?_⟩
        rw [reached.opened, reached.closed, ← depth]
        exact .close closes depth.le
    | cons frame outer =>
        rw [frames, reached.opened, reached.closed, List.length_cons] at depth
        refine .inl ⟨_, step_closing closes frames, reached.closing closes frames,
          fun error offends => ?_⟩
        cases offends with
        | atom _ leaf => rw [closes] at leaf; cases leaf
        | close _ closed => omega
  rw [Bool.not_eq_true] at closes
  rw [step_leaf assembly opens closes]
  cases decoded : ofAtom token with
  | error error => exact .inr ⟨error, rfl, .atom opens closes decoded⟩
  | ok node =>
      refine .inl ⟨_, rfl, reached.leaf opens closes decoded, fun error offends => ?_⟩
      cases offends with
      | atom _ _ undecoded => rw [decoded] at undecoded; cases undecoded
      | close close => rw [closes] at close; cases close

/-- Tokens from the start are all taken and blameless, or the first of them that offends decides the
error. -/
theorem steps_cases (tokens : List Token) :
    (∃ final, empty.steps tokens = .ok final ∧ Reached tokens final ∧ Blameless tokens) ∨
    ∃ error, empty.steps tokens = .error error ∧ FirstOffence tokens error := by
  induction tokens using List.reverseRecOn with
  | nil => exact .inl ⟨empty, rfl, reached_empty, blameless_nil⟩
  | append_singleton tokens token inductionHypothesis =>
      rw [steps_snoc]
      obtain ⟨middle, taken, reached, blameless⟩ | ⟨error, failed, offence⟩ := inductionHypothesis
      · rw [taken]
        obtain ⟨next, stepped, further, harmless⟩ | ⟨error, failed, offends⟩ := reached.step token
        · exact .inl ⟨next, stepped, further, blameless.snoc harmless⟩
        · exact .inr ⟨error, failed, tokens, token, [], rfl, blameless, offends⟩
      · rw [failed]
        exact .inr ⟨error, rfl, offence.append [token]⟩

end Assembly

/-- A token offends with one error. -/
theorem Offends.unique {before : List Token} {token : Token} {error other : Error}
    (offends : Offends before token error) (again : Offends before token other) :
    error = other := by
  cases offends with
  | atom opens closes undecoded =>
      cases again with
      | atom _ _ same =>
          rw [undecoded] at same
          exact Except.error.inj same
      | close closing => rw [closes] at closing; cases closing
  | close closing =>
      cases again with
      | atom _ closes => rw [closes] at closing; cases closing
      | close => rfl

namespace Assembly

/-- The first offence is the error of the steps. -/
theorem steps_eq_error {tokens : List Token} {error : Error} (offence : FirstOffence tokens error) :
    empty.steps tokens = .error error := by
  obtain ⟨before, token, after, rfl, blameless, offends⟩ := offence
  obtain ⟨middle, taken, reached, -⟩ | ⟨_, _, offence⟩ := steps_cases before
  · obtain ⟨_, _, _, harmless⟩ | ⟨other, failed, same⟩ := reached.step token
    · exact absurd offends (harmless error)
    · rw [steps_append, taken, offends.unique same]
      change (middle.step token >>= fun next => next.steps after) = _
      rw [failed]
      rfl
  · exact absurd blameless offence.not_blameless

/-- Forms between an opening and a closing delimiter add the list of their trees. -/
theorem steps_enclosed {opening closing : Token} {inner : List Token} {nodes : List Node}
    {count : Nat} (opens : opening.kind.isOpen = true) (closes : closing.kind.isClose = true)
    (taken : ∀ assembly : Assembly,
      assembly.steps inner = .ok ((nodes.foldl push assembly).balanced count))
    (assembly : Assembly) :
    assembly.steps (opening :: (inner ++ [closing])) =
      .ok ((assembly.push (Frame.close ⟨decide (opening.kind ≠ .openList), nodes.reverse⟩)).balanced
        (count + 1)) := by
  obtain ⟨opened, closed, frames, forms⟩ := assembly
  rw [steps, step_opening _ opens]
  change Assembly.steps ⟨opened + 1, closed, ⟨_, []⟩ :: frames, forms⟩ (inner ++ [closing]) = _
  rw [steps_snoc, taken, foldl_push_frame, List.append_nil]
  change Assembly.step ⟨opened + 1 + count, closed + count, ⟨_, nodes.reverse⟩ :: frames, forms⟩
    closing = _
  rw [step_closing closes rfl, ← push_balanced, Nat.add_right_comm opened 1 count]
  rfl

mutual

/-- The tokens of a form add its tree, and open as many lists as they close. -/
theorem steps_form : ∀ {tokens : List Token} {node : Node}, Form tokens node →
    ∃ count, ∀ assembly : Assembly,
      assembly.steps tokens = .ok ((assembly.push node).balanced count)
  | _, _, .atom opens closes decoded => by
      refine ⟨0, fun assembly => ?_⟩
      rw [steps, step_leaf assembly opens closes, decoded]
      rfl
  | _, _, .enclosed forms opens closes => by
      obtain ⟨count, taken⟩ := steps_forms forms
      have isOpen := isOpen_of_enclosed? opens
      rw [enclosed?_eq_close isOpen] at opens
      cases opens
      exact ⟨count + 1, steps_enclosed isOpen closes taken⟩

/-- The tokens of forms add their trees in order, and open as many lists as they close. -/
theorem steps_forms : ∀ {tokens : List Token} {nodes : List Node}, Forms tokens nodes →
    ∃ count, ∀ assembly : Assembly,
      assembly.steps tokens = .ok ((nodes.foldl push assembly).balanced count)
  | _, _, .nil => ⟨0, fun assembly => rfl⟩
  | _, _, .cons form forms => by
      obtain ⟨first, before⟩ := steps_form form
      obtain ⟨second, later⟩ := steps_forms forms
      refine ⟨first + second, fun assembly => ?_⟩
      rw [steps_append, before]
      change ((assembly.push _).balanced first).steps _ = _
      rw [later, foldl_push_balanced, balanced_balanced]
      rfl

end

/-- Forms from the start are finished in reverse, and no list is left open. -/
theorem foldl_push_empty (nodes : List Node) (forms : List Node) :
    nodes.foldl push ⟨0, 0, [], forms⟩ = ⟨0, 0, [], nodes.reverse ++ forms⟩ := by
  induction nodes generalizing forms with
  | nil => rfl
  | cons node nodes inductionHypothesis =>
      rw [List.foldl_cons, push, inductionHypothesis]
      simp

end Assembly

/-- Assembly comes to the verdict of the grammar. -/
theorem verdict_ofTokens (tokens : List Token) : Verdict tokens (ofTokens tokens) := by
  unfold ofTokens
  obtain ⟨final, taken, reached, blameless⟩ | ⟨error, failed, offence⟩ :=
    Assembly.steps_cases tokens
  · obtain ⟨opened, closed, depth, leaves⟩ := reached
    rw [taken]
    change Verdict tokens (if final.closed < final.opened then _ else _)
    split_ifs with more
    · rw [opened, closed] at more ⊢
      exact .unclosed blameless more
    · have balanced : final.frames = [] := List.length_eq_zero_iff.mp (by omega)
      rw [balanced] at leaves
      cases leaves with
      | forms derived => exact .program derived
  · rw [failed]
    exact .offence offence

/-- The verdict of the grammar is the outcome of assembly. -/
theorem ofTokens_eq_of_verdict {tokens : List Token} {outcome : Except Error Node}
    (verdict : Verdict tokens outcome) : ofTokens tokens = outcome := by
  unfold ofTokens
  cases verdict with
  | program forms =>
      obtain ⟨count, taken⟩ := Assembly.steps_forms forms
      rw [taken, Assembly.empty, Assembly.foldl_push_empty]
      change (if 0 + count < 0 + count then _ else _) = _
      rw [if_neg (Nat.lt_irrefl _), List.append_nil, Assembly.balanced, List.reverse_reverse]
      rfl
  | offence first =>
      rw [Assembly.steps_eq_error first]
      rfl
  | unclosed blameless more =>
      obtain ⟨final, taken, reached, -⟩ | ⟨_, _, offence⟩ := Assembly.steps_cases tokens
      · rw [taken]
        change (if final.closed < final.opened then _ else _) = _
        rw [reached.opened, reached.closed, if_pos more]
      · exact absurd blameless offence.not_blameless

/-- Tokens are accepted when they derive from the grammar, with the tree of their derivation, and
refused otherwise for their first offence or for the lists that they leave open. -/
theorem ofTokens_eq_iff_verdict (tokens : List Token) (outcome : Except Error Node) :
    ofTokens tokens = outcome ↔ Verdict tokens outcome := by
  constructor
  · rintro rfl
    exact verdict_ofTokens tokens
  · exact ofTokens_eq_of_verdict

end Node

end Reduct
