import Mathlib.Tactic
import Reduct.Proofs.SourceRoundTrip
/-! This file reads string literals. The backslashes before quotes are dropped from the whole lexeme,
its closing quote included, so a literal keeps its text unless two backslashes end it. -/

namespace Reduct

/-- A unit of a literal is a character that stands for itself or a backslash with any character. -/
inductive LiteralUnit where
  | plain (char : Char) (ordinary : char ≠ '\\' ∧ char ≠ '"')
  | pair (char : Char)

namespace LiteralUnit

open Token Node

/-- The characters of a unit in the source. -/
def written : LiteralUnit → List Char
  | .plain char _ => [char]
  | .pair char => ['\\', char]

/-- The characters that a unit stands for: a backslash before a quote is dropped, and any other
stays. -/
def meant : LiteralUnit → List Char
  | .plain char _ => [char]
  | .pair char => if char = '"' then ['"'] else ['\\', char]

def body (units : List LiteralUnit) : List Char :=
  units.flatMap written

/-- A literal stands between double quotes. -/
def literal (units : List LiteralUnit) : List Char :=
  '"' :: body units ++ ['"']

def text (units : List LiteralUnit) : List Char :=
  units.flatMap meant

/-- No unit starts with a quote. -/
theorem head?_body_append {units : List LiteralUnit} {rest : List Char}
    (apart : units = [] → rest.head? ≠ some '"') : (body units ++ rest).head? ≠ some '"' := by
  cases units with
  | nil => exact apart rfl
  | cons unit others =>
      cases unit with
      | plain char ordinary => simpa [body, written] using ordinary.2
      | pair char => simp [body, written]

/-- The body of a literal ends at its closing quote. -/
theorem stringBody_body (units : List LiteralUnit) (rest : List Char) :
    Rule.stringBody (body units ++ '"' :: rest) = some ((body units).length + 1) := by
  induction units with
  | nil => rfl
  | cons unit others inductionHypothesis =>
      cases unit with
      | plain char ordinary =>
          have later : Rule.stringBody (char :: (body others ++ '"' :: rest)) =
              (Rule.stringBody (body others ++ '"' :: rest)).map (· + 1) := by
            simp [Rule.stringBody, ordinary]
          exact later.trans (by rw [inductionHypothesis]; rfl)
      | pair char =>
          have later : Rule.stringBody ('\\' :: char :: (body others ++ '"' :: rest)) =
              (Rule.stringBody (body others ++ '"' :: rest)).map (· + 2) := rfl
          exact later.trans (by rw [inductionHypothesis]; rfl)

/-- A backslash that no quote follows stays. -/
theorem unescapeQuotes_backslash {rest : List Char} (apart : rest.head? ≠ some '"') :
    unescapeQuotes ('\\' :: rest) = '\\' :: unescapeQuotes rest := by
  cases rest with
  | nil => rfl
  | cons next rest =>
      have other : next ≠ '"' := by simpa using apart
      simp [unescapeQuotes, other]

theorem unescapeQuotes_of_ne {char : Char} (other : char ≠ '\\') (rest : List Char) :
    unescapeQuotes (char :: rest) = char :: unescapeQuotes rest := by
  simp [unescapeQuotes, other]

/-- Units are read as what they stand for unless two backslashes end them before a quote. -/
theorem unescapeQuotes_body {units : List LiteralUnit} {rest : List Char}
    (apart : units.getLast? = some (.pair '\\') → rest.head? ≠ some '"') :
    unescapeQuotes (body units ++ rest) = text units ++ unescapeQuotes rest := by
  induction units with
  | nil => rfl
  | cons unit others inductionHypothesis =>
      have later : unescapeQuotes (body others ++ rest) = text others ++ unescapeQuotes rest := by
        refine inductionHypothesis fun last => apart ?_
        rw [List.getLast?_cons, last]
        rfl
      cases unit with
      | plain char ordinary =>
          exact (unescapeQuotes_of_ne ordinary.1 _).trans (congrArg (char :: ·) later)
      | pair char =>
          change unescapeQuotes ('\\' :: char :: (body others ++ rest)) =
            (if char = '"' then ['"'] else ['\\', char]) ++ text others ++ unescapeQuotes rest
          by_cases quote : char = '"'
          · rw [if_pos quote, quote]
            exact congrArg ('"' :: ·) later
          · rw [if_neg quote, unescapeQuotes_backslash (by simpa using quote)]
            by_cases backslash : char = '\\'
            · -- The second backslash must not meet a quote either.
              subst backslash
              rw [unescapeQuotes_backslash (head?_body_append ?_), later]
              · rfl
              · rintro rfl
                exact apart rfl
            · rw [unescapeQuotes_of_ne backslash, later]
              rfl

/-- A literal without carriage returns is read alone. -/
theorem parse_literal {units : List LiteralUnit} {read : List Char}
    (returnless : '\r' ∉ literal units)
    (unescaped : unescapeQuotes (body units ++ ['"']) = read ++ ['"']) :
    parse (String.ofList (literal units)) = .ok (.list [.string (String.ofList read)]) := by
  have whole : unescapeQuotes ('"' :: body units ++ ['"']) = '"' :: read ++ ['"'] := by
    rw [List.cons_append, unescapeQuotes_of_ne (by decide), unescaped]
    rfl
  have cleaned : clean (literal units) = literal units :=
    clean_eq_self rfl (by decide) returnless rfl rfl
  obtain ⟨found, count, cut, builds⟩ := reads_quoted (stringBody_body units []) whole
  rw [List.append_nil] at cut
  exact parse_of_builds cleaned cut (builds .empty)

/-- Two backslashes at the end of a literal are read as one. -/
theorem parse_closing_pair {units : List LiteralUnit}
    (returnless : '\r' ∉ literal (units ++ [.pair '\\'])) :
    parse (String.ofList (literal (units ++ [.pair '\\']))) =
      .ok (.list [.string (String.ofList (text units ++ ['\\']))]) := by
  refine parse_literal returnless ?_
  have split : body (units ++ [.pair '\\']) ++ ['"'] = body units ++ ['\\', '\\', '"'] := by
    simp [body, written]
  rw [split, unescapeQuotes_body (by simp), List.append_assoc]
  rfl

/-- A literal keeps its text exactly when its last unit is no pair of backslashes, and otherwise it
loses the last of them. -/
theorem parse_literal_keeps_text_iff (units : List LiteralUnit)
    (returnless : '\r' ∉ literal units) :
    (parse (String.ofList (literal units)) = .ok (.list [.string (String.ofList (text units))]) ↔
      units.getLast? ≠ some (.pair '\\')) ∧
    ∀ others, units = others ++ [.pair '\\'] →
      text units = text others ++ ['\\', '\\'] ∧
        parse (String.ofList (literal units)) =
          .ok (.list [.string (String.ofList (text others ++ ['\\']))]) := by
  have closing (others : List LiteralUnit) (ended : units = others ++ [.pair '\\']) :
      text units = text others ++ ['\\', '\\'] ∧
        parse (String.ofList (literal units)) =
          .ok (.list [.string (String.ofList (text others ++ ['\\']))]) := by
    subst ended
    exact ⟨by simp [text, meant], parse_closing_pair returnless⟩
  refine ⟨⟨fun kept last => ?_, fun ends => ?_⟩, closing⟩
  · obtain ⟨others, ended⟩ := List.getLast?_eq_some_iff.mp last
    obtain ⟨longer, lost⟩ := closing others ended
    rw [lost, longer] at kept
    simp at kept
  · exact parse_literal returnless (unescapeQuotes_body fun last => absurd last ends)

/-- A plain character, a quote, two backslashes and a backslash before a letter. -/
def mixedPairs : List LiteralUnit :=
  [.plain 'a' (by decide), .pair '"', .pair '\\', .plain 'b' (by decide), .pair 'n']

/-- Only the backslash before the quote is dropped. -/
theorem mixedPairs_parsed :
    '\r' ∉ literal mixedPairs ∧ mixedPairs.getLast? ≠ some (.pair '\\') ∧
      String.ofList (literal mixedPairs) = "\"a\\\"\\\\b\\n\"" ∧
      parse "\"a\\\"\\\\b\\n\"" = .ok (.list [.string "a\"\\\\b\\n"]) := by
  have returnless : '\r' ∉ literal mixedPairs := by decide
  have ends : mixedPairs.getLast? ≠ some (.pair '\\') := by simp [mixedPairs]
  exact ⟨returnless, ends, rfl, (parse_literal_keeps_text_iff mixedPairs returnless).1.mpr ends⟩

/-- A letter and two backslashes. -/
def closingPair : List LiteralUnit :=
  [.plain 'a' (by decide), .pair '\\']

/-- The closing quote takes the last backslash of the text with it. -/
theorem closingPair_shortened :
    '\r' ∉ literal closingPair ∧ String.ofList (literal closingPair) = "\"a\\\\\"" ∧
      String.ofList (text closingPair) = "a\\\\" ∧
      parse "\"a\\\\\"" = .ok (.list [.string "a\\"]) ∧ "a\\" ≠ "a\\\\" := by
  have returnless : '\r' ∉ literal closingPair := by decide
  have parsed := @parse_closing_pair [.plain 'a' (by decide)] returnless
  exact ⟨returnless, rfl, rfl, parsed, by decide⟩

end LiteralUnit

end Reduct
