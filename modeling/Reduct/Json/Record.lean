import Reduct.Json.Skip

namespace Reduct.Json

open Reduct.Text Reduct.Json.Reader

variable {α : Type}

/-- The cause when a value of the wrong kind stands at the front of a text. -/
def unexpected (expected : String) (chars : List Char) : Fault :=
  match chars with
  | '[' :: _ => .invalidType .sequence expected
  | '\x7b' :: _ => .invalidType .map expected
  | _ =>
    match scalar chars with
    | .error fault => fault
    | .ok (.null, _) => .invalidType .null expected
    | .ok (.bool value, _) => .invalidType (.bool value) expected
    | .ok (.number value, _) => .invalidType (.number value) expected
    | .ok (.string text, _) => .invalidType (.string text) expected
    | .ok (.array _, _) => .invalidType .sequence expected
    | .ok (.object _, _) => .invalidType .map expected

def boolField (chars : List Char) : Except Fault (Bool × List Char) :=
  match skipSpace chars with
  | [] => .error .valueUnfinished
  | 't' :: rest => do pure (true, ← ident ['r', 'u', 'e'] rest)
  | 'f' :: rest => do pure (false, ← ident ['a', 'l', 's', 'e'] rest)
  | rest => .error (unexpected "a boolean" rest)

def stringField (chars : List Char) : Except Fault (String × List Char) :=
  match skipSpace chars with
  | [] => .error .valueUnfinished
  | '"' :: rest => stringRest rest
  | rest => .error (unexpected "a string" rest)

/-- A number that a field takes in its own way. -/
def numberField (expected : String) (accept : Json.Number → Except Fault α) (chars : List Char) :
    Except Fault (α × List Char) :=
  match skipSpace chars with
  | [] => .error .valueUnfinished
  | char :: rest =>
    if char = '-' ∨ isAsciiDigit char then do
      let (found, rest) ← Reader.number (char :: rest)
      let value ← accept found
      pure (value, rest)
    else .error (unexpected expected (char :: rest))

def floatField : List Char → Except Fault (Float × List Char) :=
  numberField "f64" fun found => .ok found.toFloat

/-- An integer that is not negative. -/
def naturalField : List Char → Except Fault (Nat × List Char) :=
  numberField "u64" fun found =>
    match found with
    | .integer value =>
      if 0 ≤ value then .ok value.toNat else .error (.invalidValue (.number found) "u64")
    | .real _ => .error (.invalidType (.number found) "u64")

/-- Null stands for an absent value. -/
def optionalField (field : List Char → Except Fault (α × List Char)) (chars : List Char) :
    Except Fault (Option α × List Char) :=
  match skipSpace chars with
  | 'n' :: rest => do pure (none, ← ident ['u', 'l', 'l'] rest)
  | rest => do
    let (value, rest) ← field rest
    pure (some value, rest)

/-- A record names its fields and says how each one is read into it. -/
structure Record (α : Type) where
  title : String
  fields : List String
  read : String → α → List Char → Except Fault (α × List Char)
  required : List String

namespace Record

/-- The members of an object are read into the record; unknown ones are passed over. -/
def members (record : Record α) :
    Nat → Bool → List String → α → List Char → Except Fault ((List String × α) × List Char)
  | 0, _, _, _, _ => .error .objectUnfinished
  | fuel + 1, first, seen, state, chars => do
    let (more, rest) ← nextKey first chars
    if more then
      let (name, rest) ← stringRest rest
      if seen.contains name then .error (.duplicateField name)
      else
        if record.fields.contains name then
          let (state, rest) ← record.read name state (← colon rest)
          members record fuel false (name :: seen) state rest
        else
          let rest ← colon rest
          let rest ← Skip.value (rest.length + 1) [] rest
          members record fuel false seen state rest
    else pure ((seen, state), rest)

/-- The items of an array are the fields in order, and the array may end early. -/
def items (record : Record α) : Nat → Bool → List String → α → List Char →
    Except Fault (α × List Char)
  | _, _, [], state, chars => .ok (state, chars)
  | index, first, name :: names, state, chars => do
    let (more, rest) ← nextItem first chars
    if more then
      let (state, rest) ← record.read name state rest
      items record (index + 1) false names state rest
    else if record.required.contains name then
      .error (.invalidLength index s!"{record.title} with {record.fields.length} elements")
    else pure (state, rest)

/-- Every required field has been seen. -/
def complete (record : Record α) (seen : List String) : Except Fault Unit :=
  match record.required.find? (!seen.contains ·) with
  | some name => .error (.missingField name)
  | none => .ok ()

def value (record : Record α) (initial : α) (chars : List Char) : Except Fault (α × List Char) :=
  match skipSpace chars with
  | [] => .error .valueUnfinished
  | '[' :: rest => do
    let (state, rest) ← record.items 0 true record.fields initial rest
    pure (state, ← endItems rest)
  | '\x7b' :: rest => do
    let ((seen, state), rest) ← record.members (rest.length + 1) true [] initial rest
    record.complete seen
    pure (state, ← endMembers rest)
  | rest => .error (unexpected record.title rest)

def ofText (record : Record α) (initial : α) (text : String) : Except Fault α := do
  let (state, rest) ← record.value initial text.toList
  finished rest
  pure state

end Record

end Reduct.Json
