import Reduct.Error
import Reduct.Json.Record

namespace Reduct

/-- The budget, the checks and the fallback of a session. Amounts are added to the balance, so
charges are negative. -/
structure Settings where
  debug : Bool := false
  balance : Option Float := none
  timeout : Option Nat := none
  seed : Option UInt64 := none
  quoteAmount : Float := -1.0
  invokeAmount : Float := -1.0
  sequenceAmount : Float := -1.0
  irreducibleCheck : Bool := true
  arityCheck : Bool := true
  preflightCheck : Bool := true
  allowImpure : Bool := true
  warnImpure : Bool := true
  fallback : String := "function-missing"

namespace Settings

/-- A balance is a number, and amounts are finite. -/
def validate (settings : Settings) : Except Error Unit :=
  if settings.balance.any Float.isNaN then .error (.settings .balanceNotNumber)
  else if settings.quoteAmount.isFinite && settings.invokeAmount.isFinite &&
      settings.sequenceAmount.isFinite then .ok ()
  else .error (.settings .amountNotFinite)

/-- A field is read and put into its place. -/
def place {α : Type} (field : List Char → Except Json.Fault (α × List Char))
    (put : α → Settings) (chars : List Char) : Except Json.Fault (Settings × List Char) := do
  let (value, rest) ← field chars
  pure (put value, rest)

def readField (field : String) (settings : Settings) :
    List Char → Except Json.Fault (Settings × List Char) :=
  match field with
  | "debug" => place Json.boolField fun value => { settings with debug := value }
  | "balance" =>
    place (Json.optionalField Json.floatField) fun value => { settings with balance := value }
  | "timeout_ms" =>
    place (Json.optionalField Json.naturalField) fun value => { settings with timeout := value }
  | "seed" =>
    place (Json.optionalField Json.naturalField) fun value =>
      { settings with seed := value.map Nat.toUInt64 }
  | "quote_transaction" =>
    place Json.floatField fun value => { settings with quoteAmount := value }
  | "invoke_transaction" =>
    place Json.floatField fun value => { settings with invokeAmount := value }
  | "sequence_transaction" =>
    place Json.floatField fun value => { settings with sequenceAmount := value }
  | "irreducible_list_check" =>
    place Json.boolField fun value => { settings with irreducibleCheck := value }
  | "runtime_type_check" => place Json.boolField fun value => { settings with arityCheck := value }
  | "preflight_type_check" =>
    place Json.boolField fun value => { settings with preflightCheck := value }
  | "allow_impure_functions" =>
    place Json.boolField fun value => { settings with allowImpure := value }
  | "warn_on_impure_functions" =>
    place Json.boolField fun value => { settings with warnImpure := value }
  | _ => place Json.stringField fun value => { settings with fallback := value }

/-- The fields of the wire form; each of them may be left out. -/
def record : Json.Record Settings where
  title := "struct Config"
  fields :=
    ["debug", "balance", "timeout_ms", "seed", "quote_transaction", "invoke_transaction",
      "sequence_transaction", "irreducible_list_check", "runtime_type_check",
      "preflight_type_check", "allow_impure_functions", "warn_on_impure_functions",
      "function_missing_name"]
  required := []
  read := readField

def ofText (text : String) : Except Error Settings := do
  let settings ← (record.ofText {} text).mapError fun fault => Error.settings (.json fault)
  settings.validate
  pure settings

/-- An absent value is null. -/
def optionalJson {α : Type} (json : α → Json) (value : Option α) : Json :=
  (value.map json).getD .null

/-- The wire form with its fields in order. -/
def toJson (settings : Settings) : Json :=
  let real (value : Float) : Json := .number (.real value)
  let natural (value : Nat) : Json := .number (.integer value)
  .object
    [("debug", .bool settings.debug),
      ("balance", optionalJson real settings.balance),
      ("timeout_ms", optionalJson natural settings.timeout),
      ("seed", optionalJson (natural ·.toNat) settings.seed),
      ("quote_transaction", real settings.quoteAmount),
      ("invoke_transaction", real settings.invokeAmount),
      ("sequence_transaction", real settings.sequenceAmount),
      ("irreducible_list_check", .bool settings.irreducibleCheck),
      ("runtime_type_check", .bool settings.arityCheck),
      ("preflight_type_check", .bool settings.preflightCheck),
      ("allow_impure_functions", .bool settings.allowImpure),
      ("warn_on_impure_functions", .bool settings.warnImpure),
      ("function_missing_name", .string settings.fallback)]

end Settings

end Reduct
