import TemplateStream.Context

/-!
# Resolution of parameters

References are replaced by the values of the context. If a helper declares parameters or is
strict, the given values are then matched with the declared parameters, coerced to their types
and checked; otherwise they are taken as they are.
-/

namespace TemplateStream.Parameter

/-- Texts that stand for true. -/
def trueTexts : List String := ["1", "true", "yes", "on"]

/-- Texts that stand for false. -/
def falseTexts : List String := ["0", "false", "no", "off"]

/-- The truth value that a value stands for: by itself, or by its text. -/
def boolean? (value : Value) : Option Bool :=
  match value with
  | .bool value => some value
  | value =>
    let text := Text.lower (Text.strip value.toText)
    if trueTexts.contains text then some true
    else if falseTexts.contains text then some false
    else none

/-- Octets as the text that they encode, if all of them are of seven bits. -/
def asciiText? (bytes : List UInt8) : Option String :=
  if bytes.all (· < 128) then some (String.ofList (bytes.map fun byte => Char.ofNat byte.toNat))
  else none

/-- The integer of a value, or nothing when the value stands for none. -/
def integer? (value : Value) : Except NumberFault (Option Int) :=
  match value with
  | .bool value => .ok (some (if value then 1 else 0))
  | .int value => .ok (some value)
  | .float value =>
    match Decimal.quantity? value with
    | none => .ok none
    | some (.exactly ratio) => .ok (some ratio.truncate)
    | some _ => .error .infinite
  | .text value | .markup value => .ok (Decimal.integer? value)
  | .bytes value => .ok ((asciiText? value).bind Decimal.integer?)
  | _ => .ok none

/-- The floating-point number of a value, or nothing when the value stands for none. -/
def float? (value : Value) : Except NumberFault (Option Float) :=
  match value with
  | .bool value => .ok (some (if value then 1.0 else 0.0))
  | .int value =>
    match Decimal.ofInt? value with
    | some number => .ok (some number)
    | none => .error .tooLarge
  | .float value => .ok (some value)
  | .text value | .markup value => .ok (Decimal.float? value)
  | .bytes value => .ok ((asciiText? value).bind Decimal.float?)
  | _ => .ok none

/-- A value as one of the parameter's type. -/
def convert (parameter : Parameter) (helper : String) (value : Value) : Except Fault Value :=
  let mismatch := Fault.parameter (.mismatch value parameter.key helper parameter.type)
  let unsupported :=
    Fault.parameter (.unsupportedType parameter.type parameter.key helper)
  match parameter.type with
  | .bool =>
    match boolean? value with
    | some truth => .ok (.bool truth)
    | none => .error mismatch
  | .int =>
    match integer? value with
    | .ok (some number) => .ok (.int number)
    | .ok none => .error mismatch
    | .error cause => .error (.number cause)
  | .float =>
    match float? value with
    | .ok (some number) => .ok (.float number)
    | .ok none => .error mismatch
    | .error cause => .error (.number cause)
  | .text => .ok (.text value.toText)
  | .list =>
    match value with
    | .list _ => .ok value
    | _ => .error unsupported
  | .mapping =>
    match value with
    | .mapping _ => .ok value
    | _ => .error unsupported

/-- Whether a value is a number, and no truth value. -/
def isNumber : Value → Bool
  | .int _ | .float _ => true
  | _ => false

/-- Whether a number is below a bound, or above it, which has to be a number. -/
def isOutside (side : Ordering) (value bound : Value) : Except Fault Bool :=
  match bound with
  | .bool _ | .int _ | .float _ => .ok (value.compareNumbers bound == some side)
  | bound =>
    let sign := if side == .lt then "<" else ">"
    .error (.notComparable sign value.typeName bound.typeName)

/-- A converted value that is one of the choices, if there are any, and within the bounds, if it
is a number. -/
def check (parameter : Parameter) (helper : String) (value : Value) : Except Fault Value := do
  if !parameter.choices.isEmpty && !parameter.choices.any (Value.same value) then
    throw (.parameter (.notAChoice value parameter.key helper parameter.choices))
  if isNumber value then
    if let some bound := parameter.minimum then
      if ← isOutside .lt value bound then
        throw (.parameter (.belowMinimum value parameter.key helper bound))
    if let some bound := parameter.maximum then
      if ← isOutside .gt value bound then
        throw (.parameter (.aboveMaximum value parameter.key helper bound))
  pure value

/-- A given value converted and checked. -/
def coerce (parameter : Parameter) (helper : String) (value : Value) : Except Fault Value := do
  parameter.check helper (← parameter.convert helper value)

/-- The declared parameters by each of their names, which must differ. -/
def index (helper : Helper) : Except Fault (Table Parameter) :=
  (helper.parameters.flatMap fun parameter => parameter.keys.map (·, parameter)).foldlM
    (fun table (key, parameter) =>
      if table.contains key then .error (.parameter (.duplicateKey key helper.id))
      else .ok (table.insert key parameter)) {}

/-- The given values with references replaced by what they refer to in the context. -/
def resolveReferences (context : Context) (given : Table Value) : Except Fault (Table Value) :=
  given.entries.foldlM (fun table (key, value) => do
    let value ← match value with
      | .reference path => context.get path
      | value => pure value
    pure (table.insert key value)) {}

/-- The given values added one after the other to those resolved so far. A null counts as not
given. -/
def accept (helper : Helper) (declared : Table Parameter) (resolved : Table Value)
    (given : String × Value) : Except Fault (Table Value) :=
  match given.2 with
  | .null => .ok resolved
  | value =>
    match declared.get? given.1 with
    | some parameter => do
      pure (resolved.insert parameter.key (← parameter.coerce helper.id value))
    | none =>
      if helper.strict then
        .error (.parameter (.unknown given.1 helper.id (helper.parameters.map Parameter.key)))
      else .ok (resolved.insert given.1 value)

/-- The defaults of the declared parameters. -/
def defaults (helper : Helper) : Table Value :=
  helper.parameters.foldl (fun table parameter =>
    match parameter.default with
    | some value => table.insert parameter.key value
    | none => table) {}

/-- The required parameters that have no value. -/
def missing (helper : Helper) (resolved : Table Value) : List String :=
  sortedNames (((helper.parameters.filter Parameter.required).map Parameter.key).eraseDups.filter
    fun key => !resolved.contains key)

/-- The parameters of a helper call: its given values resolved in a context, if there is one,
and matched with the declared parameters. -/
def resolve (helper : Helper) (given : Table Value) (context : Option Context) :
    Except Fault (Table Value) := do
  let given ← match context with
    | some context => resolveReferences context given
    | none => pure given
  if helper.parameters.isEmpty && !helper.strict then
    return given
  let declared ← index helper
  let resolved ← given.entries.foldlM (accept helper declared) (defaults helper)
  match missing helper resolved with
  | [] => pure resolved
  | keys => throw (.parameter (.missing helper.id keys))

end TemplateStream.Parameter
