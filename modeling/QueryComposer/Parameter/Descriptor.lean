import QueryComposer.Parameter.Inference
import QueryComposer.Value.Codec

set_option autoImplicit false

/-!
The parameters of an SQL text: their names and types, and what was decided about them by hand, which
is kept when the text changes.
-/

namespace QueryComposer

/-- A parameter. -/
structure Parameter where
  name : String
  type : ValueType
  required : Bool := true
  defaultValue : Option Value := none
  kind : ParameterKind
  typeLocked : Bool := false
deriving Repr

namespace Parameter

/-- The parameter with a type that was chosen by hand. -/
def withType (parameter : Parameter) (type : ValueType) : Parameter :=
  { parameter with type, typeLocked := true }

/-- The parameter as one that needs no value. -/
def optional (parameter : Parameter) (defaultValue : Option Value) : Parameter :=
  { parameter with required := false, defaultValue }

/-- The parameter of a placeholder of a masked text. -/
def ofPlaceholder (masked : List Char) (placeholder : Placeholder) : Parameter :=
  { name := placeholder.name, type := placeholder.inferredType masked, kind := placeholder.kind }

/-- One parameter for each name, in the order of their first placeholders. -/
def ofPlaceholders (masked : List Char) (seen : List String) : List Placeholder → List Parameter
  | [] => []
  | placeholder :: placeholders =>
    if seen.contains placeholder.name then ofPlaceholders masked seen placeholders
    else
      ofPlaceholder masked placeholder ::
        ofPlaceholders masked (placeholder.name :: seen) placeholders

/-- The parameters of an SQL text. -/
def extract (sql : String) : List Parameter :=
  let masked := Lexical.maskChars sql.toList
  ofPlaceholders masked [] (Placeholder.ofMasked masked)

/-- What was decided about an earlier parameter, for a parameter of the same name. -/
def inherit (earlier fresh : Parameter) : Parameter :=
  let kept := { fresh with required := earlier.required, defaultValue := earlier.defaultValue }
  if earlier.typeLocked then kept.withType earlier.type else kept

def find? (parameters : List Parameter) (name : String) : Option Parameter :=
  parameters.find? (fun parameter => parameter.name = name)

/-- The parameters of a changed SQL text, with what was decided about those that were there
before. -/
def reextract (sql : String) (previous : List Parameter) : List Parameter :=
  (extract sql).map (fun fresh =>
    match find? previous fresh.name with
    | none => fresh
    | some earlier => inherit earlier fresh)

end Parameter

namespace ParameterKind

def name : ParameterKind → String
  | .named => "named"
  | .positional => "positional"

def ofJson? : Json → Option ParameterKind :=
  Json.asChoice? [("named", .named), ("positional", .positional)]

end ParameterKind

namespace Placeholder

def toJson (placeholder : Placeholder) : Json :=
  .object [("start", .ofNat placeholder.start), ("end", .ofNat placeholder.stop),
    ("name", .string placeholder.name), ("kind", .string placeholder.kind.name)]

end Placeholder

namespace Parameter

def toJson (parameter : Parameter) : Json :=
  .object ([("name", .string parameter.name), ("type", parameter.type.toJson),
    ("required", .bool parameter.required)] ++
    Json.memberIfSet "defaultValue" Value.toJson parameter.defaultValue ++
    [("kind", .string parameter.kind.name), ("typeLocked", .bool parameter.typeLocked)])

def ofJson? (json : Json) : Option Parameter := do
  let fields ← json.fields? ["name", "type", "required", "defaultValue", "kind", "typeLocked"]
  let name ← fields.required "name" Json.asString?
  let type ← fields.required "type" ValueType.ofJson?
  let required ← fields.defaulted "required" true Json.asBool?
  let defaultValue ← fields.optional "defaultValue" Value.ofJson?
  let kind ← fields.required "kind" ParameterKind.ofJson?
  let typeLocked ← fields.defaulted "typeLocked" false Json.asBool?
  some { name, type, required, defaultValue, kind, typeLocked }

end Parameter

end QueryComposer
