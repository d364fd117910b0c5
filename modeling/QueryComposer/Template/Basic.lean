import QueryComposer.Parameter.Binder
import QueryComposer.Sql.Statement

set_option autoImplicit false

/-!
Templates: SQL texts with parameters. The parameters are always those of the text, and applying a
template replaces every placeholder in one pass.
-/

namespace QueryComposer

/-- An SQL text with its parameters. -/
structure Template where
  sql : String
  parameters : List Parameter
deriving Repr

namespace Template

/-- The template of an SQL text. -/
def ofSql (sql : String) : Template :=
  { sql, parameters := Parameter.reextract sql [] }

/-- The template of a query, which has to lack nothing. -/
def ofQuery (query : Query) (settings : CompilerSettings) : Except Error Template :=
  (query.compile settings).sql?.map ofSql

/-- The template with another text; what was decided about parameters that stay is kept. -/
def setSql (template : Template) (sql : String) : Template :=
  { sql, parameters := Parameter.reextract sql template.parameters }

/-- The value for a placeholder: the supplied one, or the default of its parameter. -/
def valueFor? (template : Template) (values : ParameterValues) (placeholder : Placeholder) :
    Option Value :=
  (values.get? placeholder.name).or
    ((Parameter.find? template.parameters placeholder.name).bind Parameter.defaultValue)

/-- The last placeholder without a value. -/
def lastMissing? (template : Template) (values : ParameterValues) : Option Placeholder :=
  ((Placeholder.scan template.sql).filter (fun placeholder =>
    (template.valueFor? values placeholder).isNone)).getLast?

/-- The placeholders with the literals that replace them. -/
def replacements (template : Template) (values : ParameterValues) (policy : LiteralPolicy) :
    List (Placeholder × String) :=
  (Placeholder.scan template.sql).filterMap (fun placeholder =>
    (template.valueFor? values placeholder).map (fun value =>
      (placeholder, Literal.ofValue policy value)))

/-- The text with literals in the place of all placeholders. -/
def apply (template : Template) (values : ParameterValues) (policy : LiteralPolicy) :
    Except Error String :=
  match template.lastMissing? values with
  | some placeholder => .error (.missingValue placeholder.name)
  | none => .ok (Placeholder.replace (template.replacements values policy) template.sql)

/-- The same after the values are checked and bound. -/
def applyValidated (template : Template) (binder : Binder) (values : ParameterValues)
    (policy : LiteralPolicy) : Except Error String :=
  match binder.bind template.parameters values with
  | .error error => .error error
  | .ok bound => template.apply (BoundParameter.toValues bound) policy

def toJson (template : Template) : Json :=
  .object [("sql", .string template.sql),
    ("parameters", .array (template.parameters.map Parameter.toJson))]

end Template

end QueryComposer
