import QueryComposer.Json.Reader
import QueryComposer.Json.Writer
import QueryComposer.Template.Basic

set_option autoImplicit false

/-!
Templates as they are stored, with a name, a description, tags and who may see them.
-/

namespace QueryComposer

/-- A stored template. -/
structure TemplateRecord where
  name : String
  description : String := ""
  sql : String
  parameters : List Parameter := []
  tags : List String := []
  isPublic : Bool := false
deriving Repr

namespace TemplateRecord

/-- The record of a template that nobody else may see. -/
def ofTemplate (name : String) (template : Template) : TemplateRecord :=
  { name, sql := template.sql, parameters := template.parameters }

/-- The template of a record. Its parameters are those of the text, whatever the record says. -/
def template (record : TemplateRecord) : Template :=
  { sql := record.sql, parameters := Parameter.reextract record.sql record.parameters }

def toJson (record : TemplateRecord) : Json :=
  .object [("name", .string record.name), ("description", .string record.description),
    ("sql", .string record.sql), ("parameters", .array (record.parameters.map Parameter.toJson)),
    ("tags", .array (record.tags.map .string)), ("isPublic", .bool record.isPublic)]

def ofJson? (json : Json) : Option TemplateRecord := do
  let fields ← json.fields? ["name", "description", "sql", "parameters", "tags", "isPublic"]
  let name ← fields.required "name" Json.asString?
  let description ← fields.defaulted "description" "" Json.asString?
  let sql ← fields.required "sql" Json.asString?
  let parameters ← fields.defaulted "parameters" [] (Json.asList? Parameter.ofJson?)
  let tags ← fields.defaulted "tags" [] (Json.asList? Json.asString?)
  let isPublic ← fields.defaulted "isPublic" false Json.asBool?
  some { name, description, sql, parameters, tags, isPublic }

/-- The record that a text holds. -/
def read? (text : String) : Option TemplateRecord :=
  (Json.parse? text).bind ofJson?

end TemplateRecord

end QueryComposer
