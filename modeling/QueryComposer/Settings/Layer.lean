import QueryComposer.Error.Basic
import QueryComposer.Json.Reader
import QueryComposer.Settings.Basic
import QueryComposer.Toml.Reader

set_option autoImplicit false

/-!
Settings in layers. A layer is laid over the layer below member by member: where both have an object
the members are merged, and everything else is replaced. Layers are read from JSON or TOML texts,
which have to be readable in all their parts; of members with the same name the last one counts.
-/

namespace QueryComposer

namespace Json

mutual

/-- The value with only the last of members with the same name. -/
def settled : Json → Json
  | .array items => .array (settledItems items)
  | .object members => .object (settledMembers members)
  | json => json

/-- The items of an array, each with only the last of members with the same name. -/
def settledItems : List Json → List Json
  | [] => []
  | item :: items => settled item :: settledItems items

/-- The last of members with the same name. -/
def settledMembers : List (String × Json) → List (String × Json)
  | [] => []
  | (name, value) :: members =>
    if members.any (fun member => member.1 = name) then settledMembers members
    else (name, settled value) :: settledMembers members

end

mutual

/-- A value with a layer over it. -/
def overlay : Json → Json → Json
  | .object base, .object layer => .object (overlayMembers base layer)
  | _, layer => layer

/-- Members with those of a layer over them, one after the other. -/
def overlayMembers (base : List (String × Json)) : List (String × Json) → List (String × Json)
  | [] => base
  | (name, value) :: layer => overlayMembers (overlayMember base name value) layer

/-- Members with one of a layer over them: merged with the one of its name, or added. -/
def overlayMember (base : List (String × Json)) (name : String) (value : Json) :
    List (String × Json) :=
  match base with
  | [] => [(name, value)]
  | (other, below) :: rest =>
    if other = name then (name, overlay below value) :: rest
    else (other, below) :: overlayMember rest name value

end

end Json

namespace SettingsFormat

/-- The data value that a text of the format holds. -/
def read? : SettingsFormat → String → Option Json
  | .toml, text => Toml.parse? text
  | .json, text => ((Json.parse? text).filter Json.isReadable).map Json.settled

/-- The part of a file's name after its last point; a point at the start of the name does not
count. -/
def extension? (path : String) : Option String :=
  let parts := (Text.split '/' path).filter (fun part => part ≠ "" && part ≠ ".")
  let name := parts.getLast?.getD ""
  match (Text.split '.' name).reverse with
  | ending :: start :: others =>
    if (start = "" && others.isEmpty) || name = ".." then none else some ending
  | _ => none

/-- The format of a file by its name: JSON if that is its extension, and TOML otherwise. -/
def ofPath (path : String) : SettingsFormat :=
  if (extension? path).any (fun ending => ending.toLower = "json") then .json else .toml

end SettingsFormat

namespace Settings

/-- The default settings with a layer over them, if the result is settings. -/
def ofLayer (format : SettingsFormat) (layer : Json) : Except Error Settings :=
  match ofJson? ((toJson {}).overlay layer) with
  | some settings => .ok settings
  | none => .error (.unfitSettings format)

/-- The settings of a text, laid over the defaults. -/
def ofText (format : SettingsFormat) (text : String) : Except Error Settings :=
  match format.read? text with
  | some layer => ofLayer format layer
  | none => .error (.malformedSettings format)

/-- The settings of a file, given its contents if there is such a file. -/
def ofFile (format : SettingsFormat) (path : String) (contents : Option String) :
    Except Error Settings :=
  match contents with
  | some text => ofText format text
  | none => .error (.missingSettings format path)

end Settings

end QueryComposer
