import QueryComposer.Json.Basic

set_option autoImplicit false

/-!
The tables of a TOML text while it is read. A table may be named by a header once, and the ways in
which a table came up decide how it may be added to.
-/

namespace QueryComposer.Toml

/-- How a table came up: on the way to another table, by a key with dots, or by its own header. -/
inductive TableOrigin
  | implied
  | dotted
  | header
deriving DecidableEq, Repr

/-- What stands under a name: a value, a table, or several tables one after the other, the last of
which is first in the list. -/
inductive Entry
  | value (json : Json)
  | table (origin : TableOrigin) (members : List (String × Entry))
  | tables (members : List (List (String × Entry)))
deriving Repr

/-- The members of a table. -/
abbrev Members := List (String × Entry)

abbrev OpenTable := TableOrigin × Members

/-- The members with another entry under a name. -/
def replaceEntry (name : String) (entry : Entry) : Members → Members
  | [] => [(name, entry)]
  | (other, old) :: members =>
    if other = name then (name, entry) :: members
    else (other, old) :: replaceEntry name entry members

/-- Edit the table at the end of a path. Tables that are missing on the way are made; a path of a
key with dots does not lead into a table that has a header. -/
def editTable (ofKey : Bool) (edit : OpenTable → Option OpenTable) :
    List String → OpenTable → Option OpenTable
  | [], table => edit table
  | name :: path, (origin, members) =>
    match List.lookup name members with
    | none =>
      let fresh : TableOrigin := if ofKey then .dotted else .implied
      (editTable ofKey edit path (fresh, [])).map (fun (inner, edited) =>
        (origin, members ++ [(name, .table inner edited)]))
    | some (.table inner within) =>
      if ofKey && inner = .header then none
      else
        (editTable ofKey edit path (inner, within)).map (fun (changed, edited) =>
          (origin, replaceEntry name (.table changed edited) members))
    | some (.tables (last :: others)) =>
      (editTable ofKey edit path (.header, last)).map (fun (_, edited) =>
        (origin, replaceEntry name (.tables (edited :: others)) members))
    | some _ => none

/-- Add a value under a new name to a table that the key may add to. -/
def addValue (ofDottedKey : Bool) (name : String) (json : Json) (table : OpenTable) :
    Option OpenTable :=
  if (table.1 = .dotted) ≠ ofDottedKey || (List.lookup name table.2).isSome then none
  else some (table.1, table.2 ++ [(name, .value json)])

def addHeader (name : String) (table : OpenTable) : Option OpenTable :=
  match List.lookup name table.2 with
  | none => some (table.1, table.2 ++ [(name, .table .header [])])
  | some (.table .implied within) =>
    some (table.1, replaceEntry name (.table .header within) table.2)
  | some _ => none

/-- Open one more of several tables under the same header. -/
def addArrayHeader (name : String) (table : OpenTable) : Option OpenTable :=
  match List.lookup name table.2 with
  | none => some (table.1, table.2 ++ [(name, .tables [[]])])
  | some (.tables others) => some (table.1, replaceEntry name (.tables ([] :: others)) table.2)
  | some _ => none

mutual

/-- An entry as a data value. -/
def Entry.toJson : Entry → Json
  | .value json => json
  | .table _ members => .object (membersToJson members)
  | .tables tables => .array (tablesToJson tables).reverse

/-- Members as members of an object. -/
def membersToJson : List (String × Entry) → List (String × Json)
  | [] => []
  | (name, entry) :: members => (name, entry.toJson) :: membersToJson members

/-- Tables as objects. -/
def tablesToJson : List (List (String × Entry)) → List Json
  | [] => []
  | members :: tables => .object (membersToJson members) :: tablesToJson tables

end

/-- A text while it is read: its tables, and the path of the header that is in force. -/
structure Document where
  members : Members := []
  header : List String := []
deriving Repr

namespace Document

/-- The document after a change of its tables. -/
def change (document : Document) (path : List String) (edit : OpenTable → Option OpenTable) :
    Option Document :=
  (editTable false edit path (.header, document.members)).map (fun (_, members) =>
    { document with members })

/-- The document with a value under a key, relative to the header in force. -/
def addKey (document : Document) (key : List String) (json : Json) : Option Document :=
  match key.getLast? with
  | none => none
  | some name =>
    let path := key.dropLast
    document.change document.header (fun table =>
      editTable true (addValue (!path.isEmpty) name json) path table)

/-- The document with another header in force. -/
def openHeader (document : Document) (key : List String)
    (add : String → OpenTable → Option OpenTable) : Option Document :=
  match key.getLast? with
  | none => none
  | some name =>
    (document.change key.dropLast (add name)).map (fun changed => { changed with header := key })

def toJson (document : Document) : Json :=
  .object (membersToJson document.members)

end Document

end QueryComposer.Toml
