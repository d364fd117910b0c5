import QueryComposer.Toml.Document
import QueryComposer.Toml.Value

set_option autoImplicit false

/-!
Reading TOML texts as data values. The functions count rounds, of which there are never more than a
text needs: every round takes at least one character or ends.
-/

namespace QueryComposer.Toml

mutual

/-- A value of any kind inside of so many arrays and tables in braces. -/
def takeValue? : Nat → Nat → List Char → Option (Json × List Char)
  | 0, _, _ => none
  | rounds + 1, depth, chars =>
    match chars with
    | '[' :: rest =>
      if depthLimit ≤ depth + 1 then none
      else
        (takeItems? rounds (depth + 1) rest).map (fun (items, after) => (.array items, after))
    | '\x7b' :: rest =>
      if depthLimit ≤ depth + 1 then none
      else
        match skipBlanks rest with
        | '\x7d' :: after => some (.object [], after)
        | inner =>
          (takeMembers? rounds (depth + 1) {} inner).map (fun (document, after) =>
            (document.toJson, after))
    | '"' :: _ => (takeString? chars).map (fun (text, after) => (.string text, after))
    | '\'' :: _ => (takeString? chars).map (fun (text, after) => (.string text, after))
    | _ => takeWord? chars

/-- The items of an array after its opening bracket. -/
def takeItems? : Nat → Nat → List Char → Option (List Json × List Char)
  | 0, _, _ => none
  | rounds + 1, depth, chars =>
    match skipLines chars.length chars with
    | ']' :: rest => some ([], rest)
    | start =>
      (takeValue? rounds depth start).bind (fun (item, after) =>
        match skipLines after.length after with
        | ',' :: rest =>
          (takeItems? rounds depth rest).map (fun (items, tail) => (item :: items, tail))
        | ']' :: rest => some ([item], rest)
        | _ => none)

/-- The members of a table in braces after the opening brace, of which there is at least one. -/
def takeMembers? : Nat → Nat → Document → List Char → Option (Document × List Char)
  | 0, _, _, _ => none
  | rounds + 1, depth, document, chars =>
    (takeKey? chars).bind (fun (key, afterKey) =>
      match afterKey with
      | '=' :: start =>
        (takeValue? rounds depth (skipBlanks start)).bind (fun (json, after) =>
          (document.addKey key json).bind (fun extended =>
            match skipBlanks after with
            | ',' :: rest => takeMembers? rounds depth extended rest
            | '\x7d' :: rest => some (extended, rest)
            | _ => none))
      | _ => none)

end

/-- The text after the end of a statement: blanks, a comment, and the end of the line or of the
text. -/
def endStatement? (chars : List Char) : Option (List Char) :=
  match skipComment (skipBlanks chars) with
  | [] => some []
  | rest => takeLineEnd? rest

/-- A header, or a key and its value. -/
def takeStatement? (document : Document) (chars : List Char) :
    Option (Document × List Char) :=
  match chars with
  | '[' :: '[' :: rest =>
    (takeKey? rest).bind (fun (key, after) =>
      match after with
      | ']' :: ']' :: tail =>
        (document.openHeader key addArrayHeader).map (fun changed => (changed, tail))
      | _ => none)
  | '[' :: rest =>
    (takeKey? rest).bind (fun (key, after) =>
      match after with
      | ']' :: tail => (document.openHeader key addHeader).map (fun changed => (changed, tail))
      | _ => none)
  | _ =>
    (takeKey? chars).bind (fun (key, after) =>
      match after with
      | '=' :: start =>
        (takeValue? (2 * start.length + 2) 0 (skipBlanks start)).bind (fun (json, tail) =>
          (document.addKey key json).map (fun changed => (changed, tail)))
      | _ => none)

/-- The statements of a text. -/
def readStatements? : Nat → Document → List Char → Option Document
  | 0, _, _ => none
  | rounds + 1, document, chars =>
    match skipLines (chars.length + 1) chars with
    | [] => some document
    | start =>
      (takeStatement? document start).bind (fun (changed, after) =>
        (endStatement? after).bind (fun rest => readStatements? rounds changed rest))

/-- The text after the mark of byte order that may stand at its start. -/
def dropByteOrderMark : List Char → List Char
  | '\uFEFF' :: rest => rest
  | chars => chars

def parse? (text : String) : Option Json :=
  let chars := dropByteOrderMark text.toList
  (readStatements? (chars.length + 1) {} chars).map Document.toJson

end QueryComposer.Toml
