import QueryComposer.Text.Basic

set_option autoImplicit false

/-!
The lexical structure of SQL: code, literals, quoted identifiers and comments. Masking a text blanks
out what is not code, byte by byte, so that places in the masked text are places in the text.
-/

namespace QueryComposer.Lexical

open QueryComposer.Text

/-- What a character belongs to. -/
inductive Region
  | code
  | literal
  | identifier
  | lineComment
  | blockComment
deriving DecidableEq, Repr

/-- A character as blanks of its length in bytes. -/
def blanksFor (c : Char) : List Char :=
  List.replicate c.utf8Size ' '

/-- The text with blanks in place of everything inside literals, quoted identifiers and comments,
given what its start belongs to. Quotes stay, except two of a kind that stand for one; comment marks
do not, and ends of lines stay outside of quotes. -/
def maskFrom : Region → List Char → List Char
  | _, [] => []
  | .code, '-' :: '-' :: rest => ' ' :: ' ' :: maskFrom .lineComment rest
  | .code, '/' :: '*' :: rest => ' ' :: ' ' :: maskFrom .blockComment rest
  | .code, c :: rest =>
    if c = '\'' then c :: maskFrom .literal rest
    else if c = '"' then c :: maskFrom .identifier rest
    else c :: maskFrom .code rest
  | .literal, '\'' :: '\'' :: rest => ' ' :: ' ' :: maskFrom .literal rest
  | .literal, c :: rest =>
    if c = '\'' then c :: maskFrom .code rest else blanksFor c ++ maskFrom .literal rest
  | .identifier, '"' :: '"' :: rest => ' ' :: ' ' :: maskFrom .identifier rest
  | .identifier, c :: rest =>
    if c = '"' then c :: maskFrom .code rest else blanksFor c ++ maskFrom .identifier rest
  | .lineComment, c :: rest =>
    if c = '\n' then c :: maskFrom .code rest else blanksFor c ++ maskFrom .lineComment rest
  | .blockComment, '*' :: '/' :: rest => ' ' :: ' ' :: maskFrom .code rest
  | .blockComment, c :: rest =>
    if c = '\n' then c :: maskFrom .blockComment rest
    else blanksFor c ++ maskFrom .blockComment rest

/-- The text with blanks in place of everything that is not code. -/
def maskChars (sql : List Char) : List Char :=
  maskFrom .code sql

/-- The text with blanks in place of everything that is not code. -/
def mask (sql : String) : String :=
  String.ofList (maskChars sql.toList)

end QueryComposer.Lexical
