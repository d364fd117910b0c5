import QueryComposer.Template.Basic

set_option autoImplicit false

/-!
Applying a template by writing over its placeholders in the text itself, from the last to the first,
so that the places of the others stay what they are. A place that is none of the text, because it
lies inside of a character or behind the end, would stop the program.
-/

namespace QueryComposer

namespace Placeholder

/-- The characters before a place, counted in bytes, and those after it, if two meet there. -/
def splitAt? : Nat → List Char → Option (List Char × List Char)
  | 0, chars => some ([], chars)
  | _ + 1, [] => none
  | place + 1, c :: rest =>
    if place + 1 < c.utf8Size then none
    else (splitAt? (place + 1 - c.utf8Size) rest).map (fun (before, after) => (c :: before, after))

/-- The text with another one in the place of its bytes from `start` to `stop`. -/
def overwrite? (start stop : Nat) (inserted chars : List Char) : Option (List Char) :=
  if stop < start then none
  else
    (splitAt? start chars).bind (fun (before, tail) =>
      (splitAt? (stop - start) tail).map (fun (_, after) => before ++ inserted ++ after))

end Placeholder

namespace Template

/-- Write over placeholders, one after the other in the text as it stands by then. The first one
without a value ends the work; nothing comes of it where a place is none of the text. -/
def overwriteEach (template : Template) (values : ParameterValues) (policy : LiteralPolicy) :
    List Placeholder → List Char → Option (Except Error (List Char))
  | [], chars => some (.ok chars)
  | placeholder :: others, chars =>
    match template.valueFor? values placeholder with
    | none => some (.error (.missingValue placeholder.name))
    | some value =>
      (Placeholder.overwrite? placeholder.start placeholder.stop
        (Literal.ofValue policy value).toList chars).bind
        (overwriteEach template values policy others)

/-- The text with literals written over all its placeholders, the last one first. -/
def applyInPlace (template : Template) (values : ParameterValues) (policy : LiteralPolicy) :
    Option (Except Error String) :=
  (template.overwriteEach values policy (Placeholder.scan template.sql).reverse
    template.sql.toList).map (fun result => result.map String.ofList)

end Template

end QueryComposer
