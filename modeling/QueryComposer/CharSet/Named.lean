import QueryComposer.CharSet.Property
import QueryComposer.CharSet.Script

set_option autoImplicit false

/-!
Sets of characters by their names: properties, categories and scripts, in any case and with spaces,
hyphens and underscores anywhere, and the unaccented classes of the bracket notation.
-/

namespace QueryComposer.CharSet

open QueryComposer.Text

/-- A name in its plain form: unaccented characters in lower case without spaces, hyphens and
underscores, and without the word `is` at its start. -/
def plainName (name : List Char) : String :=
  let body := match name with
    | 'i' :: 's' :: rest => rest
    | 'I' :: 's' :: rest => rest
    | 'i' :: 'S' :: rest => rest
    | 'I' :: 'S' :: rest => rest
    | _ => name
  let kept := body.filter (fun c => c.toNat < 128 && c ≠ ' ' && c ≠ '_' && c ≠ '-')
  if kept.map Char.toLower = ['c'] && body.length < name.length then "isc"
  else String.ofList (kept.map Char.toLower)

/-- The set of the property, the category or the script with a name. -/
def named? (name : List Char) : Option CharSet :=
  let plain := plainName name
  ((property? plain).or (category? plain)).or (script? plain)

def valued? (property value : List Char) : Option CharSet :=
  let plain := plainName value
  match plainName property with
  | "gc" | "generalcategory" => category? plain
  | "sc" | "script" => script? plain
  | "scx" | "scriptextensions" => scriptUse? plain
  | _ => none

/-! ### Unaccented classes -/

/-- The unaccented small letters. -/
def small : CharSet := range 'a' 'z'

/-- The unaccented capital letters. -/
def capital : CharSet := range 'A' 'Z'

/-- The ten digits. -/
def asciiDigit : CharSet := range '0' '9'

/-- The unaccented letters, the ten digits and the underscore. -/
def asciiWord : CharSet :=
  union asciiDigit (union (single '_') (union small capital))

/-- White space among the first 128 characters. -/
def asciiBlank : CharSet := ofText "\t\n\x0b\x0c\r "

/-- The class of the bracket notation with a name. -/
def bracketClass? (name : String) : Option CharSet :=
  match name with
  | "alnum" => some (union asciiDigit (union small capital))
  | "alpha" => some (union small capital)
  | "ascii" => some ⟨[(0, 127)]⟩
  | "blank" => some (ofText "\t ")
  | "cntrl" => some (ofRanges [(0, 31), (127, 127)])
  | "digit" => some asciiDigit
  | "graph" => some (range '!' '~')
  | "lower" => some small
  | "print" => some (range ' ' '~')
  | "punct" => some (difference (range '!' '~') (union asciiDigit (union small capital)))
  | "space" => some asciiBlank
  | "upper" => some capital
  | "word" => some asciiWord
  | "xdigit" => some (union asciiDigit (union (range 'a' 'f') (range 'A' 'F')))
  | _ => none

end QueryComposer.CharSet
