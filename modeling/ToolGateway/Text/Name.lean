/-!
Names of properties of characters, compared loosely: case, blanks, hyphens, low lines, and `is` in front do not count.
-/

namespace ToolGateway.Text.Name

/-- a name without what does not count -/
def plain (name : String) : String :=
  let letters := name.toList.map Char.toLower
  let isMarked := letters.take 2 == ['i', 's']
  let rest := if isMarked then letters.drop 2 else letters
  let kept := rest.filter fun c => c.toNat < 0x80 && c ≠ ' ' && c ≠ '_' && c ≠ '-'
  if isMarked && kept == ['c'] then "isc" else String.ofList kept

end ToolGateway.Text.Name
