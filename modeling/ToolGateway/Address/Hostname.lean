import ToolGateway.Text.Parts

/-!
Names of machines: labels of letters, digits and inner hyphens with points between them.
-/

namespace ToolGateway.Address

open Text

/-- whether a text is a label of the name of a machine -/
def isLabel (text : List Char) : Bool :=
  text ≠ [] && text.length ≤ 63 && text.head? ≠ some '-' && text.getLast? ≠ some '-' &&
    text.all fun c => c.isAlphanum || c = '-'

def isHostname (text : List Char) : Bool :=
  text.length ≤ 253 && (parts '.' text).all isLabel

end ToolGateway.Address
