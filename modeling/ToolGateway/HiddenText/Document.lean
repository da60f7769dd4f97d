import ToolGateway.HiddenText
import ToolGateway.Document.Record

/-!
Findings of hidden characters as documents.
-/

namespace ToolGateway

def Hazard.codec : Codec Hazard :=
  Codec.choice (Hazard.all.map fun h => (h.label, h)) Hazard.label

/-- findings as documents; an empty readable form is left out -/
def HiddenText.Finding.codec : Codec Finding :=
  Codec.record "DetectedCharInfo"
    (.field "rune" .glyph none (fun _ => false) <|
      .field "hex" .text none (fun _ => false) <|
      .field "index" (.count "usize") none (fun _ => false) <|
      .field "category" Hazard.codec none (fun _ => false) <|
      .field "translated" .text (some "") String.isEmpty .done)
    (fun (char, hex, index, hazard, meaning, ()) => ⟨char, hex, index, hazard, meaning⟩)
    (fun f => (f.char, f.hex, f.index, f.hazard, f.meaning, ()))

end ToolGateway
