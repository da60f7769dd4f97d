import ToolGateway.Tool
import ToolGateway.Document.Record

/-!
Tools, their parts, and listings as documents.
-/

namespace ToolGateway

/-- hints as documents; an empty title is left out -/
def Hints.codec : Codec Hints :=
  Codec.record "ToolAnnotations"
    (.field "title" .text (some "") String.isEmpty <|
      .field "readOnlyHint" .flag (some false) (fun _ => false) <|
      .field "destructiveHint" .flag (some true) (fun _ => false) <|
      .field "idempotentHint" .flag (some false) (fun _ => false) <|
      .field "openWorldHint" .flag (some true) (fun _ => false) .done)
    (fun (title, isReadOnly, isDestructive, isIdempotent, isOpenWorld, ()) =>
      ⟨title, isReadOnly, isDestructive, isIdempotent, isOpenWorld⟩)
    (fun h => (h.title, h.isReadOnly, h.isDestructive, h.isIdempotent, h.isOpenWorld, ()))

/-- stamps as documents; what is empty is left out -/
def Stamp.codec : Codec Stamp :=
  Codec.record "SecurityMetadata"
    (.field "source" .text (some "") String.isEmpty <|
      .field "signature" .text (some "") String.isEmpty <|
      .field "public_key_id" .text (some "") String.isEmpty <|
      .field "version" .text (some "") String.isEmpty <|
      .field "checksum" .text (some "") String.isEmpty .done)
    (fun (source, signature, publicKeyId, version, checksum, ()) =>
      ⟨source, signature, publicKeyId, version, checksum⟩)
    (fun s => (s.source, s.signature, s.publicKeyId, s.version, s.checksum, ()))

/-- tools as documents; every field may be left out -/
def Tool.codec : Codec Tool :=
  Codec.record "Tool"
    (.field "name" .text (some "") (fun _ => false) <|
      .field "description" .text (some "") (fun _ => false) <|
      .field "arguments" (.optional .free) (some none) Option.isNone <|
      .field "parameters" (.dictionary .free) (some []) List.isEmpty <|
      .field "inputSchema" (.optional .free) (some none) Option.isNone <|
      .field "outputSchema" (.optional .free) (some none) Option.isNone <|
      .field "annotations" Hints.codec (some {}) (fun _ => false) <|
      .field "secMetaData" Stamp.codec (some {}) (fun _ => false) .done)
    (fun (name, description, arguments, parameters, inputSchema, outputSchema, hints, stamp, ()) =>
      ⟨name, description, arguments, parameters, inputSchema, outputSchema, hints, stamp⟩)
    (fun t => (t.name, t.description, t.arguments, t.parameters, t.inputSchema, t.outputSchema, t.hints, t.stamp, ()))

def Listing.codec : Codec Listing :=
  Codec.record "ToolSet"
    (.field "tools" (.list Tool.codec) none (fun _ => false) <|
      .field "securityEnabled" .flag none (fun _ => false) <|
      .field "schemaFingerprintAlgo" .text none (fun _ => false) <|
      .field "checksumAlgo" .text none (fun _ => false) .done)
    (fun (tools, isSecured, fingerprintAlgorithm, checksumAlgorithm, ()) =>
      ⟨tools, isSecured, fingerprintAlgorithm, checksumAlgorithm⟩)
    (fun l => (l.tools, l.isSecured, l.fingerprintAlgorithm, l.checksumAlgorithm, ()))

end ToolGateway
