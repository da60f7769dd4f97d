import ToolGateway.Gateway

/-!
Summaries on one line: what a registry, a store or a gateway is like, without its tools.

A summary names a structure and lists its fields between braces.
-/

namespace ToolGateway.Summary

def structureText (name : String) (fields : List (String × String)) : String :=
  name ++ " \x7b " ++ String.intercalate ", " (fields.map fun (field, text) => field ++ ": " ++ text) ++ " \x7d"

def flagText (b : Bool) : String :=
  if b then "true" else "false"

def optionText : Option String → String
  | some s => "Some(" ++ Text.quoted s ++ ")"
  | none => "None"

def policyText (p : Policy) : String :=
  structureText "SecurityPolicy"
    [("validate_checksums", flagText p.validatesChecksums), ("reject_unsigned_tools", flagText p.rejectsUnsigned)]

def registryText (r : Registry) : String :=
  structureText "ToolRegistry"
    [("tools_count", toString r.size), ("security_enabled", flagText r.isSecured), ("policy", policyText r.policy)]

def storeText (s : Store) : String :=
  structureText "SledStore" [("tools_count", toString s.size)]

def configurationText (c : Configuration) : String :=
  structureText "GatewayConfig"
    [("registry", structureText "RegistryConfig"
        [("security_enabled", flagText c.registry.isSecured),
          ("validate_checksums", flagText c.registry.validatesChecksums),
          ("reject_unsigned_tools", flagText c.registry.rejectsUnsigned),
          ("require_provenance", flagText c.registry.requiresProvenance),
          ("snapshot_path", Text.quoted c.registry.snapshotPath)]),
      ("catalog", structureText "CatalogConfig"
        [("url", optionText c.catalog.url), ("api_key", optionText c.catalog.apiKey),
          ("timeout_secs", toString c.catalog.timeoutSeconds)]),
      ("validation", structureText "ValidationConfig"
        [("max_concurrency", toString c.validation.maxConcurrency),
          ("scan_descriptions", flagText c.validation.scansDescriptions)])]

def gatewayText (g : Gateway) : String :=
  structureText "Gateway"
    [("config", configurationText g.configuration), ("tools_count", toString g.registry.size)]

end ToolGateway.Summary
