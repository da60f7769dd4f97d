import ToolGateway.Call
import ToolGateway.Catalog
import ToolGateway.Configuration
import ToolGateway.HiddenText
import ToolGateway.Review
import ToolGateway.Store

/-!
The gateway: a registry behind the checks that its configuration asks for.

A tool is registered only if it says where it comes from and its description hides nothing, as far as the configuration
asks for that. Calls and results are checked against the definition that the registry gives out, and against none if it
gives out none: a caller is told the same for every reason.
-/

namespace ToolGateway

inductive GatewayFault where
  | registry (cause : RegistryFault)
  | description (cause : HiddenText.Alarm)
  /-- the registry does not give out the tool -/
  | lookup (name : String) (cause : RegistryFault)
  | missingProvenance (name : String)
  | configuration (cause : Configuration.Fault)
  deriving DecidableEq, Repr

namespace GatewayFault

def message : GatewayFault → String
  | registry cause => "registry error: " ++ cause.message
  | description cause => "description rejected: " ++ cause.message
  | lookup name _ => "tool '" ++ name ++ "' not found or not permitted"
  | missingProvenance name => "tool '" ++ name ++ "' has no provenance source"
  | configuration cause => cause.message

def faultClass : GatewayFault → FaultClass
  | registry cause | lookup _ cause => cause.faultClass
  | description (.hidden _) => .content
  | description (.tooLarge _) => .structural
  | missingProvenance _ => .policy
  | configuration _ => .structural

/-- the wordings of what is behind a refusal, the nearest first -/
def causes : GatewayFault → List String
  | registry cause | lookup _ cause => cause.message :: cause.causes
  | description cause => [cause.message]
  | configuration (.fileNotFound _) => []
  | configuration cause => [cause.cause]
  | missingProvenance _ => []

end GatewayFault

/-- a registry and the configuration it was made from -/
structure Gateway where
  configuration : Configuration
  registry : Registry

namespace Gateway

/-- the gateway of a configuration, without tools -/
def ofConfiguration (c : Configuration) : Gateway :=
  ⟨c, { isSecured := c.registry.isSecured, policy := c.registry.policy }⟩

/-- the gateway with its registry after an operation on it, and the answer -/
def onRegistry {α : Type} (g : Gateway) (r : Except RegistryFault α × Registry) : Except GatewayFault α × Gateway :=
  (r.1.mapError .registry, { g with registry := r.2 })

/-- what a tool has to pass before the registry sees it -/
def screen (g : Gateway) (t : Tool) : Except GatewayFault Unit :=
  if g.configuration.registry.requiresProvenance && t.stamp.source.isEmpty then .error (.missingProvenance t.name)
  else if g.configuration.validation.scansDescriptions then (HiddenText.screen t.description).mapError .description
  else .ok ()

def register (g : Gateway) (t : Tool) : Except GatewayFault Unit × Gateway :=
  match g.screen t with
  | .error e => (.error e, g)
  | .ok () => g.onRegistry (g.registry.register t)

def find (g : Gateway) (name : String) : Except GatewayFault Tool :=
  (g.registry.get name).mapError (.lookup name)

def list (g : Gateway) : Listing :=
  g.registry.list

def setPolicy (g : Gateway) (policy : Policy) : Gateway :=
  { g with registry := g.registry.setPolicy policy }

def review (g : Gateway) (t : Tool) : Review :=
  t.review g.configuration.validation.scansDescriptions

def reviewAll (g : Gateway) (tools : List Tool) : List Review :=
  Tool.reviewAll tools g.configuration.validation.scansDescriptions

/-- screens the description of a tool, and asks whether a tool of its name is given out -/
def checkSecurity (g : Gateway) (t : Tool) : Except GatewayFault Unit := do
  (HiddenText.screen t.description).mapError .description
  let _ ← g.find t.name

/-! ## Calls -/

/-- checks against the tool of this name; when it is not given out, the check cannot run -/
def lookUp (g : Gateway) (name : String) (check : Contract → Outcome) : Outcome :=
  match g.registry.get name with
  | .ok t => check t.contract
  | .error e => .error (.toolRejected name e.faultClass e.message)

variable (engine : Engine)

def checkCall (g : Gateway) (name : String) (arguments : Bytes) : Outcome :=
  g.lookUp name fun c => c.checkInput engine arguments

def checkCallValue (g : Gateway) (name : String) (arguments : Json) : Outcome :=
  g.lookUp name fun c => c.checkValue engine arguments

def checkResult (g : Gateway) (name raw : String) : Outcome :=
  g.lookUp name fun c => c.checkOutput engine raw

/-! ## Catalog and store -/

/-- puts the tools of the catalog in place of all others, and says how many -/
def sync (g : Gateway) (exchange : Catalog.Exchange) : Except GatewayFault Nat × Gateway :=
  match Catalog.credentials g.configuration.catalog.url g.configuration.catalog.apiKey with
  | .error e => (.error (.registry e), g)
  | .ok c => g.onRegistry (Catalog.sync exchange c g.registry)

def saveSnapshot (g : Gateway) (s : Store) : Except GatewayFault Nat × Store :=
  let (r, s) := g.registry.snapshot s
  (r.mapError .registry, s)

def loadSnapshot (g : Gateway) (s : Store) : Except GatewayFault Nat × Gateway :=
  g.onRegistry (g.registry.restore s)

end Gateway

end ToolGateway
