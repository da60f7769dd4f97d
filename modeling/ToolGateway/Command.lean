/-!
Command lines: what a user can ask for, and how it is written.

A command line is a command with its operands and options, in any order; the option for the configuration file may stand
anywhere. `Invocation.parse?` gives `none` for a line that is none.
-/

namespace ToolGateway

inductive Command where
  /-- report the hidden characters of a text, or print it without them -/
  | scan (text file : Option String) (cleans : Bool)
  /-- print the fingerprint of a schema -/
  | fingerprint (schema : String)
  /-- print the checksum of a tool -/
  | checksum (tool : String)
  /-- stamp a tool, and print it or write it to a file -/
  | stamp (tool : String) (output : Option String)
  /-- review one tool or many -/
  | validate (tools : String)
  /-- check the arguments of a call against descriptions -/
  | checkCall (descriptions name arguments : String)
  /-- seal a document -/
  | close (input : String)
  /-- open a sealed document -/
  | reveal (input : String)
  /-- bring the catalog into the store -/
  | sync
  /-- list the tools of the store, each judged -/
  | list
  /-- print the configuration -/
  | configuration
  deriving DecidableEq, Repr

structure Invocation where
  configFile : Option String
  command : Command
  deriving DecidableEq, Repr

namespace Invocation

/-- the operands and options of a command line -/
structure Words where
  operands : List String := []
  /-- the configuration file given before the command -/
  outerConfig : Option String := none
  /-- the configuration file given behind the command; while no operand has been read, the one given so far -/
  config : Option String := none
  file : Option String := none
  output : Option String := none
  cleans : Bool := false

/-- an option with a value: its short and its long name -/
structure ValueOption where
  short : Char
  long : String

/-- what an argument is, seen from an option with a value -/
inductive Match where
  | other
  /-- the option without a value -/
  | bare
  | value (v : String) (rest : List String)

def isOption (argument : String) : Bool :=
  match argument.toList with
  | '-' :: _ :: _ => true
  | _ => false

def nextValue : List String → Match
  | v :: rest => if isOption v then .bare else .value v rest
  | [] => .bare

/-- whether the arguments begin with an option, and with what value -/
def ValueOption.match? (o : ValueOption) (argument : String) (rest : List String) : Match :=
  let long := '-' :: '-' :: o.long.toList
  let cs := argument.toList
  if cs = long then nextValue rest
  else if (long ++ ['=']).isPrefixOf cs then .value (String.ofList (cs.drop (long.length + 1))) rest
  else
    match cs with
    | '-' :: c :: attached =>
      if c = o.short then
        match attached with
        | [] => nextValue rest
        | '=' :: v => .value (String.ofList v) rest
        | v => .value (String.ofList v) rest
      else .other
    | _ => .other

def configOption : ValueOption := ⟨'c', "config"⟩

def fileOption : ValueOption := ⟨'f', "file"⟩

def outputOption : ValueOption := ⟨'o', "output"⟩

/-- sets an option that may be given once, to the name of a file -/
def once (old : Option String) (v : String) : Option (Option String) :=
  if old.isSome || v.isEmpty then none else some (some v)

/-- one option, for the command whose name is the first operand -/
def takeOption? (words : Words) (argument : String) (rest : List String) : Option (Words × List String) :=
  let command := words.operands.getLast?
  match configOption.match? argument rest with
  | .value v rest => (once words.config v).map fun config => ({ words with config }, rest)
  | .bare => none
  | .other =>
    if command = some "scan" ∧ argument = "--sanitize" then
      if words.cleans then none else some ({ words with cleans := true }, rest)
    else if command = some "scan" then
      match fileOption.match? argument rest with
      | .value v rest => (once words.file v).map fun file => ({ words with file }, rest)
      | _ => none
    else if command = some "stamp" then
      match outputOption.match? argument rest with
      | .value v rest => (once words.output v).map fun output => ({ words with output }, rest)
      | _ => none
    else none

/-- takes an operand; the first one is the command, behind which the configuration file may be given again -/
def takeOperand (words : Words) (operand : String) : Words :=
  let words := if words.operands.isEmpty then { words with outerConfig := words.config, config := none } else words
  { words with operands := operand :: words.operands }

/-- sorts arguments into operands, last first, and options; every step takes an argument, which bounds the fuel -/
def sort? : Nat → Words → List String → Option Words
  | _, words, [] => some words
  | 0, _, _ :: _ => none
  | fuel + 1, words, argument :: rest =>
    if argument = "--" ∧ words.operands ≠ [] then some { words with operands := rest.reverse ++ words.operands }
    else if isOption argument then
      match takeOption? words argument rest with
      | some (words, rest) => sort? fuel words rest
      | none => none
    else sort? fuel (takeOperand words argument) rest

/-- the command that operands and options make; the names of files are not empty -/
def command? (words : Words) : Option Command :=
  match words.operands.reverse with
  | ["scan"] => some (.scan none words.file words.cleans)
  | ["scan", text] => if words.file.isSome then none else some (.scan (some text) none words.cleans)
  | ["fingerprint", schema] => if schema.isEmpty then none else some (.fingerprint schema)
  | ["checksum", tool] => if tool.isEmpty then none else some (.checksum tool)
  | ["stamp", tool] => if tool.isEmpty then none else some (.stamp tool words.output)
  | ["validate", tools] => if tools.isEmpty then none else some (.validate tools)
  | ["check-call", descriptions, name, arguments] =>
    if descriptions.isEmpty then none else some (.checkCall descriptions name arguments)
  | ["seal", input] => if input.isEmpty then none else some (.close input)
  | ["open", input] => if input.isEmpty then none else some (.reveal input)
  | ["sync"] => some .sync
  | ["list"] => some .list
  | ["config"] => some .configuration
  | _ => none

def parse? (arguments : List String) : Option Invocation := do
  let words ← sort? arguments.length {} arguments
  let command ← command? words
  return ⟨words.config <|> words.outerConfig, command⟩

end Invocation

end ToolGateway
