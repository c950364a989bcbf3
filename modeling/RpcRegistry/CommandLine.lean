import RpcRegistry.Catalogue

/-!
The command line: single-letter flags, which may share one dash, and long flags after two. The
value of an option is taken up only when the next flag or the end of the line comes, so a flag
that is not known is reported before a value that is missing.
-/

namespace RpcRegistry.CommandLine

structure Options where
  unsetOnly : Bool := false
  statdOnly : Bool := false
  config : Option String := none
  printConfig : Bool := false
  dump : Bool := false
  verbosity : Nat := 0
  deriving DecidableEq, Repr

def Options.mode (options : Options) : Mode := .ofFlags options.unsetOnly options.statdOnly

inductive Stop where
  | unknownArgument
  | invalidValue
  | repeatedArgument
  | needlessValue
  | help
  | version
  deriving DecidableEq, Repr

inductive Flag where
  | unsetOnly
  | statdOnly
  | printConfig
  | dump
  | verbose
  | help
  | version
  deriving DecidableEq, Repr

namespace Flag

def ofLetter? : Char → Option Flag
  | 'u' => some .unsetOnly
  | 's' => some .statdOnly
  | 'v' => some .verbose
  | 'h' => some .help
  | 'V' => some .version
  | _ => none

def ofWord? : List Char → Option Flag := fun word =>
  if word = "print-config".toList then some .printConfig
  else if word = "dump".toList then some .dump
  else if word = "verbose".toList then some .verbose
  else if word = "help".toList then some .help
  else if word = "version".toList then some .version
  else none

end Flag

def maxVerbosity : Nat := 255

/-- The options so far, and an option whose value has yet to come or to be taken up. -/
structure State where
  options : Options := {}
  pending : Option (Option String) := none

namespace State

/-- Sets the configuration file, once and not to an empty name. -/
def setConfig (value : String) (options : Options) : Except Stop Options :=
  if options.config.isSome then .error .repeatedArgument
  else if value = "" then .error .invalidValue
  else .ok { options with config := some value }

def settle (state : State) : Except Stop Options :=
  match state.pending with
  | none => .ok state.options
  | some none => .error .invalidValue
  | some (some value) => setConfig value state.options

def once (given : Bool) (options : Options) : Except Stop Options :=
  if given then .error .repeatedArgument else .ok options

def applyFlag (flag : Flag) (state : State) : Except Stop State := do
  let options ← state.settle
  let options ← match flag with
    | .unsetOnly => once options.unsetOnly { options with unsetOnly := true }
    | .statdOnly => once options.statdOnly { options with statdOnly := true }
    | .printConfig => once options.printConfig { options with printConfig := true }
    | .dump => once options.dump { options with dump := true }
    | .verbose => .ok { options with verbosity := min (options.verbosity + 1) maxVerbosity }
    | .help => .error .help
    | .version => .error .version
  .ok ⟨options, none⟩

def attachConfig (value : List Char) (state : State) : Except Stop State := do
  let options ← setConfig (String.ofList value) (← state.settle)
  .ok ⟨options, none⟩

def awaitConfig (state : State) : Except Stop State := do
  .ok ⟨← state.settle, some none⟩

/-- The letters after one dash. The option that takes a value takes the rest of them. -/
def letters : List Char → State → Except Stop State
  | [], state => .ok state
  | c :: rest, state =>
      if c = 'c' then
        match rest with
        | [] => state.awaitConfig
        | '=' :: value => state.attachConfig value
        | value => state.attachConfig value
      else
        match Flag.ofLetter? c with
        | some flag => do letters rest (← state.applyFlag flag)
        | none => .error .unknownArgument

def word (word : List Char) (value : Option (List Char)) (state : State) : Except Stop State :=
  if word = "config".toList then
    match value with
    | some value => state.attachConfig value
    | none => state.awaitConfig
  else
    match Flag.ofWord? word, value with
    | some flag, none => state.applyFlag flag
    | some _, some _ => .error .needlessValue
    | none, _ => .error .unknownArgument

/-- An argument that is no flag can only be the value of an option before it. -/
def operand (text : String) (state : State) : Except Stop State :=
  match state.pending with
  | some none => .ok { state with pending := some (some text) }
  | _ => .error .unknownArgument

def argument (text : String) (state : State) : Except Stop State :=
  match text.toList with
  | '-' :: '-' :: rest =>
      let value := (rest.dropWhile (· ≠ '=')).tail
      state.word (rest.takeWhile (· ≠ '=')) (if rest.contains '=' then some value else none)
  | '-' :: c :: rest => state.letters (c :: rest)
  | _ => state.operand text

/-- All arguments. After two dashes alone only operands may follow, and there are none to take. -/
def arguments : List String → State → Except Stop Options
  | [], state => state.settle
  | text :: rest, state =>
      if text = "--" then if rest = [] then state.settle else .error .unknownArgument
      else do arguments rest (← state.argument text)

end State

def parse (arguments : List String) : Except Stop Options := State.arguments arguments {}

def programName : String := "pmreg"

def versionText : String := programName ++ " 0.1.0\n"

def helpText : String :=
  String.join
    ["Withdraw stale RPC registrations and announce NFS, MOUNT and STAT\n",
     "\n",
     "Usage: pmreg [OPTIONS]\n",
     "\n",
     "Options:\n",
     "  -u                     Only withdraw existing registrations; takes precedence over -s\n",
     "  -s                     Register only the status service on its fixed ports\n",
     "  -c, --config <CONFIG>  Path to configuration file\n",
     "      --print-config     Print effective configuration (YAML) and exit\n",
     "      --dump             Print the resulting directory table after the run\n",
     "  -v, --verbose...       Log verbosity level (-v debug, -vv trace)\n",
     "  -h, --help             Print help\n",
     "  -V, --version          Print version\n"]

end RpcRegistry.CommandLine
