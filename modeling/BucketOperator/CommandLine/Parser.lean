import BucketOperator.CommandLine.Basic

/-!
# Reading a command line

An option with a value is `--name value` or `--name=value`, and a value after a space may not look
like an option. A value is only judged when the next option or the end settles it, so an unknown
argument is reported before a malformed value in front of it.
-/

namespace BucketOperator.CommandLine

/-- How one argument reads. -/
inductive Word where
  | separator
  | long (name : String) (value : Option String)
  | short (letter : Char)
  | plain (text : String)
  deriving DecidableEq, Repr

/-- Two dashes make a long option, one dash before anything a short one. -/
def Word.of (arg : String) : Word :=
  match arg.toList with
  | ['-', '-'] => .separator
  | '-' :: '-' :: rest =>
    match rest.span (· != '=') with
    | (name, []) => .long (String.ofList name) none
    | (name, _ :: value) => .long (String.ofList name) (some (String.ofList value))
  | '-' :: letter :: _ => .short letter
  | _ => .plain arg

/-- What an option is for. -/
inductive Named where
  | setting (setting : Setting)
  | leaderElect
  | help
  | version
  deriving DecidableEq, Repr

namespace Named

def ofLong? (name : String) : Option Named :=
  match name with
  | "leader-elect" => some .leaderElect
  | "help" => some .help
  | "version" => some .version
  | name => (Setting.all.find? fun s => s.name == name).map .setting

def ofShort? : Char → Option Named
  | 'h' => some .help
  | 'V' => some .version
  | _ => none

end Named

/-- What has been read of a command line. -/
structure Given where
  values : List (Setting × String)
  leaderElect : Bool
  /-- The last option, with the argument that followed it. -/
  pending : Option (Setting × Option String)
  deriving DecidableEq, Repr

namespace Given

/-- Nothing yet. -/
def empty : Given := ⟨[], false, none⟩

/-- Take a value for a setting. -/
def give (given : Given) (setting : Setting) (value : String) : Except Refusal Given :=
  if (given.values.lookup setting).isSome then .error .repeated
  else if setting.accepts value then .ok { given with values := (setting, value) :: given.values }
  else .error .malformedAddress

/-- Take the value of the last option. -/
def settle (given : Given) : Except Refusal Given :=
  match given.pending with
  | none => .ok given
  | some (_, none) => .error .valueMissing
  | some (setting, some value) => { given with pending := none }.give setting value

/-- Take an option that needs no further argument. -/
def takeNamed (given : Given) (named : Named) (value : Option String) : Except Refusal Given :=
  match named, value with
  | .setting setting, some value => do (← given.settle).give setting value
  | .setting setting, none => do return { ← given.settle with pending := some (setting, none) }
  | _, some _ => .error .valueUnexpected
  | .leaderElect, none => do
    let settled ← given.settle
    if settled.leaderElect then .error .repeated else return { settled with leaderElect := true }
  | .help, none => do let _ ← given.settle; .error .help
  | .version, none => do let _ ← given.settle; .error .version

/-- Take one argument other than the separator. -/
def take (given : Given) : Word → Except Refusal Given
  | .long name value =>
    match Named.ofLong? name with
    | some named => given.takeNamed named value
    | none => .error .unknownArgument
  | .short letter =>
    match Named.ofShort? letter with
    | some named => given.takeNamed named none
    | none => .error .unknownArgument
  | .plain text =>
    match given.pending with
    | some (setting, none) => .ok { given with pending := some (setting, some text) }
    | _ => .error .unknownArgument
  | .separator => .error .unknownArgument

/-- Take all arguments; there are none to take after the separator. -/
def takeAll (given : Given) : List String → Except Refusal Given
  | [] => given.settle
  | arg :: rest =>
    match Word.of arg with
    | .separator => if rest.isEmpty then given.settle else .error .unknownArgument
    | word => do (← given.take word).takeAll rest

/-- The value of a setting: from the command line, the environment or the default. -/
def value? (given : Given) (env : Environment) (setting : Setting) : Option String :=
  given.values.lookup setting <|> setting.variableName?.bind env <|> setting.default?

def address (given : Given) (env : Environment) (setting : Setting) :
    Except Refusal Net.SocketAddress :=
  match (given.value? env setting).bind Net.SocketAddress.parse? with
  | some address => .ok address
  | none => .error .malformedAddress

/-- Whether to take part in leader election. -/
def elects (given : Given) (env : Environment) : Except Refusal Bool :=
  if given.leaderElect then .ok true
  else match env "LEADER_ELECT" with
    | none | some "false" => .ok false
    | some "true" => .ok true
    | some _ => .error .malformedFlag

def required (given : Given) (env : Environment) (setting : Setting) : Except Refusal String :=
  match given.value? env setting with
  | some value => .ok value
  | none => .error .requiredMissing

end Given

/-- Read a command line; what is wrong with the environment counts before what is missing. -/
def parse (args : List String) (env : Environment) : Except Refusal Arguments := do
  let given ← Given.empty.takeAll args
  return {
    metricsAddress := ← given.address env .metricsBindAddress
    probeAddress := ← given.address env .healthProbeBindAddress
    leaderElect := ← given.elects env
    leaseName := ← given.required env .leaseName
    leaseNamespace := ← given.required env .leaseNamespace
    clusterBaseDomain := ← given.required env .clusterBaseDomain
    clusterName := ← given.required env .clusterName
    clusterNamespace := ← given.required env .clusterNamespace
    clusterProvider := ← given.required env .clusterProvider
    clusterRegion := ← given.required env .clusterRegion }

end BucketOperator.CommandLine
