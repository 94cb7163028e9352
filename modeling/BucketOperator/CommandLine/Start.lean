import BucketOperator.CommandLine.Parser

/-!
# Starting the operator

A command line is refused, names an unsupported provider, or asks for an operator, which needs the
configuration of a cluster to talk to.
-/

namespace BucketOperator.CommandLine

/-- How a start that runs no controller ends: the exit code, and what is reported. -/
structure Exit where
  code : Nat
  error : Option String
  deriving DecidableEq, Repr

/-- What is reported where there is no cluster to talk to. -/
def missingConfiguration : String := "Failed to infer configuration"

/-- The end of a start where there is no cluster to talk to. -/
def exitWithoutCluster (args : List String) (env : Environment) : Exit :=
  match parse args env with
  | .error refusal => ⟨refusal.exitCode, none⟩
  | .ok args =>
    match args.managementCluster with
    | .error failure => ⟨1, some failure.message⟩
    | .ok _ => ⟨1, some missingConfiguration⟩

/-! ### Texts -/

/-- The name of the program and its version. -/
def versionText : String := "object-storage-operator 0.1.0"

def optionLine (option description : String) : String :=
  "      " ++ option ++ "\n          " ++ description ++ "\n"

/-- What is shown when help is asked for. -/
def helpText : String :=
  "Kubernetes operator reconciling cloud object-storage buckets and their access roles on " ++
  "AWS and Azure\n\nUsage: object-storage-operator [OPTIONS]\n\nOptions:\n" ++
  String.join (Setting.all.map fun s => optionLine s!"--{s.name} <VALUE>" s.description) ++
  optionLine "--leader-elect" "Enable leader election, ensuring only one active controller" ++
  optionLine "-h, --help" "Print help" ++
  optionLine "-V, --version" "Print version"

def Refusal.text : Refusal → String
  | .help => helpText
  | .version => versionText
  | .unknownArgument => "error: unexpected argument found"
  | .valueMissing => "error: a value is required but none was supplied"
  | .valueUnexpected => "error: unexpected value for a flag"
  | .repeated => "error: an argument cannot be used multiple times"
  | .malformedAddress => "error: invalid socket address"
  | .malformedFlag => "error: invalid value for a flag, expected true or false"
  | .requiredMissing => "error: required arguments were not provided"

end BucketOperator.CommandLine
