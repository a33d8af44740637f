import Groundwork.DeployError

/-!
# Diagnoses

What the command line tells the user about an error.  Errors fall into a handful of classes, each
with an exit code and some with advice.
-/

namespace Groundwork.CommandLine

/-- The class of an error, with its words. -/
inductive Diagnosis where
  /-- A setting is missing or malformed. -/
  | setting (message : String) (help : Option String)
  /-- The cluster is not in a state that the command accepts. -/
  | precondition (message : String)
  /-- A tool or a job failed. -/
  | command (message : String)
  /-- A wait came to its end. -/
  | timeout (message : String)
  /-- The cluster could not be talked to. -/
  | cluster (message : String)
  /-- The catalog cannot be used. -/
  | config (message : String)
  /-- A file or the terminal failed. -/
  | io (message : String)
  /-- The user said no. -/
  | cancelled
  /-- Anything else. -/
  | other (message : String)
  deriving DecidableEq, Inhabited

namespace Diagnosis

/-- The words shown to the user. -/
def message : Diagnosis → String
  | .setting message _ => message
  | .precondition message => message
  | .command message => message
  | .timeout message => message
  | .cluster message => "Cluster error: " ++ message
  | .config message => "Configuration error: " ++ message
  | .io message => "IO error: " ++ message
  | .cancelled => "Cancelled"
  | .other message => message

/-- The exit code of the program. -/
def exitCode : Diagnosis → Nat
  | .setting _ _ => 2
  | .precondition _ => 3
  | .command _ => 4
  | .timeout _ => 5
  | .config _ => 6
  | .cancelled => 0
  | .cluster _ => 1
  | .io _ => 1
  | .other _ => 1

/-- Whether the user said no. -/
def isCancelled : Diagnosis → Bool
  | .cancelled => true
  | _ => false

/-- The code by which the class can be looked up. -/
def code : Diagnosis → String
  | .setting _ _ => "plinth::cli::option"
  | .precondition _ => "plinth::cli::precondition"
  | .command _ => "plinth::cli::command"
  | .timeout _ => "plinth::cli::timeout"
  | .cluster _ => "plinth::cli::cluster"
  | .config _ => "plinth::cli::config"
  | .io _ => "plinth::cli::io"
  | .cancelled => "plinth::cli::cancelled"
  | .other _ => "plinth::cli::error"

/-- Advice for the user. -/
def help : Diagnosis → Option String
  | .setting _ help => help
  | .timeout _ => some "Slow cluster? Retry with --timeout-multiplier 2"
  | .cluster _ => some "Check that your kubeconfig points at a reachable cluster"
  | _ => none

/-- Advice about a setting without a value. -/
def missingHelp (name : String) : String :=
  "Pass --" ++ Setting.flagName name ++ " or run with --interactive"

/-- The diagnosis of an error of the setup. -/
def ofSetup (e : SetupError) : Diagnosis :=
  match e with
  | .catalog _ => .config e.message
  | .unreadable _ => .config e.message
  | .io fault => .io fault.message
  | .missing name _ => .setting e.message (some (missingHelp name))
  | _ => .setting e.message none

/-- The diagnosis of an error of the engine: the class is that of its root, the words are those of
the whole error. -/
def ofDeploy (e : DeployError) : Diagnosis :=
  match e.root with
  | .cancelled => .cancelled
  | .namespacePresent _ => .precondition e.message
  | .namespaceAbsent _ => .precondition e.message
  | .namespaceForeign _ => .precondition e.message
  | .setup (.missing name _) => .setting e.message (some (missingHelp name))
  | .setup _ => .setting e.message none
  | .command _ _ _ => .command e.message
  | .jobFailed _ _ _ => .command e.message
  | .timeout _ => .timeout e.message
  | .loadBalancerPending _ _ _ => .timeout e.message
  | .podNotReady _ _ _ _ => .timeout e.message
  | .noPods _ _ => .timeout e.message
  | .api _ => .cluster e.message
  | .cluster _ => .cluster e.message
  | .io _ => .io e.message
  | _ => .other e.message

end Diagnosis

end Groundwork.CommandLine
