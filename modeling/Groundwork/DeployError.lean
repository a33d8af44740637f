import Groundwork.Duration.Human
import Groundwork.SetupError
import Groundwork.Text.Quoted

/-!
# Errors of the engine

What can go wrong while units are installed, upgraded or removed.  An error from within a unit is
wrapped with the unit's id; `root` looks through these wrappings, and the classes `isNotFound`,
`isCancelled` and `isTimeout` are those of the root.
-/

namespace Groundwork

/-! ### Answers that are failures -/

/-- A failure that the API server reports. -/
structure ApiStatus where
  status : String := ""
  message : String := ""
  reason : String := ""
  code : Int := 0
  deriving DecidableEq

/-- The words for a reported failure. -/
def ApiStatus.text (s : ApiStatus) : String :=
  "ApiError: " ++ s.message ++ ": " ++ s.reason ++ " (ErrorResponse \x7b status: "
    ++ Text.quoted s.status ++ ", message: " ++ Text.quoted s.message ++ ", reason: "
    ++ Text.quoted s.reason ++ ", code: " ++ Text.signedDecimal s.code ++ " \x7d)"

/-- Why a request to the API server failed. -/
inductive ApiFault where
  /-- The server answered that it failed. -/
  | refused (status : ApiStatus)
  /-- There was no answer, or none that could be understood. -/
  | unusable (reason : String)
  deriving DecidableEq

/-- The words for a failed request. -/
def ApiFault.message : ApiFault → String
  | .refused status => status.text
  | .unusable reason => reason

/-! ### Errors -/

/-- What can go wrong while units are installed, upgraded or removed. -/
inductive DeployError where
  /-- A request to the API server failed. -/
  | api (fault : ApiFault)
  /-- The namespace of a unit to install is there already. -/
  | namespacePresent (namespaceName : String)
  /-- The namespace of a unit to upgrade is not there. -/
  | namespaceAbsent (namespaceName : String)
  /-- The namespace of a unit to upgrade belongs to someone else. -/
  | namespaceForeign (namespaceName : String)
  /-- A setting cannot be used. -/
  | setup (error : SetupError)
  /-- A command failed. -/
  | command (line : String) (code : Int) (output : String)
  /-- A wait came to its end. -/
  | timeout (budget : Duration)
  /-- A pod did not get ready. -/
  | podNotReady (pod namespaceName events : String) (source : DeployError)
  /-- A service got no load balancer address. -/
  | loadBalancerPending (namespaceName service : String) (budget : Duration)
  /-- No pod matches a selector. -/
  | noPods (namespaceName selector : String)
  /-- A job failed. -/
  | jobFailed (namespaceName name message : String)
  /-- Something failed within a unit. -/
  | inUnit (id : String) (source : DeployError)
  /-- Some units could not be removed. -/
  | uninstall (failures : List DeployError)
  /-- The user said no. -/
  | cancelled
  /-- The cluster is in a state that makes no sense. -/
  | cluster (message : String)
  /-- A program could not be started or talked to. -/
  | io (fault : IoFault)
  deriving Inhabited

namespace DeployError

mutual

/-- The words for an error. -/
def message : DeployError → String
  | .api fault => "Kubernetes API error: " ++ fault.message
  | .namespacePresent name =>
    "namespace '" ++ name
      ++ "' already exists\nHint: Run `plinth upgrade` to update an existing installation"
  | .namespaceAbsent name =>
    "namespace '" ++ name ++ "' does not exist\nHint: Run `plinth install` first"
  | .namespaceForeign name =>
    "namespace '" ++ name ++ "' is not managed by plinth, refusing to modify it"
  | .setup error => error.message
  | .command line code output =>
    "command `" ++ line ++ "` failed with exit code " ++ Text.signedDecimal code ++ ":\n" ++ output
  | .timeout budget => "timed out after " ++ budget.text
  | .podNotReady pod name events source =>
    "pod '" ++ pod ++ "' in namespace '" ++ name ++ "' is not ready: " ++ source.message
      ++ "\nRecent events:\n" ++ events
  | .loadBalancerPending name service budget =>
    "timed out after " ++ budget.text ++ " waiting for a LoadBalancer address on service '" ++ name
      ++ "/" ++ service
      ++ "'\nHint: Ensure the cluster can provision LoadBalancer addresses (MetalLB, "
      ++ "`minikube tunnel` or a cloud load balancer), or raise --timeout-multiplier"
  | .noPods name selector => "no pods match '" ++ selector ++ "' in namespace '" ++ name ++ "'"
  | .jobFailed namespaceName name message =>
    "job '" ++ name ++ "' in namespace '" ++ namespaceName ++ "' failed: " ++ message
  | .inUnit id source => id ++ ": " ++ source.message
  | .uninstall failures =>
    Text.decimal failures.length ++ " unit(s) failed to uninstall:" ++ bullets failures
  | .cancelled => "cancelled"
  | .cluster message => "cluster error: " ++ message
  | .io fault => "IO error: " ++ fault.message

/-- One line for each of several errors. -/
def bullets : List DeployError → String
  | [] => ""
  | failure :: rest => "\n  - " ++ failure.message ++ bullets rest

end

/-- The error underneath the unit ids. -/
def root : DeployError → DeployError
  | .inUnit _ source => source.root
  | e => e

/-- Whether the API server answered that something does not exist. -/
def isNotFound (e : DeployError) : Bool :=
  match e.root with
  | .api (.refused status) => status.code == 404
  | _ => false

/-- Whether the user said no. -/
def isCancelled (e : DeployError) : Bool :=
  match e.root with
  | .cancelled => true
  | _ => false

/-- Whether a wait came to its end, also one for a pod. -/
def isTimeout : DeployError → Bool
  | .inUnit _ source => source.isTimeout
  | .timeout _ => true
  | .loadBalancerPending _ _ _ => true
  | .podNotReady _ _ _ source => source.isTimeout
  | _ => false

end DeployError

end Groundwork
