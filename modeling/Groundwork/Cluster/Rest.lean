import Groundwork.Cluster.Call
import Groundwork.Cluster.Document
import Groundwork.DeployError
import Groundwork.Json.Parser
import Groundwork.Json.Printer
import Groundwork.Text.Form

/-!
# Calls to an API server

Every call is one request to the API server, and its reply says what the call finds.  `request?`
writes the request, `receive` reads the reply.  That something does not exist is an answer and no
failure where a single object is asked for, if the server gives `NotFound` as the reason, and where
a namespace is deleted, if the code is 404.
-/

namespace Groundwork.Cluster

/-! ### Requests and replies -/

/-- What a request does. -/
inductive Method where
  | get
  | post
  | delete
  deriving DecidableEq

/-- The word for what a request does. -/
def Method.name : Method → String
  | .get => "GET"
  | .post => "POST"
  | .delete => "DELETE"

/-- A request to the API server. -/
structure Request where
  method : Method
  /-- The path and the query. -/
  target : String
  body : Option Json := none

/-- A reply of the API server. -/
structure Reply where
  /-- The code of the reply. -/
  code : Nat
  body : List UInt8

/-- An API server with a state. -/
structure Server (σ : Type) where
  reply : Request → σ → Reply × σ

namespace Call

/-! ### Writing requests -/

/-- The path of the namespaces. -/
def namespacesPath : String := "/api/v1/namespaces"

/-- The path of a collection in a namespace. -/
def pathIn (root namespaceName collection : String) : String :=
  root ++ "/namespaces/" ++ namespaceName ++ "/" ++ collection

/-- The request for one object of a collection; the object has to have a name. -/
def named (method : Method) (collection name query : String) (body : Option Json) :
    Option Request :=
  if name.isEmpty then none else some ⟨method, collection ++ "/" ++ name ++ query, body⟩

/-- The request for the objects of a collection that a selector of this sort picks. -/
def selected (collection sort selector : String) : Request :=
  ⟨.get, collection ++ "?&" ++ sort ++ "=" ++ Text.formEncode selector, none⟩

/-- The document of a new namespace. -/
def newNamespace (name : String) (labels : Labels) : Json :=
  .object [("apiVersion", .string "v1"), ("kind", .string "Namespace"),
    ("metadata", .object [("labels", .object (labels.map fun l => (l.1, .string l.2))),
      ("name", .string name)])]

/-- The request as it is meant. -/
def draft? : Call → Option Request
  | .getNamespace name => named .get namespacesPath name "" none
  | .createNamespace name labels =>
    some ⟨.post, namespacesPath ++ "?", some (newNamespace name labels)⟩
  | .deleteNamespace name => named .delete namespacesPath name "?" (some (.object []))
  | .getPod namespaceName name => named .get (pathIn "/api/v1" namespaceName "pods") name "" none
  | .listPods namespaceName selector =>
    some (selected (pathIn "/api/v1" namespaceName "pods") "labelSelector" selector)
  | .listEvents namespaceName object =>
    some (selected (pathIn "/api/v1" namespaceName "events") "fieldSelector"
      ("involvedObject.name=" ++ object))
  | .getCrd name =>
    named .get "/apis/apiextensions.k8s.io/v1/customresourcedefinitions" name "" none
  | .getJob namespaceName name =>
    named .get (pathIn "/apis/batch/v1" namespaceName "jobs") name "" none
  | .getService namespaceName name =>
    named .get (pathIn "/api/v1" namespaceName "services") name "" none
  | .serverVersion => some ⟨.get, "/version", none⟩
  | .listNodes => some ⟨.get, "/api/v1/nodes?", none⟩

/-- The request of a call, if it can be written. -/
def request? (c : Call) : Option Request := do
  let draft ← c.draft?
  let target ← Text.address? draft.target
  return { draft with target }

/-! ### Reading replies -/

/-- The word for a code that says that a request failed. -/
def reasonPhrases : List (Nat × String) :=
  [(400, "Bad Request"), (401, "Unauthorized"), (402, "Payment Required"), (403, "Forbidden"),
   (404, "Not Found"), (405, "Method Not Allowed"), (406, "Not Acceptable"),
   (407, "Proxy Authentication Required"), (408, "Request Timeout"), (409, "Conflict"),
   (410, "Gone"), (411, "Length Required"), (412, "Precondition Failed"),
   (413, "Payload Too Large"), (414, "URI Too Long"), (415, "Unsupported Media Type"),
   (416, "Range Not Satisfiable"), (417, "Expectation Failed"), (418, "I'm a teapot"),
   (421, "Misdirected Request"), (422, "Unprocessable Entity"), (423, "Locked"),
   (424, "Failed Dependency"), (425, "Too Early"), (426, "Upgrade Required"),
   (428, "Precondition Required"), (429, "Too Many Requests"),
   (431, "Request Header Fields Too Large"), (451, "Unavailable For Legal Reasons"),
   (500, "Internal Server Error"), (501, "Not Implemented"), (502, "Bad Gateway"),
   (503, "Service Unavailable"), (504, "Gateway Timeout"), (505, "HTTP Version Not Supported"),
   (506, "Variant Also Negotiates"), (507, "Insufficient Storage"), (508, "Loop Detected"),
   (510, "Not Extended"), (511, "Network Authentication Required")]

/-- A code with its words. -/
def statusLine (code : Nat) : String :=
  Text.decimal code ++ " " ++ (Table.get? reasonPhrases code).getD "<unknown status code>"

/-- A number of 16 bits. -/
def word16? (j : Json) : Option Int := do
  let n ← j.asInt?
  if 0 ≤ n ∧ n ≤ 65535 then some n else none

/-- The failure that a document reports. -/
def status? (j : Json) : Option ApiStatus := do
  let _ ← j.asObject?
  let texts (key : String) : Option String :=
    match j.get? key with
    | some value => value.asString?
    | none => some ""
  return { status := ← (← j.get? "status").asString?
           message := ← texts "message"
           reason := ← texts "reason"
           code := ← word16? (← j.get? "code") }

/-- The failure that a reply stands for. -/
def failure (code : Nat) (body : List UInt8) : ApiFault :=
  match Text.decode? body with
  | none => .unusable "a reply that is no text"
  | some s =>
    match (Json.parse? s).bind status? with
    | some status => .refused status
    | none =>
      .refused
        { status := statusLine code
          message := Text.quoted s
          reason := "Failed to parse error data"
          code := code }

/-- What a failure means for a call. -/
def refusal (c : Call) (fault : ApiFault) : Except DeployError c.Found :=
  match fault with
  | .unusable _ => .error (.api fault)
  | .refused status =>
    let absent := status.reason = "NotFound"
    match c with
    | .getNamespace _ => if absent then .ok none else .error (.api fault)
    | .getPod _ _ => if absent then .ok none else .error (.api fault)
    | .getCrd _ => if absent then .ok none else .error (.api fault)
    | .getJob _ _ => if absent then .ok none else .error (.api fault)
    | .getService _ _ => if absent then .ok none else .error (.api fault)
    | .deleteNamespace _ => if status.code = 404 then .ok () else .error (.api fault)
    | _ => .error (.api fault)

/-- The summaries of what has been done. -/
def isSummary (j : Json) : Bool :=
  j.isText "Success" || j.isText "Failure"

/-- Whether a document says that something has been done. -/
def isDeletionStatus (j : Json) : Bool :=
  let textOrNothing (key : String) : Bool := (j.get? key).all fun v => v.asString?.isSome
  (j.getD "status").unlessNull.all isSummary && textOrNothing "message" && textOrNothing "reason"
    && (j.get? "code").all fun v => (word16? v).isSome

/-- What a document means for a call. -/
def find? (c : Call) (j : Json) : Option c.Found :=
  match c with
  | .getNamespace _ => (Namespace.ofJson? j).map some
  | .createNamespace _ _ => (Namespace.ofJson? j).map fun _ => ()
  | .deleteNamespace _ =>
    if (j.getD "kind").isText "Status" then if isDeletionStatus j then some () else none
    else (Namespace.ofJson? j).map fun _ => ()
  | .getPod _ _ => (Pod.ofJson? j).map some
  | .listPods _ _ => Document.list? Pod.ofJson? j
  | .listEvents _ _ => Document.list? Event.ofJson? j
  | .getCrd _ => (Crd.ofJson? j).map some
  | .getJob _ _ => (Job.ofJson? j).map some
  | .getService _ _ => (Service.ofJson? j).map some
  | .serverVersion => Document.version? j
  | .listNodes => Document.list? Node.ofJson? j

/-- What a call finds in a reply. -/
def receive (c : Call) (reply : Reply) : Except DeployError c.Found :=
  if 400 ≤ reply.code ∧ reply.code < 600 then c.refusal (failure reply.code reply.body)
  else
    match ((Text.decode? reply.body).bind Json.parse?).bind c.find? with
    | some found => .ok found
    | none => .error (.api (.unusable "a reply that cannot be read"))

/-- The fault of a call that cannot be written as a request. -/
def unwritable : ApiFault := .unusable "a request that cannot be written"

/-- Calls a server.  A call that cannot be written as a request fails without one. -/
def send {σ : Type} (server : Server σ) (c : Call) (state : σ) :
    Except DeployError c.Found × σ :=
  match c.request? with
  | none => (.error (.api unwritable), state)
  | some request =>
    let (reply, state) := server.reply request state
    (c.receive reply, state)

end Call

end Groundwork.Cluster
