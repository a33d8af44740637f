import Groundwork.Engine.Live
import Groundwork.Proofs.Cluster.Phase
import Groundwork.Proofs.Cluster.Replies
import Groundwork.Proofs.Text.Utf8

/-!
# An API server and the cluster in memory

A cluster in memory in which deleted namespaces are gone at once `Mirrors` the map of namespaces
that an API server keeps, and goes on mirroring it: one call does the same in both
(`Answers.alike_getNamespace`, `alike_createNamespace`, `alike_deleteNamespace`), so one errand does
(`Errand.alike_script`), and so does every errand after any others (`Errand.live_alike_fake`).
-/

namespace Groundwork.Cluster

open Script

/-! ### Errands -/

/-- Something to be done with a namespace. -/
inductive Errand where
  | get (name : String)
  | create (name : String) (labels : Labels) (distinct : (labels.map Prod.fst).Nodup)
  | delete (name : String)
  /-- To find out whether a namespace is there, and whose it is. -/
  | classify (name : String)

namespace Errand

/-- What an errand finds. -/
abbrev Found : Errand → Type
  | .get _ => Option Namespace
  | .create _ _ _ => Unit
  | .delete _ => Unit
  | .classify _ => NamespaceState

/-- The script of an errand. -/
def script : (e : Errand) → Engine e.Found
  | .get name => Engine.call (.getNamespace name)
  | .create name labels _ => Engine.call (.createNamespace name labels)
  | .delete name => Engine.call (.deleteNamespace name)
  | .classify name => NamespaceState.read name

/-- The call that an errand makes. -/
def call : Errand → Call
  | .get name => .getNamespace name
  | .create name labels _ => .createNamespace name labels
  | .delete name => .deleteNamespace name
  | .classify name => .getNamespace name

/-- What is found is the same, as far as it matters. -/
def Same : (e : Errand) → e.Found → e.Found → Prop
  | .get _ => Option.Rel Namespace.SameLabels
  | .create _ _ _ => Eq
  | .delete _ => Eq
  | .classify _ => Eq

/-- The outside after some errands. -/
def after {σ : Type} (world : World Action Action.Answer σ) (patience : Nat) (errands : List Errand)
    (state : σ) : σ :=
  errands.foldl (fun state e => (Script.run world patience e.script state).2) state

end Errand

/-- Both ways something is found that is the same, or both ways it fails. -/
inductive Alike {α : Type} (same : α → α → Prop) :
    Except DeployError α → Except DeployError α → Prop
  | found {a b} (h : same a b) : Alike same (.ok a) (.ok b)
  | failed {e e'} : Alike same (.error e) (.error e')

/-! ### One call -/

/-- A cluster in memory mirrors a map of namespaces: it has the same ones, and deleted ones are gone
at once. -/
structure Fake.Mirrors (f : Fake) (map : String → Option Namespace) : Prop where
  same : ∀ name, Option.Rel Namespace.SameLabels (map name) (Table.get? f.namespaces name)
  terminating : f.terminating = []
  atOnce : f.deletionLag = 0

namespace Fake.Mirrors

variable {f g : Fake} {name : String} {map : String → Option Namespace}

theorem of_lifecycle_eq (h : f.Mirrors map) (hg : g.lifecycle = f.lifecycle) : g.Mirrors map := by
  have hnamespaces : g.namespaces = f.namespaces := congrArg Lifecycle.namespaces hg
  have hterminating : g.terminating = f.terminating := congrArg Lifecycle.terminating hg
  have hlag : g.deletionLag = f.deletionLag := congrArg Lifecycle.deletionLag hg
  exact ⟨hnamespaces ▸ h.same, hterminating ▸ h.terminating, hlag ▸ h.atOnce⟩

theorem has_eq (h : f.Mirrors map) (name : String) :
    Table.has f.namespaces name = (map name).isSome := by
  rw [Table.has_eq_isSome_get?]
  have hsame := h.same name
  generalize map name = kept, Table.get? f.namespaces name = held at hsame ⊢
  cases hsame <;> rfl

theorem has_of_eq_some {ns : Namespace} (h : f.Mirrors map) (hmap : map name = some ns) :
    Table.has f.namespaces name = true := by
  rw [h.has_eq, hmap]
  rfl

theorem has_of_eq_none (h : f.Mirrors map) (hmap : map name = none) :
    Table.has f.namespaces name = false := by
  rw [h.has_eq, hmap]
  rfl

/-- A namespace that is created in both is the same in both. -/
theorem withNew {labels : Labels} (h : f.Mirrors map) (hfree : map name = none)
    (hg : g.lifecycle = f.lifecycle.withNew name labels) :
    g.Mirrors (Function.update map name (some ⟨some name, some labels⟩)) := by
  have hnamespaces : g.namespaces = f.namespaces ++ [(name, ⟨some name, some labels⟩)] :=
    congrArg Lifecycle.namespaces hg
  have hterminating : g.terminating = f.terminating := congrArg Lifecycle.terminating hg
  have hlag : g.deletionLag = f.deletionLag := congrArg Lifecycle.deletionLag hg
  refine ⟨fun other => ?_, hterminating ▸ h.terminating, hlag ▸ h.atOnce⟩
  rw [hnamespaces, Table.get?_append]
  by_cases hother : other = name
  · subst hother
    rw [Function.update_self, Table.get?_eq_none_iff.mpr (h.has_of_eq_none hfree),
      Option.none_or, Table.get?_singleton_self]
    exact .some (.refl _)
  · rw [Function.update_of_ne hother,
      show Table.get? [(name, (⟨some name, some labels⟩ : Namespace))] other = none by
        simp [Table.get?, Ne.symm hother], Option.or_none]
    exact h.same other

/-- A namespace that is deleted in both is gone in both. -/
theorem without (h : f.Mirrors map) (hg : g.lifecycle = f.lifecycle.without name) :
    g.Mirrors (Function.update map name none) := by
  have hnamespaces : g.namespaces = Table.erase f.namespaces name :=
    congrArg Lifecycle.namespaces hg
  have hterminating : g.terminating = f.terminating := congrArg Lifecycle.terminating hg
  have hlag : g.deletionLag = f.deletionLag := congrArg Lifecycle.deletionLag hg
  refine ⟨fun other => ?_, hterminating ▸ h.terminating, hlag ▸ h.atOnce⟩
  rw [hnamespaces]
  by_cases hother : other = name
  · subst hother
    rw [Function.update_self, Table.get?_erase_self]
    exact .none
  · rw [Function.update_of_ne hother, Table.get?_erase_of_ne hother]
    exact h.same other

end Fake.Mirrors

namespace Answers

variable {map map' : String → Option Namespace} {request : Request} {reply : Reply} {f : Fake}
  {name : String} {labels : Labels}

/-- Looking for a namespace finds the same in both. -/
theorem alike_getNamespace (h : Answers map request reply (.getNamespace name) map')
    (hf : f.Mirrors map) :
    Alike (Option.Rel Namespace.SameLabels) ((Call.getNamespace name).receive reply)
        (f.answer (.getNamespace name)).1 ∧
      (f.answer (.getNamespace name)).2.Mirrors map' := by
  have hsame := hf.same name
  have hkept : (f.answer (.getNamespace name)).2.Mirrors map :=
    hf.of_lifecycle_eq (Fake.lifecycle_answer_of_onlyLooks trivial rfl hf.terminating)
  have hfake : (f.answer (.getNamespace name)).1 = .ok (Table.get? f.namespaces name) :=
    Fake.answer_getNamespace rfl hf.terminating
  rw [hfake]
  cases h with
  | shown hmap hreply =>
    obtain ⟨hcode, document, shown, hdocument, hread, hlabels⟩ := hreply
    have hfound : (Call.getNamespace name).find? document = some (some shown) :=
      congrArg (Option.map some) hread
    rw [Call.receive_of_found (by omega) hdocument hfound]
    refine ⟨.found ?_, hkept⟩
    rw [hmap] at hsame
    generalize Table.get? f.namespaces name = held at hsame ⊢
    cases hsame with
    | some hheld => exact .some (hlabels.trans hheld)
  | missing hmap hreply =>
    obtain ⟨status, -, hreason, hreceive⟩ :=
      Call.receive_of_refuses hreply (by omega : 400 ≤ 404 ∧ 404 < 600)
    have hrefusal : (Call.getNamespace name).refusal (.refused status) = .ok none :=
      if_pos hreason
    rw [hreceive, hrefusal]
    refine ⟨.found ?_, hkept⟩
    rwa [hmap] at hsame

/-- A namespace is created in both or in neither. -/
theorem alike_createNamespace (h : Answers map request reply (.createNamespace name labels) map')
    (hrequest : (Call.createNamespace name labels).request? = some request)
    (hlabels : (labels.map Prod.fst).Nodup) (hf : f.Mirrors map) :
    Alike Eq ((Call.createNamespace name labels).receive reply)
        (f.answer (.createNamespace name labels)).1 ∧
      (f.answer (.createNamespace name labels)).2.Mirrors map' := by
  rw [Fake.answer_createNamespace_eq, hf.has_eq]
  cases h with
  | @created _ _ document ns hmap hbody hns hreply =>
    have hhas := hf.has_of_eq_none hmap
    -- the body is the document of the namespace that was asked for
    obtain rfl : Call.newNamespace name labels = document :=
      Option.some.inj ((Call.body_of_request? hrequest).symm.trans hbody)
    obtain rfl : ⟨some name, some labels⟩ = ns :=
      Option.some.inj ((ofJson?_newNamespace hlabels).symm.trans hns)
    obtain ⟨hcode, document, shown, hdocument, hread, -⟩ := hreply
    have hfound : (Call.createNamespace name labels).find? document = some () :=
      congrArg (Option.map fun _ => ()) hread
    rw [Call.receive_of_found (by omega) hdocument hfound, hmap]
    exact ⟨.found rfl, hf.withNew hmap (Fake.answer_createNamespace_of_not_has rfl hhas)⟩
  | present hmap hreply =>
    have hhas := hf.has_of_eq_some hmap
    obtain ⟨status, -, -, hreceive⟩ :=
      Call.receive_of_refuses hreply (by omega : 400 ≤ 409 ∧ 409 < 600)
    rw [hreceive, hmap]
    exact ⟨.failed, hf.of_lifecycle_eq (Fake.answer_createNamespace_of_has rfl hhas)⟩

/-- Deleting a namespace ends well in both. -/
theorem alike_deleteNamespace (h : Answers map request reply (.deleteNamespace name) map')
    (hf : f.Mirrors map) :
    Alike Eq ((Call.deleteNamespace name).receive reply) (f.answer (.deleteNamespace name)).1 ∧
      (f.answer (.deleteNamespace name)).2.Mirrors map' := by
  have hfake : (f.answer (.deleteNamespace name)).1 = .ok () := rfl
  rw [hfake]
  cases h with
  | deleted hmap hreply =>
    have hhas := hf.has_of_eq_some hmap
    -- the server shows what it has deleted, or it reports that it has
    have hreceive : (Call.deleteNamespace name).receive reply = .ok () := by
      rcases hreply with ⟨hcode, document, shown, hdocument, hread, -⟩ |
        ⟨hcode, document, hdocument, hkind, hstatus⟩
      · have hfound : (Call.deleteNamespace name).find? document = some () := by
          simp [Call.find?, isText_status_of_ofJson? hread, hread]
        exact Call.receive_of_found (by omega) hdocument hfound
      · have hfound : (Call.deleteNamespace name).find? document = some () := by
          simp [Call.find?, hkind, hstatus, Json.isText, Json.asString?]
        exact Call.receive_of_found (by omega) hdocument hfound
    have hgone : (f.answer (.deleteNamespace name)).2.lifecycle = f.lifecycle.without name :=
      (Fake.answer_deleteNamespace rfl hf.terminating hhas).trans (if_pos hf.atOnce)
    rw [hreceive]
    exact ⟨.found rfl, hf.without hgone⟩
  | absent hmap hreply =>
    have hhas := hf.has_of_eq_none hmap
    obtain ⟨status, hcode, -, hreceive⟩ :=
      Call.receive_of_refuses hreply (by omega : 400 ≤ 404 ∧ 404 < 600)
    have hrefusal : (Call.deleteNamespace name).refusal (.refused status) = .ok () := if_pos hcode
    rw [hreceive, hrefusal]
    exact ⟨.found rfl, hf.of_lifecycle_eq (Fake.answer_deleteNamespace_of_not_has hhas)⟩

end Answers

/-! ### Errands in both clusters -/

section

variable {σ : Type} {world : World Action Action.Answer σ} {patience : Nat} {name : String}
  {state : σ}

theorem run_call (c : Call) :
    Script.run world patience (Engine.call c) state =
      (some (world.answer (.call c) state).1, (world.answer (.call c) state).2) := by
  show Script.run world patience (Script.ofExcept (world.answer (.call c) state).1) _ = _
  rw [run_ofExcept]

theorem run_read :
    Script.run world patience (NamespaceState.read name) state =
      (some ((world.answer (.call (.getNamespace name)) state).1.map NamespaceState.ofFound),
        (world.answer (.call (.getNamespace name)) state).2) := by
  show Script.run world patience ((Engine.call (.getNamespace name)).andThen _) state = _
  rcases hanswer : (world.answer (.call (.getNamespace name)) state).1 with e | found
  · exact run_andThen_error (by rw [run_call, hanswer])
  · exact run_andThen_ok (by rw [run_call, hanswer])

variable {server : Server σ} {request : Request}

theorem run_live_call {c : Call} (h : c.request? = some request) :
    Script.run (Engine.live server) patience (Engine.call c) state =
      (some (c.receive (server.reply request state).1), (server.reply request state).2) := by
  rw [run_call]
  show (some (c.send server state).1, (c.send server state).2) = _
  rw [Call.send_eq h]

theorem run_live_read (h : (Call.getNamespace name).request? = some request) :
    Script.run (Engine.live server) patience (NamespaceState.read name) state =
      (some (((Call.getNamespace name).receive (server.reply request state).1).map
        NamespaceState.ofFound), (server.reply request state).2) := by
  rw [run_read]
  show (some (((Call.getNamespace name).send server state).1.map _), (Call.send _ _ _).2) = _
  rw [Call.send_eq h]

end

theorem Alike.map {α β : Type} {same : α → α → Prop} {same' : β → β → Prop} {g : α → β}
    {x y : Except DeployError α} (h : Alike same x y) (hg : ∀ a b, same a b → same' (g a) (g b)) :
    Alike same' (x.map g) (y.map g) := by
  cases h with
  | found hsame => exact .found (hg _ _ hsame)
  | failed => exact .failed

/-- Namespaces with the same labels are in the same state. -/
theorem ofFound_eq {a b : Option Namespace} (h : Option.Rel Namespace.SameLabels a b) :
    NamespaceState.ofFound a = NamespaceState.ofFound b := by
  cases h with
  | none => rfl
  | some hlabels => simp only [NamespaceState.ofFound, hlabels.isOwned_eq]

namespace Errand

variable {σ : Type} {server : Server σ} {stored : σ → String → Option Namespace} {state : σ}
  {f : Fake}

/-- One errand comes to the same end in both clusters, and they go on being the same. -/
theorem alike_script {e : Errand} (hserver : server.Serves stored e.call)
    (hf : f.Mirrors (stored state)) (patience : Nat) (commands : Invocation → CommandOutput) :
    (∃ x y, (Script.run (Engine.live server) patience e.script state).1 = some x ∧
      (Script.run (Fake.worldWith commands) patience e.script f).1 = some y ∧ Alike e.Same x y) ∧
    (Script.run (Fake.worldWith commands) patience e.script f).2.Mirrors
      (stored (Script.run (Engine.live server) patience e.script state).2) := by
  obtain ⟨request, hrequest, hanswers⟩ := hserver
  have hanswer := hanswers state
  suffices h : ∃ x y state' g,
      Script.run (Engine.live server) patience e.script state = (some x, state') ∧
      Script.run (Fake.worldWith commands) patience e.script f = (some y, g) ∧
      Alike e.Same x y ∧ g.Mirrors (stored state') by
    obtain ⟨x, y, state', g, hlive, hfake, halike, hmirrors⟩ := h
    rw [hlive, hfake]
    exact ⟨⟨x, y, rfl, rfl, halike⟩, hmirrors⟩
  cases e with
  | get name =>
    obtain ⟨halike, hmirrors⟩ := hanswer.alike_getNamespace hf
    exact ⟨_, _, _, _, run_live_call hrequest, run_call _, halike, hmirrors⟩
  | create name labels distinct =>
    obtain ⟨halike, hmirrors⟩ := hanswer.alike_createNamespace hrequest distinct hf
    exact ⟨_, _, _, _, run_live_call hrequest, run_call _, halike, hmirrors⟩
  | delete name =>
    obtain ⟨halike, hmirrors⟩ := hanswer.alike_deleteNamespace hf
    exact ⟨_, _, _, _, run_live_call hrequest, run_call _, halike, hmirrors⟩
  | classify name =>
    obtain ⟨halike, hmirrors⟩ := hanswer.alike_getNamespace hf
    exact ⟨_, _, _, _, run_live_read hrequest, run_read, halike.map fun _ _ => ofFound_eq,
      hmirrors⟩

/-- After any errands the clusters are still the same. -/
theorem mirrors_after {errands : List Errand}
    (hserver : ∀ e ∈ errands, server.Serves stored e.call) (hf : f.Mirrors (stored state))
    (patience : Nat) (commands : Invocation → CommandOutput) :
    (after (Fake.worldWith commands) patience errands f).Mirrors
      (stored (after (Engine.live server) patience errands state)) := by
  induction errands generalizing state f with
  | nil => exact hf
  | cons e errands ih =>
    obtain ⟨he, herrands⟩ := List.forall_mem_cons.mp hserver
    exact ih herrands (alike_script he hf patience commands).2

end Errand

/-! ### A server of one namespace -/

namespace Gitea

/-- The only namespace of the server. -/
def only : Namespace := ⟨some "gitea", some ownerLabels⟩

/-- What the server says of its namespace. -/
def shownText : String :=
  "\x7b\"kind\":\"Namespace\",\"apiVersion\":\"v1\",\"metadata\":\x7b\"name\":\"gitea\"," ++
    "\"labels\":\x7b\"app.kubernetes.io/managed-by\":\"plinth\"\x7d\x7d\x7d"

/-- What the server says of a failure. -/
def failureText (reason : String) (code : Nat) : String :=
  "\x7b\"kind\":\"Status\",\"status\":\"Failure\",\"reason\":\"" ++ reason ++ "\",\"code\":"
    ++ Text.decimal code ++ "\x7d"

/-- A server that knows one namespace; its state is whether that is there. -/
def server : Server Bool where
  reply request there :=
    match request.method, there with
    | .get, true => (⟨200, Text.utf8Bytes shownText⟩, true)
    | .post, true => (⟨409, Text.utf8Bytes (failureText "AlreadyExists" 409)⟩, true)
    | .post, false => (⟨201, Text.utf8Bytes shownText⟩, true)
    | .delete, true => (⟨200, Text.utf8Bytes shownText⟩, false)
    | _, false => (⟨404, Text.utf8Bytes (failureText "NotFound" 404)⟩, false)

/-- The namespaces of the server. -/
def stored (there : Bool) : String → Option Namespace :=
  Function.update (fun _ => none) "gitea" (if there then some only else none)

theorem shows_shownText (code : Nat) :
    (⟨code, Text.utf8Bytes shownText⟩ : Reply).Shows code only := by
  have hread : (Json.parse? shownText).bind Namespace.ofJson? = some only := by decide +kernel
  obtain ⟨document, hdocument, hns⟩ := Option.bind_eq_some_iff.mp hread
  refine ⟨rfl, document, only, ?_, hns, .refl only⟩
  rw [Reply.document?, Text.decode?_utf8Bytes, Option.bind_some, hdocument]

theorem refuses_of_read {reason : String} {code : Nat} {status : ApiStatus}
    (h : (Json.parse? (failureText reason code)).bind Call.status? = some status)
    (hcode : status.code = code) (hreason : status.reason = reason) :
    (⟨code, Text.utf8Bytes (failureText reason code)⟩ : Reply).Refuses code reason := by
  obtain ⟨document, hdocument, hstatus⟩ := Option.bind_eq_some_iff.mp h
  refine ⟨rfl, document, status, ?_, hstatus, hcode, hreason⟩
  rw [Reply.document?, Text.decode?_utf8Bytes, Option.bind_some, hdocument]

theorem refuses_notFound :
    (⟨404, Text.utf8Bytes (failureText "NotFound" 404)⟩ : Reply).Refuses 404 "NotFound" := by
  have hread : (Json.parse? (failureText "NotFound" 404)).bind Call.status? =
      some ⟨"Failure", "", "NotFound", 404⟩ := by decide +kernel
  exact refuses_of_read hread (by rfl) (by rfl)

theorem refuses_alreadyExists :
    (⟨409, Text.utf8Bytes (failureText "AlreadyExists" 409)⟩ : Reply).Refuses 409
      "AlreadyExists" := by
  have hread : (Json.parse? (failureText "AlreadyExists" 409)).bind Call.status? =
      some ⟨"Failure", "", "AlreadyExists", 409⟩ := by decide +kernel
  exact refuses_of_read hread (by rfl) (by rfl)

theorem serves_getNamespace : server.Serves stored (.getNamespace "gitea") := by
  have haddress : Text.address? (Call.namespacesPath ++ "/" ++ "gitea" ++ "") =
      some "/api/v1/namespaces/gitea" := by decide +kernel
  refine ⟨_, Call.request?_of_address rfl haddress, fun there => ?_⟩
  cases there with
  | false => exact .missing rfl refuses_notFound
  | true => exact .shown rfl (shows_shownText 200)

theorem serves_createNamespace :
    server.Serves stored (.createNamespace "gitea" ownerLabels) := by
  have haddress : Text.address? (Call.namespacesPath ++ "?") = some "/api/v1/namespaces?" := by
    decide +kernel
  refine ⟨_, Call.request?_of_address rfl haddress, fun there => ?_⟩
  cases there with
  | false =>
    have hread : Namespace.ofJson? (Call.newNamespace "gitea" ownerLabels) = some only :=
      ofJson?_newNamespace (by decide)
    have hmap : stored true = Function.update (stored false) "gitea" (some only) := by
      simp [stored]
    show Answers (stored false) _ _ _ (stored true)
    rw [hmap]
    exact .created rfl rfl hread (shows_shownText 201)
  | true => exact .present rfl refuses_alreadyExists

theorem serves_deleteNamespace : server.Serves stored (.deleteNamespace "gitea") := by
  have haddress : Text.address? (Call.namespacesPath ++ "/" ++ "gitea" ++ "?") =
      some "/api/v1/namespaces/gitea?" := by decide +kernel
  refine ⟨_, Call.request?_of_address rfl haddress, fun there => ?_⟩
  cases there with
  | false => exact .absent rfl refuses_notFound
  | true =>
    have hmap : stored false = Function.update (stored true) "gitea" none := by simp [stored]
    show Answers (stored true) _ _ _ (stored false)
    rw [hmap]
    exact .deleted rfl (.inl (shows_shownText 200))

end Gitea

/-! ### Agreement -/

namespace Errand

variable {σ : Type} {server : Server σ} {stored : σ → String → Option Namespace} {state : σ}
  {f : Fake}

/-- **The API server and the cluster in memory agree about namespaces.**  Against a server that
keeps a map of namespaces, whatever has been done before with the same namespaces in both, every
errand comes to an end, and to the same end: both find nothing, both find a namespace with the same
labels, and so of the same state, both succeed or both fail.  That the server is asked at all is
part of what is assumed: without a name no request can be written. -/
theorem live_alike_fake {before : List Errand} {e : Errand}
    (hserver : ∀ errand ∈ e :: before, server.Serves stored errand.call)
    (hsame : ∀ name, Option.Rel Namespace.SameLabels (stored state name)
      (Table.get? f.namespaces name))
    (hterminating : f.terminating = []) (hlag : f.deletionLag = 0) (patience : Nat)
    (commands : Invocation → CommandOutput) :
    ∃ x y,
      (Script.run (Engine.live server) patience e.script
        (after (Engine.live server) patience before state)).1 = some x ∧
      (Script.run (Fake.worldWith commands) patience e.script
        (after (Fake.worldWith commands) patience before f)).1 = some y ∧
      Alike e.Same x y := by
  obtain ⟨he, hbefore⟩ := List.forall_mem_cons.mp hserver
  have hmirrors := mirrors_after hbefore ⟨hsame, hterminating, hlag⟩ patience commands
  exact (alike_script he hmirrors patience commands).1

/-- A namespace that was created, deleted twice and created again is the installer's in the cluster
in memory, and so it is behind the API server. -/
theorem live_alike_fake_gitea :
    let create : Errand := .create "gitea" ownerLabels (by decide)
    let before : List Errand := [create, create, .delete "gitea", .delete "gitea", create]
    let memory := Fake.worldWith fun _ => ⟨true, 0, ""⟩
    (∀ errand ∈ .classify "gitea" :: before, Gitea.server.Serves Gitea.stored errand.call) ∧
      (Script.run memory 0 (script (.classify "gitea")) (after memory 0 before {})).1 =
        some (.ok .owned) ∧
      (Script.run (Engine.live Gitea.server) 0 (script (.classify "gitea"))
        (after (Engine.live Gitea.server) 0 before false)).1 = some (.ok .owned) := by
  intro create before memory
  have hserver : ∀ errand ∈ .classify "gitea" :: before,
      Gitea.server.Serves Gitea.stored errand.call := by
    have hcreate : Gitea.server.Serves Gitea.stored create.call := Gitea.serves_createNamespace
    have hdelete : Gitea.server.Serves Gitea.stored (call (.delete "gitea")) :=
      Gitea.serves_deleteNamespace
    have hclassify : Gitea.server.Serves Gitea.stored (call (.classify "gitea")) :=
      Gitea.serves_getNamespace
    simp [before, hcreate, hdelete, hclassify]
  have hsame (name : String) : Option.Rel Namespace.SameLabels (Gitea.stored false name)
      (Table.get? ({} : Fake).namespaces name) := by
    rw [show Gitea.stored false name = none by simp [Gitea.stored]]
    exact .none
  have howned : (Script.run memory 0 (script (.classify "gitea")) (after memory 0 before {})).1 =
      some (.ok .owned) := by
    rfl
  refine ⟨hserver, howned, ?_⟩
  obtain ⟨x, y, hlive, hmemory, halike⟩ := live_alike_fake hserver hsame rfl rfl 0 _
  -- what the cluster in memory finds is known, so what the server finds is
  obtain rfl : .ok .owned = y := Option.some.inj (howned.symm.trans hmemory)
  cases halike with
  | found hstate => rw [hlive, hstate]

end Errand

end Groundwork.Cluster
