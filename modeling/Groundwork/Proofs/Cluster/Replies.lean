import Groundwork.Cluster.Ownership
import Groundwork.Cluster.Rest
import Groundwork.Proofs.Table
import Mathlib.Logic.Function.Basic

/-!
# Replies about namespaces

A server that keeps a map of namespaces answers the requests about them from the map, each in one of
the ways of `Answers`; that a call reaches such a server is what `Server.Serves` assumes.  What a
call finds in a reply is told by `Call.receive_of_found` and `Call.receive_of_refuses`, and the
request that creates a namespace describes the namespace that was asked for (`body_of_request?`,
`ofJson?_newNamespace`).
-/

namespace Groundwork.Cluster

/-! ### Namespaces with the same labels -/

namespace Namespace

/-- The value of a label. -/
def label? (ns : Namespace) (key : String) : Option String :=
  ns.labels.bind fun labels => Table.get? labels key

/-- The namespaces have the same labels; without labels and with none is the same. -/
def SameLabels (a b : Namespace) : Prop :=
  ∀ key, a.label? key = b.label? key

theorem SameLabels.refl (a : Namespace) : a.SameLabels a :=
  fun _ => rfl

theorem SameLabels.trans {a b c : Namespace} (hab : a.SameLabels b) (hbc : b.SameLabels c) :
    a.SameLabels c :=
  fun key => (hab key).trans (hbc key)

/-- Namespaces with the same labels belong to the same. -/
theorem SameLabels.isOwned_eq {a b : Namespace} (h : a.SameLabels b) : a.isOwned = b.isOwned :=
  congrArg (· == some ownerName) (h ownerLabel)

end Namespace

/-! ### A server that keeps namespaces -/

/-- The document of a reply. -/
def Reply.document? (r : Reply) : Option Json :=
  (Text.decode? r.body).bind Json.parse?

/-- The reply has this code and shows a namespace with these labels. -/
def Reply.Shows (r : Reply) (code : Nat) (ns : Namespace) : Prop :=
  r.code = code ∧ ∃ document shown, r.document? = some document ∧
    Namespace.ofJson? document = some shown ∧ shown.SameLabels ns

/-- The reply has this code and reports that something is done. -/
def Reply.Reports (r : Reply) (code : Nat) : Prop :=
  r.code = code ∧ ∃ document, r.document? = some document ∧
    document.getD "kind" = .string "Status" ∧ Call.isDeletionStatus document = true

/-- The reply has this code and reports a failure for this reason. -/
def Reply.Refuses (r : Reply) (code : Nat) (reason : String) : Prop :=
  r.code = code ∧ ∃ document status, r.document? = some document ∧
    Call.status? document = some status ∧ status.code = code ∧ status.reason = reason

/-- The reply to the request of a call is that of a server that keeps a map of namespaces, and what
becomes of the map. -/
inductive Answers (map : String → Option Namespace) (request : Request) (reply : Reply) :
    Call → (String → Option Namespace) → Prop
  | shown {name ns} (hmap : map name = some ns) (hreply : reply.Shows 200 ns) :
    Answers map request reply (.getNamespace name) map
  | missing {name} (hmap : map name = none) (hreply : reply.Refuses 404 "NotFound") :
    Answers map request reply (.getNamespace name) map
  /-- The namespace that the body of the request describes is there from now on. -/
  | created {name labels document ns} (hmap : map name = none)
    (hbody : request.body = some document) (hns : Namespace.ofJson? document = some ns)
    (hreply : reply.Shows 201 ns) :
    Answers map request reply (.createNamespace name labels) (Function.update map name (some ns))
  | present {name labels ns} (hmap : map name = some ns)
    (hreply : reply.Refuses 409 "AlreadyExists") :
    Answers map request reply (.createNamespace name labels) map
  /-- The namespace is gone at once. -/
  | deleted {name ns} (hmap : map name = some ns) (hreply : reply.Shows 200 ns ∨ reply.Reports 200) :
    Answers map request reply (.deleteNamespace name) (Function.update map name none)
  | absent {name} (hmap : map name = none) (hreply : reply.Refuses 404 "NotFound") :
    Answers map request reply (.deleteNamespace name) map

/-- What is assumed of the server and of the way to it: the call can be written as a request, and
the server answers that from the map of namespaces that it keeps. -/
def Server.Serves {σ : Type} (server : Server σ) (stored : σ → String → Option Namespace)
    (c : Call) : Prop :=
  ∃ request, c.request? = some request ∧ ∀ state,
    Answers (stored state) request (server.reply request state).1 c
      (stored (server.reply request state).2)

/-! ### What a call finds in a reply -/

namespace Call

variable {σ : Type} {server : Server σ} {c : Call} {reply : Reply}

theorem send_eq {request : Request} (h : c.request? = some request) (state : σ) :
    c.send server state =
      (c.receive (server.reply request state).1, (server.reply request state).2) := by
  unfold send
  rw [h]

theorem receive_of_found {document : Json} {found : c.Found} (hcode : reply.code < 400)
    (hdocument : reply.document? = some document) (hfound : c.find? document = some found) :
    c.receive reply = .ok found := by
  unfold receive
  rw [if_neg (by omega), show (Text.decode? reply.body).bind Json.parse? = some document from
    hdocument, Option.bind_some, hfound]

theorem receive_of_refuses {code : Nat} {reason : String} (hreply : reply.Refuses code reason)
    (hcode : 400 ≤ code ∧ code < 600) :
    ∃ status : ApiStatus, status.code = code ∧ status.reason = reason ∧
      c.receive reply = c.refusal (.refused status) := by
  obtain ⟨rfl, document, status, hdocument, hstatus, hcodes, hreason⟩ := hreply
  obtain ⟨text, htext, hparsed⟩ := Option.bind_eq_some_iff.mp hdocument
  refine ⟨status, hcodes, hreason, ?_⟩
  unfold receive failure
  rw [if_pos hcode, htext]
  simp only [hparsed, Option.bind_some, hstatus]

theorem request?_of_address {draft : Request} {target : String} (hdraft : c.draft? = some draft)
    (htarget : Text.address? draft.target = some target) :
    c.request? = some { draft with target } := by
  unfold request?
  rw [hdraft, Option.bind_eq_bind, Option.bind_some, htarget]
  rfl

/-- A new namespace has the body that describes it. -/
theorem body_of_request? {name : String} {labels : Labels} {request : Request}
    (h : (createNamespace name labels).request? = some request) :
    request.body = some (newNamespace name labels) := by
  simp only [request?, draft?, Option.bind_eq_bind, Option.bind_some,
    Option.bind_eq_some_iff] at h
  obtain ⟨target, -, h⟩ := h
  cases h
  rfl

end Call

/-! ### The document of a new namespace -/

section

open Document

theorem textTable_of_texts {j : Json} {key : String} {texts : Table String String}
    (h : j.getD key = .object (texts.map fun t => (t.1, .string t.2)))
    (hkeys : (texts.map Prod.fst).Nodup) : textTable j key = some (some texts) := by
  have htexts (texts : Table String String) :
      (texts.map fun t => (t.1, Json.string t.2)).mapM
        (fun m => m.2.asString?.map fun s => (m.1, s)) = some texts := by
    induction texts with
    | nil => rfl
    | cons t texts ih =>
      rw [List.map_cons, List.mapM_cons, ih]
      rfl
  unfold textTable Document.optional
  rw [h]
  simp only [Json.unlessNull, Json.isNull, Bool.false_eq_true, if_false, Json.asObject?,
    Option.bind_eq_bind, Option.bind_some, htexts, Table.ofList_of_nodup hkeys]
  rfl

theorem ofJson?_newNamespace {name : String} {labels : Labels}
    (hkeys : (labels.map Prod.fst).Nodup) :
    Namespace.ofJson? (Call.newNamespace name labels) = some ⟨some name, some labels⟩ := by
  have hkind : isOfKind (Call.newNamespace name labels) "v1" "Namespace" = true := rfl
  have hmetadata : part (Call.newNamespace name labels) "metadata" =
      some (.object [("labels", .object (labels.map fun l => (l.1, .string l.2))),
        ("name", .string name)]) := rfl
  have hlabels : textTable (.object [("labels", .object (labels.map fun l => (l.1, .string l.2))),
      ("name", .string name)]) "labels" = some (some labels) := textTable_of_texts rfl hkeys
  have hheader : header? (Call.newNamespace name labels) "v1" "Namespace" =
      some ⟨none, some name, some labels⟩ := by
    simp only [header?, hkind, hmetadata, hlabels, Bool.not_true, Bool.false_eq_true, if_false,
      Option.bind_eq_bind, Option.bind_some]
    rfl
  simp only [Namespace.ofJson?, hheader, Option.bind_eq_bind, Option.bind_some]
  rfl

end

/-- A document of a namespace does not call itself a status. -/
theorem isText_status_of_ofJson? {document : Json} {ns : Namespace}
    (h : Namespace.ofJson? document = some ns) :
    (document.getD "kind").isText "Status" = false := by
  have hkind : Document.isOfKind document "v1" "Namespace" = true := by
    by_contra hnot
    rw [Bool.not_eq_true] at hnot
    simp [Namespace.ofJson?, Document.header?, hnot] at h
  unfold Document.isOfKind at hkind
  unfold Json.getD
  cases hget : document.get? "kind" with
  | none => rfl
  | some kind =>
    have htext : kind.isText "Namespace" = true := by
      simp only [hget, Option.all_some, Bool.and_eq_true] at hkind
      exact hkind.2
    simp only [Json.isText, beq_iff_eq] at htext
    simp [Json.isText, htext]

end Groundwork.Cluster
