import Groundwork.Engine.Rehearsal
import Groundwork.Proofs.Cluster.Ownership
import Groundwork.Proofs.Component.Building
import Groundwork.Proofs.Component.Removal
import Groundwork.Proofs.Engine.Requests
import Groundwork.Proofs.Script.History

/-!
# Namespaces of others are left alone

A component is asked for a sequence of operations in some world, which may answer every call of the
cluster and every command as it likes.  `session_obeys`: whatever it answers, what happens during
each operation is `Licensed`:

* a namespace is created only while installing, only under the id of the unit, and only if the last
  thing that the cluster said was that there is none;
* a namespace is deleted only while removing, only that of the unit, and only after it was seen to
  be the installer's own and its workload was removed or was not there;
* a command is run only after the namespace was seen to be the installer's own, or, while
  installing, after the operation itself has created it.

The proof follows the scripts with `Upholds`, one lemma for each step that needs a licence or gives
one; the waits need only that they look (`AsksOnly.obeys`).
-/

namespace Groundwork

open Script Cluster

/-! ### Sessions -/

/-- What has happened while a component was at work. -/
abbrev WorkHistory : Type := History Action Action.Answer

/-- What a component can be asked for. -/
inductive Operation where
  | install (settings : Settings)
  | upgrade (settings : Settings)
  | remove

/-- One operation, and what happened during it. -/
structure Performed where
  operation : Operation
  history : WorkHistory

namespace Component

/-- What the component does for an operation. -/
def perform (c : Component) : Operation → Engine Unit
  | .install settings => c.install settings
  | .upgrade settings => c.upgrade settings
  | .remove => c.remove

/-- Performs operations one after the other, each whatever the ones before it ended with, and
writes down what happens. -/
def session {σ : Type} (c : Component) (world : World Action Action.Answer σ) (patience : Nat) :
    List Operation → σ → List Performed
  | [], _ => []
  | operation :: rest, state =>
    let (_, after, history) :=
      Script.run world.recording patience (c.perform operation) (state, [])
    ⟨operation, history⟩ :: c.session world patience rest after

end Component

/-! ### Licences -/

/-- What the cluster answered to a call. -/
def clusterAnswer? :
    Occurrence Action Action.Answer → Option ((c : Call) × Except DeployError c.Found)
  | .asked (.call c) answer => some ⟨c, answer⟩
  | _ => none

/-- The last answer of the cluster, with the call. -/
def lastAnswer? (history : WorkHistory) : Option ((c : Call) × Except DeployError c.Found) :=
  (history.filterMap clusterAnswer?).getLast?

/-- A look at a namespace that showed this. -/
def sight (id : String) (found : Option Namespace) : Occurrence Action Action.Answer :=
  .asked (.call (.getNamespace id)) (.ok found : Except DeployError (Option Namespace))

/-- A command that was run and wrote this. -/
def execution (i : Invocation) (o : CommandOutput) : Occurrence Action Action.Answer :=
  .asked (.run i) (.ok o : Except DeployError CommandOutput)

/-- The creation of a namespace with the label of the installer. -/
def creation (id : String) : Occurrence Action Action.Answer :=
  .asked (.call (.createNamespace id ownerLabels)) (.ok () : Except DeployError Unit)

/-- The namespace was seen, and seen to be the installer's own. -/
def SeenOwned (id : String) (history : WorkHistory) : Prop :=
  ∃ ns : Namespace, ns.isOwned = true ∧ sight id (some ns) ∈ history

/-- The namespace was seen to be the installer's own, and after that its workload was removed. -/
def SeenRemoved (id : String) (history : WorkHistory) : Prop :=
  ∃ (ns : Namespace) (i : Invocation) (o : CommandOutput), ns.isOwned = true ∧ i.Removes id ∧
    o.IsBenign i.program ∧ [sight id (some ns), execution i o].Sublist history

/-- Commands may be run: the namespace is the installer's own, or has just been created. -/
def MayRun (id : String) : Operation → WorkHistory → Prop
  | .install _, history => creation id ∈ history
  | _, history => SeenOwned id history

/-- What may happen during an operation, given what has happened before. -/
def Licensed (id : String) (operation : Operation) (before : WorkHistory) :
    Occurrence Action Action.Answer → Prop
  | .asked (.call (.createNamespace name _)) _ =>
    (∃ settings, operation = .install settings) ∧ name = id ∧
      lastAnswer? before = some ⟨.getNamespace id, .ok none⟩
  | .asked (.call (.deleteNamespace name)) _ =>
    operation = .remove ∧ name = id ∧ SeenRemoved id before
  | .asked (.run _) _ => MayRun id operation before
  | _ => True

theorem SeenOwned.append {id : String} {history : WorkHistory}
    (o : Occurrence Action Action.Answer) (h : SeenOwned id history) :
    SeenOwned id (history ++ [o]) := by
  obtain ⟨ns, howned, hmem⟩ := h
  exact ⟨ns, howned, List.mem_append_left _ hmem⟩

theorem SeenRemoved.append {id : String} {history : WorkHistory}
    (o : Occurrence Action Action.Answer) (h : SeenRemoved id history) :
    SeenRemoved id (history ++ [o]) := by
  obtain ⟨ns, i, out, howned, hremoves, hbenign, hsub⟩ := h
  exact ⟨ns, i, out, howned, hremoves, hbenign, hsub.trans (List.sublist_append_left _ _)⟩

theorem MayRun.append {id : String} {operation : Operation} {history : WorkHistory}
    (o : Occurrence Action Action.Answer) (h : MayRun id operation history) :
    MayRun id operation (history ++ [o]) := by
  -- what was seen or created once stays in the history
  cases operation with
  | install settings => exact List.mem_append_left _ h
  | upgrade settings => exact SeenOwned.append o h
  | remove => exact SeenOwned.append o h

theorem licensed_of_onlyLooks {id : String} {operation : Operation} {history : WorkHistory}
    {a : Action} (answer : a.Answer) (h : a.OnlyLooks) :
    Licensed id operation history (.asked a answer) := by
  cases a with
  | call c => cases c <;> first | exact h.elim | trivial
  | run i => exact h.elim
  | connect => trivial
  | say level text => trivial
  | print text => trivial
  | note entry => trivial

/-! ### Single steps -/

/-- The contract of a script at work on a unit: what happens is licensed, also when the script is
broken off; `pre` and `post` are about what has happened before and after it. -/
def Works {σ α : Type} (world : World Action Action.Answer σ) (patience : Nat) (id : String)
    (operation : Operation) (pre : WorkHistory → Prop) (s : Engine α)
    (post : α → WorkHistory → Prop) : Prop :=
  Upholds world.recording patience (fun state => state.2.Obeys (Licensed id operation))
    (fun state => pre state.2) s fun a state => post a state.2

namespace Works

variable {σ α β : Type} {world : World Action Action.Answer σ} {patience : Nat}
  {id : String} {operation : Operation} {pre : WorkHistory → Prop}

theorem done {a : α} {post : α → WorkHistory → Prop} (h : ∀ history, pre history → post a history) :
    Works world patience id operation pre (.done a) post :=
  Upholds.done fun state _ => h state.2

theorem fail {e : DeployError} {post : α → WorkHistory → Prop} :
    Works world patience id operation pre (.fail e) post :=
  Upholds.fail

theorem ofExcept {x : Except DeployError α} {post : α → WorkHistory → Prop}
    (h : ∀ a, x = .ok a → ∀ history, pre history → post a history) :
    Works world patience id operation pre (Script.ofExcept x) post :=
  Upholds.ofExcept fun a ha state _ => h a ha state.2

theorem weaken {pre' : WorkHistory → Prop} {s : Engine α} {post post' : α → WorkHistory → Prop}
    (h : Works world patience id operation pre s post)
    (hpre : ∀ history, pre' history → pre history)
    (hpost : ∀ a history, post a history → post' a history) :
    Works world patience id operation pre' s post' :=
  Upholds.weaken h (fun state _ => hpre state.2) fun a state _ => hpost a state.2

/-- A script that starts with nothing may start with anything. -/
theorem anyhow {s : Engine α} {post : α → WorkHistory → Prop}
    (h : Works world patience id operation (fun _ => True) s post) :
    Works world patience id operation pre s post :=
  h.weaken (fun _ _ => trivial) fun _ _ h => h

/-- What a script leaves may be forgotten. -/
theorem forget {s : Engine α} {post : α → WorkHistory → Prop}
    (h : Works world patience id operation pre s post) :
    Works world patience id operation pre s fun _ _ => True :=
  h.weaken (fun _ h => h) fun _ _ _ => trivial

theorem andThen {s : Engine α} {f : α → Engine β} {mid : α → WorkHistory → Prop}
    {post : β → WorkHistory → Prop} (hs : Works world patience id operation pre s mid)
    (hf : ∀ a, Works world patience id operation (mid a) (f a) post) :
    Works world patience id operation pre (s.andThen f) post :=
  Upholds.andThen hs hf

theorem looking {s : Engine α} (hs : AsksOnly Action.OnlyLooks s)
    (hpre : ∀ history o, pre history → pre (history ++ [o])) :
    Works world patience id operation pre s fun _ => pre :=
  hs.obeys hpre (fun _ answer _ hlook _ => licensed_of_onlyLooks answer hlook)
    fun _ _ _ => trivial

theorem commands {s : Engine α} (hs : AsksOnly Action.LooksOrRuns s) :
    Works world patience id operation (MayRun id operation) s fun _ => MayRun id operation := by
  apply hs.obeys
  · exact fun _ o h => h.append o
  · rintro a answer history (hlook | ⟨i, rfl⟩) hmay
    · exact licensed_of_onlyLooks answer hlook
    · exact hmay
  · exact fun _ _ _ => trivial

theorem ofSetup {x : Except SetupError α} :
    Works world patience id operation pre (Engine.ofSetup x) fun _ => pre := by
  cases x with
  | ok a => exact done fun _ h => h
  | error e => exact fail

/-- A request that is licensed, and what follows it. -/
theorem ask {a : Action} {next : a.Answer → Engine α} {post : α → WorkHistory → Prop}
    (hlicence : ∀ history answer, pre history → Licensed id operation history (.asked a answer))
    (hnext : ∀ answer, Works world patience id operation
      (fun after => ∃ history, pre history ∧ after = history ++ [.asked a answer])
      (next answer) post) :
    Works world patience id operation pre (.ask a next) post := by
  apply Upholds.ask fun answer state =>
    ∃ history, pre history ∧ state.2 = history ++ [.asked a answer]
  · intro state hobeys hpre
    exact ⟨hobeys.append (hlicence _ _ hpre), state.2, hpre, rfl⟩
  · exact hnext

theorem call {c : Call}
    (hlicence : ∀ history answer, pre history →
      Licensed id operation history (.asked (.call c) answer)) :
    Works world patience id operation pre (Engine.call c) fun found after =>
      ∃ history, pre history ∧ after = history ++ [.asked (.call c) (.ok found)] := by
  apply ask hlicence
  intro answer
  apply ofExcept
  rintro found rfl after hafter
  exact hafter

theorem runChecked {i : Invocation} {benign : List String}
    (hlicence : ∀ history answer, pre history →
      Licensed id operation history (.asked (.run i) answer)) :
    Works world patience id operation pre (Engine.runChecked i benign) fun o after =>
      (o.success = true ∨ o.mentions benign = true) ∧
        ∃ history, pre history ∧ after = history ++ [execution i o] := by
  have hrun : Works world patience id operation pre (Engine.run i) fun o after =>
      ∃ history, pre history ∧ after = history ++ [execution i o] := by
    apply ask hlicence
    intro answer
    apply ofExcept
    rintro o rfl after hafter
    exact hafter
  apply hrun.andThen
  intro o
  apply ofExcept
  intro o' hjudged after hafter
  obtain ⟨rfl, hbenign⟩ := Engine.judgeOutput_eq_ok.mp hjudged
  exact ⟨hbenign, hafter⟩

theorem say {level : Level} {text : String}
    (hpre : ∀ history answer, pre history → pre (history ++ [.asked (.say level text) answer])) :
    Works world patience id operation pre (Engine.say level text) fun _ => pre := by
  apply ask
  · intro history answer _
    trivial
  · intro answer
    apply done
    rintro after ⟨history, hhistory, rfl⟩
    exact hpre history answer hhistory

end Works

/-! ### Guards -/

section Guards

variable {σ : Type} {world : World Action Action.Answer σ} {patience : Nat}
  {id : String} {operation : Operation} {pre : WorkHistory → Prop}

theorem lastAnswer?_call (history : WorkHistory) (c : Call) (answer : Except DeployError c.Found) :
    lastAnswer? (history ++ [.asked (.call c) answer]) = some ⟨c, answer⟩ := by
  simp [lastAnswer?, clusterAnswer?]

theorem lastAnswer?_say (history : WorkHistory) (level : Level) (text : String)
    (answer : Action.Answer (.say level text)) :
    lastAnswer? (history ++ [.asked (.say level text) answer]) = lastAnswer? history := by
  simp [lastAnswer?, clusterAnswer?]

theorem works_readState :
    Works world patience id operation pre (NamespaceState.read id) fun state after =>
      ∃ history found, state = .ofFound found ∧ after = history ++ [sight id found] := by
  have hlook : Works world patience id operation pre (Engine.call (.getNamespace id))
      fun found after => ∃ history, pre history ∧ after = history ++ [sight id found] :=
    Works.call fun _ _ _ => trivial
  apply hlook.andThen
  intro found
  apply Works.done
  rintro after ⟨history, -, hafter⟩
  exact ⟨history, found, rfl, hafter⟩

theorem seenOwned_of_ofFound {found : Option Namespace} {history : WorkHistory}
    (h : NamespaceState.ofFound found = .owned) : SeenOwned id (history ++ [sight id found]) := by
  obtain ⟨ns, rfl, howned⟩ := NamespaceState.ofFound_eq_owned_iff.mp h
  exact ⟨ns, howned, List.mem_append_right _ (List.mem_singleton_self _)⟩

/-- Where installing may go on, the last answer was that there is no such namespace. -/
theorem works_guardInstall :
    Works world patience id operation pre (guardInstall id) fun _ after =>
      lastAnswer? after = some ⟨.getNamespace id, .ok none⟩ := by
  apply works_readState.andThen
  intro state
  cases state with
  | absent =>
    apply Works.done
    rintro after ⟨history, found, hfound, rfl⟩
    rw [NamespaceState.ofFound_eq_absent_iff.mp hfound.symm]
    exact lastAnswer?_call history (.getNamespace id) _
  | owned => exact Works.fail
  | foreign => exact Works.fail

/-- Where upgrading may go on, the namespace was seen to be the installer's. -/
theorem works_guardUpgrade :
    Works world patience id operation pre (guardUpgrade id) fun _ => SeenOwned id := by
  apply works_readState.andThen
  intro state
  cases state with
  | owned =>
    apply Works.done
    rintro after ⟨history, found, hfound, rfl⟩
    exact seenOwned_of_ofFound hfound.symm
  | absent => exact Works.fail
  | foreign => exact Works.fail

/-- A unit is to be removed only if its namespace was seen to be the installer's. -/
theorem works_guardRemove :
    Works world patience id operation pre (guardRemove id) fun removing after =>
      removing = true → SeenOwned id after := by
  have hspared (text : String) : Works world patience id operation (fun _ => True)
      ((Engine.say .exclamation text).andThen fun _ => .done false) fun removing after =>
        removing = true → SeenOwned id after := by
    apply (Works.say fun _ _ h => h).andThen
    intro _
    exact Works.done fun _ _ hremoving => absurd hremoving (by decide)
  apply works_readState.andThen
  intro state
  cases state with
  | owned =>
    apply Works.done
    rintro after ⟨history, found, hfound, rfl⟩ -
    exact seenOwned_of_ofFound hfound.symm
  | absent => exact (hspared _).anyhow
  | foreign => exact (hspared _).anyhow

end Guards

/-! ### Units -/

namespace ChartUnit

variable {σ : Type} {world : World Action Action.Answer σ} {patience : Nat}
  {operation : Operation} {pre : WorkHistory → Prop}
  (u : ChartUnit) (settings : Settings) (extra : List (String × String))

theorem works_skipped (reason : String) :
    Works world patience u.spec.id operation pre
      ((u.saySkipped reason).andThen fun _ => .done false) fun _ _ => True := by
  apply Works.anyhow
  apply (Works.say fun _ _ h => h).andThen
  intro _
  exact Works.done fun _ _ => trivial

/-- Once commands may be run, an installation or an upgrade may go on to its end. -/
theorem works_applied (verb : Verb) (text : String) :
    Works world patience u.spec.id operation (MayRun u.spec.id operation)
      ((u.apply verb settings extra).andThen fun _ =>
        (Engine.say .success text).andThen fun _ => .done true) fun _ _ => True := by
  apply Works.forget
  apply Works.commands
  apply (u.asksOnly_apply verb settings extra).andThen
  intro _
  apply (Engine.looksOrRuns_of_onlyLooks (Engine.asksOnly_say _ _)).andThen
  intro _
  trivial

theorem works_installWith {given : Settings} :
    Works world patience u.spec.id (.install given) (fun _ => True)
      (u.installWith settings extra) fun _ _ => True := by
  apply Works.ofSetup.andThen
  intro skipped
  cases skipped with
  | some reason => exact u.works_skipped reason
  | none =>
    apply works_guardInstall.andThen
    intro _
    apply (Works.say fun history answer h => by rw [lastAnswer?_say, h]).andThen
    intro _
    -- what the guard saw is still the last answer, so the namespace may be created
    refine (Works.call ?_).andThen fun _ => ?_
    · intro history answer h
      exact ⟨⟨given, rfl⟩, rfl, h⟩
    · apply (u.works_applied settings extra .install _).weaken
      · rintro after ⟨history, -, rfl⟩
        exact List.mem_append_right _ (List.mem_singleton_self _)
      · exact fun _ _ h => h

theorem works_upgradeWith {given : Settings} :
    Works world patience u.spec.id (.upgrade given) (fun _ => True)
      (u.upgradeWith settings extra) fun _ _ => True := by
  apply Works.ofSetup.andThen
  intro skipped
  cases skipped with
  | some reason => exact u.works_skipped reason
  | none =>
    apply works_guardUpgrade.andThen
    intro _
    apply (Works.say fun _ answer h => h.append _).andThen
    intro _
    exact u.works_applied settings extra .upgrade _

theorem works_removeWorkload :
    Works world patience u.spec.id .remove (SeenOwned u.spec.id) u.removeWorkload fun _ =>
      SeenRemoved u.spec.id := by
  apply (Works.say fun _ answer h => h.append _).andThen
  intro _
  apply (Works.runChecked fun _ _ h => h).andThen
  intro o
  have hpost : ∀ after : WorkHistory,
      ((o.success = true ∨ o.mentions u.removeCommand.2 = true) ∧ ∃ history,
        SeenOwned u.spec.id history ∧ after = history ++ [execution u.removeCommand.1 o]) →
      SeenRemoved u.spec.id after := by
    rintro after ⟨hbenign, history, ⟨ns, howned, hseen⟩, rfl⟩
    rw [← u.benignTexts_removeCommand] at hbenign
    refine ⟨ns, _, o, howned, u.removes_removeCommand, hbenign, ?_⟩
    exact (List.singleton_sublist.mpr hseen).append (List.Sublist.refl _)
  by_cases hsuccess : o.success = true
  · rw [if_pos hsuccess]
    exact Works.done hpost
  · rw [if_neg hsuccess]
    exact (Works.say fun _ answer h => h.append _).weaken hpost fun _ _ h => h

theorem works_remove :
    Works world patience u.spec.id .remove (fun _ => True) u.remove fun _ _ => True := by
  apply works_guardRemove.andThen
  intro removing
  cases removing with
  | false => exact Works.done fun _ _ => trivial
  | true =>
    apply (Works.say fun _ answer h _ => (h rfl).append _).andThen
    intro _
    apply (u.works_removeWorkload.weaken (fun _ h => h rfl) fun _ _ h => h).andThen
    intro _
    -- the workload is gone, so the namespace may be deleted
    refine (Works.call ?_).andThen fun _ => ?_
    · intro history answer h
      exact ⟨rfl, rfl, h⟩
    · apply Works.anyhow
      apply Works.looking
      · apply (Engine.asksOnly_say _ _).andThen
        intro _
        exact (asksOnly_awaitNamespaceGone _ _).andThen fun _ => Engine.asksOnly_say _ _
      · exact fun _ _ _ => trivial

end ChartUnit

namespace IngressUnit

variable {σ : Type} {world : World Action Action.Answer σ} {patience : Nat}
  {operation : Operation} (u : IngressUnit)

/-- Exposing a chart only adds looks before and after it is applied. -/
theorem works_exposed {id : String} {apply : List (String × String) → Engine Bool}
    (happly : ∀ values, Works world patience id operation (fun _ => True) (apply values)
      fun _ _ => True) :
    Works world patience id operation (fun _ => True) (u.exposed apply) fun _ _ => True := by
  apply (Works.looking (asksOnly_exposure trivial trivial) fun _ _ _ => trivial).andThen
  rintro ⟨values, balanced⟩
  apply (happly values).andThen
  intro applied
  split
  · exact Works.looking u.asksOnly_awaitReachable fun _ _ _ => trivial
  · exact Works.done fun _ _ => trivial

end IngressUnit

/-! ### Components -/

namespace Component

variable {spec : UnitSpec} {budgets : Budgets} {c : Component} {σ : Type}
  {world : World Action Action.Answer σ} {patience : Nat}

/-- Whatever its kind, a component of a catalog does each operation within its licence. -/
theorem works_perform (hc : Component.ofSpec spec budgets = .ok c) (operation : Operation) :
    Works world patience spec.id operation (fun _ => True) (c.perform operation)
      fun _ _ => True := by
  obtain ⟨u, -, hspec, -, hkind⟩ := cases_of_ofSpec hc
  rw [← hspec]
  -- charts and manifests are applied alike; an ingress is exposed around that
  rcases hkind with rfl | rfl
  · cases operation with
    | install settings =>
      exact (u.works_installWith settings []).andThen fun _ => Works.done fun _ _ => trivial
    | upgrade settings =>
      exact (u.works_upgradeWith settings []).andThen fun _ => Works.done fun _ _ => trivial
    | remove => exact u.works_remove
  · cases operation with
    | install settings =>
      exact IngressUnit.works_exposed ⟨u⟩ fun values => u.works_installWith settings values
    | upgrade settings =>
      exact IngressUnit.works_exposed ⟨u⟩ fun values => u.works_upgradeWith settings values
    | remove => exact u.works_remove

/-- In every session, with every outside, a component keeps its hands off the namespaces of others:
each thing that it does is licensed by what happened before it in the same operation. -/
theorem session_obeys (hc : Component.ofSpec spec budgets = .ok c)
    (world : World Action Action.Answer σ) (patience : Nat) (operations : List Operation)
    (state : σ) :
    ∀ performed ∈ c.session world patience operations state,
      performed.history.Obeys (Licensed spec.id performed.operation) := by
  induction operations generalizing state with
  | nil => simp [session]
  | cons operation rest ih =>
    intro performed hmem
    rcases List.mem_cons.mp hmem with rfl | hrest
    · exact (works_perform hc operation (state, []) History.obeys_nil trivial).1
    · exact ih _ performed hrest

theorem session_obeys_rehearsed :
    ∃ c, Component.ofSpec { id := "web", chart := some "web" } {} = .ok c ∧
      ∀ performed ∈ c.session Rehearsal.world Rehearsal.patience
          [.install ∅, .upgrade ∅, .remove] {},
        performed.history.Obeys (Licensed "web" performed.operation) := by
  obtain ⟨c, hc⟩ : ∃ c, Component.ofSpec { id := "web", chart := some "web" } {} = .ok c :=
    ⟨_, rfl⟩
  exact ⟨c, hc, session_obeys hc _ _ _ _⟩

end Component

end Groundwork
