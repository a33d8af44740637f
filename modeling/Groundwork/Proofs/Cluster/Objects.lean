import Groundwork.Proofs.Cluster.Lifecycle
import Groundwork.Proofs.Script.History

/-!
# The objects of a cluster in memory

`Fake.objects` is everything in a cluster in memory that no call changes: what it holds apart from
namespaces.  A world `Isolates` a cluster if it hosts it and its objects are not touched from outside
either.  There the answer to a look at an object depends on the objects alone
(`Fake.answer_eq_of_objects`), and as long as no namespace is going away the answers to all looks
depend on what the cluster `Shows`, which looks and commands leave as it is
(`Isolates.shows_answer`).
-/

namespace Groundwork

open Script

namespace Cluster

/-- What a cluster holds apart from namespaces. -/
structure Objects where
  pods : List Pod
  events : List Event
  crds : Table String Crd
  jobs : Table (String × String) Job
  services : Table (String × String) Service
  version : String
  nodes : List Node

namespace Fake

variable {f g : Fake} {c : Call}

/-- What the cluster holds apart from namespaces. -/
def objects (f : Fake) : Objects :=
  ⟨f.pods, f.events, f.crds, f.jobs, f.services, f.version, f.nodes⟩

theorem objects_look (f : Fake) (name : String) : (f.look name).objects = f.objects := by
  unfold look
  split <;> rfl

theorem objects_create (f : Fake) (name : String) (labels : Labels) :
    (f.create name labels).2.objects = f.objects := by
  unfold create
  split <;> rfl

theorem objects_delete (f : Fake) (name : String) : (f.delete name).objects = f.objects := by
  unfold delete
  split
  · dsimp only
    split <;> rfl
  · rfl

/-- No call changes the objects. -/
theorem objects_answer (c : Call) (f : Fake) : (f.answer c).2.objects = f.objects := by
  cases c with
  | getNamespace name => exact objects_look _ name
  | createNamespace name labels => exact objects_create _ name labels
  | deleteNamespace name => exact objects_delete _ name
  | _ => rfl

/-- The answer to a look at objects depends on the objects alone. -/
theorem answer_eq_of_objects (hc : (Action.call c).LooksAtObjects) (h : f.objects = g.objects) :
    (f.answer c).1 = (g.answer c).1 := by
  obtain ⟨hpods, hevents, hcrds, hjobs, hservices, hversion, hnodes⟩ := Objects.mk.inj h
  cases c with
  | getNamespace name => exact hc.elim
  | createNamespace name labels => exact hc.elim
  | deleteNamespace name => exact hc.elim
  | getPod namespaceName name => simp only [answer, count, hpods]
  | listPods namespaceName selector => simp only [answer, count, hpods]
  | listEvents namespaceName object => simp only [answer, count, hevents]
  | getCrd name => simp only [answer, count, hcrds]
  | getJob namespaceName name => simp only [answer, count, hjobs]
  | getService namespaceName name => simp only [answer, count, hservices]
  | serverVersion => simp only [answer, count, hversion]
  | listNodes => simp only [answer, count, hnodes]

end Fake

/-- What can be seen of a cluster: what it knows about namespaces, and its objects. -/
structure Fake.Shows (f : Fake) (l : Lifecycle) (o : Objects) : Prop where
  lifecycle : f.lifecycle = l
  objects : f.objects = o

/-- The world hosts a cluster in memory, and nothing outside touches what it holds. -/
structure Isolates {σ : Type} (world : World Action Action.Answer σ) (cluster : σ → Fake) : Prop
    extends Hosts world cluster where
  keeps : ∀ a state, (∀ c, a ≠ .call c) →
    (cluster (world.answer a state).2).objects = (cluster state).objects
  rests : ∀ time state, (cluster (world.sleep time state)).objects = (cluster state).objects

/-- Looking keeps the property, and so does sleeping. -/
structure KeptByLooking {σ : Type} (world : World Action Action.Answer σ) (J : σ → Prop) :
    Prop where
  answer : ∀ a : Action, a.OnlyLooks → ∀ state, J state → J (world.answer a state).2
  sleep : ∀ time state, J state → J (world.sleep time state)

namespace KeptByLooking

variable {σ α : Type} {world : World Action Action.Answer σ} {patience : Nat} {J K : σ → Prop}

/-- A fact stays a fact. -/
theorem fact (world : World Action Action.Answer σ) (p : Prop) : KeptByLooking world fun _ => p where
  answer _ _ _ h := h
  sleep _ _ h := h

theorem and (hJ : KeptByLooking world J) (hK : KeptByLooking world K) :
    KeptByLooking world fun state => J state ∧ K state where
  answer a ha state h := ⟨hJ.answer a ha state h.1, hK.answer a ha state h.2⟩
  sleep time state h := ⟨hJ.sleep time state h.1, hK.sleep time state h.2⟩

theorem or (hJ : KeptByLooking world J) (hK : KeptByLooking world K) :
    KeptByLooking world fun state => J state ∨ K state where
  answer a ha state h := h.imp (hJ.answer a ha state) (hK.answer a ha state)
  sleep time state h := h.imp (hJ.sleep time state) (hK.sleep time state)

/-- A script that only looks keeps it. -/
theorem upholds (hJ : KeptByLooking world J) {s : Engine α} (hs : AsksOnly Action.OnlyLooks s) :
    Upholds world patience (fun _ => True) J s fun _ => J := by
  apply hs.upholds
  · exact fun a ha state _ h => ⟨trivial, hJ.answer a ha state h⟩
  · exact fun time state _ h => ⟨trivial, hJ.sleep time state h⟩

end KeptByLooking

namespace Isolates

variable {σ α : Type} {world : World Action Action.Answer σ} {cluster : σ → Fake} {patience : Nat}
  {l : Lifecycle} {o : Objects} {state : σ}

/-- The objects are never touched. -/
theorem objects_answer (h : Isolates world cluster) (a : Action) (state : σ) :
    (cluster (world.answer a state).2).objects = (cluster state).objects := by
  by_cases hcall : ∃ c, a = .call c
  · obtain ⟨c, rfl⟩ := hcall
    rw [h.holds, Fake.objects_answer]
  · exact h.keeps a state fun c hc => hcall ⟨c, hc⟩

/-- While no namespace is going away, looks and commands change nothing of what can be seen. -/
theorem shows_answer (h : Isolates world cluster) (hl : l.terminating = []) {a : Action}
    (ha : a.LooksOrRuns) (hstate : (cluster state).Shows l o) :
    (cluster (world.answer a state).2).Shows l o :=
  ⟨h.answer_keeps hl ha hstate.lifecycle, (h.objects_answer a state).trans hstate.objects⟩

theorem shows_sleep (h : Isolates world cluster) (time : Duration)
    (hstate : (cluster state).Shows l o) : (cluster (world.sleep time state)).Shows l o :=
  ⟨(h.sleeps time state).trans hstate.lifecycle, (h.rests time state).trans hstate.objects⟩

theorem keptByLooking (h : Isolates world cluster) (hl : l.terminating = []) :
    KeptByLooking world fun state => (cluster state).Shows l o where
  answer _ ha _ hstate := h.shows_answer hl (Or.inl ha) hstate
  sleep time _ hstate := h.shows_sleep time hstate

/-- A world that records isolates the same cluster. -/
theorem recording (h : Isolates world cluster) :
    Isolates world.recording fun state : σ × History Action Action.Answer => cluster state.1 where
  answers c state := h.answers c state.1
  holds c state := h.holds c state.1
  spares a state ha := h.spares a state.1 ha
  sleeps time state := h.sleeps time state.1
  keeps a state ha := h.keeps a state.1 ha
  rests time state := h.rests time state.1

end Isolates

theorem Fake.isolates_worldWith (commands : Invocation → CommandOutput) :
    Isolates (Fake.worldWith commands) id where
  toHosts := Fake.hosts_worldWith commands
  keeps a f ha := by
    cases a with
    | call c => exact absurd rfl (ha c)
    | _ => rfl
  rests _ _ := rfl

end Cluster

end Groundwork
