import Groundwork.CommandLine.Commands
import Groundwork.Proofs.Cluster.Ownership
import Groundwork.Proofs.Engine.Stages

/-!
# Information without a cluster

The command that informs about a platform lists all units, whether the cluster answers or not.  It
asks the cluster for as long as it is answered: `Contacted` is the first contact, with the request
that failed if one did, and `Surveyed` is the look at the namespaces of units, which ends in the same
way.  In both, a request that failed is the last one (`EndsAtFailure`).

`info_lists_units` says what the user sees of it, in whatever world.
-/

namespace Groundwork.CommandLine

open Cluster Script

/-! ### What a history shows -/

/-- Whether the cluster is asked for something. -/
def isRequest : Occurrence Action Action.Answer → Bool
  | .asked .connect _ => true
  | .asked (.call _) _ => true
  | _ => false

/-- What the cluster is asked for, with its answers. -/
def requests (history : WorkHistory) : WorkHistory :=
  history.filter isRequest

/-- The texts that are printed. -/
def printed (history : WorkHistory) : List String :=
  history.filterMap fun
    | .asked (.print text) _ => some text
    | _ => none

/-- The warnings that the user is given. -/
def warnings (history : WorkHistory) : List String :=
  history.filterMap fun
    | .asked (.say .exclamation text) _ => some text
    | _ => none

theorem requests_append (before after : WorkHistory) :
    requests (before ++ after) = requests before ++ requests after :=
  List.filter_append ..

theorem printed_append (before after : WorkHistory) :
    printed (before ++ after) = printed before ++ printed after :=
  List.filterMap_append

theorem warnings_append (before after : WorkHistory) :
    warnings (before ++ after) = warnings before ++ warnings after :=
  List.filterMap_append

/-- A request that failed. -/
def Failed : Occurrence Action Action.Answer → Prop
  | .asked .connect (.error _) => True
  | .asked (.call _) (.error _) => True
  | _ => False

/-- Nothing comes after a request that failed. -/
def EndsAtFailure (history : WorkHistory) : Prop :=
  ∀ before o after, history = before ++ o :: after → Failed o → after = []

theorem endsAtFailure_of_answered {history : WorkHistory} (h : ∀ o ∈ history, ¬Failed o) :
    EndsAtFailure history := by
  rintro before o after rfl hfailed
  exact absurd hfailed (h o (by simp))

theorem endsAtFailure_append_singleton {history : WorkHistory} (h : ∀ o ∈ history, ¬Failed o)
    (last : Occurrence Action Action.Answer) : EndsAtFailure (history ++ [last]) := by
  intro before o after heq hfailed
  rcases List.eq_nil_or_concat after with rfl | ⟨front, x, rfl⟩
  · rfl
  · -- what failed would be among what was answered
    have hshift : history ++ [last] = (before ++ o :: front) ++ [x] := by
      simpa [List.append_assoc] using heq
    obtain ⟨rfl, -⟩ := List.append_inj' hshift rfl
    exact absurd hfailed (h o (by simp))

/-! ### The first contact -/

/-- The requests of a first contact, and the facts if there is one. -/
inductive Contacted : Option Facts → WorkHistory → Prop
  | made (nodes : List Node) (version : String) :
    Contacted (some (Platform.facts nodes version))
      [.asked .connect (.ok ()), response .listNodes nodes, response .serverVersion version]
  | refused (e : DeployError) : Contacted none [.asked .connect (.error e)]
  | nodesUnread (e : DeployError) :
    Contacted none [.asked .connect (.ok ()), .asked (.call .listNodes) (.error e)]
  | versionUnread (nodes : List Node) (e : DeployError) :
    Contacted none [.asked .connect (.ok ()), response .listNodes nodes,
      .asked (.call .serverVersion) (.error e)]

theorem Contacted.endsAtFailure {history : WorkHistory} (h : Contacted none history) :
    EndsAtFailure history := by
  cases h with
  | refused e =>
    have hnothing : ∀ o ∈ ([] : WorkHistory), ¬Failed o := by simp
    exact endsAtFailure_append_singleton hnothing _
  | nodesUnread e =>
    have hconnected : ∀ o ∈ ([.asked .connect (.ok ())] : WorkHistory), ¬Failed o := by
      simp [Failed]
    exact endsAtFailure_append_singleton hconnected _
  | versionUnread nodes e =>
    have hread : ∀ o ∈ ([.asked .connect (.ok ()), response .listNodes nodes] : WorkHistory),
        ¬Failed o := by
      simp [Failed, response]
    exact endsAtFailure_append_singleton hread _

theorem Contacted.answered {facts : Facts} {history : WorkHistory}
    (h : Contacted (some facts) history) : ∀ o ∈ history, ¬Failed o := by
  cases h with
  | made nodes version => simp [Failed, response]

/-- Where a script fails, the user is warned and the run goes on. -/
theorem finishes_unlessUnreachable {ε α : Type} (reason : ε → String)
    {s : Script Action Action.Answer ε α} {post : Except ε α → WorkHistory → Prop}
    (hs : Finishes s post) :
    Finishes (unlessUnreachable reason s) fun outcome history =>
      (∃ a, post (.ok a) history ∧ outcome = .ok (some a)) ∨
        ∃ e before, post (.error e) before ∧ outcome = .ok none ∧
          history = before ++
            [.asked (.say .exclamation ("Cluster unreachable: " ++ reason e)) ()] := by
  apply hs.handle
  intro ended before hended
  cases ended with
  | ok a => exact Finishes.done (Or.inl ⟨a, by rwa [List.append_nil], rfl⟩)
  | error e => exact Finishes.ask fun _ => Finishes.done (Or.inr ⟨e, before, hended, rfl, rfl⟩)

/-- How connecting ends. -/
inductive Connected : Except Diagnosis Unit → WorkHistory → Prop
  | made : Connected (.ok ())
      [.asked .connect (.ok ()), .asked (.say .detail "Connected to cluster") ()]
  | refused (e : DeployError) : Connected (.error (Diagnosis.ofDeploy e))
      [.asked .connect (.error e)]

theorem finishes_connect : Finishes Run.connect Connected := by
  apply Finishes.ask
  rintro (e | _)
  · exact Finishes.fail (.refused e)
  · exact Finishes.ask fun _ => Finishes.done .made

/-- How the look at the facts ends, which takes two calls. -/
inductive FactsRead : Except DeployError Facts → WorkHistory → Prop
  | read (nodes : List Node) (version : String) :
    FactsRead (.ok (Platform.facts nodes version))
      [response .listNodes nodes, response .serverVersion version]
  | nodesUnread (e : DeployError) : FactsRead (.error e) [.asked (.call .listNodes) (.error e)]
  | versionUnread (nodes : List Node) (e : DeployError) :
    FactsRead (.error e) [response .listNodes nodes, .asked (.call .serverVersion) (.error e)]

theorem finishes_readFacts : Finishes readFacts FactsRead := by
  apply Finishes.ask
  rintro (e | nodes)
  · exact Finishes.fail (.nodesUnread e)
  · apply Finishes.ask
    rintro (e | version)
    · exact Finishes.fail (.versionUnread nodes e)
    · exact Finishes.done (.read nodes version)

/-- Nothing is printed on the first contact, and the user is warned if it is not made. -/
theorem finishes_firstContact :
    Finishes firstContact fun outcome history =>
      ∃ facts, outcome = .ok facts ∧ Contacted facts (requests history) ∧ printed history = [] ∧
        (warnings history).length = if facts.isSome then 0 else 1 := by
  apply (finishes_unlessUnreachable _ finishes_connect).andThen
  · rintro connected before (⟨_, hconnect, hfound⟩ | ⟨d, mid, hconnect, hfound, rfl⟩)
    · cases hconnect
      cases hfound
      apply (finishes_unlessUnreachable _ finishes_readFacts).weaken
      rintro outcome later (⟨facts, hread, rfl⟩ | ⟨e, mid, hread, rfl, rfl⟩)
      · cases hread with
        | read nodes version => exact ⟨_, rfl, .made nodes version, rfl, rfl⟩
      · cases hread with
        | nodesUnread => exact ⟨none, rfl, .nodesUnread e, rfl, rfl⟩
        | versionUnread nodes => exact ⟨none, rfl, .versionUnread nodes e, rfl, rfl⟩
    · cases hconnect
      cases hfound
      exact Finishes.done ⟨none, rfl, .refused _, rfl, rfl⟩
  · rintro e before (⟨_, -, h⟩ | ⟨_, _, -, h, -⟩)
    · cases h
    · cases h

/-! ### The units -/

/-- The looks at the namespaces of units, where they found this. -/
def looksAt (found : List (Component × Option Namespace)) : WorkHistory :=
  found.map fun look => response (.getNamespace look.1.id) look.2

/-- The states that the looks show. -/
def statesOf (found : List (Component × Option Namespace)) : List (Option NamespaceState) :=
  found.map fun look => some (.ofFound look.2)

/-- The looks at the namespaces of units, one after the other, and the states that are known of
them. -/
inductive Surveyed : List Component → WorkHistory → List (Option NamespaceState) → Prop
  /-- All looks succeed. -/
  | complete (found : List (Component × Option Namespace)) :
    Surveyed (found.map Prod.fst) (looksAt found) (statesOf found)
  /-- A look fails, and nothing more is known. -/
  | lost (found : List (Component × Option Namespace)) (c : Component) (later : List Component)
      (e : DeployError) :
    Surveyed (found.map Prod.fst ++ c :: later)
      (looksAt found ++ [.asked (.call (.getNamespace c.id)) (.error e)])
      (statesOf found ++ none :: later.map fun _ => none)

namespace Surveyed

variable {components : List Component} {history : WorkHistory}
  {states : List (Option NamespaceState)}

theorem answered_looksAt (found : List (Component × Option Namespace)) :
    ∀ o ∈ looksAt found, ¬Failed o := by
  intro o ho
  obtain ⟨look, -, rfl⟩ := List.mem_map.mp ho
  exact id

theorem length_states (h : Surveyed components history states) :
    states.length = components.length := by
  cases h with
  | complete found => simp [statesOf]
  | lost found c later e => simp [statesOf]

/-- Behind requests that were answered the looks end at a failure. -/
theorem endsAtFailure (h : Surveyed components history states) {before : WorkHistory}
    (hbefore : ∀ o ∈ before, ¬Failed o) : EndsAtFailure (before ++ history) := by
  have hanswered (found : List (Component × Option Namespace)) :
      ∀ o ∈ before ++ looksAt found, ¬Failed o := fun o ho =>
    (List.mem_append.mp ho).elim (hbefore o) (answered_looksAt found o)
  cases h with
  | complete found => exact endsAtFailure_of_answered (hanswered found)
  | lost found c later e =>
    rw [← List.append_assoc]
    exact endsAtFailure_append_singleton (hanswered found) _

theorem cons (h : Surveyed components history states) (c : Component) (ns : Option Namespace) :
    Surveyed (c :: components) (response (.getNamespace c.id) ns :: history)
      (some (.ofFound ns) :: states) := by
  cases h with
  | complete found => exact .complete ((c, ns) :: found)
  | lost found c' later e => exact .lost ((c, ns) :: found) c' later e

end Surveyed

/-- Without a cluster the units are printed, and nothing else happens. -/
theorem finishes_listUnits_false (colors : Bool) (components : List Component) :
    Finishes (listUnits colors false components) fun outcome history => outcome = .ok () ∧
      requests history = [] ∧ warnings history = [] ∧
      printed history = List.zipWith (Display.unit colors) components
        (components.map fun _ => none) := by
  induction components with
  | nil => exact Finishes.done ⟨rfl, rfl, rfl, rfl⟩
  | cons c rest ih =>
    apply Finishes.ask
    intro _
    apply ih.weaken
    rintro outcome later ⟨rfl, hrequests, hwarnings, hprinted⟩
    exact ⟨rfl, hrequests, hwarnings, congrArg (Display.unit colors c none :: ·) hprinted⟩

/-- With a cluster the units are printed with their states, as long as it answers. -/
theorem finishes_listUnits_true (colors : Bool) (components : List Component) :
    Finishes (listUnits colors true components) fun outcome history => outcome = .ok () ∧
      ∃ states, Surveyed components (requests history) states ∧
        (warnings history).length ≤ 1 ∧
        printed history = List.zipWith (Display.unit colors) components states := by
  induction components with
  | nil => exact Finishes.done ⟨rfl, [], .complete [], Nat.zero_le 1, rfl⟩
  | cons c rest ih =>
    apply (finishes_unlessUnreachable _ (NamespaceState.finishes_read c.id)).andThen
    · rintro known before (⟨state, ⟨answer, hstate, rfl⟩, hknown⟩ |
        ⟨e, mid, ⟨answer, hstate, rfl⟩, hknown, rfl⟩)
      · -- the look has succeeded, so the next unit is looked at
        cases hknown
        cases answer with
        | error e => cases hstate
        | ok ns =>
          cases hstate
          apply Finishes.ask
          intro _
          apply ih.weaken
          rintro outcome later ⟨rfl, states, hsurvey, hwarnings, hprinted⟩
          exact ⟨rfl, _, hsurvey.cons c ns, hwarnings,
            congrArg (Display.unit colors c (some (.ofFound ns)) :: ·) hprinted⟩
      · cases hknown
        cases answer with
        | ok ns => cases hstate
        | error e' =>
          apply Finishes.ask
          intro _
          apply (finishes_listUnits_false colors rest).weaken
          rintro outcome later ⟨rfl, hrequests, hwarnings, hprinted⟩
          refine ⟨rfl, none :: rest.map fun _ => none, ?_, ?_, ?_⟩
          · show Surveyed (c :: rest) (.asked _ _ :: requests later) _
            rw [hrequests]
            exact .lost [] c rest e'
          · show (("Cluster unreachable: " ++ _) :: warnings later).length ≤ 1
            rw [hwarnings]
            exact Nat.le_refl 1
          · exact congrArg (Display.unit colors c none :: ·) hprinted
    · rintro e before (⟨_, -, h⟩ | ⟨_, _, -, h, -⟩)
      · cases h
      · cases h

/-! ### The command -/

theorem asksOnly_unlessUnreachable {ε α : Type} {reason : ε → String}
    {s : Script Action Action.Answer ε α} (hs : AsksOnly Action.OnlyLooks s) :
    AsksOnly Action.OnlyLooks (unlessUnreachable reason s) := by
  apply hs.handle
  intro outcome
  cases outcome with
  | ok a => trivial
  | error e => exact ⟨trivial, fun _ => trivial⟩

theorem asksOnly_listUnits (colors connected : Bool) (components : List Component) :
    AsksOnly Action.OnlyLooks (listUnits colors connected components) := by
  induction components generalizing connected with
  | nil => cases connected <;> trivial
  | cons c rest ih =>
    cases connected with
    | false => exact ⟨trivial, fun _ => ih false⟩
    | true =>
      apply (asksOnly_unlessUnreachable (asksOnly_readState trivial)).andThen
      intro known
      exact ⟨trivial, fun _ => ih _⟩

theorem asksOnly_info (t : Terminal) (i : Installer) : AsksOnly Action.OnlyLooks (info t i) := by
  have hask : AsksOnly Action.OnlyLooks (.ask .connect Script.ofExcept : Engine Unit) :=
    ⟨trivial, fun answer => .ofExcept answer⟩
  have hconnect : AsksOnly Action.OnlyLooks Run.connect :=
    hask.mapError.andThen fun _ => ⟨trivial, fun _ => trivial⟩
  have hcontact : AsksOnly Action.OnlyLooks firstContact := by
    apply (asksOnly_unlessUnreachable hconnect).andThen
    intro connected
    cases connected with
    | none => trivial
    | some _ => exact asksOnly_unlessUnreachable (asksOnly_readFacts trivial trivial)
  apply hcontact.andThen
  intro facts
  cases facts with
  | none => exact ⟨trivial, fun _ => asksOnly_listUnits _ _ _⟩
  | some f => exact ⟨trivial, fun _ => ⟨trivial, fun _ => asksOnly_listUnits _ _ _⟩⟩

/-- The first contact is followed by the title and the units. -/
theorem finishes_info (t : Terminal) (i : Installer) :
    Finishes (info t i) fun outcome history => outcome = .ok () ∧
      ∃ facts contact survey states, Contacted facts contact ∧
        requests history = contact ++ survey ∧
        (facts.isSome = true → Surveyed i.components survey states) ∧
        (facts = none → survey = [] ∧ states = i.components.map fun _ => none) ∧
        printed history = (facts.map (Display.facts t.colors)).toList ++
          Display.line (Style.bold.apply t.colors "Platform units") ::
          List.zipWith (Display.unit t.colors) i.components states ∧
        (warnings history).length ≤ 1 := by
  apply finishes_firstContact.andThen
  · rintro facts before ⟨_, ⟨⟩, hcontact, hprinted, hwarnings⟩
    cases facts with
    | none =>
      apply Finishes.ask
      intro _
      apply (finishes_listUnits_false t.colors i.components).weaken
      rintro outcome later ⟨rfl, hrequests', hwarnings', hprinted'⟩
      refine ⟨rfl, none, requests before, [], _, hcontact, ?_, nofun, fun _ => ⟨rfl, rfl⟩, ?_, ?_⟩
      · rw [requests_append]
        exact congrArg _ hrequests'
      · rw [printed_append, hprinted]
        exact congrArg (_ :: ·) hprinted'
      · rw [warnings_append, List.length_append, hwarnings]
        exact Nat.le_of_eq (congrArg (1 + List.length ·) hwarnings')
    | some f =>
      apply Finishes.ask
      intro _
      apply Finishes.ask
      intro _
      apply (finishes_listUnits_true t.colors i.components).weaken
      rintro outcome later ⟨rfl, states, hsurvey, hwarnings', hprinted'⟩
      refine ⟨rfl, some f, requests before, requests later, states, hcontact, ?_, fun _ => hsurvey,
        nofun, ?_, ?_⟩
      · exact requests_append before _
      · rw [printed_append, hprinted]
        exact congrArg (_ :: _ :: ·) hprinted'
      · rw [warnings_append, List.length_append, hwarnings]
        exact (Nat.zero_add _).trans_le hwarnings'
  · rintro e before ⟨facts, ⟨⟩, -⟩

/-- The command that informs always comes to its end without an error, whatever the cluster answers
and wherever it fails.  It prints a line for each unit in the order of installation, behind a title
and, if the first contact is made, the facts.  It only looks, no request comes after one that failed,
and the user is warned at most once.  A unit whose namespace was read is printed with the state of
that namespace; the one whose look failed, all units after it, and all units if there is no contact
are printed without a state. -/
theorem info_lists_units (t : Terminal) (i : Installer) :
    Finishes (info t i) fun outcome history => outcome = .ok () ∧
      (∃ facts contact survey states, Contacted facts contact ∧
        requests history = contact ++ survey ∧
        (facts.isSome = true → Surveyed i.components survey states) ∧
        (facts = none → survey = [] ∧ states = i.components.map fun _ => none) ∧
        states.length = i.components.length ∧
        printed history = (facts.map (Display.facts t.colors)).toList ++
          Display.line (Style.bold.apply t.colors "Platform units") ::
          List.zipWith (Display.unit t.colors) i.components states) ∧
      AskedOnly Action.OnlyLooks history ∧ EndsAtFailure (requests history) ∧
      (warnings history).length ≤ 1 := by
  apply ((finishes_info t i).asking (asksOnly_info t i)).weaken
  rintro outcome history ⟨⟨rfl, facts, contact, survey, states, hcontact, hrequests, hsurvey, hlost,
    hprinted, hwarnings⟩, hasked⟩
  refine ⟨rfl, ⟨facts, contact, survey, states, hcontact, hrequests, hsurvey, hlost, ?_, hprinted⟩,
    hasked, ?_, hwarnings⟩
  · cases facts with
    | none =>
      rw [(hlost rfl).2, List.length_map]
    | some f => exact (hsurvey rfl).length_states
  · rw [hrequests]
    cases facts with
    | none =>
      rw [(hlost rfl).1, List.append_nil]
      exact hcontact.endsAtFailure
    | some f => exact (hsurvey rfl).endsAtFailure hcontact.answered

end Groundwork.CommandLine
