import Groundwork.Proofs.Cluster.Lifecycle
import Groundwork.Proofs.Component.Applying
import Groundwork.Proofs.Engine.Stages

/-!
# Success means ready

What a component of a catalog has to get through to be installed or upgraded is a list of stages
(`ChartUnit.stages`, `IngressUnit.stages`): the namespace is absent and gets created, or is the
installer's already; the command that applies the unit succeeds; the pods of each selector are seen
and found ready; each resource definition is established; each manifest that follows is applied;
and an ingress controller with a load balancer has an address.

`Component.progress_applyBy`: in whatever world, a component that is not skipped by its setting ends
with a result only after all its stages were passed in this order, and when it stops earlier it has
done nothing for the later ones.
-/

namespace Groundwork

open Script Cluster

/-! ### The stages -/

namespace Stage

/-- The last that has happened is one of these. -/
def EndsWith (p : Occurrence Action Action.Answer → Prop) (history : WorkHistory) : Prop :=
  ∃ before last, p last ∧ history = before ++ [last]

/-- There is no namespace of this name. -/
def vacant (id : String) : Stage where
  asks a := a = .call (.getNamespace id)
  shown history := history = [sight id none]

/-- The namespace is created. -/
def created (id : String) : Stage where
  asks a := a = .call (.createNamespace id ownerLabels)
  shown history := history = [creation id]

/-- The namespace is the installer's. -/
def owned (id : String) : Stage where
  asks a := a = .call (.getNamespace id)
  shown history := ∃ ns : Namespace, ns.isOwned = true ∧ history = [sight id (some ns)]

/-- The command that applies the unit succeeds. -/
def applied (u : ChartUnit) (verb : Verb) (settings : Settings)
    (extra : List (String × String)) : Stage where
  asks a := ∃ i, u.applyCommand verb settings extra = .ok i ∧ a = .run i
  shown history := ∃ i o, u.applyCommand verb settings extra = .ok i ∧ o.success = true ∧
    history = [execution i o]

/-- Some pod matches the selector. -/
def podSeen (id selector : String) : Stage where
  asks a := a = .call (.listPods id selector)
  shown := EndsWith fun last =>
    ∃ pods : List Pod, pods ≠ [] ∧ last = response (.listPods id selector) pods

/-- A look at the pod of this name showed that it is ready. -/
def ReadyReading (id name : String) (o : Occurrence Action Action.Answer) : Prop :=
  ∃ pod : Pod, pod.isReady = true ∧ o = response (.getPod id name) (some pod)

/-- Every pod with a name that matches the selector is read and found ready. -/
def podsReady (id selector : String) : Stage where
  asks a := a = .call (.listPods id selector) ∨ (∃ name, a = .call (.getPod id name)) ∨
    ∃ name, a = .call (.listEvents id name)
  shown history := ∃ (pods : List Pod) (readings : WorkHistory), pods ≠ [] ∧
    List.Forall₂ (ReadyReading id) (pods.filterMap Pod.name) readings ∧
    (response (.listPods id selector) pods :: readings).Sublist history

/-- The resource definition is established. -/
def established (name : String) : Stage where
  asks a := a = .call (.getCrd name)
  shown := EndsWith fun last =>
    ∃ crd : Crd, crd.isEstablished = true ∧ last = response (.getCrd name) (some crd)

/-- The command that applies a manifest from its input. -/
def applyInput (text : String) : Invocation :=
  { program := "kubectl", args := ["apply", "--filename", "-"], stdin := some text }

/-- A manifest that follows is applied. -/
def followed (u : ChartUnit) (settings : Settings) (manifest : String) : Stage where
  asks a := ∃ text, Template.fill id settings u.spec.id manifest = .ok text ∧
    a = .run (applyInput text)
  shown := EndsWith fun last => ∃ text o, Template.fill id settings u.spec.id manifest = .ok text ∧
    o.success = true ∧ last = execution (applyInput text) o

/-- The nodes and the version of the cluster are these. -/
def surveyed (nodes : List Node) (version : String) : Stage where
  asks a := a = .call .listNodes ∨ a = .call .serverVersion
  shown history := history = [response .listNodes nodes, response .serverVersion version]

/-- The main service has the address of a load balancer. -/
def reachable (u : IngressUnit) : Stage where
  asks a := a = .call (.getService u.chart.spec.id u.mainService)
  shown := EndsWith fun last => ∃ service : Service, service.address?.isSome = true ∧
    last = response (.getService u.chart.spec.id u.mainService) (some service)

theorem EndsWith.append_left {p : Occurrence Action Action.Answer → Prop}
    {before later : WorkHistory} (h : EndsWith p later) : EndsWith p (before ++ later) := by
  obtain ⟨between, last, hlast, rfl⟩ := h
  exact ⟨before ++ between, last, hlast, by rw [List.append_assoc]⟩

theorem EndsWith.deeds {p : Occurrence Action Action.Answer → Prop} {history : WorkHistory}
    (hp : ∀ o, p o → isDeed o = true) (h : EndsWith p history) : EndsWith p (deeds history) := by
  obtain ⟨before, last, hlast, rfl⟩ := h
  refine ⟨Groundwork.deeds before, last, hlast, ?_⟩
  rw [deeds_append, Groundwork.deeds, Groundwork.deeds, List.filter_singleton, hp last hlast]
  rfl

end Stage

open Stage

/-- What has to be so of the namespace, or is made so, before a unit is applied. -/
def Verb.claims (id : String) : Verb → List Stage
  | .install => [vacant id, created id]
  | .upgrade => [owned id]

/-- What a unit has to get through once its namespace is claimed. -/
def ChartUnit.applying (u : ChartUnit) (verb : Verb) (settings : Settings)
    (extra : List (String × String)) : List Stage :=
  applied u verb settings extra ::
    (u.spec.ready.flatMap (fun selector => [podSeen u.spec.id selector, podsReady u.spec.id selector])
      ++ u.spec.crds.map established) ++ u.spec.postApply.map (followed u settings)

/-- What a unit has to get through. -/
def ChartUnit.stages (u : ChartUnit) (verb : Verb) (settings : Settings)
    (extra : List (String × String)) : List Stage :=
  verb.claims u.spec.id ++ u.applying verb settings extra

/-- What an ingress unit has to get through on a cluster of this kind. -/
def IngressUnit.stages (u : IngressUnit) (verb : Verb) (settings : Settings) (nodes : List Node)
    (version : String) : List Stage :=
  surveyed nodes version :: (u.chart.stages verb settings (exposureOn nodes version).1 ++
    if (exposureOn nodes version).2 then [reachable u] else [])

namespace Cluster

variable {id name selector crd : String} {budget : Duration}

/-! ### Evidence of the waits -/

theorem attests_readState (id : String) :
    Attests (NamespaceState.read id) fun state history =>
      ∃ found, state = .ofFound found ∧ history = [sight id found] := by
  apply (Engine.attests_call (.getNamespace id)).andThen
  rintro found before rfl
  exact Attests.done ⟨found, rfl, rfl⟩

theorem attests_guardInstall (id : String) :
    Attests (guardInstall id) fun _ history => history = [sight id none] := by
  apply (attests_readState id).andThen
  rintro state before ⟨found, hfound, rfl⟩
  cases state with
  | absent =>
    apply Attests.done
    rw [NamespaceState.ofFound_eq_absent_iff.mp hfound.symm]
    rfl
  | owned => exact Attests.fail
  | foreign => exact Attests.fail

theorem attests_guardUpgrade (id : String) :
    Attests (guardUpgrade id) fun _ history =>
      ∃ ns : Namespace, ns.isOwned = true ∧ history = [sight id (some ns)] := by
  apply (attests_readState id).andThen
  rintro state before ⟨found, hfound, rfl⟩
  cases state with
  | owned =>
    apply Attests.done
    obtain ⟨ns, rfl, howned⟩ := NamespaceState.ofFound_eq_owned_iff.mp hfound.symm
    exact ⟨ns, howned, rfl⟩
  | absent => exact Attests.fail
  | foreign => exact Attests.fail

theorem attests_readFacts :
    Attests readFacts fun facts history => ∃ nodes version,
      facts = Platform.facts nodes version ∧
        history = [response .listNodes nodes, response .serverVersion version] := by
  apply (Engine.attests_call .listNodes).andThen
  rintro nodes _ rfl
  apply (Engine.attests_call .serverVersion).andThen
  rintro version _ rfl
  exact Attests.done ⟨nodes, version, rfl, rfl⟩

theorem attests_awaitAnyPod :
    Attests (awaitAnyPod id selector budget) fun _ => (podSeen id selector).shown := by
  apply Engine.attests_pollUntil.weaken
  rintro _ history ⟨before, pods, hjudge, rfl⟩
  refine ⟨before, _, ⟨pods, ?_, rfl⟩, rfl⟩
  rintro rfl
  cases hjudge

theorem attests_awaitPod :
    Attests (awaitPod id name budget) fun _ => EndsWith (ReadyReading id name) := by
  apply Engine.attests_pollUntil.handle
  · rintro _ history ⟨before, found, hjudge, rfl⟩
    apply Attests.done
    cases found with
    | none => cases hjudge
    | some pod =>
      refine ⟨before, _, ⟨pod, ?_, rfl⟩, List.append_nil _⟩
      injection hjudge
  · -- an error about the pod takes the place of the error
    intro e
    exact Attests.later (fun _ _ _ hnone => hnone) fun _ => Attests.fail

theorem attests_awaitEach (pods : List Pod) :
    Attests (awaitEach id budget pods) fun _ history => ∃ readings : WorkHistory,
      List.Forall₂ (ReadyReading id) (pods.filterMap Pod.name) readings ∧
        readings.Sublist history := by
  induction pods with
  | nil => exact Attests.done ⟨[], .nil, List.Sublist.refl _⟩
  | cons pod rest ih =>
    rcases hpod : pod.name with _ | name
    · rw [List.filterMap_cons_none hpod]
      simp only [awaitEach, hpod]
      exact ih
    · rw [List.filterMap_cons_some hpod]
      simp only [awaitEach, hpod]
      apply attests_awaitPod.andThen
      rintro _ history ⟨before, last, hlast, rfl⟩
      apply ih.weaken
      rintro _ later ⟨readings, hreadings, hsub⟩
      refine ⟨last :: readings, .cons hlast hreadings, ?_⟩
      rw [List.append_assoc]
      exact (hsub.cons_cons last).trans (List.sublist_append_right _ _)

theorem attests_awaitPods :
    Attests (awaitPods id selector budget) fun _ => (podsReady id selector).shown := by
  apply (Engine.attests_call (.listPods id selector)).andThen
  rintro pods before rfl
  split
  · exact Attests.fail
  · rename_i hsome
    apply (attests_awaitEach pods).weaken
    rintro _ later ⟨readings, hreadings, hsub⟩
    refine ⟨pods, readings, ?_, hreadings, hsub.cons_cons _⟩
    rintro rfl
    exact hsome rfl

theorem attests_awaitAddress :
    Attests (awaitAddress id name budget) fun _ => EndsWith fun last =>
      ∃ service : Service, service.address?.isSome = true ∧
        last = response (.getService id name) (some service) := by
  -- the address is read once more after the wait
  apply Attests.later fun _ _ _ => EndsWith.append_left
  intro _
  apply (Engine.attests_call (.getService id name)).andThen
  rintro found before rfl
  split
  · rename_i address haddress
    apply Attests.done
    obtain ⟨service, rfl, hservice⟩ := Option.bind_eq_some_iff.mp haddress
    refine ⟨[], _, ⟨service, ?_, rfl⟩, rfl⟩
    rw [hservice]
    rfl
  · exact Attests.fail

theorem attests_awaitCrd : Attests (awaitCrd crd budget) fun _ => (established crd).shown := by
  apply Engine.attests_pollUntil.weaken
  rintro _ history ⟨before, found, hjudge, rfl⟩
  cases found with
  | none => cases hjudge
  | some found =>
    refine ⟨before, _, ⟨found, ?_, rfl⟩, rfl⟩
    injection hjudge

end Cluster

/-! ### Going through the waits -/

namespace GoesThrough

open Cluster

variable {id name selector crd : String} {budget : Duration}

theorem isDeed_of_readyReading {o : Occurrence Action Action.Answer} (h : ReadyReading id name o) :
    isDeed o = true := by
  obtain ⟨pod, -, rfl⟩ := h
  rfl

theorem awaitAnyPod : GoesThrough [podSeen id selector] (awaitAnyPod id selector budget) := by
  apply stage
  · exact asksOnly_awaitAnyPod rfl
  · apply attests_awaitAnyPod.weaken
    intro _ history
    apply EndsWith.deeds
    rintro _ ⟨pods, -, rfl⟩
    rfl

theorem awaitPods : GoesThrough [podsReady id selector] (awaitPods id selector budget) := by
  apply stage
  · exact asksOnly_awaitPods (Or.inl rfl) (fun name => Or.inr (Or.inl ⟨name, rfl⟩))
      fun name => Or.inr (Or.inr ⟨name, rfl⟩)
  · apply attests_awaitPods.weaken
    rintro _ history ⟨pods, readings, hsome, hreadings, hsub⟩
    refine ⟨pods, readings, hsome, hreadings, ?_⟩
    -- every reading is an answer of the cluster, so none is lost among the deeds
    have hkept : deeds (response (.listPods id selector) pods :: readings) =
        response (.listPods id selector) pods :: readings := by
      apply List.filter_eq_self.mpr
      intro o hmem
      rcases List.mem_cons.mp hmem with rfl | hmem
      · rfl
      · obtain ⟨name, -, hready⟩ := exists_of_mem_right hreadings hmem
        exact isDeed_of_readyReading hready
    rw [← hkept]
    exact hsub.filter isDeed

theorem awaitCrd : GoesThrough [established crd] (awaitCrd crd budget) := by
  apply stage
  · exact asksOnly_awaitCrd rfl
  · apply attests_awaitCrd.weaken
    intro _ history
    apply EndsWith.deeds
    rintro _ ⟨crd, -, rfl⟩
    rfl

end GoesThrough

/-! ### Units -/

namespace ChartUnit

variable (u : ChartUnit) (settings : Settings) (extra : List (String × String))

theorem goesThrough_awaitSelectors (budget : Duration) (selectors : List String) :
    GoesThrough
      (selectors.flatMap fun selector => [podSeen u.spec.id selector, podsReady u.spec.id selector])
      (u.awaitSelectors budget selectors) := by
  induction selectors with
  | nil => exact GoesThrough.done
  | cons selector rest ih =>
    apply (GoesThrough.say _ _).followedBy
    intro _
    apply GoesThrough.awaitAnyPod.followedBy
    intro _
    apply GoesThrough.awaitPods.followedBy
    intro _
    exact ih

theorem goesThrough_awaitCrds (budget : Duration) (crds : List String) :
    GoesThrough (crds.map established) (awaitCrds budget crds) := by
  induction crds with
  | nil => exact GoesThrough.done
  | cons crd rest ih =>
    apply (GoesThrough.say _ _).followedBy
    intro _
    apply GoesThrough.awaitCrd.followedBy
    intro _
    exact ih

theorem goesThrough_applyFollowing (manifests : List String) :
    GoesThrough (manifests.map (followed u settings)) (u.applyFollowing settings manifests) := by
  induction manifests with
  | nil => exact GoesThrough.done
  | cons manifest rest ih =>
    show GoesThrough _ ((Engine.ofSetup (Template.fill id settings u.spec.id manifest)).andThen _)
    rcases hfill : Template.fill id settings u.spec.id manifest with fault | text
    · exact GoesThrough.fail _
    · have hfollowed : GoesThrough [followed u settings manifest]
          (Engine.runRetried u.retryPolicy (applyInput text)) := by
        apply GoesThrough.stage
        · exact Engine.asksOnly_runRetried ⟨text, hfill, rfl⟩
        · apply (Engine.attests_runRetried _ _).weaken
          rintro o history ⟨hsuccess, before, rfl⟩
          apply EndsWith.deeds
          · rintro _ ⟨_, _, -, -, rfl⟩
            rfl
          · exact ⟨before, _, ⟨text, o, hfill, hsuccess, rfl⟩, rfl⟩
      apply (GoesThrough.say _ _).followedBy
      intro _
      exact hfollowed.followedBy fun _ => ih

theorem goesThrough_apply (verb : Verb) :
    GoesThrough (u.applying verb settings extra) (u.apply verb settings extra) := by
  show GoesThrough _ ((Engine.ofSetup (u.applyCommand verb settings extra)).andThen _)
  rcases hcommand : u.applyCommand verb settings extra with fault | command
  · exact GoesThrough.fail _
  · have happlied : GoesThrough [applied u verb settings extra] (Engine.runChecked command []) := by
      apply GoesThrough.stage
      · exact Engine.asksOnly_runChecked ⟨command, hcommand, rfl⟩
      · apply (Engine.attests_runChecked command).weaken
        rintro o history ⟨hsuccess, rfl⟩
        exact ⟨command, o, hcommand, hsuccess, rfl⟩
    apply (GoesThrough.say _ _).followedBy
    intro _
    apply happlied.followedBy
    intro _
    apply GoesThrough.followedBy _ fun _ => u.goesThrough_applyFollowing settings _
    exact (u.goesThrough_awaitSelectors _ _).followedBy fun _ => goesThrough_awaitCrds _ _

theorem goesThrough_claim (verb : Verb) :
    GoesThrough (verb.claims u.spec.id) (u.claim verb) := by
  cases verb with
  | install =>
    have hvacant : GoesThrough [vacant u.spec.id] (guardInstall u.spec.id) := by
      apply GoesThrough.stage (asksOnly_guardInstall rfl)
      apply (attests_guardInstall _).weaken
      rintro _ history rfl
      rfl
    have hcreated : GoesThrough [created u.spec.id] (createOwned u.spec.id) := by
      apply GoesThrough.stage (Engine.asksOnly_call rfl)
      apply (Engine.attests_call _).weaken
      rintro _ history rfl
      rfl
    apply hvacant.followedBy
    intro _
    exact (GoesThrough.say _ _).followedBy fun _ => hcreated
  | upgrade =>
    have howned : GoesThrough [owned u.spec.id] (guardUpgrade u.spec.id) := by
      apply GoesThrough.stage (asksOnly_guardUpgrade rfl)
      apply (attests_guardUpgrade _).weaken
      rintro _ history ⟨ns, hns, rfl⟩
      exact ⟨ns, hns, rfl⟩
    exact howned.followedBy fun _ => GoesThrough.say _ _

/-- A unit that is not skipped goes through all its stages. -/
theorem goesThrough_applyWith (verb : Verb)
    (hskip : ∀ reason, u.skipReason settings ≠ .ok (some reason)) :
    GoesThrough (u.stages verb settings extra) (u.applyWith verb settings extra) := by
  rcases hreason : u.skipReason settings with fault | _ | reason
  · rw [applyWith_of_error u hreason, stages]
    cases verb with
    | install => exact GoesThrough.fail _
    | upgrade => exact GoesThrough.fail _
  · rw [applyWith_of_active u hreason, stages, ← List.append_nil (u.applying verb settings extra)]
    apply (u.goesThrough_claim verb).followedBy
    intro _
    apply (u.goesThrough_apply settings extra verb).followedBy
    intro _
    exact (GoesThrough.say _ _).followedBy fun _ => GoesThrough.done
  · exact absurd hreason (hskip reason)

/-- What is applied is not `false`, unless the unit is skipped. -/
theorem attests_applyWith (verb : Verb)
    (hskip : ∀ reason, u.skipReason settings ≠ .ok (some reason)) :
    Attests (u.applyWith verb settings extra) fun applied _ => applied = true := by
  rcases hreason : u.skipReason settings with fault | _ | reason
  · rw [applyWith_of_error u hreason]
    exact Attests.fail
  · rw [applyWith_of_active u hreason]
    apply Attests.later fun _ _ _ h => h
    intro _
    apply Attests.later fun _ _ _ h => h
    intro _
    apply Attests.later fun _ _ _ h => h
    intro _
    exact Attests.done rfl
  · exact absurd hreason (hskip reason)

end ChartUnit

/-! ### Ingress units -/

namespace IngressUnit

variable (u : IngressUnit)

theorem attests_exposure :
    Attests exposure fun result history => ∃ (nodes : List Node) (version : String),
      result = exposureOn nodes version ∧ (surveyed nodes version).shown (deeds history) := by
  apply attests_readFacts.andThen
  rintro _ _ ⟨nodes, version, rfl, rfl⟩
  have hresult : Attests (if (Platform.facts nodes version).hasLoadBalancer then .done ([], true)
      else .done (pinnedTo (Platform.facts nodes version).externalIps, false) : Engine _)
      fun result later => result = exposureOn nodes version ∧ later = [] := by
    unfold exposureOn
    split
    · exact Attests.done ⟨rfl, rfl⟩
    · exact Attests.done ⟨rfl, rfl⟩
  apply hresult.weaken
  rintro result _ ⟨hresult, rfl⟩
  exact ⟨nodes, version, hresult, rfl⟩

theorem goesThrough_awaitReachable : GoesThrough [reachable u] u.awaitReachable := by
  have haddress : GoesThrough [reachable u]
      (awaitAddress u.chart.spec.id u.mainService u.chart.budgets.forLoadBalancer) := by
    apply GoesThrough.stage (asksOnly_awaitAddress rfl)
    apply attests_awaitAddress.weaken
    intro _ history
    apply EndsWith.deeds
    rintro _ ⟨service, -, rfl⟩
    rfl
  apply (GoesThrough.say _ _).followedBy
  intro _
  exact haddress.followedBy fun _ => GoesThrough.say _ _

/-- What follows the look at the platform, once the values for it are known. -/
theorem goesThrough_exposed {balanced : Bool} {stages : List Stage} {s : Engine Bool}
    (hs : GoesThrough stages s)
    (happlied : Attests s fun applied _ => applied = true) :
    GoesThrough (stages ++ if balanced then [reachable u] else [])
      (s.andThen fun applied => if applied && balanced then u.awaitReachable else .done ()) := by
  apply hs.andThen happlied
  rintro _ rfl
  cases balanced with
  | true => exact u.goesThrough_awaitReachable
  | false => exact GoesThrough.done

/-- Whatever the platform, a unit that is not skipped goes through the stages for it. -/
theorem progress_exposed (verb : Verb) (settings : Settings)
    (hskip : ∀ reason, u.chart.skipReason settings ≠ .ok (some reason)) {σ : Type}
    {world : World Action Action.Answer σ} {patience : Nat} {state after : σ}
    {outcome : Option (Except DeployError Unit)} {history : WorkHistory}
    (hrun : Script.run world.recording patience (u.exposed (u.chart.applyWith verb settings))
      (state, []) = (outcome, after, history)) :
    ∃ nodes version, Progress (u.stages verb settings nodes version) outcome history := by
  have hasks : AsksOnly (surveyed [] "").asks exposure :=
    asksOnly_exposure (Or.inl rfl) (Or.inr rfl)
  -- if the look at the platform fails, nothing has been passed on any platform
  have hstopped {between : WorkHistory} {mid : σ} {result}
      (hfirst : Script.run world.recording patience exposure (state, []) = (result, mid, between)) :
      StoppedAt (u.stages verb settings [] "") (deeds between) :=
    stoppedAt_cons _ fun _ _ hmem => hasks.of_mem_history hfirst (List.mem_filter.mp hmem).1
  rcases hfirst : Script.run world.recording patience exposure (state, []) with
    ⟨_ | ⟨e | ⟨values, balanced⟩⟩, mid, between⟩
  · rw [exposed, bind_eq_andThen, Script.andThen, run_handle_none hfirst] at hrun
    cases hrun
    exact ⟨[], "", hstopped hfirst⟩
  · rw [exposed, bind_eq_andThen, run_andThen_error hfirst] at hrun
    cases hrun
    exact ⟨[], "", hstopped hfirst⟩
  · rw [exposed, bind_eq_andThen, run_andThen_ok hfirst] at hrun
    obtain ⟨nodes, version, hresult, hshown⟩ := attests_exposure.of_run hfirst
    obtain ⟨later, rfl, hrest⟩ := exists_run_recording hrun
    have hsurveyed : Passed [surveyed nodes version] (deeds between) := by
      apply passed_singleton
      exact ⟨fun _ _ hmem => hasks.of_mem_history hfirst (List.mem_filter.mp hmem).1, hshown⟩
    refine ⟨nodes, version, Progress.append_left hsurveyed ?_⟩
    rw [← hresult]
    exact (u.goesThrough_exposed (u.chart.goesThrough_applyWith settings values verb hskip)
      (u.chart.attests_applyWith settings values verb hskip)).progress hrest

end IngressUnit

/-! ### A controller that gets ready -/

namespace ChartUnit

/-- An ingress controller with a selector for all its pods, a resource definition and a manifest
that follows. -/
def gateway : ChartUnit where
  spec :=
    { id := "edge", chart := some "edge", kind := .ingress, ready := [""], crds := ["routes"]
      postApply := ["kind: Route"] }
  settings := ∅
  budgets := {}

/-- A cluster on which everything is ready that the controller waits for. -/
def gatewayCluster : Fake where
  pods := [Specimen.runningPod "edge" "edge-0" []]
  crds := [("routes", Specimen.crd "routes" true)]
  services := [(("edge", "edge"), Specimen.service "edge" "edge" (some "10.0.0.7"))]

theorem apply_gateway (verb : Verb) (extra : List (String × String)) :
    gateway.apply verb ∅ extra =
      (Engine.ofSetup (gateway.applyCommand verb ∅ extra)).andThen fun command =>
        (Engine.say .detail command.line).andThen fun _ =>
          (Engine.runChecked command []).andThen fun _ =>
            gateway.awaitReady.andThen fun _ =>
              (Engine.say .detail (applyInput "kind: Route").line).andThen fun _ =>
                (Engine.runRetried gateway.retryPolicy (applyInput "kind: Route")).andThen fun _ =>
                  .done () := by
  have hpieces : Template.pieces "kind: Route".toList =
      "kind: Route".toList.map Template.Piece.literal := by
    decide +kernel
  have hfill : Template.fill id ∅ "edge" "kind: Route" = .ok "kind: Route" := by
    rw [Template.fill, hpieces]
    rfl
  have hfollow : gateway.applyFollowing ∅ ["kind: Route"] =
      (Engine.say .detail (applyInput "kind: Route").line).andThen fun _ =>
        (Engine.runRetried gateway.retryPolicy (applyInput "kind: Route")).andThen fun _ =>
          .done () := by
    show (Engine.ofSetup (Template.fill id ∅ "edge" "kind: Route")).andThen _ = _
    rw [hfill]
    rfl
  rw [← hfollow]
  rfl

end ChartUnit

/-! ### Components -/

namespace Component

open ChartUnit

variable {spec : UnitSpec} {budgets : Budgets} {u : ChartUnit} {c : Component} {σ : Type}
  {world : World Action Action.Answer σ} {patience : Nat} {state after : σ}
  {outcome : Option (Except DeployError Unit)} {history : WorkHistory}

/-- What a component of a specification has to get through, on a cluster with these nodes and this
version. -/
def stages (spec : UnitSpec) (u : ChartUnit) (verb : Verb) (settings : Settings)
    (nodes : List Node) (version : String) : List Stage :=
  if spec.kind = .ingress then IngressUnit.stages ⟨u⟩ verb settings nodes version
  else u.stages verb settings []

/-- Success means ready: a component that is not skipped ends with a result only after it has passed
its stages in order.  Where it stops earlier, by an error or because a wait goes on for ever, it has
passed some of them and done nothing for the ones after the next. -/
theorem progress_applyBy (hu : ChartUnit.ofSpec spec budgets = .ok u)
    (hc : Component.ofSpec spec budgets = .ok c) (verb : Verb) (settings : Settings)
    (hskip : ∀ reason, u.skipReason settings ≠ .ok (some reason))
    (hrun : Script.run world.recording patience (c.applyBy verb settings) (state, []) =
      (outcome, after, history)) :
    ∃ nodes version, Progress (stages spec u verb settings nodes version) outcome history := by
  obtain ⟨u', hu', rfl⟩ := ofSpec_eq_ok.mp hc
  obtain rfl : u = u' := Except.ok.inj (hu.symm.trans hu')
  by_cases hkind : spec.kind = .ingress
  · simp only [stages, if_pos hkind, applyBy_ingress] at hrun ⊢
    exact IngressUnit.progress_exposed ⟨u⟩ verb settings hskip hrun
  · simp only [stages, if_neg hkind, applyBy_toComponent] at hrun ⊢
    refine ⟨[], "", ?_⟩
    have hgoes : GoesThrough (u.stages verb settings [])
        ((u.applyWith verb settings []).andThen fun _ => .done ()) := by
      rw [← List.append_nil (u.stages verb settings [])]
      exact (u.goesThrough_applyWith settings [] verb hskip).followedBy fun _ => GoesThrough.done
    exact hgoes.progress hrun

theorem run_gateway :
    ∃ after history,
      Script.run (Fake.worldWith fun _ => .ok "").recording 0
          ((IngressUnit.toComponent ⟨gateway⟩).applyBy .install ∅) (gatewayCluster, []) =
        (some (.ok ()), after, history) := by
  have hinstall : (IngressUnit.toComponent ⟨gateway⟩).applyBy .install ∅ =
      IngressUnit.exposed ⟨gateway⟩ fun extra => gateway.installWith ∅ extra := rfl
  simp only [hinstall, ChartUnit.installWith, apply_gateway]
  exact ⟨_, _, rfl⟩

theorem progress_applyBy_gateway :
    ∃ c after history nodes version, Component.ofSpec gateway.spec {} = .ok c ∧
      Script.run (Fake.worldWith fun _ => .ok "").recording 0 (c.applyBy .install ∅)
          (gatewayCluster, []) = (some (.ok ()), after, history) ∧
        Progress (stages gateway.spec gateway .install ∅ nodes version)
          (some (.ok ()) : Option (Except DeployError Unit)) history := by
  have hu : ChartUnit.ofSpec gateway.spec {} = .ok gateway := rfl
  have hc : Component.ofSpec gateway.spec {} = .ok (IngressUnit.toComponent ⟨gateway⟩) := rfl
  have hskip : ∀ reason, gateway.skipReason ∅ ≠ .ok (some reason) := fun _ h => nomatch h
  obtain ⟨after, history, hrun⟩ := run_gateway
  obtain ⟨nodes, version, hprogress⟩ := progress_applyBy hu hc .install ∅ hskip hrun
  exact ⟨_, after, history, nodes, version, hc, hrun, hprogress⟩

end Component

end Groundwork
