import Groundwork.Proofs.Cluster.Address
import Groundwork.Proofs.Component.Arguments
import Groundwork.Proofs.Component.Readiness

/-!
# One way to expose a controller

An ingress controller can be reached in one of two ways.  Where services get load balancers, the
controller is applied with the values of its specification alone and its first watched service is
waited for; elsewhere the service is pinned to the addresses of the nodes and nothing is waited for.
The nodes are listed before anything else, and the platform that they show decides (`exposedOn`).

What a run can ask for follows from the scripts alone (`applies_applyWith`, `exposes_exposedOn`), what
its result shows from the stages it went through (`attests_exposedOn`).  `ExposedBy` puts this
together, and `applyBy_exposed_one_way` says it of all runs.
-/

namespace Groundwork

open Script Cluster Stage

/-! ### What is asked for -/

namespace ChartUnit

variable (u : ChartUnit) (verb : Verb) (settings : Settings) (extra : List (String × String))

/-- What may be asked for while a unit is applied: no service is read, and a command that does not
apply the unit is one of `kubectl`. -/
def Applies : Action → Prop
  | .call (.getService _ _) => False
  | .run i => u.applyCommand verb settings extra = .ok i ∨ i.program = "kubectl"
  | _ => True

theorem applies_of_looksAtWorkload :
    ∀ a : Action, a.LooksAtWorkload → u.Applies verb settings extra a
  | .say _ _, _ => trivial
  | .call (.listPods _ _), _ => trivial
  | .call (.getPod _ _), _ => trivial
  | .call (.listEvents _ _), _ => trivial
  | .call (.getCrd _), _ => trivial

theorem applies_apply :
    AsksOnly (u.Applies verb settings extra) (u.apply verb settings extra) :=
  u.asksOnly_apply_of (u.applies_of_looksAtWorkload verb settings extra) (fun _ => Or.inr rfl)
    fun _ => Or.inl

theorem applies_applyWith :
    AsksOnly (u.Applies verb settings extra) (u.applyWith verb settings extra) := by
  have hsay (level : Level) (text : String) :
      AsksOnly (u.Applies verb settings extra) (Engine.say level text) :=
    ⟨trivial, fun _ => trivial⟩
  rcases hreason : u.skipReason settings with fault | _ | reason
  · rw [applyWith_of_error u hreason]
    trivial
  · rw [applyWith_of_active u hreason]
    apply (u.asksOnly_claim (fun _ _ => trivial) trivial trivial verb).andThen
    intro _
    apply (u.applies_apply verb settings extra).andThen
    intro _
    apply (hsay _ _).andThen
    intro _
    trivial
  · rw [applyWith_of_skipped u hreason]
    exact (hsay _ _).andThen fun _ => trivial

/-- To get through its stages a chart has to be applied by `helm`. -/
theorem exists_execution_of_passed {u : ChartUnit} {verb : Verb} {settings : Settings}
    {extra : List (String × String)} {history : WorkHistory} (hkind : u.spec.kind ≠ .manifest)
    (h : Passed (u.stages verb settings extra) history) :
    ∃ i o, i.program = "helm" ∧ o.success = true ∧ execution i o ∈ history := by
  obtain ⟨claimed, rest, -, happlying, rfl⟩ := passed_append_iff.mp h
  obtain ⟨_, ready, happlied, -, rfl⟩ := passed_cons_iff.mp happlying
  obtain ⟨_, o, hcommand, hsuccess, rfl⟩ := happlied.shown
  obtain ⟨values, -, rfl⟩ := applyCommand_of_chart hkind hcommand
  exact ⟨_, o, rfl, hsuccess, List.mem_append_right _ (List.mem_cons_self ..)⟩

end ChartUnit

/-! ### Pinning -/

namespace IngressUnit

/-- The arguments that pin a service to the address with this number. -/
def pinArgs (number : Nat) (address : String) : List String :=
  ["--set", "service.externalIPs[" ++ Text.decimal number ++ "]=" ++ address]

theorem valueArgs_pinned (number : Nat) (address : String) :
    valueArgs ("service.externalIPs[" ++ Text.decimal number ++ "]") address =
      pinArgs number address := by
  simp only [valueArgs, pinArgs, String.append_assoc]
  rfl

theorem flatMap_pinnedTo (addresses : List String) :
    (pinnedTo addresses).flatMap (fun e => valueArgs e.1 e.2) =
      (addresses.mapIdx pinArgs).flatten := by
  rw [List.flatMap_def]
  congr 1
  apply List.ext_getElem?
  intro n
  simp only [pinnedTo, List.getElem?_map, List.getElem?_mapIdx, Option.map_map]
  congr 1
  funext address
  exact valueArgs_pinned n address

/-- There is always a first watched service. -/
theorem head?_watched (u : IngressUnit) : u.watched.head? = some u.mainService := by
  rcases hwatched : u.watched with _ | ⟨first, rest⟩
  · unfold watched at hwatched
    split at hwatched
    · cases hwatched
    · rename_i hsome
      rw [hwatched] at hsome
      exact absurd rfl hsome
  · rw [mainService, hwatched]
    rfl

theorem exists_response_of_passed {u : IngressUnit} {history : WorkHistory}
    (h : Passed [reachable u] history) :
    ∃ service address, service.ReachedAt address ∧
      response (.getService u.chart.spec.id u.mainService) (some service) ∈ history := by
  obtain ⟨_, _, hread, -, rfl⟩ := passed_cons_iff.mp h
  obtain ⟨before, _, ⟨service, hservice, rfl⟩, rfl⟩ := hread.shown
  obtain ⟨address, haddress⟩ := Option.isSome_iff_exists.mp hservice
  exact ⟨service, address, Service.address?_eq_some_iff.mp haddress,
    List.mem_append_left _ (List.mem_append_right _ (List.mem_singleton_self _))⟩

/-! ### Once the nodes are known -/

/-- The values that expose a service on a cluster with these nodes. -/
def exposingValues (nodes : List Node) : List (String × String) :=
  if (Platform.detect nodes).hasLoadBalancer then []
  else pinnedTo ((Platform.detect nodes).externalIps nodes)

section Nodes

variable (u : IngressUnit) (verb : Verb) (settings : Settings) (nodes : List Node)

/-- What is left to do when the nodes are known. -/
def exposedOn : Engine Unit :=
  (Engine.call .serverVersion).andThen fun _ =>
    (u.chart.applyWith verb settings (exposingValues nodes)).andThen fun applied =>
      if applied && (Platform.detect nodes).hasLoadBalancer then u.awaitReachable else .done ()

theorem exposed_applyWith :
    u.exposed (u.chart.applyWith verb settings) =
      (Engine.call .listNodes).andThen (u.exposedOn verb settings) := by
  simp only [exposed, exposure, readFacts, bind_eq_andThen, andThen_andThen]
  refine congrArg _ (funext fun nodes => congrArg _ (funext fun version => ?_))
  show Script.andThen (if (Platform.detect nodes).hasLoadBalancer then _ else _) _ = _
  unfold exposingValues
  cases (Platform.detect nodes).hasLoadBalancer <;> rfl

/-- What may be asked for when a controller is exposed: what its chart is applied with, and objects
to wait for a load balancer only where there is one. -/
def Exposes (a : Action) : Prop :=
  u.chart.Applies verb settings (exposingValues nodes) a ∨
    (Platform.detect nodes).hasLoadBalancer = true ∧ a.LooksAtObjects

theorem exposes_exposedOn :
    AsksOnly (u.Exposes verb settings nodes) (u.exposedOn verb settings nodes) := by
  have hversion : u.Exposes verb settings nodes (.call .serverVersion) := Or.inl trivial
  apply (Engine.asksOnly_call hversion).andThen
  intro _
  apply ((u.chart.applies_applyWith verb settings _).mono fun _ => Or.inl).andThen
  intro applied
  split
  · rename_i hwaits
    have hbalanced := (Bool.and_eq_true_iff.mp hwaits).2
    exact u.looksAtObjects_awaitReachable.mono fun _ ha => Or.inr ⟨hbalanced, ha⟩
  · trivial

/-- A result shows that the command of `helm` has succeeded, and on a platform with load balancers
that the main service was read with an address afterwards. -/
theorem attests_exposedOn (hkind : u.chart.spec.kind = .ingress)
    (hskip : ∀ reason, u.chart.skipReason settings ≠ .ok (some reason)) :
    Attests (u.exposedOn verb settings nodes) fun _ history =>
      ∃ i o, i.program = "helm" ∧ o.success = true ∧ execution i o ∈ history ∧
        ((Platform.detect nodes).hasLoadBalancer = true → ∃ service address,
          service.ReachedAt address ∧ [execution i o,
            response (.getService u.chart.spec.id u.mainService) (some service)].Sublist history) := by
  apply Attests.later
  · rintro _ before later ⟨i, o, hprogram, hsuccess, hran, hreached⟩
    refine ⟨i, o, hprogram, hsuccess, List.mem_append_right _ hran, fun hbalanced => ?_⟩
    obtain ⟨service, address, haddress, hsub⟩ := hreached hbalanced
    exact ⟨service, address, haddress, hsub.trans (List.sublist_append_right _ _)⟩
  intro _
  refine ⟨fun {_ _ _ _ _ _ history} hrun => ?_⟩
  have hpassed : Passed (u.chart.stages verb settings (exposingValues nodes) ++
      if (Platform.detect nodes).hasLoadBalancer then [reachable u] else []) (deeds history) :=
    (u.goesThrough_exposed (u.chart.goesThrough_applyWith settings _ verb hskip)
      (u.chart.attests_applyWith settings _ verb hskip)).progress hrun
  obtain ⟨front, last, hchart, hreached, hdeeds⟩ := passed_append_iff.mp hpassed
  have hmanifest : u.chart.spec.kind ≠ .manifest := by
    rw [hkind]
    decide
  obtain ⟨i, o, hprogram, hsuccess, hran⟩ := ChartUnit.exists_execution_of_passed hmanifest hchart
  have hdone : (front ++ last).Sublist history := hdeeds ▸ List.filter_sublist
  refine ⟨i, o, hprogram, hsuccess, hdone.subset (List.mem_append_left _ hran), ?_⟩
  intro hbalanced
  rw [if_pos hbalanced] at hreached
  obtain ⟨service, address, haddress, hread⟩ := exists_response_of_passed hreached
  have hboth : ([execution i o] ++ [response (.getService u.chart.spec.id u.mainService)
      (some service)]).Sublist (front ++ last) :=
    (List.singleton_sublist.mpr hran).append (List.singleton_sublist.mpr hread)
  exact ⟨service, address, haddress, hboth.trans hdone⟩

end Nodes

/-! ### Both ways -/

/-- What comes of exposing a controller on a cluster with these nodes. -/
structure ExposedBy (u : IngressUnit) (verb : Verb) (settings : Settings) (nodes : List Node)
    (outcome : Option (Except DeployError Unit)) (history : WorkHistory) : Prop where
  /-- Without load balancers the arguments end with one pair for each address, in their order. -/
  pinned : (Platform.detect nodes).hasLoadBalancer = false → ∀ i answer,
    .asked (.run i) answer ∈ history → i.program = "helm" →
      ∃ values pins, u.chart.filledValues settings = .ok values ∧
        i.args = u.chart.leadingArgs verb ++ values ++ List.flatten pins ∧
        ∀ n, pins[n]? = ((Platform.detect nodes).externalIps nodes)[n]?.map (pinArgs n)
  /-- Then nothing is waited for. -/
  unwaited : (Platform.detect nodes).hasLoadBalancer = false →
    AskedOnly (fun a => ∀ id name, a ≠ .call (.getService id name)) history
  /-- With load balancers there are only the values of the specification. -/
  unpinned : (Platform.detect nodes).hasLoadBalancer = true → ∀ i answer,
    .asked (.run i) answer ∈ history → i.program = "helm" →
      ∃ values, u.chart.filledValues settings = .ok values ∧
        i.args = u.chart.leadingArgs verb ++ values
  /-- A result comes after the command, and with load balancers only after the first watched service
  was read with an address. -/
  reached : outcome = some (.ok ()) → (∀ reason, u.chart.skipReason settings ≠ .ok (some reason)) →
    ∃ i o, i.program = "helm" ∧ o.success = true ∧ execution i o ∈ history ∧
      ((Platform.detect nodes).hasLoadBalancer = true → ∃ main service address,
        u.watched.head? = some main ∧ service.ReachedAt address ∧
          [execution i o, response (.getService u.chart.spec.id main) (some service)].Sublist history)
  /-- What is skipped is neither pinned nor waited for. -/
  skipped : ∀ reason, u.chart.skipReason settings = .ok (some reason) →
    AskedOnly (fun a => (∀ i, a ≠ .run i) ∧ ∀ id name, a ≠ .call (.getService id name)) history

variable {σ : Type} {world : World Action Action.Answer σ} {patience : Nat} {state after : σ}
  {outcome : Option (Except DeployError Unit)} {history : WorkHistory}

theorem exposedBy_of_run {u : IngressUnit} (hkind : u.chart.spec.kind = .ingress) {verb : Verb}
    {settings : Settings} {nodes : List Node}
    (hrun : Script.run world.recording patience (u.exposedOn verb settings nodes) (state, []) =
      (outcome, after, history)) :
    u.ExposedBy verb settings nodes outcome history := by
  have hexposes : AskedOnly (u.Exposes verb settings nodes) history :=
    fun _ _ hmem => (u.exposes_exposedOn verb settings nodes).of_mem_history hrun hmem
  have hmanifest : u.chart.spec.kind ≠ .manifest := by
    rw [hkind]
    decide
  have hcommand {i : Invocation} {answer : Action.Answer (.run i)}
      (hmem : .asked (.run i) answer ∈ history) (hhelm : i.program = "helm") :
      ∃ values, u.chart.filledValues settings = .ok values ∧
        i.args = u.chart.leadingArgs verb ++ values ++
          (exposingValues nodes).flatMap fun e => valueArgs e.1 e.2 := by
    rcases hexposes _ _ hmem with (happlies | hkubectl) | ⟨-, hlooks⟩
    · obtain ⟨values, hvalues, rfl⟩ := ChartUnit.applyCommand_of_chart hmanifest happlies
      exact ⟨values, hvalues, rfl⟩
    · exact absurd (hhelm.symm.trans hkubectl) (by decide)
    · cases hlooks
  constructor
  case pinned =>
    intro hpinned i answer hmem hhelm
    obtain ⟨values, hvalues, hargs⟩ := hcommand hmem hhelm
    refine ⟨values, ((Platform.detect nodes).externalIps nodes).mapIdx pinArgs, hvalues, ?_,
      fun n => List.getElem?_mapIdx⟩
    rw [hargs, exposingValues, hpinned, ← flatMap_pinnedTo]
    rfl
  case unwaited =>
    rintro hpinned a answer hmem id name rfl
    rcases hexposes _ _ hmem with hread | ⟨hbalanced, -⟩
    · exact hread
    · rw [hpinned] at hbalanced
      cases hbalanced
  case unpinned =>
    intro hbalanced i answer hmem hhelm
    obtain ⟨values, hvalues, hargs⟩ := hcommand hmem hhelm
    refine ⟨values, hvalues, ?_⟩
    rw [hargs, exposingValues, if_pos hbalanced, List.flatMap_nil, List.append_nil]
  case reached =>
    rintro rfl hskip
    obtain ⟨i, o, hprogram, hsuccess, hran, hreached⟩ :=
      (u.attests_exposedOn verb settings nodes hkind hskip).of_run hrun
    refine ⟨i, o, hprogram, hsuccess, hran, fun hbalanced => ?_⟩
    obtain ⟨service, address, haddress, hsub⟩ := hreached hbalanced
    exact ⟨u.mainService, service, address, u.head?_watched, haddress, hsub⟩
  case skipped =>
    intro reason hreason a answer hmem
    have hasks : AsksOnly (fun a => (∀ i, a ≠ .run i) ∧ ∀ id name, a ≠ .call (.getService id name))
        (u.exposedOn verb settings nodes) := by
      rw [exposedOn, u.chart.applyWith_of_skipped hreason]
      apply (Engine.asksOnly_call ⟨nofun, nofun⟩).andThen
      intro _
      exact ⟨⟨nofun, nofun⟩, fun _ => trivial⟩
    exact hasks.of_mem_history hrun hmem

/-- A controller is exposed in exactly one way.  The nodes are listed first; if that fails, nothing
else is done, and otherwise they decide in which way. -/
theorem applyBy_exposed_one_way (u : IngressUnit) (hkind : u.chart.spec.kind = .ingress)
    (verb : Verb) (settings : Settings)
    (hrun : Script.run world.recording patience (u.toComponent.applyBy verb settings) (state, []) =
      (outcome, after, history)) :
    ∃ listed later, history = .asked (.call .listNodes) listed :: later ∧
      (∀ e, listed = .error e → outcome = some (.error e) ∧ later = []) ∧
      ∀ nodes, listed = .ok nodes → u.ExposedBy verb settings nodes outcome later := by
  rw [Component.applyBy_ingress, exposed_applyWith] at hrun
  have hrest : Script.run world.recording patience
      ((Script.ofExcept (world.answer (.call .listNodes) state).1).andThen
        (u.exposedOn verb settings))
      ((world.answer (.call .listNodes) state).2,
        [.asked (.call .listNodes) (world.answer (.call .listNodes) state).1]) =
      (outcome, after, history) := hrun
  obtain ⟨later, rfl, hlater⟩ := exists_run_recording hrest
  refine ⟨_, later, rfl, ?_, ?_⟩
  · intro e herror
    rw [herror] at hlater
    cases hlater
    exact ⟨rfl, rfl⟩
  · intro nodes hnodes
    rw [hnodes] at hlater
    exact exposedBy_of_run hkind hlater

/-- A controller of which nothing but the chart is known. -/
def porch : IngressUnit where
  chart :=
    { spec := { id := "edge", chart := some "edge", kind := .ingress }
      settings := ∅
      budgets := {} }

/-- Two nodes of a cluster that has no load balancers. -/
def localNodes : List Node :=
  [Specimen.node "kind-control-plane" [] "kind://docker/kind/kind-control-plane"
      [⟨"InternalIP", "172.18.0.2"⟩],
    Specimen.node "kind-worker" [] "kind://docker/kind/kind-worker" [⟨"InternalIP", "172.18.0.3"⟩]]

theorem run_porch :
    ∃ (after : Fake) (history : WorkHistory),
      Script.run (Fake.worldWith fun _ => .ok "").recording 0
          (porch.toComponent.applyBy .install ∅) (({ nodes := localNodes } : Fake), []) =
        (some (.ok ()), after, response .listNodes localNodes :: history) :=
  ⟨_, _, rfl⟩

/-- The service is pinned to the addresses of both nodes. -/
theorem applyBy_exposed_one_way_porch :
    ∃ (after : Fake) (history : WorkHistory) (i : Invocation) (o : CommandOutput),
      Script.run (Fake.worldWith fun _ => .ok "").recording 0
          (porch.toComponent.applyBy .install ∅) (({ nodes := localNodes } : Fake), []) =
        (some (.ok ()), after, response .listNodes localNodes :: history) ∧
      execution i o ∈ history ∧
      i.args = ["install", "edge", "edge", "--namespace", "edge",
        "--set", "service.externalIPs[0]=172.18.0.2",
        "--set", "service.externalIPs[1]=172.18.0.3"] := by
  have hplatform : (Platform.detect localNodes).hasLoadBalancer = false := by decide
  have haddresses : (Platform.detect localNodes).externalIps localNodes =
      ["172.18.0.2", "172.18.0.3"] := by decide
  have hvalues : porch.chart.filledValues ∅ = .ok [] := rfl
  obtain ⟨after, history, hrun⟩ := run_porch
  obtain ⟨listed, later, hhistory, -, hexposed⟩ :=
    applyBy_exposed_one_way porch rfl .install ∅ hrun
  cases hhistory
  obtain ⟨hpinned, -, -, hreached, -⟩ := hexposed localNodes rfl
  obtain ⟨i, o, hprogram, -, hran, -⟩ := hreached rfl fun _ h => nomatch h
  obtain ⟨values, pins, hvalues', hargs, hpins⟩ := hpinned hplatform i _ hran hprogram
  obtain rfl : [] = values := Except.ok.inj (hvalues.symm.trans hvalues')
  have hboth : pins = [pinArgs 0 "172.18.0.2", pinArgs 1 "172.18.0.3"] := by
    apply List.ext_getElem?
    intro n
    rw [hpins, haddresses]
    match n with
    | 0 => rfl
    | 1 => rfl
    | n + 2 => rfl
  refine ⟨after, history, i, o, hrun, hran, ?_⟩
  rw [hargs, hboth]
  decide +kernel

end IngressUnit

end Groundwork
