import Groundwork.Engine.Rehearsal
import Groundwork.Proofs.Component.NamespaceSafety
import Groundwork.Proofs.Component.Templates
import Groundwork.Proofs.Engine.Failures

/-!
# Installations that fail on a setting

The setting that skips a unit is looked at before anything is done, but the values of a chart are
filled when its command is built, after the namespace was created, and a manifest that follows is
filled only when its turn comes.  `install_setup_error`: an installation that fails on a setting has
changed nothing, unless one of these templates refers to a setting that the unit does not see; then
the namespace is there, and before the values of a chart are filled no command was run.
-/

namespace Groundwork

open Script Cluster

/-! ### Templates -/

namespace Template

variable {escape : String → String} {settings : Settings} {unit template : String}

/-- The template refers to a name under which the unit sees no setting. -/
def Misses (settings : Settings) (unit template name : String) : Prop :=
  Piece.reference name ∈ pieces template.toList ∧ settings.get? name (some unit) = none

/-- A template that cannot be filled refers to a name that the unit does not know. -/
theorem fill_eq_error {x : SetupError} (h : fill escape settings unit template = .error x) :
    ∃ name, x = .unknown name ∧ Misses settings unit template name := by
  obtain ⟨parts, hcut, hpieces⟩ := exists_cut template.toList
  rcases resolved_or_first (textOf escape settings unit) parts with
    hresolved | ⟨before, name, after, rfl, hbefore, hname⟩
  · rw [fill_of_resolved hcut hresolved] at h
    cases h
  · rw [fill_of_unresolved hcut hbefore hname] at h
    cases h
    refine ⟨name, rfl, ?_, Option.map_eq_none_iff.mp hname⟩
    rw [hpieces]
    simp [Part.pieces]

end Template

namespace ChartUnit

variable {u : ChartUnit} {verb : Verb} {settings : Settings} {extra : List (String × String)}

/-- A command that cannot be built is that of a chart with a value that cannot be filled. -/
theorem applyCommand_eq_error {x : SetupError}
    (h : u.applyCommand verb settings extra = .error x) :
    ∃ name, x = .unknown name ∧ u.spec.kind ≠ .manifest ∧
      ∃ entry ∈ u.spec.values, Template.Misses settings u.spec.id entry.2 name := by
  simp only [applyCommand] at h
  split at h
  · cases h
  · rename_i hkind
    obtain ⟨entry, hentry, hfill⟩ := exists_of_mapM_eq_error (map_eq_error.mp (map_eq_error.mp h))
    obtain ⟨name, rfl, hmisses⟩ := Template.fill_eq_error (map_eq_error.mp hfill)
    exact ⟨name, rfl, hkind, entry, hentry, hmisses⟩

end ChartUnit

/-! ### What has happened -/

/-- Every action that was asked for is one of `P`. -/
def AskedOnly (P : Action → Prop) (history : WorkHistory) : Prop :=
  ∀ a answer, .asked a answer ∈ history → P a

/-- Nothing outside was changed. -/
def Untouched (history : WorkHistory) : Prop :=
  AskedOnly Action.OnlyLooks history

/-- No command was run. -/
def WithoutCommands (history : WorkHistory) : Prop :=
  AskedOnly (fun a => ∀ i, a ≠ .run i) history

theorem AskedOnly.append {P : Action → Prop} {history : WorkHistory}
    {o : Occurrence Action Action.Answer} (h : AskedOnly P history)
    (ho : ∀ a answer, o = .asked a answer → P a) : AskedOnly P (history ++ [o]) := by
  intro a answer hmem
  rcases List.mem_append.mp hmem with hmem | hmem
  · exact h a answer hmem
  · exact ho a answer (List.mem_singleton.mp hmem).symm

theorem Untouched.withoutCommands {history : WorkHistory} (h : Untouched history) :
    WithoutCommands history := by
  rintro a answer hmem i rfl
  exact h (.run i) answer hmem

/-! ### Single steps -/

/-- The ways in which an installation can come to fail on a setting. -/
def Accounted (spec : UnitSpec) (settings : Settings) (e : DeployError) (history : WorkHistory) :
    Prop :=
  ∀ x, e.root = .setup x →
    Untouched history ∨ History.Reported Action.Reports e history ∨
      creation spec.id ∈ history ∧ ∃ name, x = .unknown name ∧
        ((WithoutCommands history ∧ spec.kind ≠ .manifest ∧
            ∃ entry ∈ spec.values, Template.Misses settings spec.id entry.2 name) ∨
          ∃ manifest ∈ spec.postApply, Template.Misses settings spec.id manifest name)

/-- The contract of a step of an installation: if it fails, the error is accounted for; `pre` and
`post` are about what has happened before and after it. -/
def Installs {σ α : Type} (world : World Action Action.Answer σ) (patience : Nat) (spec : UnitSpec)
    (settings : Settings) (pre : WorkHistory → Prop) (s : Engine α)
    (post : α → WorkHistory → Prop) : Prop :=
  Ends world.recording patience (fun state => pre state.2) s fun outcome state =>
    match outcome with
    | .ok a => post a state.2
    | .error e => Accounted spec settings e state.2

namespace Installs

variable {σ α β : Type} {world : World Action Action.Answer σ} {patience : Nat} {spec : UnitSpec}
  {settings : Settings} {pre : WorkHistory → Prop}

theorem done {a : α} {post : α → WorkHistory → Prop} (h : ∀ history, pre history → post a history) :
    Installs world patience spec settings pre (.done a) post :=
  Ends.ofExcept (x := .ok a) fun state => h state.2

theorem ofSetup {x : Except SetupError α}
    (h : ∀ fault history, x = .error fault → pre history →
      Accounted spec settings (.setup fault) history) :
    Installs world patience spec settings pre (Engine.ofSetup x) fun _ => pre := by
  cases x with
  | ok a => exact done fun _ hpre => hpre
  | error fault => exact Ends.ofExcept (x := .error _) fun state => h fault state.2 rfl

theorem weaken {pre' : WorkHistory → Prop} {s : Engine α} {post post' : α → WorkHistory → Prop}
    (h : Installs world patience spec settings pre s post)
    (hpre : ∀ history, pre' history → pre history)
    (hpost : ∀ a history, post a history → post' a history) :
    Installs world patience spec settings pre' s post' := by
  refine Ends.weaken h (fun state => hpre state.2) ?_
  intro outcome state hstate
  cases outcome with
  | ok a => exact hpost a state.2 hstate
  | error e => exact hstate

theorem andThen {s : Engine α} {f : α → Engine β} {mid : α → WorkHistory → Prop}
    {post : β → WorkHistory → Prop} (hs : Installs world patience spec settings pre s mid)
    (hf : ∀ a, Installs world patience spec settings (mid a) (f a) post) :
    Installs world patience spec settings pre (s.andThen f) post :=
  Ends.andThen hs hf fun _ _ herror => herror

/-- Looks change nothing, whatever they end with. -/
theorem looking {s : Engine α} (hs : AsksOnly Action.OnlyLooks s) :
    Installs world patience spec settings Untouched s fun _ => Untouched := by
  have hkept : Ends world.recording patience (fun state => Untouched state.2) s
      fun _ state => Untouched state.2 := by
    apply hs.ends
    · intro a hlooks state hstate
      apply AskedOnly.append hstate
      rintro a' answer hasked
      cases hasked
      exact hlooks
    · intro time state hstate
      exact AskedOnly.append hstate fun _ _ hasked => nomatch hasked
  refine hkept.weaken (fun _ hpre => hpre) ?_
  intro outcome state hstate
  cases outcome with
  | ok a => exact hstate
  | error e => exact fun _ _ => Or.inl hstate

/-- A script that passes errors about settings on leaves what stays true as more happens. -/
theorem passing {s : Engine α} (hs : Engine.PassesOn s)
    (hstable : ∀ history o, pre history → pre (history ++ [o])) :
    Installs world patience spec settings pre s fun _ => pre := by
  have hkept : Ends world.recording patience (fun state => pre state.2) s
      fun _ state => pre state.2 :=
    (asksOnly_true s).ends (fun _ _ _ hstate => hstable _ _ hstate)
      fun _ _ hstate => hstable _ _ hstate
  refine (hkept.and hs.ends).weaken (fun _ hpre => ⟨hpre, trivial⟩) ?_
  rintro outcome state ⟨hpre, herrors⟩
  cases outcome with
  | ok a => exact hpre
  | error e =>
    intro x hx
    rcases herrors e rfl with hnone | hreported
    · exact absurd hx (hnone x)
    · exact Or.inr (Or.inl hreported)

/-- The namespace is created before any command is run. -/
theorem create :
    Installs world patience spec settings WithoutCommands (createOwned spec.id) fun _ history =>
      creation spec.id ∈ history ∧ WithoutCommands history := by
  let call : Action := .call (.createNamespace spec.id ownerLabels)
  refine Ends.ask (fun answer (state : σ × WorkHistory) =>
    .asked call answer ∈ state.2 ∧ WithoutCommands state.2) ?_ ?_
  · intro state hpre
    refine ⟨asked_mem_recording call state, AskedOnly.append hpre ?_⟩
    rintro a answer hasked i rfl
    cases hasked
  · intro answer
    apply Ends.ofExcept
    rintro state ⟨hasked, hwithout⟩
    cases answer with
    | ok created => exact ⟨hasked, hwithout⟩
    | error e => exact fun _ _ => Or.inr (Or.inl ⟨call, .error e, hasked, rfl⟩)

end Installs

/-! ### Units -/

namespace ChartUnit

variable {σ : Type} {world : World Action Action.Answer σ} {patience : Nat} (u : ChartUnit)
  (settings : Settings) (extra : List (String × String))

/-- What was created once stays in the history. -/
theorem creation_mem_append (id : String) (history : WorkHistory)
    (o : Occurrence Action Action.Answer) (h : creation id ∈ history) :
    creation id ∈ history ++ [o] :=
  List.mem_append_left _ h

theorem installs_applyFollowing {manifests : List String}
    (h : ∀ manifest ∈ manifests, manifest ∈ u.spec.postApply) :
    Installs world patience u.spec settings (fun history => creation u.spec.id ∈ history)
      (u.applyFollowing settings manifests) fun _ history => creation u.spec.id ∈ history := by
  induction manifests with
  | nil => exact Installs.done fun _ hcreated => hcreated
  | cons manifest rest ih =>
    refine (Installs.ofSetup ?_).andThen fun text => ?_
    · intro fault history hfill hcreated x hx
      cases hx
      obtain ⟨name, rfl, hmisses⟩ := Template.fill_eq_error hfill
      exact Or.inr (Or.inr ⟨hcreated, name, rfl,
        Or.inr ⟨manifest, h manifest (List.mem_cons_self ..), hmisses⟩⟩)
    · apply (Installs.passing (Engine.passesOn_say _ _) (creation_mem_append _)).andThen
      intro _
      apply (Installs.passing (Engine.passesOn_runRetried _ _) (creation_mem_append _)).andThen
      intro _
      exact ih fun manifest' hmem => h manifest' (List.mem_cons_of_mem _ hmem)

/-- Once the namespace is there, only templates can be at fault. -/
theorem installs_apply :
    Installs world patience u.spec settings
      (fun history => creation u.spec.id ∈ history ∧ WithoutCommands history)
      (u.apply .install settings extra) fun _ history => creation u.spec.id ∈ history := by
  refine (Installs.ofSetup ?_).andThen fun command => ?_
  · rintro fault history hcommand ⟨hcreated, hwithout⟩ x hx
    cases hx
    obtain ⟨name, rfl, hkind, hentry⟩ := applyCommand_eq_error hcommand
    exact Or.inr (Or.inr ⟨hcreated, name, rfl, Or.inl ⟨hwithout, hkind, hentry⟩⟩)
  · refine Installs.weaken ?_ (fun _ hpre => hpre.1) fun _ _ hcreated => hcreated
    apply (Installs.passing (Engine.passesOn_say _ _) (creation_mem_append _)).andThen
    intro _
    apply (Installs.passing (Engine.passesOn_runChecked _ _) (creation_mem_append _)).andThen
    intro _
    apply (Installs.passing u.passesOn_awaitReady (creation_mem_append _)).andThen
    intro _
    exact u.installs_applyFollowing settings fun _ hmem => hmem

theorem installs_installWith :
    Installs world patience u.spec settings Untouched (u.installWith settings extra)
      fun _ _ => True := by
  refine (Installs.ofSetup ?_).andThen fun skipped => ?_
  · exact fun _ _ _ huntouched _ _ => Or.inl huntouched
  cases skipped with
  | some reason =>
    apply (Installs.looking (Engine.asksOnly_say _ _)).andThen
    intro _
    exact Installs.done fun _ _ => trivial
  | none =>
    apply (Installs.looking (asksOnly_guardInstall trivial)).andThen
    intro _
    apply (Installs.looking (Engine.asksOnly_say _ _)).andThen
    intro _
    apply (Installs.create.weaken (fun _ h => h.withoutCommands) fun _ _ h => h).andThen
    intro _
    apply (u.installs_apply settings extra).andThen
    intro _
    apply (Installs.passing (Engine.passesOn_say _ _) (creation_mem_append _)).andThen
    intro _
    exact Installs.done fun _ _ => trivial

end ChartUnit

/-- Before an ingress is exposed nothing is changed, and once it is there settings do not matter. -/
theorem IngressUnit.installs_exposed {σ : Type} {world : World Action Action.Answer σ}
    {patience : Nat} (u : IngressUnit) {spec : UnitSpec} {settings : Settings}
    {apply : List (String × String) → Engine Bool}
    (happly : ∀ values, Installs world patience spec settings Untouched (apply values)
      fun _ _ => True) :
    Installs world patience spec settings Untouched (u.exposed apply) fun _ _ => True := by
  apply (Installs.looking (asksOnly_exposure trivial trivial)).andThen
  rintro ⟨values, balanced⟩
  apply (happly values).andThen
  intro applied
  split
  · exact Installs.passing u.passesOn_awaitReachable fun _ _ _ => trivial
  · exact Installs.done fun _ _ => trivial

/-! ### Components -/

namespace Component

variable {spec : UnitSpec} {budgets : Budgets} {c : Component} {σ : Type}
  {world : World Action Action.Answer σ} {patience : Nat} {settings : Settings}

theorem installs_install (hc : Component.ofSpec spec budgets = .ok c) :
    Installs world patience spec settings Untouched (c.install settings) fun _ _ => True := by
  obtain ⟨u, -, rfl, -, hkind⟩ := cases_of_ofSpec hc
  rcases hkind with rfl | rfl
  · exact (u.installs_installWith settings []).andThen fun _ => Installs.done fun _ _ => trivial
  · exact IngressUnit.installs_exposed ⟨u⟩ fun values => u.installs_installWith settings values

/-- An installation fails on a setting, in whatever world.  Then it has changed nothing, or the
world itself answered with that error, or the namespace was created and a template refers to a
setting that the unit does not see: a value of its chart, and no command was run, or a manifest that
follows. -/
theorem install_setup_error (hc : Component.ofSpec spec budgets = .ok c) {state after : σ}
    {history : WorkHistory} {e : DeployError} {x : SetupError}
    (hrun : Script.run world.recording patience (c.install settings) (state, []) =
      (some (.error e), after, history))
    (hx : e.root = .setup x) :
    Untouched history ∨ History.Reported Action.Reports e history ∨
      creation spec.id ∈ history ∧ ∃ name, x = .unknown name ∧
        ((WithoutCommands history ∧ spec.kind ≠ .manifest ∧
            ∃ entry ∈ spec.values, Template.Misses settings spec.id entry.2 name) ∨
          ∃ manifest ∈ spec.postApply, Template.Misses settings spec.id manifest name) := by
  have huntouched : Untouched [] := fun _ _ hmem => nomatch hmem
  exact installs_install hc (state, []) huntouched (.error e) (after, history) hrun x hx

/-- A chart with a value that refers to a setting which nobody declares. -/
def dangling : ChartUnit where
  spec := { id := "web", chart := some "web", values := [("host", "$\x7bhost\x7d")] }
  settings := ∅
  budgets := {}

theorem apply_dangling : dangling.apply .install ∅ [] = .fail (.setup (.unknown "host")) := by
  have hpieces : Template.pieces "$\x7bhost\x7d".toList = [.reference "host"] := by
    decide +kernel
  have hfill : Template.fill escapeValue ∅ "web" "$\x7bhost\x7d" = .error (.unknown "host") := by
    rw [Template.fill, hpieces]
    rfl
  have hcommand : dangling.applyCommand .install ∅ [] = .error (.unknown "host") := by
    show (dangling.filledValues ∅).map _ = _
    rw [ChartUnit.filledValues, dangling, List.mapM_cons, hfill]
    rfl
  rw [ChartUnit.apply, hcommand]
  rfl

/-- The last that happens before its installation fails is that the namespace is created. -/
theorem run_dangling :
    ∃ after history,
      Script.run Rehearsal.world.recording Rehearsal.patience (dangling.toComponent.install ∅)
          ({}, []) = (some (.error (.setup (.unknown "host"))), after, history) ∧
        creation "web" ∈ history := by
  have hinstall : dangling.toComponent.install ∅ =
      (dangling.installWith ∅ []).andThen fun _ => .done () := rfl
  rw [hinstall, ChartUnit.installWith, apply_dangling]
  refine ⟨_, _, rfl, ?_⟩
  exact List.mem_cons_of_mem _ (List.mem_cons_of_mem _ (List.mem_cons_self ..))

theorem install_setup_error_dangling :
    ∃ after history,
      Script.run Rehearsal.world.recording Rehearsal.patience (dangling.toComponent.install ∅)
          ({}, []) = (some (.error (.setup (.unknown "host"))), after, history) ∧
        (Untouched history ∨
          History.Reported Action.Reports (.setup (.unknown "host")) history ∨
          creation "web" ∈ history ∧ ∃ name, SetupError.unknown "host" = .unknown name ∧
            ((WithoutCommands history ∧ dangling.spec.kind ≠ .manifest ∧
                ∃ entry ∈ dangling.spec.values, Template.Misses ∅ "web" entry.2 name) ∨
              ∃ manifest ∈ dangling.spec.postApply, Template.Misses ∅ "web" manifest name)) := by
  obtain ⟨after, history, hrun, -⟩ := run_dangling
  have hc : ofSpec dangling.spec {} = .ok dangling.toComponent := rfl
  exact ⟨after, history, hrun, install_setup_error hc hrun rfl⟩

/-- An installation that fails on a setting has created a namespace. -/
theorem install_setup_error_created :
    ∃ c after history,
      ofSpec { id := "web", chart := some "web", values := [("host", "$\x7bhost\x7d")] } {} = .ok c ∧
        Script.run Rehearsal.world.recording Rehearsal.patience (c.install ∅) ({}, []) =
          (some (.error (.setup (.unknown "host"))), after, history) ∧
        ∃ answer, .asked (.call (.createNamespace "web" ownerLabels)) answer ∈ history := by
  obtain ⟨after, history, hrun, hcreated⟩ := run_dangling
  exact ⟨dangling.toComponent, after, history, rfl, hrun, .ok (), hcreated⟩

end Component

end Groundwork
