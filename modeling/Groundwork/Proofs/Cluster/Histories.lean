import Groundwork.Proofs.Cluster.Phase

/-!
# Histories of a cluster in memory

What a sequence of calls makes of a cluster that starts `Fresh`, told by the calls and their answers
alone (`Fake.Faithful`): how long a deleted namespace can be seen, when one can be created, that
one namespace has no part in what is found of another, and what the logs hold.  A run goes from
phase to phase (`phase_after_of_fading`, `ending_after`, `phase_after_of_standing`), and a
namespace is gone exactly if the history shows it (`phase_after_eq_gone_iff`).
-/

namespace Groundwork.Cluster

/-! ### Calls and answers -/

/-- A call with its answer. -/
structure Exchange where
  call : Call
  answer : Except DeployError call.Found

/-- The namespace that an exchange has created. -/
def Exchange.created? : Exchange → Option String
  | ⟨.createNamespace name _, .ok _⟩ => some name
  | _ => none

/-- After this exchange the namespace is known to be gone: it was deleted in a cluster that shows
deleted namespaces to no look, or it was looked for in vain. -/
def Exchange.ShowsGone (lag : Nat) (name : String) : Exchange → Prop
  | ⟨.deleteNamespace other, _⟩ => other = name ∧ lag = 0
  | ⟨.getNamespace other, found⟩ => other = name ∧ found = .ok none
  | _ => False

/-- The names of the namespaces that were created, in order. -/
def creations (exchanges : List Exchange) : List String :=
  exchanges.filterMap Exchange.created?

theorem creations_append (es more : List Exchange) :
    creations (es ++ more) = creations es ++ creations more :=
  List.filterMap_append

theorem creations_singleton (e : Exchange) : creations [e] = e.created?.toList := by
  unfold creations
  cases h : e.created? <;> simp [h]

theorem creations_cons (e : Exchange) (es : List Exchange) :
    creations (e :: es) = e.created?.toList ++ creations es := by
  rw [← creations_singleton, ← creations_append]
  rfl

theorem created?_ne_some_of_showsGone {lag : Nat} {name other : String} {e : Exchange}
    (h : e.ShowsGone lag name) : e.created? ≠ some other := by
  obtain ⟨c, answer⟩ := e
  cases c with
  | createNamespace _ _ => exact h.elim
  | _ => nofun

/-- The namespace is gone, or it fades and will be seen by at most so many more looks. -/
def Phase.Ending (looks : Nat) : Phase → Prop
  | .gone => True
  | .standing _ => False
  | .fading _ left => left ≤ looks

namespace Fake

/-- The cluster after some calls. -/
def after (f : Fake) (calls : List Call) : Fake :=
  calls.foldl (fun f c => (f.answer c).2) f

/-- The calls with their answers. -/
def history (f : Fake) : List Call → List Exchange
  | [] => []
  | c :: calls => ⟨c, (f.answer c).1⟩ :: (f.answer c).2.history calls

/-- The names of the namespaces that were there when they were deleted, in order. -/
def deletions (f : Fake) : List Call → List String
  | [] => []
  | c :: calls => f.lifecycle.deletion c ++ (f.answer c).2.deletions calls

/-- Nothing has happened to the cluster's namespaces yet. -/
structure Fresh (f : Fake) : Prop where
  terminating : f.terminating = []
  created : f.created = []
  deleted : f.deleted = []

/-- A namespace is missing: it never was there, or it is known to be gone and was not created since.
-/
inductive Missing (f : Fake) (name : String) (past : List Exchange) : Prop
  | never (hbefore : Table.has f.namespaces name = false) (hnew : name ∉ creations past)
  | since {before later : List Exchange} {e : Exchange} (hpast : past = before ++ e :: later)
    (hgone : e.ShowsGone f.deletionLag name) (hnew : name ∉ creations later)

/-- What the calls make of the namespaces of a cluster. -/
structure Faithful (f : Fake) (calls : List Call) : Prop where
  /-- After its last deletion a namespace can be seen, as it was, by as many looks as the lag says.
  -/
  lingers : ∀ {before later name ns}, calls = before ++ .deleteNamespace name :: later →
    Table.get? (f.after before).namespaces name = some ns → .deleteNamespace name ∉ later →
    later.count (.getNamespace name) < f.deletionLag →
    ((f.after calls).answer (.getNamespace name)).1 = .ok (some ns)
  /-- Later looks find nothing, until it is created again. -/
  vanishes : ∀ {before later name ns}, calls = before ++ .deleteNamespace name :: later →
    Table.get? (f.after before).namespaces name = some ns → .deleteNamespace name ∉ later →
    f.deletionLag ≤ later.count (.getNamespace name) →
    name ∉ creations ((f.after (before ++ [.deleteNamespace name])).history later) →
    ((f.after calls).answer (.getNamespace name)).1 = .ok none
  /-- A namespace that was created is found as it was created, until it is deleted: deletions from
  before have no part in it. -/
  stays : ∀ {before later name labels}, calls = before ++ .createNamespace name labels :: later →
    ((f.after before).answer (.createNamespace name labels)).1 = .ok () →
    .deleteNamespace name ∉ later →
    ((f.after calls).answer (.getNamespace name)).1 = .ok (some ⟨some name, some labels⟩)
  /-- Calls about other namespaces, or about none, have no part in what is found. -/
  separate : ∀ name, (f.history calls).filter (·.call.subject? = some name) =
    f.history (calls.filter (·.subject? = some name))
  /-- What is not missing is there. -/
  there : ∀ name,
    Table.has (f.after calls).namespaces name = true ↔ ¬f.Missing name (f.history calls)
  /-- A namespace can be created exactly if it is missing. -/
  creates : ∀ name labels, ((f.after calls).answer (.createNamespace name labels)).1 = .ok () ↔
    f.Missing name (f.history calls)
  /-- A refused creation changes nothing. -/
  refuses : ∀ name labels, ¬f.Missing name (f.history calls) →
    (∃ e, ((f.after calls).answer (.createNamespace name labels)).1 = .error e) ∧
    ((f.after calls).answer (.createNamespace name labels)).2.lifecycle = (f.after calls).lifecycle
  created : (f.after calls).created = creations (f.history calls)
  deleted : (f.after calls).deleted = f.deletions calls
  /-- What is going away is still there. -/
  pending : ∀ name, Table.has (f.after calls).terminating name = true →
    Table.has (f.after calls).namespaces name = true

variable {f g : Fake} {name : String} {ns : Namespace} {calls : List Call}

theorem after_append (f : Fake) (calls more : List Call) :
    f.after (calls ++ more) = (f.after calls).after more :=
  List.foldl_append

theorem after_cons (f : Fake) (c : Call) (calls : List Call) :
    f.after (c :: calls) = (f.answer c).2.after calls :=
  rfl

theorem history_append (f : Fake) (calls more : List Call) :
    f.history (calls ++ more) = f.history calls ++ (f.after calls).history more := by
  induction calls generalizing f with
  | nil => rfl
  | cons c calls ih => exact congrArg (List.cons _) (ih (f.answer c).2)

theorem Fresh.steady (hf : f.Fresh) : f.Steady :=
  ⟨Lifecycle.sound_of_terminating_eq_nil hf.terminating, fun _ => hf.terminating⟩

theorem Steady.after (hf : f.Steady) (calls : List Call) : (f.after calls).Steady := by
  induction calls generalizing f with
  | nil => exact hf
  | cons c calls ih => exact ih (hf.answer c)

theorem deletionLag_after (f : Fake) (calls : List Call) :
    (f.after calls).deletionLag = f.deletionLag := by
  induction calls generalizing f with
  | nil => rfl
  | cons c calls ih => exact (ih (f.answer c).2).trans (deletionLag_answer c f)

/-! ### From phase to phase -/

/-- A call that does not delete the namespace and does not look at it leaves it fading. -/
theorem phase_answer_of_fading (hf : f.Steady) {looks : Nat}
    (hphase : f.phase name = .fading ns looks) {c : Call} (hdelete : c ≠ .deleteNamespace name)
    (hget : c ≠ .getNamespace name) : (f.answer c).2.phase name = .fading ns looks := by
  by_cases hc : c.subject? = some name
  · rw [phase_answer hf hc, hphase]
    cases c with
    | getNamespace _ => cases hc; exact absurd rfl hget
    | createNamespace _ labels => rfl
    | deleteNamespace _ => cases hc; exact absurd rfl hdelete
    | _ => rfl
  · rw [phase_answer_of_ne hc, hphase]

theorem phase_after_of_fading (hf : f.Steady) {looks : Nat}
    (hphase : f.phase name = .fading ns looks) (hdelete : .deleteNamespace name ∉ calls)
    (hlooks : calls.count (.getNamespace name) ≤ looks) :
    (f.after calls).phase name = .fading ns (looks - calls.count (.getNamespace name)) := by
  induction calls generalizing f looks with
  | nil => exact hphase
  | cons c calls ih =>
    obtain ⟨hc, hlater⟩ := not_or.mp (List.mem_cons.not.mp hdelete)
    by_cases hget : c = .getNamespace name
    · -- the look takes one of those that are left, and the calls to come count one less
      subst hget
      rw [List.count_cons_self] at hlooks ⊢
      obtain ⟨left, rfl⟩ : ∃ left, looks = left + 1 := ⟨looks - 1, by omega⟩
      have hnext : (f.answer (.getNamespace name)).2.phase name = .fading ns left := by
        rw [phase_answer hf rfl, hphase]
        rfl
      rw [Nat.add_sub_add_right]
      exact ih (hf.answer _) hnext hlater (by omega)
    · rw [List.count_cons_of_ne hget] at hlooks ⊢
      exact ih (hf.answer c) (phase_answer_of_fading hf hphase (Ne.symm hc) hget) hlater hlooks

/-- A look at a namespace that is ending uses up one of the looks left, no other call does. -/
theorem ending_answer (hf : f.Steady) {looks : Nat} (hphase : (f.phase name).Ending looks)
    {c : Call} (hdelete : c ≠ .deleteNamespace name)
    (hcreate : Exchange.created? ⟨c, (f.answer c).1⟩ ≠ some name) :
    ((f.answer c).2.phase name).Ending (looks - [c].count (.getNamespace name)) := by
  by_cases hc : c.subject? = some name
  · rw [phase_answer hf hc]
    cases c with
    | getNamespace _ =>
      cases hc
      rw [List.count_singleton_self]
      cases hp : f.phase name with
      | gone => trivial
      | standing ns => rw [hp] at hphase; exact hphase.elim
      | fading ns left =>
        rw [hp] at hphase
        replace hphase : left ≤ looks := hphase
        cases left with
        | zero => trivial
        | succ left => exact show left ≤ looks - 1 by omega
    | createNamespace _ labels =>
      cases hc
      cases hp : f.phase name with
      | gone =>
        -- where it is gone the creation would have succeeded
        rw [answer_createNamespace_eq, phase_eq_gone_iff.mp hp] at hcreate
        exact absurd rfl hcreate
      | standing ns => rw [hp] at hphase; exact hphase.elim
      | fading ns left => rw [hp] at hphase; exact hphase
    | deleteNamespace _ => cases hc; exact absurd rfl hdelete
    | _ => cases hc
  · have hget : c ≠ .getNamespace name := by
      rintro rfl
      exact hc rfl
    rw [phase_answer_of_ne hc, List.count_singleton, beq_false_of_ne hget]
    exact hphase

theorem ending_after (hf : f.Steady) {looks : Nat} (hphase : (f.phase name).Ending looks)
    (hdelete : .deleteNamespace name ∉ calls) (hcreate : name ∉ creations (f.history calls)) :
    ((f.after calls).phase name).Ending (looks - calls.count (.getNamespace name)) := by
  induction calls generalizing f looks with
  | nil => exact hphase
  | cons c calls ih =>
    obtain ⟨hc, hdelete⟩ := not_or.mp (List.mem_cons.not.mp hdelete)
    rw [history, creations_cons, List.mem_append, not_or, Option.mem_toList] at hcreate
    have hnext := ending_answer hf hphase (Ne.symm hc) hcreate.1
    have hlater := ih (hf.answer c) hnext hdelete hcreate.2
    rwa [Nat.sub_sub, ← List.count_append] at hlater

/-- A namespace that stands is moved by nothing but its deletion. -/
theorem phase_after_of_standing (hf : f.Steady) (hphase : f.phase name = .standing ns)
    (hdelete : .deleteNamespace name ∉ calls) : (f.after calls).phase name = .standing ns := by
  induction calls generalizing f with
  | nil => exact hphase
  | cons c calls ih =>
    obtain ⟨hc, hdelete⟩ := not_or.mp (List.mem_cons.not.mp hdelete)
    apply ih (hf.answer c) _ hdelete
    by_cases hsubject : c.subject? = some name
    · rw [phase_answer hf hsubject, hphase]
      cases c with
      | deleteNamespace _ => cases hsubject; exact absurd rfl hc
      | _ => rfl
    · rw [phase_answer_of_ne hsubject, hphase]

/-! ### What a history shows -/

/-- A call leaves a namespace gone if it does not create it, and it was gone before or is shown to
be gone by the answer. -/
theorem phase_answer_eq_gone_iff (hf : f.Steady) (c : Call) :
    (f.answer c).2.phase name = .gone ↔
      Exchange.created? ⟨c, (f.answer c).1⟩ ≠ some name ∧
        (f.phase name = .gone ∨
          Exchange.ShowsGone f.deletionLag name ⟨c, (f.answer c).1⟩) := by
  by_cases hc : c.subject? = some name
  · rw [phase_answer hf hc]
    cases c with
    | getNamespace _ =>
      cases hc
      rw [answer_getNamespace_eq hf]
      cases hp : f.phase name with
      | gone => simp [Phase.next, Phase.looked, Exchange.created?]
      | standing ns =>
        simp [Phase.next, Phase.looked, Phase.seen, Exchange.created?, Exchange.ShowsGone]
      | fading ns left =>
        cases left <;>
          simp [Phase.next, Phase.looked, Phase.seen, Exchange.created?, Exchange.ShowsGone]
    | createNamespace _ labels =>
      cases hc
      rw [answer_createNamespace_eq]
      cases hp : f.phase name with
      | gone =>
        rw [phase_eq_gone_iff.mp hp]
        simp [Phase.next, Phase.created, Exchange.created?]
      | standing ns => simp [Phase.next, Phase.created, Exchange.ShowsGone]
      | fading ns left => simp [Phase.next, Phase.created, Exchange.ShowsGone]
    | deleteNamespace _ =>
      cases hc
      cases f.phase name <;>
        simp [Phase.next, Phase.deleted, Exchange.created?, Exchange.ShowsGone]
    | _ => cases hc
  · rw [phase_answer_of_ne hc]
    have hcreated : Exchange.created? ⟨c, (f.answer c).1⟩ ≠ some name := by
      intro hcreated
      cases c with
      | createNamespace other labels =>
        rw [answer_createNamespace_eq] at hcreated
        split at hcreated
        · cases hcreated
        · exact hc hcreated
      | _ => cases hcreated
    have hshows : ¬Exchange.ShowsGone f.deletionLag name ⟨c, (f.answer c).1⟩ := by
      intro hshows
      cases c with
      | getNamespace other => exact hc (congrArg some hshows.1)
      | deleteNamespace other => exact hc (congrArg some hshows.1)
      | _ => exact hshows.elim
    simp [hcreated, hshows]

theorem missing_append_singleton {past : List Exchange} {e : Exchange} :
    f.Missing name (past ++ [e]) ↔
      e.created? ≠ some name ∧ (f.Missing name past ∨ e.ShowsGone f.deletionLag name) := by
  constructor
  · rintro (⟨hbefore, hnew⟩ | @⟨before, later, shown, hpast, hgone, hnew⟩)
    · rw [creations_append, List.mem_append, not_or, creations_singleton, Option.mem_toList] at hnew
      exact ⟨hnew.2, .inl (.never hbefore hnew.1)⟩
    · -- the exchange that shows it is the last one, or one of those before
      rcases List.eq_nil_or_concat later with rfl | ⟨later, last, rfl⟩
      · obtain ⟨rfl, hlast⟩ := List.append_inj' hpast rfl
        cases hlast
        refine ⟨?_, .inr hgone⟩
        intro hcreated
        exact created?_ne_some_of_showsGone hgone hcreated
      · rw [List.concat_eq_append] at hpast hnew
        rw [← List.cons_append, ← List.append_assoc] at hpast
        obtain ⟨rfl, hlast⟩ := List.append_inj' hpast rfl
        cases hlast
        rw [creations_append, List.mem_append, not_or, creations_singleton, Option.mem_toList]
          at hnew
        exact ⟨hnew.2, .inl (.since rfl hgone hnew.1)⟩
  · rintro ⟨hcreated, (⟨hbefore, hnew⟩ | @⟨before, later, shown, rfl, hgone, hnew⟩) | hgone⟩
    · apply Missing.never hbefore
      rw [creations_append, List.mem_append, not_or, creations_singleton, Option.mem_toList]
      exact ⟨hnew, hcreated⟩
    · have hpast : before ++ shown :: later ++ [e] = before ++ shown :: (later ++ [e]) :=
        List.append_assoc before (shown :: later) [e]
      apply Missing.since hpast hgone
      rw [creations_append, List.mem_append, not_or, creations_singleton, Option.mem_toList]
      exact ⟨hnew, hcreated⟩
    · have hpast : past ++ [e] = past ++ e :: [] := rfl
      exact Missing.since hpast hgone List.not_mem_nil

/-- A namespace is gone exactly if the history shows that it is missing. -/
theorem phase_after_eq_gone_iff (hf : f.Steady) (calls : List Call) :
    (f.after calls).phase name = .gone ↔ f.Missing name (f.history calls) := by
  induction calls using List.reverseRecOn with
  | nil =>
    rw [show f.after [] = f from rfl, phase_eq_gone_iff]
    constructor
    · intro hbefore
      exact .never hbefore List.not_mem_nil
    · rintro (⟨hbefore, -⟩ | ⟨hpast, -, -⟩)
      · exact hbefore
      · cases List.append_eq_nil_iff.mp hpast.symm |>.2
  | append_singleton calls c ih =>
    -- the last exchange decides, unless it leaves things as the history before it does
    rw [after_append, history_append]
    show ((f.after calls).answer c).2.phase name = .gone ↔ f.Missing name (_ ++ [_])
    rw [phase_answer_eq_gone_iff (hf.after calls), missing_append_singleton, ih,
      deletionLag_after]

/-! ### The logs -/

/-- What a call creates shows in its answer. -/
theorem creation_eq (f : Fake) (c : Call) :
    f.lifecycle.creation c = (Exchange.created? ⟨c, (f.answer c).1⟩).toList := by
  cases c with
  | createNamespace name labels =>
    rw [answer_createNamespace_eq]
    show (if Table.has f.namespaces name then [] else [name]) = _
    split <;> rfl
  | _ => rfl

theorem created_after (f : Fake) (calls : List Call) :
    (f.after calls).created = f.created ++ creations (f.history calls) := by
  induction calls generalizing f with
  | nil => exact (List.append_nil _).symm
  | cons c calls ih =>
    have hcreated : (f.answer c).2.created = f.created ++ f.lifecycle.creation c :=
      (step_answer f c).created_eq
    rw [after_cons, ih, hcreated, creation_eq, history, creations_cons, List.append_assoc]

theorem deleted_after (f : Fake) (calls : List Call) :
    (f.after calls).deleted = f.deleted ++ f.deletions calls := by
  induction calls generalizing f with
  | nil => exact (List.append_nil _).symm
  | cons c calls ih =>
    have hdeleted : (f.answer c).2.deleted = f.deleted ++ f.lifecycle.deletion c :=
      (step_answer f c).deleted_eq
    rw [after_cons, ih, hdeleted, deletions, List.append_assoc]

/-! ### One namespace by itself -/

/-- Two clusters in which a namespace has the same phase answer the calls about it alike, whatever
else the first is asked. -/
theorem filter_history (hf : f.Steady) (hg : g.Steady) (hphase : f.phase name = g.phase name)
    (hlag : f.deletionLag = g.deletionLag) (calls : List Call) :
    (f.history calls).filter (·.call.subject? = some name) =
      g.history (calls.filter (·.subject? = some name)) := by
  induction calls generalizing f g with
  | nil => rfl
  | cons c calls ih =>
    by_cases hc : c.subject? = some name
    · have hnext : (f.answer c).2.phase name = (g.answer c).2.phase name := by
        rw [phase_answer hf hc, phase_answer hg hc, hphase, hlag]
      have hlags : (f.answer c).2.deletionLag = (g.answer c).2.deletionLag := by
        rw [deletionLag_answer, deletionLag_answer, hlag]
      rw [List.filter_cons_of_pos (by simpa using hc), history, history,
        List.filter_cons_of_pos (by simpa using hc), ih (hf.answer c) (hg.answer c) hnext hlags,
        answer_congr hf hg hphase hc]
    · -- the second cluster is not asked, and the first keeps the phase
      have hnext : (f.answer c).2.phase name = g.phase name := by
        rw [phase_answer_of_ne hc, hphase]
      have hlags : (f.answer c).2.deletionLag = g.deletionLag := by rw [deletionLag_answer, hlag]
      rw [List.filter_cons_of_neg (by simpa using hc), history,
        List.filter_cons_of_neg (by simpa using hc), ih (hf.answer c) hg hnext hlags]

/-! ### All together -/

/-- After a deletion of a namespace that is there, it is gone or it fades for the lag. -/
theorem phase_answer_deleteNamespace (hf : f.Steady)
    (hns : Table.get? f.namespaces name = some ns) :
    (f.answer (.deleteNamespace name)).2.phase name =
      if f.deletionLag = 0 then .gone else .fading ns f.deletionLag := by
  rw [phase_answer hf rfl]
  exact Phase.deleted_of_seen f.deletionLag ((seen_phase f name).trans hns)

theorem answer_getNamespace_of_ending (hf : f.Steady) (hphase : (f.phase name).Ending 0) :
    (f.answer (.getNamespace name)).1 = .ok none := by
  rw [answer_getNamespace_eq hf]
  cases hp : f.phase name with
  | gone => rfl
  | standing ns => rw [hp] at hphase; exact hphase.elim
  | fading ns left =>
    rw [hp] at hphase
    obtain rfl : left = 0 := Nat.le_zero.mp hphase
    rfl

theorem phase_eq_gone_of_created {labels : Labels}
    (h : (f.answer (.createNamespace name labels)).1 = .ok ()) : f.phase name = .gone := by
  rw [answer_createNamespace_eq] at h
  rw [phase_eq_gone_iff]
  apply Bool.eq_false_iff.mpr
  intro hhas
  rw [if_pos hhas] at h
  cases h

/-- A deleted namespace is seen for as many looks as the lag says. -/
theorem lingers_of_deleted (hf : f.Steady) (hns : Table.get? f.namespaces name = some ns)
    (hdelete : .deleteNamespace name ∉ calls)
    (hlooks : calls.count (.getNamespace name) < f.deletionLag) :
    ((f.after (.deleteNamespace name :: calls)).answer (.getNamespace name)).1 =
      .ok (some ns) := by
  have hdeleted := phase_answer_deleteNamespace hf hns
  rw [if_neg (by omega : f.deletionLag ≠ 0)] at hdeleted
  have hfading := phase_after_of_fading (hf.answer _) hdeleted hdelete hlooks.le
  -- of the looks that the lag allows, one is left for the look to come
  obtain ⟨left, hleft⟩ : ∃ left, f.deletionLag - calls.count (.getNamespace name) = left + 1 :=
    ⟨f.deletionLag - calls.count (.getNamespace name) - 1, by omega⟩
  rw [after_cons, answer_getNamespace_eq ((hf.answer _).after calls), hfading, hleft]
  rfl

/-- After these looks it is gone, unless it is created again. -/
theorem vanishes_of_deleted (hf : f.Steady) (hns : Table.get? f.namespaces name = some ns)
    (hdelete : .deleteNamespace name ∉ calls)
    (hlooks : f.deletionLag ≤ calls.count (.getNamespace name))
    (hcreate : name ∉ creations ((f.answer (.deleteNamespace name)).2.history calls)) :
    ((f.after (.deleteNamespace name :: calls)).answer (.getNamespace name)).1 = .ok none := by
  have hdeleted : ((f.answer (.deleteNamespace name)).2.phase name).Ending f.deletionLag := by
    rw [phase_answer_deleteNamespace hf hns]
    split
    · trivial
    · exact le_rfl
  have hending := ending_after (hf.answer _) hdeleted hdelete hcreate
  rw [Nat.sub_eq_zero_of_le hlooks] at hending
  exact answer_getNamespace_of_ending ((hf.answer _).after calls) hending

/-- A namespace that was created is found until it is deleted. -/
theorem stays_of_created (hf : f.Steady) {labels : Labels}
    (hcreated : (f.answer (.createNamespace name labels)).1 = .ok ())
    (hdelete : .deleteNamespace name ∉ calls) :
    ((f.after (.createNamespace name labels :: calls)).answer (.getNamespace name)).1 =
      .ok (some ⟨some name, some labels⟩) := by
  have hstanding : (f.answer (.createNamespace name labels)).2.phase name =
      .standing ⟨some name, some labels⟩ := by
    rw [phase_answer hf rfl, phase_eq_gone_of_created hcreated]
    rfl
  have hlater := phase_after_of_standing (hf.answer _) hstanding hdelete
  rw [after_cons, answer_getNamespace_eq ((hf.answer _).after calls), hlater]
  rfl

/-- **What becomes of namespaces.**  Whatever a fresh cluster in memory is asked, a deleted
namespace lingers for as many looks as the lag says (`Faithful.lingers`) and is not found after them
(`vanishes`), one that was created stays until it is deleted (`stays`), calls about other namespaces
have no part in that (`separate`), a namespace can be created exactly if the history shows that it
is missing (`creates`, `refuses`), the logs hold the creations and the deletions of what was there
(`created`, `deleted`), and what is going away is still there (`pending`). -/
theorem namespaces_faithful (hf : f.Fresh) (calls : List Call) : f.Faithful calls := by
  have hbefore (before : List Call) : (f.after before).Steady := hf.steady.after before
  have hgone (name : String) : (f.after calls).phase name = .gone ↔
      f.Missing name (f.history calls) := phase_after_eq_gone_iff hf.steady calls
  refine
    { lingers := ?_, vanishes := ?_, stays := ?_, separate := ?_, there := ?_, creates := ?_,
      refuses := ?_, created := ?_, deleted := ?_, pending := (hbefore calls).sound }
  · intro before later name ns hcalls hns hdelete hlooks
    rw [hcalls, after_append]
    rw [← deletionLag_after f before] at hlooks
    exact lingers_of_deleted (hbefore before) hns hdelete hlooks
  · intro before later name ns hcalls hns hdelete hlooks hcreate
    rw [hcalls, after_append]
    rw [← deletionLag_after f before] at hlooks
    rw [after_append] at hcreate
    exact vanishes_of_deleted (hbefore before) hns hdelete hlooks hcreate
  · intro before later name labels hcalls hcreated hdelete
    rw [hcalls, after_append]
    exact stays_of_created (hbefore before) hcreated hdelete
  · intro name
    exact filter_history hf.steady hf.steady rfl rfl calls
  · intro name
    rw [← hgone, phase_eq_gone_iff, Bool.not_eq_false]
  · intro name labels
    rw [← hgone]
    constructor
    · exact phase_eq_gone_of_created
    · intro hphase
      rw [answer_createNamespace_eq, phase_eq_gone_iff.mp hphase]
      rfl
  · intro name labels hthere
    rw [← hgone, phase_eq_gone_iff, Bool.not_eq_false] at hthere
    constructor
    · rw [answer_createNamespace_eq, if_pos hthere]
      exact ⟨_, rfl⟩
    · exact answer_createNamespace_of_has rfl hthere
  · rw [created_after, hf.created]
    rfl
  · rw [deleted_after, hf.deleted]
    rfl

/-- A namespace deleted in a cluster with a lag of two is seen twice more, also if one tries to
create it, and then it is gone. -/
theorem namespaces_faithful_lag_two :
    let f : Fake := { namespaces := [("gitea", ⟨some "gitea", some []⟩)], deletionLag := 2 }
    let look : Call := .getNamespace "gitea"
    let calls : List Call := [.deleteNamespace "gitea", look, .createNamespace "gitea" []]
    f.Fresh ∧ ((f.after calls).answer look).1 = .ok (some ⟨some "gitea", some []⟩) ∧
      ((f.after (calls ++ [look])).answer look).1 = .ok none := by
  intro f look calls
  have hfresh : f.Fresh := ⟨rfl, rfl, rfl⟩
  refine ⟨hfresh, ?_, ?_⟩
  · have hcalls : calls = [] ++ .deleteNamespace "gitea" :: [look, .createNamespace "gitea" []] :=
      rfl
    exact (namespaces_faithful hfresh _).lingers hcalls rfl (by decide) (by decide)
  · have hcalls : calls ++ [look] =
        [] ++ .deleteNamespace "gitea" :: [look, .createNamespace "gitea" [], look] := rfl
    exact (namespaces_faithful hfresh _).vanishes hcalls rfl (by decide) (by decide) (by decide)

end Fake

end Groundwork.Cluster
