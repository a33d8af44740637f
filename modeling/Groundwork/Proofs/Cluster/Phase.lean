import Groundwork.Proofs.Cluster.Standing

/-!
# The phases of a namespace

`Lifecycle.Step` says all that a call can do to what a cluster in memory knows about namespaces, and
every other fact about one call is read off it.  To such a cluster a namespace is `gone`,
`standing`, or `fading` with a number of looks for which it can still be seen.  One call moves the
phase of the namespace that it is about (`Step.phase_eq`) and no other (`Step.phase_eq_of_ne`), and
what it answers depends on that phase alone (`Fake.answer_congr`).  This needs the cluster to be
`Steady`: only namespaces that are there fade, and none does in a cluster without a lag.
-/

namespace Groundwork.Cluster

/-- The namespace that a call asks for, creates or deletes. -/
def Call.subject? : Call → Option String
  | .getNamespace name => some name
  | .createNamespace name _ => some name
  | .deleteNamespace name => some name
  | _ => none

/-! ### Phases -/

/-- What a namespace is to a cluster. -/
inductive Phase where
  | gone
  | standing (ns : Namespace)
  /-- It is deleted, and will be seen by some more looks. -/
  | fading (ns : Namespace) (looks : Nat)

namespace Phase

/-- The namespace that can be seen. -/
def seen : Phase → Option Namespace
  | .gone => none
  | .standing ns => some ns
  | .fading ns _ => some ns

/-- After a look. -/
def looked : Phase → Phase
  | .fading _ 0 => .gone
  | .fading ns (looks + 1) => .fading ns looks
  | p => p

/-- After an attempt to create it. -/
def created (ns : Namespace) : Phase → Phase
  | .gone => .standing ns
  | p => p

/-- After a deletion, where deleted namespaces are seen by `lag` more looks. -/
def deleted (lag : Nat) : Phase → Phase
  | .gone => .gone
  | .standing ns => if lag = 0 then .gone else .fading ns lag
  | .fading ns _ => if lag = 0 then .gone else .fading ns lag

/-- After a call about it. -/
def next (lag : Nat) (p : Phase) : Call → Phase
  | .getNamespace _ => p.looked
  | .createNamespace name labels => p.created ⟨some name, some labels⟩
  | .deleteNamespace _ => p.deleted lag
  | _ => p

theorem seen_eq_none_iff {p : Phase} : p.seen = none ↔ p = .gone := by
  cases p <;> simp [seen]

theorem created_eq_self {p : Phase} {ns : Namespace} (h : p ≠ .gone) : p.created ns = p := by
  cases p with
  | gone => exact absurd rfl h
  | _ => rfl

theorem deleted_of_seen {p : Phase} {ns : Namespace} (lag : Nat) (h : p.seen = some ns) :
    p.deleted lag = if lag = 0 then .gone else .fading ns lag := by
  cases p <;> cases h <;> rfl

end Phase

namespace Lifecycle

variable {l l' : Lifecycle} {name : String} {c : Call}

/-- The phase of a namespace. -/
def phase (l : Lifecycle) (name : String) : Phase :=
  match Table.get? l.namespaces name, Table.get? l.terminating name with
  | none, _ => .gone
  | some ns, none => .standing ns
  | some ns, some looks => .fading ns looks

theorem seen_phase (l : Lifecycle) (name : String) :
    (l.phase name).seen = Table.get? l.namespaces name := by
  unfold phase
  cases Table.get? l.namespaces name with
  | none => rfl
  | some ns => cases Table.get? l.terminating name <;> rfl

theorem phase_eq_gone_iff : l.phase name = .gone ↔ Table.has l.namespaces name = false := by
  rw [← Phase.seen_eq_none_iff, seen_phase, Table.get?_eq_none_iff]

/-- Only namespaces that are there fade, and none does in a cluster without a lag. -/
structure Steady (l : Lifecycle) : Prop where
  sound : l.Sound
  atOnce : l.deletionLag = 0 → l.terminating = []

/-- What is not there does not fade. -/
theorem Steady.get?_terminating_of_not_has (hl : l.Steady)
    (h : Table.has l.namespaces name = false) : Table.get? l.terminating name = none := by
  rw [Table.get?_eq_none_iff]
  apply Bool.eq_false_iff.mpr
  intro hgoing
  exact Bool.eq_false_iff.mp h (hl.sound name hgoing)

/-- What fades is there. -/
theorem Steady.phase_of_get?_terminating (hl : l.Steady) {looks : Nat}
    (h : Table.get? l.terminating name = some looks) :
    ∃ ns, Table.get? l.namespaces name = some ns ∧ l.phase name = .fading ns looks := by
  have hgoing : Table.has l.terminating name = true := by rw [Table.has_eq_isSome_get?, h]; rfl
  obtain ⟨ns, hns⟩ := Table.exists_get?_of_has (hl.sound name hgoing)
  exact ⟨ns, hns, by simp only [phase, hns, h]⟩

/-! ### One call -/

/-- The namespace that a call creates, if it does. -/
def creation (l : Lifecycle) : Call → List String
  | .createNamespace name _ => if Table.has l.namespaces name then [] else [name]
  | _ => []

/-- The namespace that a call deletes, if it is there. -/
def deletion (l : Lifecycle) : Call → List String
  | .deleteNamespace name => if Table.has l.namespaces name then [name] else []
  | _ => []

/-- What a call makes of what a cluster knows about namespaces. -/
inductive Step (l : Lifecycle) : Call → Lifecycle → Prop
  | unconcerned {c : Call} (hc : c.subject? = none) : Step l c l
  /-- A look at a namespace that is not going away. -/
  | looked {name : String} (hleft : Table.get? l.terminating name = none) :
    Step l (.getNamespace name) l
  | seenOnce {name : String} {looks : Nat}
    (hleft : Table.get? l.terminating name = some (looks + 1)) :
    Step l (.getNamespace name) { l with terminating := Table.put name looks l.terminating }
  | vanished {name : String} (hleft : Table.get? l.terminating name = some 0) :
    Step l (.getNamespace name)
      { l with
        terminating := Table.erase l.terminating name
        namespaces := Table.erase l.namespaces name }
  | refused {name : String} {labels : Labels} (hhas : Table.has l.namespaces name = true) :
    Step l (.createNamespace name labels) l
  | created {name : String} {labels : Labels} (hhas : Table.has l.namespaces name = false) :
    Step l (.createNamespace name labels) (l.withNew name labels)
  | missed {name : String} (hhas : Table.has l.namespaces name = false) :
    Step l (.deleteNamespace name) l
  | deleted {name : String} (hhas : Table.has l.namespaces name = true) (hlag : l.deletionLag = 0) :
    Step l (.deleteNamespace name) (l.without name)
  | doomed {name : String} (hhas : Table.has l.namespaces name = true) (hlag : l.deletionLag ≠ 0) :
    Step l (.deleteNamespace name)
      { l with
        terminating := Table.put name l.deletionLag l.terminating
        deleted := l.deleted ++ [name] }

namespace Step

theorem deletionLag_eq (h : l.Step c l') : l'.deletionLag = l.deletionLag := by
  cases h <;> rfl

theorem created_eq (h : l.Step c l') : l'.created = l.created ++ l.creation c := by
  cases h with
  | unconcerned hc => cases c <;> first | exact (List.append_nil _).symm | cases hc
  | refused hhas => simp [creation, hhas]
  | created hhas => simp [creation, hhas, withNew]
  | _ => exact (List.append_nil _).symm

theorem deleted_eq (h : l.Step c l') : l'.deleted = l.deleted ++ l.deletion c := by
  cases h with
  | unconcerned hc => cases c <;> first | exact (List.append_nil _).symm | cases hc
  | missed hhas => simp [deletion, hhas]
  | deleted hhas hlag => simp [deletion, hhas, without]
  | doomed hhas hlag => simp [deletion, hhas]
  | _ => exact (List.append_nil _).symm

/-- Calls keep a cluster sound: what fades is there, and what vanishes does not fade any more. -/
theorem sound (h : l.Step c l') (hl : l.Steady) : l'.Sound := by
  cases h with
  | seenOnce hleft =>
    intro other hother
    replace hother : Table.has (Table.put _ _ l.terminating) other = true := hother
    rw [Table.has_put, Bool.or_eq_true] at hother
    rcases hother with hother | hother
    · exact hl.sound other hother
    · obtain ⟨ns, hns, -⟩ := hl.phase_of_get?_terminating hleft
      show Table.has l.namespaces other = true
      rw [← of_decide_eq_true hother, Table.has_eq_isSome_get?, hns]
      rfl
  | vanished hleft =>
    intro other hother
    replace hother : Table.has (Table.erase l.terminating _) other = true := hother
    show Table.has (Table.erase l.namespaces _) other = true
    rw [Table.has_erase, Bool.and_eq_true] at hother ⊢
    exact ⟨hl.sound other hother.1, hother.2⟩
  | created hhas => exact sound_withNew hl.sound _
  | deleted hhas hlag => exact sound_of_terminating_eq_nil (hl.atOnce hlag)
  | doomed hhas hlag =>
    intro other hother
    replace hother : Table.has (Table.put _ _ l.terminating) other = true := hother
    show Table.has l.namespaces other = true
    rw [Table.has_put, Bool.or_eq_true] at hother
    rcases hother with hother | hother
    · exact hl.sound other hother
    · rw [← of_decide_eq_true hother, hhas]
  | _ => exact hl.sound

/-- Calls keep a cluster steady. -/
theorem steady (h : l.Step c l') (hl : l.Steady) : l'.Steady := by
  refine ⟨h.sound hl, fun hlag => ?_⟩
  rw [h.deletionLag_eq] at hlag
  have hnone (name : String) : Table.get? l.terminating name = none := by
    rw [hl.atOnce hlag]
    rfl
  cases h with
  | seenOnce hleft => cases (hnone _).symm.trans hleft
  | vanished hleft => cases (hnone _).symm.trans hleft
  | doomed hhas hne => exact absurd hlag hne
  | _ => exact hl.atOnce hlag

/-- A call moves the phase of the namespace that it is about. -/
theorem phase_eq (h : l.Step c l') (hl : l.Steady) (hc : c.subject? = some name) :
    l'.phase name = (l.phase name).next l.deletionLag c := by
  cases h with
  | unconcerned hnone => cases hnone.symm.trans hc
  | looked hleft =>
    cases hc
    simp only [phase, hleft]
    cases Table.get? l.namespaces name <;> rfl
  | seenOnce hleft =>
    cases hc
    obtain ⟨ns, hns, hphase⟩ := hl.phase_of_get?_terminating hleft
    rw [hphase]
    simp only [phase, hns, Table.get?_put_self, Phase.next, Phase.looked]
  | vanished hleft =>
    cases hc
    obtain ⟨ns, hns, hphase⟩ := hl.phase_of_get?_terminating hleft
    rw [hphase]
    simp only [phase, Table.get?_erase_self, Phase.next, Phase.looked]
  | refused hhas =>
    cases hc
    have hthere : l.phase name ≠ .gone := by simp [phase_eq_gone_iff, hhas]
    exact (Phase.created_eq_self hthere).symm
  | created hhas =>
    -- no old deletion is pending, so the new namespace stands
    cases hc
    rw [phase_eq_gone_iff.mpr hhas]
    simp only [phase, withNew, Table.get?_append, Table.get?_eq_none_iff.mpr hhas, Option.none_or,
      Table.get?_singleton_self, hl.get?_terminating_of_not_has hhas, Phase.next, Phase.created]
  | missed hhas =>
    cases hc
    rw [phase_eq_gone_iff.mpr hhas]
    rfl
  | deleted hhas hlag =>
    cases hc
    obtain ⟨ns, hns⟩ := Table.exists_get?_of_has hhas
    have hdeleted := Phase.deleted_of_seen l.deletionLag ((seen_phase l name).trans hns)
    rw [if_pos hlag] at hdeleted
    exact (phase_eq_gone_iff.mpr (Table.get?_eq_none_iff.mp (Table.get?_erase_self _ _))).trans
      hdeleted.symm
  | doomed hhas hlag =>
    cases hc
    obtain ⟨ns, hns⟩ := Table.exists_get?_of_has hhas
    have hdeleted := Phase.deleted_of_seen l.deletionLag ((seen_phase l name).trans hns)
    rw [if_neg hlag] at hdeleted
    refine Eq.trans ?_ hdeleted.symm
    simp only [phase, hns, Table.get?_put_self]

/-- A call leaves the phase of every other namespace as it is. -/
theorem phase_eq_of_ne (h : l.Step c l') (hc : c.subject? ≠ some name) :
    l'.phase name = l.phase name := by
  have hother {other : String} (hsubject : c.subject? = some other) : name ≠ other := by
    rintro rfl
    exact hc hsubject
  cases h with
  | seenOnce hleft => simp only [phase, Table.get?_put_of_ne _ _ (hother rfl)]
  | vanished hleft => simp only [phase, Table.get?_erase_of_ne (hother rfl)]
  | created hhas =>
    simp [phase, withNew, Table.get?, Ne.symm (hother rfl)]
  | deleted hhas hlag => simp only [phase, without, Table.get?_erase_of_ne (hother rfl)]
  | doomed hhas hlag => simp only [phase, Table.get?_put_of_ne _ _ (hother rfl)]
  | _ => rfl

end Step

end Lifecycle

namespace Fake

variable {f g : Fake} {name : String} {c : Call}

/-- Each call is a step of what the cluster knows about namespaces. -/
theorem step_answer (f : Fake) (c : Call) : f.lifecycle.Step c (f.answer c).2.lifecycle := by
  cases c with
  | getNamespace name =>
    show f.lifecycle.Step _ ((f.count _).look name).lifecycle
    unfold look
    split
    · next hleft => exact .looked hleft
    · next hleft => exact .vanished hleft
    · next looks hleft => exact .seenOnce hleft
  | createNamespace name labels =>
    cases hhas : Table.has f.namespaces name with
    | true =>
      rw [answer_createNamespace_of_has rfl hhas]
      exact .refused hhas
    | false =>
      rw [answer_createNamespace_of_not_has rfl hhas]
      exact .created hhas
  | deleteNamespace name =>
    show f.lifecycle.Step _ ((f.count _).delete name).lifecycle
    unfold delete
    split
    · next hhas =>
      dsimp only
      split
      · next hlag => exact .deleted hhas hlag
      · next hlag => exact .doomed hhas hlag
    · next hhas => exact .missed (Bool.eq_false_iff.mpr hhas)
  | _ => exact .unconcerned rfl

/-- The phase of a namespace. -/
def phase (f : Fake) (name : String) : Phase :=
  f.lifecycle.phase name

/-- What the cluster knows is steady. -/
def Steady (f : Fake) : Prop :=
  f.lifecycle.Steady

theorem Steady.answer (hf : f.Steady) (c : Call) : (f.answer c).2.Steady :=
  (step_answer f c).steady hf

theorem deletionLag_answer (c : Call) (f : Fake) : (f.answer c).2.deletionLag = f.deletionLag :=
  (step_answer f c).deletionLag_eq

theorem seen_phase (f : Fake) (name : String) :
    (f.phase name).seen = Table.get? f.namespaces name :=
  f.lifecycle.seen_phase name

theorem phase_eq_gone_iff : f.phase name = .gone ↔ Table.has f.namespaces name = false :=
  Lifecycle.phase_eq_gone_iff

theorem phase_answer (hf : f.Steady) (hc : c.subject? = some name) :
    (f.answer c).2.phase name = (f.phase name).next f.deletionLag c :=
  (step_answer f c).phase_eq hf hc

theorem phase_answer_of_ne (hc : c.subject? ≠ some name) :
    (f.answer c).2.phase name = f.phase name :=
  (step_answer f c).phase_eq_of_ne hc

/-! ### Answers -/

theorem answer_getNamespace_eq (hf : f.Steady) :
    (f.answer (.getNamespace name)).1 = .ok (f.phase name).looked.seen := by
  show Except.ok (Table.get? (f.answer (.getNamespace name)).2.namespaces name) = _
  rw [← seen_phase, phase_answer hf rfl]
  rfl

theorem answer_createNamespace_eq (f : Fake) (labels : Labels) :
    (f.answer (.createNamespace name labels)).1 =
      if Table.has f.namespaces name then
        .error (.cluster ("namespaces \"" ++ name ++ "\" already exists"))
      else .ok () := by
  show ((f.count _).create name labels).1 = _
  unfold create
  split
  · next hhas => exact (if_pos hhas).symm
  · next hhas => exact (if_neg hhas).symm

/-- What a call about a namespace answers depends on nothing but its phase. -/
theorem answer_congr (hf : f.Steady) (hg : g.Steady) (hphase : f.phase name = g.phase name)
    (hc : c.subject? = some name) : (f.answer c).1 = (g.answer c).1 := by
  cases c with
  | getNamespace _ =>
    cases hc
    rw [answer_getNamespace_eq hf, answer_getNamespace_eq hg, hphase]
  | createNamespace _ labels =>
    cases hc
    have hhas : Table.has f.namespaces name = Table.has g.namespaces name := by
      rw [Table.has_eq_isSome_get?, Table.has_eq_isSome_get?, ← seen_phase, ← seen_phase, hphase]
    rw [answer_createNamespace_eq, answer_createNamespace_eq, hhas]
  | deleteNamespace _ => rfl
  | _ => cases hc

end Fake

end Groundwork.Cluster
