import Groundwork.Proofs.Cluster.Lifecycle
import Groundwork.Proofs.Engine.Polling

/-!
# Waiting for an address

A service has the address of its first entry point with an ip or a hostname, and of these the ip
counts first (`Service.ReachedAt`).  The wait for it looks until the service is read with an
address, and reads it once more for the address that it gives back; meanwhile the address can be
lost again.  `AddressAwaited` lists the ends of the wait, and `awaitAddress_by_deadline` says which
outcome each of them has: an address, that it was lost, that it is overdue, or the error of a read.
-/

namespace Groundwork.Cluster

open Script Engine

variable {id name : String} {budget : Duration}

/-! ### Addresses -/

/-- The service is reached at the ip of its first entry point that has an address, or at the
hostname of that one if it has no ip. -/
def Service.ReachedAt (s : Service) (address : String) : Prop :=
  ∃ before e after, s.entryPoints = before ++ e :: after ∧
    (∀ other ∈ before, other.ip = none ∧ other.hostname = none) ∧
    (e.ip = some address ∨ e.ip = none ∧ e.hostname = some address)

/-- There is no service, or none of its entry points has an address. -/
def Unaddressed (found : Option Service) : Prop :=
  ∀ s, found = some s → ∀ e ∈ s.entryPoints, e.ip = none ∧ e.hostname = none

theorem Service.address?_eq_some_iff {s : Service} {address : String} :
    s.address? = some address ↔ s.ReachedAt address := by
  rw [Service.address?, List.findSome?_eq_some_iff]
  simp only [Service.ReachedAt, Option.or_eq_some_iff, Option.or_eq_none_iff]
  constructor
  · rintro ⟨before, e, after, hpoints, haddress, hbefore⟩
    exact ⟨before, e, after, hpoints, hbefore, haddress⟩
  · rintro ⟨before, e, after, hpoints, hbefore, haddress⟩
    exact ⟨before, e, after, hpoints, haddress, hbefore⟩

theorem bind_address?_eq_none_iff {found : Option Service} :
    found.bind Service.address? = none ↔ Unaddressed found := by
  simp only [Option.bind_eq_none_iff, Unaddressed, Service.address?, List.findSome?_eq_none_iff,
    Option.or_eq_none_iff]

theorem bind_address?_eq_some_iff {found : Option Service} {address : String} :
    found.bind Service.address? = some address ↔ ∃ s, found = some s ∧ s.ReachedAt address := by
  simp only [Option.bind_eq_some_iff, Service.address?_eq_some_iff]

theorem not_unaddressed_iff {found : Option Service} :
    ¬Unaddressed found ↔ ∃ s address, found = some s ∧ s.ReachedAt address := by
  rw [← bind_address?_eq_none_iff, ← ne_eq, Option.ne_none_iff_exists']
  simp only [bind_address?_eq_some_iff]
  exact exists_comm

theorem Service.ReachedAt.not_unaddressed {s : Service} {address : String}
    (h : s.ReachedAt address) : ¬Unaddressed (some s) :=
  not_unaddressed_iff.mpr ⟨s, address, rfl, h⟩

/-! ### The ends of the wait -/

/-- A read of the service with this answer. -/
abbrev reading (id name : String) (answer : Except DeployError (Option Service)) :
    Occurrence Action Action.Answer :=
  .asked (.call (.getService id name)) answer

/-- A service that has no address any more. -/
def addressLost (id name : String) : DeployError :=
  .cluster ("service " ++ id ++ "/" ++ name ++ " lost its load balancer address")

/-- A pause, or a read that found no address. -/
def Addressless (id name : String) (o : Occurrence Action Action.Answer) : Prop :=
  (∃ time, o = .slept time) ∨ ∃ found, Unaddressed found ∧ o = reading id name (.ok found)

/-- What the read after the wait makes of the wait. -/
inductive LastRead (id name : String) :
    Except DeployError (Option Service) → Except DeployError String → Prop
  | address {s : Service} {address : String} (h : s.ReachedAt address) :
    LastRead id name (.ok (some s)) (.ok address)
  | lost {found : Option Service} (h : Unaddressed found) :
    LastRead id name (.ok found) (.error (addressLost id name))
  | unreadable (e : DeployError) : LastRead id name (.error e) (.error e)

theorem LastRead.eq_ok {s : Service} {address : String} {outcome : Except DeployError String}
    (h : LastRead id name (.ok (some s)) outcome) (hs : s.ReachedAt address) :
    outcome = .ok address := by
  cases h with
  | address hs' =>
    rw [← Service.address?_eq_some_iff] at hs hs'
    rw [Option.some.inj (hs'.symm.trans hs)]
  | lost hnone => exact absurd hnone hs.not_unaddressed

theorem LastRead.eq_lost {found : Option Service} {outcome : Except DeployError String}
    (h : LastRead id name (.ok found) outcome) (hfound : Unaddressed found) :
    outcome = .error (addressLost id name) := by
  cases h with
  | address hs => exact absurd hfound hs.not_unaddressed
  | lost => rfl

/-- What comes of the wait for an address, and what happens meanwhile. -/
inductive AddressAwaited (id name : String) (budget : Duration) :
    Except DeployError String → WorkHistory → Prop
  | read {before : WorkHistory} {seen : Option Service}
    {answer : Except DeployError (Option Service)} {outcome : Except DeployError String}
    (hbefore : ∀ o ∈ before, Addressless id name o) (htime : before.slept ≤ budget.ns)
    (hseen : ¬Unaddressed seen) (hlast : LastRead id name answer outcome) :
    AddressAwaited id name budget outcome
      (before ++ [reading id name (.ok seen), reading id name answer])
  | unreadable {before : WorkHistory} {e : DeployError}
    (hbefore : ∀ o ∈ before, Addressless id name o) (htime : before.slept ≤ budget.ns) :
    AddressAwaited id name budget (.error (addressOverdue id name e))
      (before ++ [reading id name (.error e)])
  | overdue {history : WorkHistory} (hhistory : ∀ o ∈ history, Addressless id name o)
    (hlooks : LooksBy pollInterval budget (budget.ns ⌈/⌉ pollInterval.ns + 1) history)
    (htime : history.slept = budget.ns) :
    AddressAwaited id name budget (.error (.loadBalancerPending id name budget)) history

theorem isSome_address?_eq_false_iff {found : Option Service} :
    (found.bind Service.address?).isSome = false ↔ Unaddressed found := by
  rw [← bind_address?_eq_none_iff, Option.isSome_eq_false_iff, Option.isNone_iff_eq_none]

theorem addressless_of_undecided {history : WorkHistory}
    (h : ∀ o ∈ history, Undecided (.getService id name)
      (fun service => .ok (service.bind Service.address?).isSome) o) :
    ∀ o ∈ history, Addressless id name o := by
  intro o ho
  rcases h o ho with hpause | ⟨found, hfound, rfl⟩
  · exact Or.inl hpause
  · exact Or.inr ⟨found, isSome_address?_eq_false_iff.mp (Except.ok.inj hfound), rfl⟩

theorem finishes_lastRead (id name : String) :
    Finishes ((call (.getService id name)).andThen fun found =>
      match found.bind Service.address? with
      | some address => .done address
      | none => .fail (addressLost id name)) fun outcome history =>
        ∃ answer, history = [reading id name answer] ∧ LastRead id name answer outcome := by
  apply Finishes.ask
  rintro (e | found)
  · exact Finishes.fail ⟨_, rfl, .unreadable e⟩
  · show Finishes (match found.bind Service.address? with
      | some address => .done address
      | none => .fail (addressLost id name)) _
    rcases haddress : found.bind Service.address? with _ | address
    · exact Finishes.fail ⟨_, rfl, .lost (bind_address?_eq_none_iff.mp haddress)⟩
    · obtain ⟨s, rfl, hs⟩ := bind_address?_eq_some_iff.mp haddress
      exact Finishes.done ⟨_, rfl, .address hs⟩

theorem finishes_awaitAddress (hbudget : budget.seconds < Wait.endlessSeconds) (id name : String) :
    Finishes (awaitAddress id name budget) (AddressAwaited id name budget) := by
  have hwait := (finishes_pollUntil hbudget (.getService id name)
    fun service => .ok (service.bind Service.address?).isSome).mapError (addressOverdue id name)
  apply hwait.andThen
  · rintro _ _ ⟨_, hended, houtcome⟩
    cases hended with
    | overdue => cases houtcome
    | @decided before answer hbefore htime hdecided =>
      rcases answer with e | seen
      · cases houtcome
      · apply (finishes_lastRead id name).weaken
        rintro outcome _ ⟨answer, rfl, hlast⟩
        rw [List.append_assoc]
        apply AddressAwaited.read (addressless_of_undecided hbefore) htime _ hlast
        intro hnone
        exact hdecided (congrArg Except.ok (isSome_address?_eq_false_iff.mpr hnone))
  · rintro e _ ⟨_, hended, houtcome⟩
    cases hended with
    | @decided before answer hbefore htime hdecided =>
      rcases answer with e | seen
      · cases houtcome
        exact .unreadable (addressless_of_undecided hbefore) htime
      · cases houtcome
    | @overdue before found hbefore htime hlooks hfound =>
      cases houtcome
      apply AddressAwaited.overdue _ hlooks
      · rw [History.slept_append]
        exact htime
      · apply addressless_of_undecided
        apply List.forall_mem_append.mpr ⟨hbefore, _⟩
        exact List.forall_mem_singleton.mpr (Or.inr ⟨found, hfound, rfl⟩)

/-! ### What the ends have in common -/

/-- No read found an address, up to and including the one at the deadline. -/
structure NeverAddressed (id name : String) (budget : Duration) (history : WorkHistory) : Prop where
  reads : ∀ answer, reading id name answer ∈ history →
    ∃ found, Unaddressed found ∧ answer = .ok found
  looks : LooksBy pollInterval budget (budget.ns ⌈/⌉ pollInterval.ns + 1) history
  slept : history.slept = budget.ns

theorem Addressless.exists_found {answer : Except DeployError (Option Service)}
    (h : Addressless id name (reading id name answer)) :
    ∃ found, Unaddressed found ∧ answer = .ok found := by
  rcases h with ⟨time, hpause⟩ | ⟨found, hfound, hread⟩
  · cases hpause
  · cases hread
    exact ⟨found, hfound, rfl⟩

theorem addressOverdue_of_ne {e : DeployError} (he : ∀ time, e ≠ .timeout time) :
    addressOverdue id name e = e := by
  unfold addressOverdue
  split
  · exact absurd rfl (he _)
  · rfl

namespace AddressAwaited

variable {outcome : Except DeployError String} {history : WorkHistory}

/-- There is a result only if the last two reads found an address, the first of them in time, and
it is the address of the second. -/
theorem of_ok {address : String} (h : AddressAwaited id name budget (.ok address) history) :
    ∃ before seen last, history = before ++
        [reading id name (.ok (some seen)), reading id name (.ok (some last))] ∧
      before.slept ≤ budget.ns ∧ (∃ shown, seen.ReachedAt shown) ∧ last.ReachedAt address := by
  cases h with
  | @read before seen answer _ hbefore htime hseen hlast =>
    obtain ⟨s, shown, rfl, hshown⟩ := not_unaddressed_iff.mp hseen
    cases hlast with
    | address hlast => exact ⟨before, _, _, rfl, htime, ⟨shown, hshown⟩, hlast⟩

/-- If the last two reads follow each other and the first of them found an address, the wait ends as
the second one does. -/
theorem lastRead {before : WorkHistory} {seen : Option Service}
    {answer : Except DeployError (Option Service)}
    (h : AddressAwaited id name budget outcome history)
    (hhistory : history = before ++ [reading id name (.ok seen), reading id name answer])
    (hseen : ¬Unaddressed seen) : LastRead id name answer outcome := by
  have hfirst : ¬Addressless id name (reading id name (.ok seen)) := by
    intro hread
    obtain ⟨found, hfound, hlook⟩ := hread.exists_found
    cases hlook
    exact hseen hfound
  cases h with
  | @read _ _ answer' _ hbefore htime _ hlast =>
    obtain ⟨-, hreads⟩ := List.append_inj' hhistory rfl
    simp only [List.cons.injEq, Occurrence.asked.injEq, heq_eq_eq, true_and, and_true] at hreads
    rw [← hreads.2]
    exact hlast
  | @unreadable before' e hbefore htime =>
    -- the read before the one that failed found an address, which would have ended the wait
    have hshape : before' ++ [reading id name (.error e)] =
        before ++ [reading id name (.ok seen)] ++ [reading id name answer] := by
      rw [hhistory, List.append_assoc]
      rfl
    obtain ⟨rfl, -⟩ := List.append_inj' hshape rfl
    exact absurd (hbefore _ (List.mem_append_right _ (List.mem_singleton_self _))) hfirst
  | overdue hreads =>
    subst hhistory
    exact absurd (hreads _ (List.mem_append_right _ (List.mem_cons_self ..))) hfirst

/-- A read that fails ends the wait with its error, unless that is about time. -/
theorem eq_error_of_mem {e : DeployError} (h : AddressAwaited id name budget outcome history)
    (he : ∀ time, e ≠ .timeout time) (hmem : reading id name (.error e) ∈ history) :
    outcome = .error e := by
  have hfound {before : WorkHistory} (hbefore : ∀ o ∈ before, Addressless id name o) :
      reading id name (.error e) ∉ before := by
    intro hmem
    obtain ⟨found, -, hread⟩ := (hbefore _ hmem).exists_found
    cases hread
  cases h with
  | @read before seen answer _ hbefore htime hseen hlast =>
    have hlook : answer = .error e := by
      simpa [hfound hbefore, eq_comm] using hmem
    subst hlook
    cases hlast
    rfl
  | @unreadable before e' hbefore htime =>
    have hlook : e' = e := by
      simpa [hfound hbefore, eq_comm] using hmem
    rw [hlook, addressOverdue_of_ne he]
  | overdue hreads => exact absurd hmem (hfound hreads)

/-- A wait that never finds an address is overdue. -/
theorem eq_pending (h : AddressAwaited id name budget outcome history)
    (hnever : NeverAddressed id name budget history) :
    outcome = .error (.loadBalancerPending id name budget) := by
  cases h with
  | @read before seen answer _ hbefore htime hseen hlast =>
    obtain ⟨found, hfound, hread⟩ := hnever.reads (.ok seen)
      (List.mem_append_right _ (List.mem_cons_self ..))
    cases hread
    exact absurd hfound hseen
  | @unreadable before e hbefore htime =>
    obtain ⟨found, -, hread⟩ := hnever.reads (.error e)
      (List.mem_append_right _ (List.mem_cons_self ..))
    cases hread
  | overdue => rfl

/-- If no read fails because of time, an error is that of a read, or that the address was lost or is
overdue. -/
theorem of_error {e : DeployError} (h : AddressAwaited id name budget (.error e) history)
    (hplain : ∀ cause, reading id name (.error cause) ∈ history → ∀ time, cause ≠ .timeout time) :
    reading id name (.error e) ∈ history ∨ e = addressLost id name ∨
      e = .loadBalancerPending id name budget ∧ NeverAddressed id name budget history := by
  generalize houtcome : Except.error e = outcome at h
  cases h with
  | @read before seen answer _ hbefore htime hseen hlast =>
    cases hlast with
    | address => cases houtcome
    | lost =>
      cases houtcome
      exact Or.inr (Or.inl rfl)
    | unreadable cause =>
      cases houtcome
      exact Or.inl (List.mem_append_right _ (List.mem_cons_of_mem _ (List.mem_cons_self ..)))
  | @unreadable before cause hbefore htime =>
    have hmem : reading id name (.error cause) ∈ before ++ [reading id name (.error cause)] :=
      List.mem_append_right _ (List.mem_cons_self ..)
    rw [addressOverdue_of_ne (hplain cause hmem)] at houtcome
    cases houtcome
    exact Or.inl hmem
  | overdue hreads hlooks htime =>
    cases houtcome
    exact Or.inr (Or.inr ⟨rfl, fun answer hmem => (hreads _ hmem).exists_found, hlooks, htime⟩)

end AddressAwaited

/-- Waiting for the address of a service, however it is read meanwhile.  The outcome is an address
if, and only if, a read within the budget found one and the read right after it found this one; if
that read finds none any more, the address was lost.  If no read fails because of time, the address
is overdue if, and only if, no read found one, up to and including the one at the deadline, or a
read failed with that very error.  Then a wait never ends with a plain timeout, and the error of a
read is handed on as it is. -/
theorem awaitAddress_by_deadline (hbudget : budget.seconds < Wait.endlessSeconds)
    (id name : String) :
    Finishes (awaitAddress id name budget) fun outcome history =>
      AskedOnly (fun a => a = .call (.getService id name)) history ∧
      (∀ address, outcome = .ok address ↔ ∃ before seen last, history = before ++
          [reading id name (.ok (some seen)), reading id name (.ok (some last))] ∧
        before.slept ≤ budget.ns ∧ (∃ shown, seen.ReachedAt shown) ∧ last.ReachedAt address) ∧
      (∀ before seen found,
        history = before ++ [reading id name (.ok seen), reading id name (.ok found)] →
        ¬Unaddressed seen → Unaddressed found → outcome = .error (addressLost id name)) ∧
      ((∀ e, reading id name (.error e) ∈ history → ∀ time, e ≠ .timeout time) →
        (outcome = .error (.loadBalancerPending id name budget) ↔
          NeverAddressed id name budget history ∨
            reading id name (.error (.loadBalancerPending id name budget)) ∈ history) ∧
        (∀ time, outcome ≠ .error (.timeout time)) ∧
        ∀ e, reading id name (.error e) ∈ history → outcome = .error e) := by
  apply ((finishes_awaitAddress hbudget id name).asking
    (asksOnly_awaitAddress (P := fun a => a = .call (.getService id name)) rfl)).weaken
  rintro outcome history ⟨h, hasked⟩
  refine ⟨hasked, fun address => ⟨?_, ?_⟩, ?_, fun hplain => ⟨⟨?_, ?_⟩, ?_, ?_⟩⟩
  · rintro rfl
    exact h.of_ok
  · rintro ⟨before, seen, last, hhistory, -, ⟨shown, hseen⟩, hlast⟩
    exact (h.lastRead hhistory hseen.not_unaddressed).eq_ok hlast
  · intro before seen found hhistory hseen hfound
    exact (h.lastRead hhistory hseen).eq_lost hfound
  · rintro rfl
    rcases h.of_error hplain with hmem | hlost | ⟨-, hnever⟩
    · exact Or.inr hmem
    · cases hlost
    · exact Or.inl hnever
  · rintro (hnever | hmem)
    · exact h.eq_pending hnever
    · exact h.eq_error_of_mem (hplain _ hmem) hmem
  · rintro time rfl
    rcases h.of_error hplain with hmem | hlost | ⟨hpending, -⟩
    · exact hplain _ hmem time rfl
    · cases hlost
    · cases hpending
  · exact fun e hmem => h.eq_error_of_mem (hplain e hmem) hmem

/-- A cluster with a service that gets no address. -/
def unbalanced : Fake where
  services := [(("edge", "edge"), Specimen.service "edge" "edge" none)]

theorem run_unbalanced :
    ∃ (after : Fake) (history : WorkHistory),
      Script.run (Fake.worldWith fun _ => .ok "").recording 0
          (awaitAddress "edge" "edge" (.ofSeconds 2)) (unbalanced, []) =
        (some (.error (.loadBalancerPending "edge" "edge" (.ofSeconds 2))), after, history) ∧
      ∀ e, reading "edge" "edge" (.error e) ∉ history := by
  -- it is read at once, after a second and after two
  let look := reading "edge" "edge" (.ok (some (Specimen.service "edge" "edge" none)))
  refine ⟨_, [look, .slept (.ofSeconds 1), look, .slept (.ofSeconds 1), look], rfl, fun e => ?_⟩
  simp [look]

theorem awaitAddress_by_deadline_unbalanced :
    ∃ (after : Fake) (history : WorkHistory),
      Script.run (Fake.worldWith fun _ => .ok "").recording 0
          (awaitAddress "edge" "edge" (.ofSeconds 2)) (unbalanced, []) =
        (some (.error (.loadBalancerPending "edge" "edge" (.ofSeconds 2))), after, history) ∧
      NeverAddressed "edge" "edge" (.ofSeconds 2) history := by
  have hbudget : (Duration.ofSeconds 2).seconds < Wait.endlessSeconds := by decide
  obtain ⟨after, history, hrun, hread⟩ := run_unbalanced
  obtain ⟨outcome, after', history', hrun', -, -, -, hplain⟩ :=
    (awaitAddress_by_deadline hbudget "edge" "edge").run (Fake.worldWith fun _ => .ok "") 0
      unbalanced
  cases hrun.symm.trans hrun'
  obtain ⟨hpending, -⟩ := hplain fun e hmem => absurd hmem (hread e)
  exact ⟨after, history, hrun, (hpending.mp rfl).resolve_right (hread _)⟩

end Groundwork.Cluster
