import Groundwork.Component.Chart
import Groundwork.Proofs.Traversal

/-!
# What settings change in a command

The command that applies a chart is a list of arguments in three parts: those that its specification
and the verb decide, two for each value of the specification, and two for each further value
(`applyCommand_eq_ok`).  Only the second part depends on the settings, and of each pair in it only
the text behind the key and the equals sign (`getElem?_flatten`).  So whatever users give as values,
the commands are the same up to these texts (`applyCommand_eq_upTo_texts`): a value can neither add an
argument nor change another one.
-/

namespace Groundwork.ChartUnit

variable {u : ChartUnit} {verb : Verb} {ss ss' : Settings} {extra : List (String × String)}
  {i i' : Invocation} {entries : List (String × String)} {pairs pairs' : List (List String)}

/-- The arguments in front of the values. -/
def leadingArgs (u : ChartUnit) (verb : Verb) : List String :=
  [if verb = .upgrade then "upgrade" else "install", u.spec.releaseName, u.spec.chart.getD "",
      "--namespace", u.spec.id]
    ++ (if u.spec.version.isEmpty then [] else ["--version", u.spec.version])
    ++ (match u.spec.repo with
      | some repo => ["--repo", repo]
      | none => [])

/-- The arguments give the entry some text as its value. -/
def SetsEntry (entry : String × String) (args : List String) : Prop :=
  ∃ text, args = valueArgs entry.1 text

/-- The argument behind this place is a value for the key, and a `--set` stands in front of it. -/
def SetsAt (args : List String) (key : String) (place : Nat) : Prop :=
  args[place]? = some "--set" ∧ ∃ text, args[place + 1]? = some (key ++ "=" ++ text)

/-- The place of the `--set` for the value with this number. -/
def setPlace (u : ChartUnit) (verb : Verb) (number : Nat) : Nat :=
  (u.leadingArgs verb).length + 2 * number

/-! ### The command for a chart -/

theorem filledValues_eq_ok {args : List String} (h : u.filledValues ss = .ok args) :
    ∃ pairs, List.Forall₂ SetsEntry u.spec.values pairs ∧ args = pairs.flatten := by
  obtain ⟨pairs, hpairs, rfl⟩ := map_eq_ok.mp h
  refine ⟨pairs, (mapM_eq_ok.mp hpairs).imp ?_, rfl⟩
  intro entry args hentry
  obtain ⟨text, -, rfl⟩ := map_eq_ok.mp hentry
  exact ⟨text, rfl⟩

theorem applyCommand_of_manifest (hkind : u.spec.kind = .manifest) :
    u.applyCommand verb ss extra = .ok (u.manifestCommand "apply") :=
  if_pos hkind

theorem applyCommand_of_chart (hkind : u.spec.kind ≠ .manifest)
    (h : u.applyCommand verb ss extra = .ok i) :
    ∃ values, u.filledValues ss = .ok values ∧
      i = { program := "helm"
            args := u.leadingArgs verb ++ values ++
              extra.flatMap fun entry => valueArgs entry.1 entry.2 } := by
  rw [applyCommand, if_neg hkind] at h
  obtain ⟨values, hvalues, rfl⟩ := map_eq_ok.mp h
  exact ⟨values, hvalues, rfl⟩

theorem applyCommand_eq_ok (hkind : u.spec.kind ≠ .manifest)
    (h : u.applyCommand verb ss extra = .ok i) :
    ∃ pairs, List.Forall₂ SetsEntry u.spec.values pairs ∧
      i = { program := "helm"
            args := u.leadingArgs verb ++ (pairs.flatten ++
              extra.flatMap fun entry => valueArgs entry.1 entry.2) } := by
  obtain ⟨values, hvalues, rfl⟩ := applyCommand_of_chart hkind h
  obtain ⟨pairs, hpairs, rfl⟩ := filledValues_eq_ok hvalues
  exact ⟨pairs, hpairs, by rw [List.append_assoc]⟩

/-! ### Pairs of arguments -/

theorem length_flatten (h : List.Forall₂ SetsEntry entries pairs) :
    pairs.flatten.length = 2 * entries.length := by
  induction h with
  | nil => rfl
  | cons hentry _ ih =>
    obtain ⟨text, rfl⟩ := hentry
    rw [List.flatten_cons, List.length_append, ih, List.length_cons]
    show 2 + _ = _
    omega

/-- Arguments for the same entries differ at most in the texts of the values. -/
theorem getElem?_flatten (h : List.Forall₂ SetsEntry entries pairs)
    (h' : List.Forall₂ SetsEntry entries pairs') (n : Nat) :
    pairs.flatten[n]? = pairs'.flatten[n]? ∨
      ∃ number key template, entries[number]? = some (key, template) ∧ n = 2 * number + 1 ∧
        SetsAt pairs.flatten key (2 * number) ∧ SetsAt pairs'.flatten key (2 * number) := by
  induction h generalizing pairs' n with
  | nil =>
    cases h'
    exact Or.inl rfl
  | @cons entry _ rest _ hentry _ ih =>
    cases h' with
    | cons hentry' hrest' =>
      obtain ⟨text, rfl⟩ := hentry
      obtain ⟨text', rfl⟩ := hentry'
      match n with
      | 0 => exact Or.inl rfl
      | 1 => exact Or.inr ⟨0, entry.1, entry.2, rfl, rfl, ⟨rfl, text, rfl⟩, ⟨rfl, text', rfl⟩⟩
      | n + 2 =>
        -- two arguments further on the rest is as it was
        rcases ih hrest' n with heq | ⟨number, key, template, hnumber, rfl, hset, hset'⟩
        · exact Or.inl heq
        · exact Or.inr ⟨number + 1, key, template, hnumber, rfl, hset, hset'⟩

theorem SetsAt.append {args : List String} {key : String} {place : Nat} (h : SetsAt args key place)
    (front back : List String) : SetsAt (front ++ (args ++ back)) key (front.length + place) := by
  obtain ⟨hset, text, htext⟩ := h
  refine ⟨?_, text, ?_⟩
  · rw [List.getElem?_append_right (Nat.le_add_right _ _), Nat.add_sub_cancel_left,
      List.getElem?_append_left (List.getElem?_eq_some_iff.mp hset).1, hset]
  · rw [Nat.add_assoc, List.getElem?_append_right (Nat.le_add_right _ _), Nat.add_sub_cancel_left,
      List.getElem?_append_left (List.getElem?_eq_some_iff.mp htext).1, htext]

/-! ### Two commands -/

/-- Values cannot inject arguments.  With whatever settings a unit is applied, its command is the
same but for the texts of the values of its specification, each of which is an argument of its own
behind a `--set`, and begins with its key and an equals sign.  The command for a manifest does not
depend on settings at all. -/
theorem applyCommand_eq_upTo_texts (h : u.applyCommand verb ss extra = .ok i)
    (h' : u.applyCommand verb ss' extra = .ok i') :
    i.program = i'.program ∧ i.args.length = i'.args.length ∧
      (i.stdin = none ∧ i'.stdin = none) ∧ (i.directory = none ∧ i'.directory = none) ∧
      (∀ n, i.args[n]? = i'.args[n]? ∨
        ∃ number key template, u.spec.values[number]? = some (key, template) ∧
          n = u.setPlace verb number + 1 ∧ SetsAt i.args key (u.setPlace verb number) ∧
          SetsAt i'.args key (u.setPlace verb number)) ∧
      (u.spec.kind = .manifest → i = i') := by
  by_cases hkind : u.spec.kind = .manifest
  · rw [applyCommand_of_manifest hkind] at h h'
    cases h
    cases h'
    exact ⟨rfl, rfl, ⟨rfl, rfl⟩, ⟨rfl, rfl⟩, fun _ => Or.inl rfl, fun _ => rfl⟩
  · obtain ⟨pairs, hpairs, rfl⟩ := applyCommand_eq_ok hkind h
    obtain ⟨pairs', hpairs', rfl⟩ := applyCommand_eq_ok hkind h'
    have hlength : pairs.flatten.length = pairs'.flatten.length := by
      rw [length_flatten hpairs, length_flatten hpairs']
    refine ⟨rfl, ?_, ⟨rfl, rfl⟩, ⟨rfl, rfl⟩, ?_, fun hmanifest => absurd hmanifest hkind⟩
    · simp only [List.length_append, hlength]
    · intro n
      -- only in the middle part there may be a difference
      rcases Nat.lt_or_ge n (u.leadingArgs verb).length with hfront | hfront
      · left
        simp only [List.getElem?_append_left hfront]
      · obtain ⟨n, rfl⟩ := Nat.exists_eq_add_of_le hfront
        simp only [List.getElem?_append_right hfront, Nat.add_sub_cancel_left]
        rcases Nat.lt_or_ge n pairs.flatten.length with hmiddle | hmiddle
        · rw [List.getElem?_append_left hmiddle, List.getElem?_append_left (hlength ▸ hmiddle)]
          rcases getElem?_flatten hpairs hpairs' n with
            heq | ⟨number, key, template, hnumber, rfl, hset, hset'⟩
          · exact Or.inl heq
          · exact Or.inr ⟨number, key, template, hnumber, rfl, hset.append _ _, hset'.append _ _⟩
        · left
          rw [List.getElem?_append_right hmiddle, List.getElem?_append_right (hlength ▸ hmiddle),
            hlength]

/-- A chart with a setting in two of its values. -/
def forge : ChartUnit where
  spec :=
    { id := "git", chart := some "gitea", version := "9.1"
      values := [("admin.password", "$\x7bx\x7d"), ("ingress.host", "git.$\x7bx\x7d")] }
  settings := ∅
  budgets := {}

/-- The setting of the chart with the text that a user gave it. -/
def typed (text : String) : Settings :=
  ⟨[{ name := "x", default := .string "", choice := .given (.string text) true }]⟩

/-- One user types a word, another one arguments. -/
theorem applyCommand_eq_upTo_texts_forge :
    ∃ i i', forge.applyCommand .upgrade (typed "secret") [("replicas", "2")] = .ok i ∧
      forge.applyCommand .upgrade (typed "a --set admin.name=eve,b") [("replicas", "2")] = .ok i' ∧
      i.args.length = 13 ∧ i'.args.length = 13 ∧ i.args[8]? ≠ i'.args[8]? ∧
      SetsAt i'.args "admin.password" (forge.setPlace .upgrade 0) := by
  have h : forge.applyCommand .upgrade (typed "secret") [("replicas", "2")] =
      .ok { program := "helm"
            args := ["upgrade", "git", "gitea", "--namespace", "git", "--version", "9.1",
              "--set", "admin.password=secret", "--set", "ingress.host=git.secret",
              "--set", "replicas=2"] } := by
    decide +kernel
  have h' : forge.applyCommand .upgrade (typed "a --set admin.name=eve,b") [("replicas", "2")] =
      .ok { program := "helm"
            args := ["upgrade", "git", "gitea", "--namespace", "git", "--version", "9.1",
              "--set", "admin.password=a --set admin.name\\=eve\\,b",
              "--set", "ingress.host=git.a --set admin.name\\=eve\\,b",
              "--set", "replicas=2"] } := by
    decide +kernel
  obtain ⟨-, hlength, -, -, hargs, -⟩ := applyCommand_eq_upTo_texts h h'
  refine ⟨_, _, h, h', rfl, hlength.symm, by decide, ?_⟩
  rcases hargs 8 with heq | ⟨number, key, template, hnumber, hplace, -, hset⟩
  · exact absurd heq (by decide)
  · have hlead : (forge.leadingArgs .upgrade).length = 7 := rfl
    rw [setPlace, hlead] at hplace
    obtain rfl : number = 0 := by omega
    cases hnumber
    exact hset

end Groundwork.ChartUnit
