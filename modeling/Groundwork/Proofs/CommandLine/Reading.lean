import Groundwork.CommandLine.Arguments
import Groundwork.Proofs.Table
import Groundwork.Proofs.Text.Search

/-!
# Arguments that give texts

An option `TakesText` if it is known and is no switch.  Where different such options are given texts,
each with an equals sign, reading the arguments hands back just these texts (`parse_attached`).
-/

namespace Groundwork.CommandLine

/-- The argument that gives a flag its text. -/
def attached (pair : String × String) : String :=
  "--" ++ pair.1 ++ "=" ++ pair.2

/-- What can be given a text: the option has a name without an equals sign, and is no switch. -/
structure TakesText (options : List ArgOption) (flag : String) : Prop where
  named : '=' ∉ flag.toList
  known : ∃ o, options.find? (fun o => o.name = flag) = some o ∧ o.arity ≠ .switch ∧
    ∀ text, o.accepts text = true

namespace Reading

variable {options : List ArgOption} {r : Reading}

theorem long_attached {flag text : String} (h : TakesText options flag) (hpending : r.pending = none)
    (hnew : Table.has r.taken flag = false) :
    r.long options flag (some text) =
      .ok ({ r with taken := r.taken ++ [(flag, text)] }, false) := by
  obtain ⟨o, hfind, harity, haccepts⟩ := h.known
  obtain rfl : o.name = flag := by simpa using List.find?_some hfind
  have hsettle : r.settle = .ok r := by simp only [settle, hpending]
  have hstore : r.store o text = .ok { r with taken := r.taken ++ [(o.name, text)] } := by
    simp [store, hnew, haccepts, Table.put_of_not_has hnew]
  rw [long, hfind]
  rcases hlabel : o.arity with _ | label | ⟨label, missing⟩
  · exact absurd hlabel harity
  · simp [hsettle, hstore, Except.bind, Except.map]
  · simp [hsettle, hstore, Except.bind, Except.map]

theorem arguments_cons_attached {flag text : String} {rest : List String}
    (h : TakesText options flag) (hpending : r.pending = none)
    (hnew : Table.has r.taken flag = false) :
    arguments options [] false r (attached (flag, text) :: rest) =
      arguments options [] false { r with taken := r.taken ++ [(flag, text)] } rest := by
  have hchars : (attached (flag, text)).toList =
      '-' :: '-' :: (flag.toList ++ '=' :: text.toList) := by
    simp [attached]
  have hcut : Text.cut? '=' (String.ofList (flag.toList ++ '=' :: text.toList)) =
      some (flag, text) := by
    simp [Text.cut?, Text.cutChars_append_mark h.named]
  -- so it is no lone pair of hyphens, which would end the options
  have hmore : flag.toList ++ '=' :: text.toList ≠ [] := by simp
  rw [arguments.eq_def]
  simp only [hchars, List.contains_nil, Bool.and_false, Bool.false_eq_true, ↓reduceIte]
  generalize flag.toList ++ '=' :: text.toList = chars at hcut hmore
  cases chars with
  | nil => exact absurd rfl hmore
  | cons c cs => simp only [hcut, long_attached h hpending hnew]

/-- Arguments that give different flags their texts are read one after the other. -/
theorem arguments_attached {given : List (String × String)}
    (hgiven : ∀ pair ∈ given, TakesText options pair.1) (hdistinct : (given.map Prod.fst).Nodup)
    (hpending : r.pending = none) (hnew : ∀ pair ∈ given, Table.has r.taken pair.1 = false) :
    arguments options [] false r (given.map attached) =
      .ok ({ r with taken := r.taken ++ given }, none) := by
  induction given generalizing r with
  | nil => simp [arguments]
  | cons pair rest ih =>
    obtain ⟨flag, text⟩ := pair
    obtain ⟨hflag, hrest⟩ := List.forall_mem_cons.mp hgiven
    obtain ⟨hnewFlag, hnewRest⟩ := List.forall_mem_cons.mp hnew
    obtain ⟨hfresh, hdistinct⟩ := List.nodup_cons.mp hdistinct
    rw [List.map_cons, arguments_cons_attached hflag hpending hnewFlag,
      ih (r := { r with taken := r.taken ++ [(flag, text)] }) hrest hdistinct hpending]
    · rw [List.append_assoc, List.singleton_append]
    · intro other hother
      have hne : flag ≠ other.1 := by
        rintro rfl
        exact hfresh (List.mem_map.mpr ⟨other, hother, rfl⟩)
      simp [Table.has_append, hnewRest other hother, Table.has_singleton, hne]

end Reading

theorem fromVariables_nil (taken : Table String String) (options : List ArgOption) :
    fromVariables [] taken options = .ok [] := by
  induction options with
  | nil => rfl
  | cons o rest ih =>
    have hnone : (if Table.has taken o.name then none
        else o.fromVariable.bind (Table.get? ([] : Table String String))) = none := by
      split
      · rfl
      · cases o.fromVariable <;> rfl
    rw [fromVariables, hnone]
    exact ih

theorem parse_attached {options : List ArgOption} {given : List (String × String)}
    (hgiven : ∀ pair ∈ given, TakesText options pair.1) (hdistinct : (given.map Prod.fst).Nodup) :
    OptionValues.parse options [] (given.map attached) = .ok ⟨given, []⟩ := by
  have hread := Reading.arguments_attached (r := {}) hgiven hdistinct rfl fun _ _ => rfl
  simp only [OptionValues.parse, hread, OptionValues.ofReading, Reading.settle, bind, Except.bind,
    fromVariables_nil, pure, Except.pure, List.nil_append]

end Groundwork.CommandLine
