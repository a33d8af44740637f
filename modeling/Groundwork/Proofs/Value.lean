import Groundwork.Proofs.Text.Blank
import Groundwork.Value

/-!
# Kinds of values

What is read for a kind, or turned into it, has that kind, and a value of a kind is what the look-up
for the kind gives.  Blanks around a text make no difference to what is read (`parse_trim`).
-/

namespace Groundwork.Value

theorem kind_zero (kind : Kind) : (zero kind).kind = kind := by
  cases kind <;> rfl

theorem kind_parse {kind : Kind} {raw : String} {v : Value} (h : parse kind raw = some v) :
    v.kind = kind := by
  unfold parse at h
  cases kind with
  | boolean =>
    simp only [Option.map_eq_some_iff] at h
    obtain ⟨b, -, rfl⟩ := h
    rfl
  | integer =>
    simp only [Option.map_eq_some_iff] at h
    obtain ⟨i, -, rfl⟩ := h
    rfl
  | string =>
    simp only [Option.some.injEq] at h
    subst h
    rfl

theorem parse_trim (kind : Kind) (raw : String) : parse kind (Text.trim raw) = parse kind raw := by
  simp only [parse, Text.trim_trim]

theorem kind_coerce {kind : Kind} {v v' : Value} (h : v.coerce kind = some v') :
    v'.kind = kind := by
  unfold coerce at h
  split at h
  · rename_i hkind
    obtain rfl := Option.some.inj h
    exact hkind
  split at h
  · obtain rfl := Option.some.inj h
    rfl
  · obtain ⟨i, -, rfl⟩ := Option.map_eq_some_iff.mp h
    rfl
  · exact kind_parse h
  · cases h

theorem exists_asBool? {v : Value} (h : v.kind = .boolean) : ∃ b, v.asBool? = some b := by
  cases v with
  | bool b => exact ⟨b, rfl⟩
  | int i => cases h
  | string s => cases h

theorem asBool?_eq_none {v : Value} (h : v.kind ≠ .boolean) : v.asBool? = none := by
  cases v with
  | bool b => exact absurd rfl h
  | int i => rfl
  | string s => rfl

theorem isSome_asBool?_iff (v : Value) : v.asBool?.isSome = true ↔ v.kind = .boolean := by
  cases v <;> simp [asBool?, kind]

theorem isSome_asString?_iff (v : Value) : v.asString?.isSome = true ↔ v.kind = .string := by
  cases v <;> simp [asString?, kind]

theorem isSome_asInt?_iff (v : Value) : v.asInt?.isSome = true ↔ v.kind = .integer := by
  cases v <;> simp [asInt?, kind]

/-! ### Yes and no -/

variable {word : String}

/-- No word means both. -/
theorem not_mem_yesWords (h : word ∈ noWords) : word ∉ yesWords := by
  simp only [noWords, List.mem_cons, List.not_mem_nil, or_false] at h
  rcases h with rfl | rfl | rfl | rfl <;> decide

theorem readBool?_eq_true_iff : readBool? word = some true ↔ Text.lowerAscii word ∈ yesWords := by
  rw [readBool?]
  split
  · simp only [*]
  · split <;> simp [*]

theorem readBool?_eq_false_iff : readBool? word = some false ↔ Text.lowerAscii word ∈ noWords := by
  rw [readBool?]
  by_cases hno : Text.lowerAscii word ∈ noWords
  · simp only [if_neg (not_mem_yesWords hno), hno, ↓reduceIte]
  · split <;> simp [hno]

end Groundwork.Value
