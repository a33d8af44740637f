import Groundwork.Catalog
import Groundwork.Proofs.Settings.Filling
import Groundwork.Proofs.Text.Numeral

/-!
# Values and their texts

The text of a truth value or an integer is read back as that value, and so is a text that has no
blanks at its ends (`parse_text_iff`).  Values are turned into texts without loss
(`coerce_coerce_string`): the conversion keeps the blanks that reading a text would drop.  A text
that is turned into a truth value or an integer becomes what it is read as (`coerce_of_string`).
-/

namespace Groundwork.Value

variable {v w : Value} {kind : Kind}

/-! ### Reading texts of values -/

theorem parse_text_bool (b : Bool) : parse .boolean (bool b).text = some (.bool b) := by
  cases b <;> decide

/-- The digits of an integer have no blanks to trim. -/
theorem parse_text_int (n : Int64) : parse .integer (int n).text = some (.int n) := by
  have htrim : Text.trim (Text.int64Text n) = Text.int64Text n :=
    Text.trim_of_not_blank fun _ hc => Text.isBlank_of_mem_int64Text hc
  rw [parse, text, htrim, Text.readInt64?_int64Text, Option.map_some]

theorem parse_text_iff (v : Value) :
    parse v.kind v.text = some v ↔ ∀ s, v = .string s → Text.trim s = s := by
  cases v with
  | bool b =>
    simp only [kind, parse_text_bool, reduceCtorEq, false_implies, implies_true]
  | int n =>
    simp only [kind, parse_text_int, reduceCtorEq, false_implies, implies_true]
  | string s =>
    simp only [kind, text, parse, Option.some.injEq, string.injEq, forall_eq']

/-! ### Conversions -/

theorem coerce_of_kind (h : v.kind = kind) : v.coerce kind = some v := by
  unfold coerce
  rw [if_pos h]

/-- Everything has a text, which is taken as it is. -/
theorem coerce_string (v : Value) : v.coerce .string = some (.string v.text) := by
  cases v with
  | bool b => rfl
  | int n => rfl
  | string s => rfl

/-- To convert a text into a value that is not one is to read it. -/
theorem coerce_of_string (s : String) (h : kind ≠ .string) :
    (string s).coerce kind = parse kind s := by
  cases kind with
  | boolean => rfl
  | string => exact absurd rfl h
  | integer => rfl

theorem coerce_coerce_string (v : Value) :
    ∃ w, v.coerce .string = some w ∧ w.coerce v.kind = some v := by
  refine ⟨_, coerce_string v, ?_⟩
  -- a truth value and an integer are read back; a text is kept as it is, blanks and all
  cases v with
  | bool b => rw [kind, coerce_of_string _ (by decide), parse_text_bool]
  | int n => rw [kind, coerce_of_string _ (by decide), parse_text_int]
  | string s => exact coerce_of_kind rfl

theorem coerce_idem (h : v.coerce kind = some w) : w.coerce kind = some w :=
  coerce_of_kind (kind_coerce h)

/-- A default that a catalog gives as a text is what the text is read as. -/
theorem typedDefault_of_text {spec : SettingSpec} {s : String}
    (hdefault : spec.default = some (.string s)) (hkind : spec.kind ≠ .string) (unit : String) :
    spec.typedDefault unit = .ok v ↔ parse spec.kind s = some v := by
  simp only [SettingSpec.typedDefault, hdefault, coerce_of_string s hkind]
  cases parse spec.kind s with
  | none => simp
  | some w => simp

/-- A flag gives what its text is read as, unless that is the default anyway. -/
theorem fillFromFlags_of_text {flags : Flags} {t : Setting} {s : String}
    (hraw : flags.get? (Setting.flagName t.name) = some s) (hparse : parse t.kind s = some v) :
    Source.fillFromFlags flags t =
      .ok (if v = t.default then t else { t with choice := .given v true }) := by
  simp only [Source.fillFromFlags, hraw, hparse]
  split
  · rfl
  · exact Source.give_eq_ok.mpr ⟨kind_parse hparse, rfl⟩

/-- Texts of values round-trip.  The text of a value is read back as the value, unless the value is a
text with blanks at its ends; a value that is turned into a text can always be turned back.  What a
conversion gives has the kind that was asked for and is not changed by a second conversion.  A text
means the same truth value or integer to a conversion as to a reader, so that it makes no difference
whether it stands in a catalog, as the default of a setting, or is given for a flag. -/
theorem text_roundTrip :
    (∀ v : Value, parse v.kind v.text = some v ↔ ∀ s, v = .string s → Text.trim s = s) ∧
      (∀ v : Value, ∃ w, v.coerce .string = some w ∧ w.coerce v.kind = some v) ∧
      (∀ (v w : Value) (kind : Kind), v.coerce kind = some w →
        w.kind = kind ∧ w.coerce kind = some w) ∧
      ∀ (s : String) (kind : Kind), kind ≠ .string → (string s).coerce kind = parse kind s ∧
        (∀ (spec : SettingSpec) (unit : String) (v : Value), spec.kind = kind →
          spec.default = some (.string s) →
            (spec.typedDefault unit = .ok v ↔ parse kind s = some v)) ∧
        ∀ (flags : Flags) (t : Setting) (v : Value), t.kind = kind →
          flags.get? (Setting.flagName t.name) = some s → parse kind s = some v →
            Source.fillFromFlags flags t =
              .ok (if v = t.default then t else { t with choice := .given v true }) := by
  refine ⟨parse_text_iff, coerce_coerce_string, ?_, ?_⟩
  · intro v w kind h
    exact ⟨kind_coerce h, coerce_idem h⟩
  · intro s kind hkind
    refine ⟨coerce_of_string s hkind, ?_, ?_⟩
    · rintro spec unit v rfl hdefault
      exact typedDefault_of_text hdefault hkind unit
    · rintro flags t v rfl hraw hparse
      exact fillFromFlags_of_text hraw hparse

/-- A number of replicas whose default is written with quotes and a blank. -/
def quotedReplicas : SettingSpec where
  name := "replicas"
  kind := .integer
  default := some (.string "-7 ")

theorem text_roundTrip_quoted :
    parse .integer (int Int64.minValue).text = some (.int Int64.minValue) ∧
      parse .string (string "-7 ").text ≠ some (.string "-7 ") ∧
      (∃ w, (int Int64.minValue).coerce .string = some w ∧
        w.coerce .integer = some (.int Int64.minValue)) ∧
      ((string "-7 ").coerce .integer = some (.int (-7)) ∧
        (int (-7)).coerce .integer = some (.int (-7))) ∧
      (Kind.integer ≠ .string ∧ quotedReplicas.default = some (.string "-7 ") ∧
        quotedReplicas.typedDefault "gitea" = .ok (.int (-7))) ∧
      (Flags.get? ⟨[("replicas", "-7 ")]⟩ (Setting.flagName "replicas") = some "-7 " ∧
        Source.fillFromFlags ⟨[("replicas", "-7 ")]⟩ { name := "replicas", default := .int 1 } =
          .ok { name := "replicas", default := .int 1, choice := .given (.int (-7)) true }) := by
  obtain ⟨hread, hback, hkept, htext⟩ := text_roundTrip
  have hkind : Kind.integer ≠ .string := by decide
  have hseven : parse .integer "-7 " = some (.int (-7)) := by decide
  have hgiven :
      Flags.get? ⟨[("replicas", "-7 ")]⟩ (Setting.flagName "replicas") = some "-7 " := by
    decide
  obtain ⟨hcoerce, hdefault, hflag⟩ := htext "-7 " .integer hkind
  have hconverted : (string "-7 ").coerce .integer = some (.int (-7)) := hcoerce.trans hseven
  refine ⟨(hread (.int Int64.minValue)).mpr (fun s h => ?_), ?_, hback (.int Int64.minValue),
    ⟨hconverted, (hkept _ _ _ hconverted).2⟩,
    ⟨hkind, rfl, (hdefault _ _ _ rfl rfl).mpr hseven⟩, hgiven,
    hflag _ { name := "replicas", default := .int 1 } _ rfl hgiven hseven⟩
  · cases h
  · intro h
    exact absurd ((hread (.string "-7 ")).mp h "-7 " rfl) (by decide)

end Groundwork.Value
