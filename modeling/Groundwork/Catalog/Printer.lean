import Groundwork.Catalog
import Groundwork.Duration.Human
import Groundwork.Json

/-!
# Catalogs as documents

The document that describes a catalog: every field under the name by which it is read, durations in
words, and optional fields left out where there is nothing to say.
-/

namespace Groundwork

/-- A member for a text that may be missing. -/
def textMember (key : String) (value : Option String) : List (String × Json) :=
  (value.map fun s => (key, Json.string s)).toList

/-- A value by itself. -/
def Value.toJson : Value → Json
  | .bool b => .bool b
  | .int i => .integer i.toInt
  | .string s => .string s

/-- The name of a kind in a catalog. -/
def Kind.shortName : Kind → String
  | .boolean => "bool"
  | .string => "string"
  | .integer => "int"

/-- The name of a kind of units. -/
def UnitKind.name : UnitKind → String
  | .chart => "chart"
  | .manifest => "manifest"
  | .ingress => "ingress"

/-- The document of a declaration. -/
def SettingSpec.toJson (s : SettingSpec) : Json :=
  .object ([("name", .string s.name), ("kind", .string s.kind.shortName)]
    ++ (s.default.map fun v => ("default", v.toJson)).toList
    ++ [("description", .string s.description), ("private", .bool s.isPrivate)])

/-- Texts as a list. -/
def textArray (texts : List String) : Json :=
  .array (texts.map .string)

/-- The document of a unit. -/
def UnitSpec.toJson (u : UnitSpec) : Json :=
  .object ([("id", .string u.id), ("version", .string u.version),
      ("description", .string u.description), ("kind", .string u.kind.name)]
    ++ textMember "chart" u.chart ++ textMember "repo" u.repo ++ textMember "release" u.release
    ++ textMember "manifest" u.manifest
    ++ [("set", .object (u.values.map fun p => (p.1, .string p.2))),
      ("options", .array (u.settings.map SettingSpec.toJson)), ("ready", textArray u.ready),
      ("crds", textArray u.crds), ("post_apply", textArray u.postApply)]
    ++ textMember "skip_option" u.skipSetting ++ [("services", textArray u.services)])

/-- The document of the budgets. -/
def Budgets.toJson (b : Budgets) : Json :=
  .object [("multiplier", .integer b.multiplier.toNat), ("deployment", .string b.deployment.text),
    ("namespace_deletion", .string b.namespaceDeletion.text),
    ("retry_delay", .string b.retryDelay.text), ("retry_attempts", .integer b.retryAttempts.toNat),
    ("load_balancer", .string b.loadBalancer.text)]

/-- The document of a catalog. -/
def Catalog.toJson (c : Catalog) : Json :=
  .object [("timeouts", c.budgets.toJson), ("units", .array (c.units.map UnitSpec.toJson))]

end Groundwork
