import Groundwork.Console
import Groundwork.Settings

/-!
# Resolution

Five kinds of sources give values to settings.  A source leaves a setting that has a value alone,
so in a chain of sources the first one with an answer decides.  A source is a value: filling a
setting gives back the source as it is afterwards, so what a dialogue has read and shown is kept.
-/

namespace Groundwork

/-! ### Sources -/

/-- Texts given for flags, in the order in which they were given. -/
structure Flags where
  given : List (String × String) := []
  deriving Inhabited

/-- The last text given for a flag. -/
def Flags.get? (flags : Flags) (flag : String) : Option String :=
  (flags.given.reverse.find? fun pair => pair.1 = flag).map Prod.snd

/-- A place where values come from. -/
inductive Source where
  /-- The command line. -/
  | flags (flags : Flags)
  /-- The defaults computed from the cluster. -/
  | dynamic (facts : Facts)
  /-- The fixed defaults. -/
  | defaults
  /-- Gives nothing and fails on a setting without a value. -/
  | completeness
  /-- Asks the user; the facts serve to suggest computed defaults. -/
  | dialogue (console : Console) (facts : Option Facts)

namespace Source

/-- Stores a value that a source has found. -/
def give (s : Setting) (value : Value) (byUser : Bool) : Except SetupError Setting :=
  match s.accept value byUser with
  | .ok s' => .ok s'
  | .error actual => .error (.wrongKind s.name s.kind actual)

/-- A flag gives its text, read as the kind of the setting.  A value equal to the default counts as
not given. -/
def fillFromFlags (flags : Flags) (s : Setting) : Except SetupError Setting :=
  match flags.get? (Setting.flagName s.name) with
  | none => .ok s
  | some raw =>
    match Value.parse s.kind raw with
    | none => .error (.invalidValue s.name raw s.kind)
    | some v => if v = s.default then .ok s else give s v true

/-- The computed default, where it is usable. -/
def fillFromFacts (facts : Facts) (s : Setting) : Except SetupError Setting :=
  match s.dynamicValue? facts with
  | none => .ok s
  | some v => give s v false

/-- The value suggested to the user: the usable computed default, else the fixed one. -/
def suggestion (facts : Option Facts) (s : Setting) : Value :=
  (facts.bind s.dynamicValue?).getD s.default

/-- The words in front of the answer. -/
def prompt (s : Setting) (suggested : Value) : String :=
  let label := match s.scope with
    | .shared => "Shared"
    | .unit id => id
  let description := if s.description.isEmpty then "" else " " ++ s.description
  let hint := if s.kind = .boolean then " (y/n)" else ""
  "[" ++ label ++ "] " ++ s.name ++ description ++ hint ++ " [" ++ suggested.text ++ "]: "

/-- What the user is told when an answer does not read as the kind. -/
def complaint : Kind → String
  | .boolean => "It's either 'y' or 'n', please try again"
  | .integer => "Please provide an integer value"
  | .string => "Please provide a value"

/-- The question about a setting; a blank answer takes the suggestion. -/
def question (facts : Option Facts) (s : Setting) : Question Value :=
  let suggested := suggestion facts s
  { prompt := prompt s suggested
    atEnd := .error .endOfInput
    onBlank := suggested
    understand := Value.parse s.kind
    complaint := complaint s.kind }

/-- Asks the user for a setting. -/
def fillFromDialogue (console : Console) (facts : Option Facts) (s : Setting) :
    Except SetupError Setting × Console :=
  match (question facts s).ask console with
  | (.error fault, console') => (.error (.input s.name fault), console')
  | (.ok v, console') => (give s v true, console')

/-- Fills one setting, unless it has a value. -/
def fill (source : Source) (s : Setting) : Except SetupError Setting × Source :=
  if s.isValid then (.ok s, source)
  else match source with
    | .flags given => (fillFromFlags given s, source)
    | .dynamic facts => (fillFromFacts facts s, source)
    | .defaults => (give s s.default false, source)
    | .completeness => (.error (.missing s.name s.scope), source)
    | .dialogue console facts =>
      let (result, console') := fillFromDialogue console facts s
      (result, .dialogue console' facts)

end Source

/-! ### Passes over a list of settings -/

/-- What a pass leaves behind: the settings and the sources as they are afterwards, and the error
that broke it off, if one did. -/
structure Pass (σ : Type) where
  settings : Settings
  sources : σ
  error : Option SetupError

namespace Settings

/-- Fills the settings one after the other, up to the first error. -/
def populateEntries (source : Source) : List Setting → List Setting × Source × Option SetupError
  | [] => ([], source, none)
  | s :: rest =>
    match source.fill s with
    | (.error e, source') => (s :: rest, source', some e)
    | (.ok s', source') =>
      let (rest', source'', error) := populateEntries source' rest
      (s' :: rest', source'', error)

/-- Lets one source fill every setting in order.  An error keeps what was done before it. -/
def populate (ss : Settings) (source : Source) : Pass Source :=
  let (entries, source', error) := populateEntries source ss.entries
  ⟨⟨entries⟩, source', error⟩

/-- Lets each source of a chain fill every setting, up to the first error. -/
def resolve (ss : Settings) : List Source → Pass (List Source)
  | [] => ⟨ss, [], none⟩
  | source :: rest =>
    let first := ss.populate source
    match first.error with
    | some e => ⟨first.settings, first.sources :: rest, some e⟩
    | none =>
      let others := first.settings.resolve rest
      ⟨others.settings, first.sources :: others.sources, others.error⟩

end Settings

/-! ### Confirmation -/

/-- A yes or no question whose answer is no when nothing is said. -/
def confirmation (question : String) : Question Bool where
  prompt := question ++ " (y/n) [n]: "
  atEnd := .ok false
  onBlank := false
  understand := fun answer => Value.readBool? answer
  complaint := Source.complaint .boolean

/-- Asks for a confirmation. -/
def confirm (question : String) (console : Console) : Except IoFault Bool × Console :=
  (confirmation question).ask console

end Groundwork
