import Groundwork.Cluster.Object
import Groundwork.Text.Blank
import Groundwork.Text.Search

/-!
# Label selectors

A selector is a list of terms between commas.  A term `key=value` asks for a label with that value,
a term without an equals sign for a label of that name.  Blanks around the parts and blank terms do
not count.
-/

namespace Groundwork.Cluster.Selector

/-- The terms of a selector that are not blank. -/
def terms (selector : String) : List String :=
  ((Text.split ',' selector).map Text.trim).filter fun t => !t.isEmpty

/-- Whether labels satisfy a term; no labels satisfy none. -/
def holds (labels : Option Labels) (term : String) : Bool :=
  match Text.cut? '=' term with
  | some (key, value) =>
    labels.bind (fun l => Table.get? l (Text.trim key)) == some (Text.trim value)
  | none => labels.any fun l => Table.has l term

/-- Whether labels satisfy every term of a selector. -/
def accepts (selector : String) (labels : Option Labels) : Bool :=
  (terms selector).all (holds labels)

end Groundwork.Cluster.Selector
