import FixtureImages.Table

/-!
# Label queries

Ownership of a resource is written on it as labels, and resources are found again by them. A query
asks for labels with exact values; all of them have to be there.
-/

namespace FixtureImages

set_option autoImplicit false

def managedLabel : String := "commander.managed"

def managedMark : String := "true"

def namespaceLabel : String := "commander.namespace"

def blueprintLabel : String := "commander.blueprint"

def instanceLabel : String := "commander.instance"

def contextLabel : String := "commander.context"

/-- What resources are asked for: the parts that are given have to agree. -/
structure Query where
  scope : Option String
  blueprint : Option String
  server : Option String
  managed : Bool
deriving DecidableEq

namespace Query

def ofScope (scope : String) : Query := ⟨some scope, none, none, true⟩

def ofBlueprint (scope blueprint : String) : Query := ⟨some scope, some blueprint, none, true⟩

def everything : Query := ⟨none, none, none, true⟩

def writeSome (key : String) (value : Option String) (labels : Labels) : Labels :=
  match value with
  | some value => labels.insert key value
  | none => labels

def labels (query : Query) : Labels :=
  (if query.managed then (∅ : Labels).insert managedLabel managedMark else ∅)
    |> writeSome namespaceLabel query.scope
    |> writeSome blueprintLabel query.blueprint
    |> writeSome instanceLabel query.server

/-- The query as filters, each a label and its value. -/
def filters (query : Query) : List String :=
  query.labels.entries.map fun entry => entry.1 ++ "=" ++ entry.2

def accepts (query : Query) (labels : Option Labels) : Bool :=
  query.labels.entries.all fun entry => (labels.getD ∅).get? entry.1 == some entry.2

end Query

/-- A filter cut at its first equality sign. -/
def cutFilter (filter : String) : String × String :=
  let chars := filter.toList
  let key := chars.takeWhile (· != '=')
  (String.ofList key, String.ofList (chars.drop (key.length + 1)))

/-- The rule of a daemon: each filter names a label that has to have exactly that value. -/
def meetsFilters (filters : List String) (labels : Option Labels) : Bool :=
  filters.all fun filter =>
    let (key, value) := cutFilter filter
    (labels.getD ∅).get? key == some value

/-- The name of an instance across all namespaces. -/
def contextOf (scope blueprint server : String) : String :=
  scope ++ "." ++ blueprint ++ "." ++ server

/-- The labels of a resource that is about to be made. -/
def resourceLabels (scope : String) (blueprint server : Option String) : Labels :=
  let labels := Query.labels ⟨some scope, blueprint, server, true⟩
  match blueprint, server with
  | some blueprint, some server =>
      labels.insert contextLabel (contextOf scope blueprint server)
  | _, _ => labels

end FixtureImages
