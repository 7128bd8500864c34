import AppManifest.Definition.Builder
import AppManifest.Definition.Schema

/-!
# Parameter sets

The parameters that go into a function or workflow, or that come out of it, by name, and the names
of those that have to be given.
-/

namespace AppManifest

/-- Named parameters and the names of the required ones. -/
structure ParameterSet where
  properties : Table Definition := ∅
  required : List String := []
deriving Inhabited

namespace ParameterSet

/-- The set without parameters. -/
def empty : ParameterSet :=
  {}

/-- Equality of parameter sets. -/
def same (first second : ParameterSet) : Bool :=
  first.properties == second.properties && first.required == second.required

instance : BEq ParameterSet :=
  ⟨same⟩

/-- A parameter set is equal to itself. -/
theorem same_self (set : ParameterSet) : set.same set := by
  simp [same]

instance : ReflBEq ParameterSet :=
  ⟨fun {set} => same_self set⟩

/-- Declares a parameter. -/
def withProperty (set : ParameterSet) (name : String) (definition : Definition) : ParameterSet :=
  { set with properties := set.properties.insert name definition }

/-- Makes parameters required. -/
def withRequired (set : ParameterSet) (names : List String) : ParameterSet :=
  { set with required := mention names set.required }

/-- A link of a chain that builds a parameter set. -/
inductive Link where
  | property (name : String) (definition : Definition)
  | required (names : List String)

/-- What a link makes of a parameter set. -/
def apply (set : ParameterSet) : Link → ParameterSet
  | .property name definition => set.withProperty name definition
  | .required names => set.withRequired names

/-- What a chain of links makes of a parameter set. -/
def applyAll (set : ParameterSet) (links : List Link) : ParameterSet :=
  links.foldl apply set

/-- The definition of a parameter. -/
def get? (set : ParameterSet) (name : String) : Option Definition :=
  set.properties.get? name

/-- The set has no parameters. It may still name required ones. -/
def isEmpty (set : ParameterSet) : Bool :=
  set.properties.isEmpty

/-- The set as it is written in a manifest. -/
def toJson (set : ParameterSet) : Json :=
  .object [("properties", .ofTable (set.properties.map Definition.schema)),
    ("required", .ofStrings set.required)]

end ParameterSet

end AppManifest
