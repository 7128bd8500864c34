import AppManifest.ParameterSet
import AppManifest.Path

/-!
# Placeholders of runtime values

A placeholder stands for a value that exists only while a workflow runs and follows the shape of the
value's definition. Primitive values and arrays are leaves. An object has a placeholder for every
declared property, and any other name leads to an object of which nothing is declared, so that paths
of any depth can be written. Custom types leave no trace: the placeholder of a type is that of its
definition at the same path.
-/

namespace AppManifest

mutual

/-- A placeholder for a value. -/
inductive Placeholder where
  /-- A value without properties that could be named. -/
  | leaf (path : Path)
  | object (node : ObjectPlaceholder)

/-- A placeholder for an object, with the placeholders of its declared properties. -/
structure ObjectPlaceholder where
  path : Path
  declared : List (String × Placeholder)

end

mutual

/-- Equality of placeholders. -/
def Placeholder.same : Placeholder → Placeholder → Bool
  | .leaf first, .leaf second => first == second
  | .object first, .object second => first.same second
  | _, _ => false

/-- Equality of placeholders for objects. -/
def ObjectPlaceholder.same : ObjectPlaceholder → ObjectPlaceholder → Bool
  | ⟨path, declared⟩, ⟨path', declared'⟩ =>
      path == path' && Placeholder.sameDeclared declared declared'

/-- Equality of named placeholders. -/
def Placeholder.sameDeclared : List (String × Placeholder) → List (String × Placeholder) → Bool
  | [], [] => true
  | (name, first) :: rest, (name', second) :: others =>
      name == name' && first.same second && Placeholder.sameDeclared rest others
  | _, _ => false

end

instance : BEq Placeholder :=
  ⟨Placeholder.same⟩

instance : BEq ObjectPlaceholder :=
  ⟨ObjectPlaceholder.same⟩

mutual

/-- A placeholder is equal to itself. -/
theorem Placeholder.same_self : (placeholder : Placeholder) → placeholder.same placeholder
  | .leaf path => by simp [Placeholder.same]
  | .object node => node.same_self

/-- A placeholder for an object is equal to itself. -/
theorem ObjectPlaceholder.same_self : (node : ObjectPlaceholder) → node.same node
  | ⟨_, declared⟩ => by simp [ObjectPlaceholder.same, Placeholder.sameDeclared_self declared]

/-- A list of named placeholders is equal to itself. -/
theorem Placeholder.sameDeclared_self :
    (declared : List (String × Placeholder)) → Placeholder.sameDeclared declared declared
  | [] => rfl
  | (_, placeholder) :: rest => by
      simp [Placeholder.sameDeclared, placeholder.same_self, Placeholder.sameDeclared_self rest]

end

instance : ReflBEq Placeholder :=
  ⟨fun {placeholder} => placeholder.same_self⟩

instance : ReflBEq ObjectPlaceholder :=
  ⟨fun {node} => node.same_self⟩

mutual

/-- The placeholder at a path for a value of a kind. -/
def Placeholder.ofKind (path : Path) : Kind → Placeholder
  | .primitive _ => .leaf path
  | .typedObject properties _ _ => .object ⟨path, Placeholder.ofProperties path properties⟩
  | .untypedObject => .object ⟨path, []⟩
  | .array _ => .leaf path
  | .custom type => Placeholder.ofType path type

/-- The placeholder at a path for a value of a custom type. -/
def Placeholder.ofType (path : Path) : CustomType → Placeholder
  | ⟨_, definition, _, _⟩ => Placeholder.ofDefinition path definition

/-- The placeholder at a path for a value that is defined so. -/
def Placeholder.ofDefinition (path : Path) : Definition → Placeholder
  | ⟨kind, _⟩ => Placeholder.ofKind path kind

/-- The placeholders of the properties of an object at a path. -/
def Placeholder.ofProperties (path : Path) :
    List (String × Definition) → List (String × Placeholder)
  | [] => []
  | (name, definition) :: rest =>
      (name, Placeholder.ofDefinition (path.child name) definition) ::
        Placeholder.ofProperties path rest

end

namespace ObjectPlaceholder

/-- The placeholder for an object of which nothing is declared. -/
def dynamic (path : Path) : ObjectPlaceholder :=
  ⟨path, []⟩

instance : Inhabited ObjectPlaceholder :=
  ⟨dynamic default⟩

/-- The placeholder for the values of a parameter set, under a name in a namespace. -/
def ofSet (space name : String) (set : ParameterSet) : ObjectPlaceholder :=
  let path := Path.ofSegments [space, name]
  ⟨path, Placeholder.ofProperties path set.properties.entries⟩

/-- The placeholder of a property, if it is declared. -/
def declared? (node : ObjectPlaceholder) (name : String) : Option Placeholder :=
  node.declared.lookup name

/-- The names of the declared properties, ascending. -/
def declaredNames (node : ObjectPlaceholder) : List String :=
  Entries.names node.declared

/-- Nothing is declared. -/
def isDynamic (node : ObjectPlaceholder) : Bool :=
  node.declared.isEmpty

/-- The placeholder of a property: the declared one, or one for an object of which nothing is
declared. -/
def get (node : ObjectPlaceholder) (name : String) : Placeholder :=
  match node.declared? name with
  | some placeholder => placeholder
  | none => .object (dynamic (node.path.child name))

end ObjectPlaceholder

namespace Placeholder

instance : Inhabited Placeholder :=
  ⟨.leaf default⟩

/-- The placeholder of a parameter under a name in a namespace. -/
def build (space name : String) (definition : Definition) : Placeholder :=
  ofDefinition (Path.ofSegments [space, name]) definition

/-- The path of the value. -/
def path : Placeholder → Path
  | .leaf path => path
  | .object node => node.path

/-- The placeholder as one for an object. -/
def asObject? : Placeholder → Option ObjectPlaceholder
  | .leaf _ => none
  | .object node => some node

/-- The placeholder of a property. A leaf has none. -/
def get? (placeholder : Placeholder) (name : String) : Option Placeholder :=
  placeholder.asObject?.map (·.get name)

/-- The placeholder at the end of a chain of properties, unless the chain goes through a leaf. -/
def at? (placeholder : Placeholder) (names : List String) : Option Placeholder :=
  names.foldlM get? placeholder

/-- The template of the value. -/
def render (placeholder : Placeholder) : String :=
  placeholder.path.render

/-- The placeholder as a JSON value: its template. -/
def toJson (placeholder : Placeholder) : Json :=
  placeholder.path.toJson

end Placeholder

namespace ObjectPlaceholder

/-- The placeholder at the end of a chain of properties, unless the chain goes through a leaf. -/
def at? (node : ObjectPlaceholder) : List String → Option Placeholder
  | [] => some (.object node)
  | name :: rest => (node.get name).at? rest

/-- The template of the object. -/
def render (node : ObjectPlaceholder) : String :=
  node.path.render

/-- The placeholder as a JSON value: its template. -/
def toJson (node : ObjectPlaceholder) : Json :=
  node.path.toJson

end ObjectPlaceholder

end AppManifest
