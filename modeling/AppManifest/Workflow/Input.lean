import AppManifest.Placeholder

/-!
# Inputs of workflow steps

An input is a literal value, a placeholder, or a list or a map of inputs. Its wire form
(`StepInput.templatize`) has the template of a placeholder in the place of each placeholder.
-/

namespace AppManifest

/-- What goes into a step under one name. -/
inductive StepInput where
  | literal (value : Json)
  | placeholder (value : Placeholder)
  | list (items : List StepInput)
  | map (entries : List (String × StepInput))
deriving Inhabited

mutual

/-- Equality of inputs. An input and the literal of its wire form are different. -/
def StepInput.same : StepInput → StepInput → Bool
  | .literal first, .literal second => first == second
  | .placeholder first, .placeholder second => first == second
  | .list first, .list second => StepInput.sameItems first second
  | .map first, .map second => StepInput.sameEntries first second
  | _, _ => false

/-- Equality of lists of inputs. -/
def StepInput.sameItems : List StepInput → List StepInput → Bool
  | [], [] => true
  | first :: rest, second :: others => first.same second && StepInput.sameItems rest others
  | _, _ => false

/-- Equality of named inputs. -/
def StepInput.sameEntries : List (String × StepInput) → List (String × StepInput) → Bool
  | [], [] => true
  | (name, first) :: rest, (name', second) :: others =>
      name == name' && first.same second && StepInput.sameEntries rest others
  | _, _ => false

end

instance : BEq StepInput :=
  ⟨StepInput.same⟩

mutual

/-- An input is equal to itself. -/
theorem StepInput.same_self : (input : StepInput) → input.same input
  | .literal value => value.same_self
  | .placeholder value => value.same_self
  | .list items => StepInput.sameItems_self items
  | .map entries => StepInput.sameEntries_self entries

/-- A list of inputs is equal to itself. -/
theorem StepInput.sameItems_self :
    (items : List StepInput) → StepInput.sameItems items items
  | [] => rfl
  | item :: rest => by
      simp [StepInput.sameItems, item.same_self, StepInput.sameItems_self rest]

/-- A list of named inputs is equal to itself. -/
theorem StepInput.sameEntries_self :
    (entries : List (String × StepInput)) → StepInput.sameEntries entries entries
  | [] => rfl
  | (_, input) :: rest => by
      simp [StepInput.sameEntries, input.same_self, StepInput.sameEntries_self rest]

end

instance : ReflBEq StepInput :=
  ⟨fun {input} => input.same_self⟩

mutual

/-- The wire form of an input. -/
def StepInput.templatize : StepInput → Json
  | .literal value => value
  | .placeholder value => value.toJson
  | .list items => .array (StepInput.templatizeItems items)
  | .map entries => .object (StepInput.templatizeEntries entries)

/-- The wire forms of a list of inputs. -/
def StepInput.templatizeItems : List StepInput → List Json
  | [] => []
  | item :: rest => item.templatize :: StepInput.templatizeItems rest

/-- The wire forms of named inputs. -/
def StepInput.templatizeEntries : List (String × StepInput) → List (String × Json)
  | [] => []
  | (name, input) :: rest => (name, input.templatize) :: StepInput.templatizeEntries rest

end

namespace StepInput

/-- A map of inputs; of several inputs under one name, the last is kept. -/
def ofEntries (entries : List (String × StepInput)) : StepInput :=
  .map (Entries.ofList entries)

end StepInput

/-- The named inputs of a step. -/
abbrev StepInputs := Table StepInput

namespace StepInputs

/-- The wire forms of the inputs, by name. -/
def templatize (inputs : StepInputs) : Table Json :=
  inputs.map StepInput.templatize

end StepInputs

end AppManifest
