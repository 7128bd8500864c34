/-!
# Log events

What a run reports while it builds workflows, registers definitions, makes a manifest and converts a
description. Events are values, kept in the order in which they happen.
-/

namespace AppManifest

/-- The kinds of definitions that a manifest is made of. -/
inductive EntityKind where
  | function
  | type
  | workflow
  | datastore
  | provider
deriving DecidableEq

namespace EntityKind

/-- The name of the kind in messages. -/
def name : EntityKind → String
  | .function => "function"
  | .type => "type"
  | .workflow => "workflow"
  | .datastore => "datastore"
  | .provider => "oauth2 provider"

end EntityKind

/-- How important an event is. -/
inductive Level where
  | trace
  | debug
  | warn
deriving DecidableEq

namespace Level

/-- The name of the level. -/
def name : Level → String
  | .trace => "trace"
  | .debug => "debug"
  | .warn => "warn"

end Level

/-- Something that a run reports. -/
inductive Event where
  /-- A definition was registered under an id that was free. -/
  | registered (kind : EntityKind) (id : String)
  /-- An equal definition was there already. -/
  | alreadyRegistered (kind : EntityKind) (id : String)
  /-- A different definition was there already and is kept. -/
  | conflicting (kind : EntityKind) (id : String)
  | stepAdded (workflow step function : String)
  /-- All declarations of an app are registered, this many functions and types in all. -/
  | registrationComplete (app : String) (functions types : Nat)
  /-- A description was converted, with this many types. -/
  | converted (app : String) (types : Nat)
deriving DecidableEq

/-- The value of a field of an event. -/
inductive EventField where
  | text (value : String)
  | count (value : Nat)
deriving DecidableEq

namespace Event

/-- The level of an event. -/
def level : Event → Level
  | .alreadyRegistered _ _ => .trace
  | .conflicting _ _ => .warn
  | .registered _ _ | .stepAdded _ _ _ | .registrationComplete _ _ _ | .converted _ _ => .debug

/-- The text of an event, without its fields. -/
def message : Event → String
  | .registered _ _ => "Registered"
  | .alreadyRegistered _ _ => "Already registered"
  | .conflicting _ _ => "Conflicting definition ignored; first registration kept"
  | .stepAdded _ _ _ => "Added workflow step"
  | .registrationComplete _ _ _ => "Registration complete"
  | .converted _ _ => "Converted app description"

/-- The fields of an event. -/
def fields : Event → List (String × EventField)
  | .registered kind id | .alreadyRegistered kind id | .conflicting kind id =>
      [("kind", .text kind.name), ("id", .text id)]
  | .stepAdded workflow step function =>
      [("workflow", .text workflow), ("step_id", .text step), ("function_id", .text function)]
  | .registrationComplete app functions types =>
      [("app", .text app), ("functions", .count functions), ("types", .count types)]
  | .converted app types => [("app", .text app), ("types", .count types)]

end Event

end AppManifest
