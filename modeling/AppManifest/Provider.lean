import AppManifest.Json.Basic

/-!
# Providers of authentication

An app may let its users sign in to an external service. The options of a provider are its own and
are passed on as they are.
-/

namespace AppManifest

/-- The types of providers. -/
inductive ProviderType where
  | custom
  | google
deriving DecidableEq

namespace ProviderType

/-- All types, in the order in which messages list them. -/
def all : List ProviderType :=
  [.custom, .google]

/-- The name of the type in a manifest. -/
def name : ProviderType → String
  | .custom => "CUSTOM"
  | .google => "GOOGLE"

/-- The type of a name. -/
def ofName? (name : String) : Option ProviderType :=
  all.find? fun type => type.name == name

end ProviderType

/-- An external provider of authentication. -/
structure Provider where
  key : String
  type : ProviderType
  options : Json

namespace Provider

/-- Equality of providers. -/
def same (first second : Provider) : Bool :=
  first.key == second.key && first.type == second.type && first.options == second.options

instance : BEq Provider :=
  ⟨same⟩

/-- A provider is equal to itself. -/
theorem same_self (provider : Provider) : provider.same provider := by
  simp [same]

instance : ReflBEq Provider :=
  ⟨fun {provider} => same_self provider⟩

/-- The provider as it is written in a manifest. -/
def toJson (provider : Provider) : Json :=
  .object [("options", provider.options), ("provider_type", .string provider.type.name)]

end Provider

end AppManifest
