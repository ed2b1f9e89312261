import Switchboard.Protocol.Line

/-!
# The catalogue of protocols

Protocols by name.  A host enters every protocol that it has, and the configuration says which one is
to be made.
-/

namespace Switchboard

open Settings

/-- Makes a protocol from a configuration and the name of an exchange. -/
abbrev Maker (π : Type) := Configuration → String → Except Error π

/-- **Makers by name;** a name has at most one. -/
structure Catalogue (π : Type) where
  makers : List (String × Maker π) := []

namespace Catalogue

variable {π : Type}

/-- The catalogue with a maker under a name, in the place of a former one. -/
def enter (name : String) (maker : Maker π) (c : Catalogue π) : Catalogue π :=
  { makers := c.makers.filter (·.1 != name) ++ [(name, maker)] }

/-- The catalogue of the protocols that come with the exchange, as values of the host's type. -/
def builtin (ofLine : LineProtocol → π) : Catalogue π :=
  ({} : Catalogue π).enter LineProtocol.name fun c name => (LineProtocol.read c name).map ofLine

/-- Is there a maker under the name? -/
def contains (c : Catalogue π) (name : String) : Bool :=
  c.makers.any (·.1 == name)

/-- **Makes the protocol of a name.** -/
def create (c : Catalogue π) (name : String) (configuration : Configuration) (exchange : String) :
    Except Error π :=
  match c.makers.lookup name with
  | some maker => maker configuration exchange
  | none => .error (.unknownProtocol name)

/-- **Makes the protocol that the configuration names,** the line protocol where it names none. -/
def createConfigured (c : Catalogue π) (configuration : Configuration) (exchange : String) :
    Except Error π := do
  match ← configuration.string? exchange "protocol" with
  | some name => c.create name configuration exchange
  | none => c.create LineProtocol.name configuration exchange

end Catalogue

end Switchboard
