import Switchboard.Text.Quoted

/-!
# Errors

Every way in which an operation can be refused, with its cause as data, and the one function that
words them.  Failures of sockets at work are not among them: those are answered by a new attempt
later on.
-/

namespace Switchboard

/-! ### Sockets -/

/-- Why a socket could not be set up or used. -/
inductive SocketError where
  /-- Somebody has the address already. -/
  | addressInUse
  /-- The address is not one of this host. -/
  | addressNotAvailable
  /-- No way leads to the address. -/
  | unreachable
  /-- Nobody listens at the address. -/
  | refused
  /-- The other side broke the connection off. -/
  | reset
  /-- The connection is closed for writing. -/
  | brokenPipe
  /-- The datagram is too large. -/
  | tooLarge
  deriving Repr, DecidableEq

/-- The name of a cause. -/
def SocketError.name : SocketError → String
  | .addressInUse => "AddrInUse"
  | .addressNotAvailable => "AddrNotAvailable"
  | .unreachable => "Unreachable"
  | .refused => "ConnectionRefused"
  | .reset => "ConnectionReset"
  | .brokenPipe => "BrokenPipe"
  | .tooLarge => "TooLarge"

/-! ### Configuration -/

/-- What a reader of the configuration found in the place of what it wanted, as a message shows it. -/
inductive Found where
  | nothing
  | boolean (value : Bool)
  | signed (value : Int)
  | unsigned (value : Nat)
  | real (digits : String)
  | text (value : String)
  | sequence
  | table
  deriving Repr, DecidableEq

/-- The wording of what was found. -/
def Found.message : Found → String
  | .nothing => "unit value"
  | .boolean value => "boolean `" ++ (if value then "true" else "false") ++ "`"
  | .signed value => "64-bit integer `" ++ String.ofList (Text.signedDecimal value) ++ "`"
  | .unsigned value => "64-bit unsigned integer `" ++ String.ofList (Text.decimal value) ++ "`"
  | .real digits => "floating point `" ++ digits ++ "`"
  | .text value => "string " ++ Text.quote value
  | .sequence => "sequence"
  | .table => "map"

/-- What a reader of the configuration wanted. -/
inductive Wanted where
  | integer
  | unsigned
  | boolean
  | string
  | table
  deriving Repr, DecidableEq

/-- The wording of what was wanted. -/
def Wanted.message : Wanted → String
  | .integer => "an integer"
  | .unsigned => "an unsigned 64 bit or less integer"
  | .boolean => "a boolean"
  | .string => "a string"
  | .table => "a map"

/-- Why a value could not be taken from a configuration. -/
inductive LookupError where
  /-- The key is not a path. -/
  | badPath (key : String)
  /-- There is nothing at the key. -/
  | missing (key : String)
  /-- The value at the key cannot be read as what was wanted. -/
  | mismatch (found : Found) (wanted : Wanted) (key : String)
  deriving Repr, DecidableEq

/-- The wording of a failed look-up. -/
def LookupError.message : LookupError → String
  | .badPath key => "invalid key path " ++ Text.quote key
  | .missing key => "missing configuration field " ++ Text.quote key
  | .mismatch found wanted key =>
    "invalid type: " ++ found.message ++ ", expected " ++ wanted.message ++ " for key `" ++ key ++ "`"

/-- How the sharing flags contradict each other. -/
inductive SharingConflict where
  | bindingWithoutItem
  | directionsWithoutBoth
  | directionsWithMasks
  | masksInUse
  deriving Repr, DecidableEq

/-- The wording of a contradiction. -/
def SharingConflict.message : SharingConflict → String
  | .bindingWithoutItem => "bindingsharedconnections requires itemsharedconnections"
  | .directionsWithoutBoth =>
    "directionssharedconnections requires itemsharedconnections and bindingsharedconnections"
  | .directionsWithMasks => "directionssharedconnections cannot be combined with addressmask"
  | .masksInUse => "addressmask cannot be disabled while masked channels exist"

/-! ### All errors -/

/-- **Every cause of a refusal.** -/
inductive Error where
  /-- A socket could not be set up. -/
  | socket (cause : SocketError)
  /-- A remote end could not be read or resolved. -/
  | invalidAddress (text : String)
  /-- The exchange is closed. -/
  | notActive
  /-- An outbound channel needs a concrete remote end. -/
  | maskedOutbound (item mask : String)
  /-- Address masks are switched off. -/
  | masksDisabled (item mask : String)
  /-- The channel is not, or no longer, one of this exchange. -/
  | unknownChannel (id : Nat)
  /-- A blocking write already waits on the channel. -/
  | callInProgress (id : Nat)
  /-- A value could not be taken from the configuration. -/
  | lookup (cause : LookupError)
  /-- Nobody reads the key. -/
  | unknownKey (key : String)
  /-- The value of a key is out of range. -/
  | invalidValue (key value : String)
  /-- The sharing flags contradict each other. -/
  | sharing (conflict : SharingConflict)
  /-- There is no such transport. -/
  | unknownTransport (name : String)
  /-- No protocol has the name. -/
  | unknownProtocol (name : String)
  deriving Repr, DecidableEq

/-- **The wording of an error.** -/
def Error.message : Error → String
  | .socket cause => "I/O error: " ++ cause.name
  | .invalidAddress text => "Invalid remote address '" ++ text ++ "'"
  | .notActive => "Engine is not active"
  | .maskedOutbound item mask =>
    "Outbound channel for item '" ++ item ++ "' cannot use address mask " ++ mask
  | .masksDisabled item mask =>
    "Inbound channel for item '" ++ item ++ "' uses address mask " ++ mask ++
      ", but addressmask is disabled"
  | .unknownChannel id => "Channel " ++ String.ofList (Text.decimal id) ++ " not found"
  | .callInProgress id =>
    "Channel " ++ String.ofList (Text.decimal id) ++ " already has a blocking write in progress"
  | .lookup cause => "Configuration error: " ++ cause.message
  | .unknownKey key => "Unknown configuration key '" ++ key ++ "'"
  | .invalidValue key value =>
    "Invalid value '" ++ value ++ "' for configuration key '" ++ key ++ "'"
  | .sharing conflict => "Incompatible sharing policy: " ++ conflict.message
  | .unknownTransport name =>
    "Invalid transport type '" ++ name ++ "', expected one of: udp, tcp"
  | .unknownProtocol name => "Unknown protocol '" ++ name ++ "'"

end Switchboard
