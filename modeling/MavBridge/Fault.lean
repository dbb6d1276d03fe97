import MavBridge.Duration

/-!
What can go wrong, by cause, with the message an operator reads.
-/

namespace MavBridge

/-- The causes that the operating system tells apart. -/
inductive IoKind where
  | notFound
  | permissionDenied
  | connectionRefused
  | connectionReset
  | connectionAborted
  | notConnected
  | addrInUse
  | addrNotAvailable
  | networkUnreachable
  | brokenPipe
  | alreadyExists
  | wouldBlock
  | notADirectory
  | isADirectory
  | directoryNotEmpty
  | invalidFilename
  | invalidInput
  | invalidData
  | timedOut
  | writeZero
  | interrupted
  | unsupported
  | unexpectedEof
  | outOfMemory
  | other
  | uncategorized
  deriving DecidableEq, Repr, Inhabited

namespace IoKind

def all : List IoKind :=
  [notFound, permissionDenied, connectionRefused, connectionReset, connectionAborted, notConnected,
    addrInUse, addrNotAvailable, networkUnreachable, brokenPipe, alreadyExists, wouldBlock,
    notADirectory, isADirectory, directoryNotEmpty, invalidFilename, invalidInput, invalidData,
    timedOut, writeZero, interrupted, unsupported, unexpectedEof, outOfMemory, other,
    uncategorized]

def name : IoKind → String
  | notFound => "NotFound"
  | permissionDenied => "PermissionDenied"
  | connectionRefused => "ConnectionRefused"
  | connectionReset => "ConnectionReset"
  | connectionAborted => "ConnectionAborted"
  | notConnected => "NotConnected"
  | addrInUse => "AddrInUse"
  | addrNotAvailable => "AddrNotAvailable"
  | networkUnreachable => "NetworkUnreachable"
  | brokenPipe => "BrokenPipe"
  | alreadyExists => "AlreadyExists"
  | wouldBlock => "WouldBlock"
  | notADirectory => "NotADirectory"
  | isADirectory => "IsADirectory"
  | directoryNotEmpty => "DirectoryNotEmpty"
  | invalidFilename => "InvalidFilename"
  | invalidInput => "InvalidInput"
  | invalidData => "InvalidData"
  | timedOut => "TimedOut"
  | writeZero => "WriteZero"
  | interrupted => "Interrupted"
  | unsupported => "Unsupported"
  | unexpectedEof => "UnexpectedEof"
  | outOfMemory => "OutOfMemory"
  | other => "Other"
  | uncategorized => "Uncategorized"

def ofName? (text : String) : Option IoKind := all.find? fun kind => kind.name == text

def description : IoKind → String
  | notFound => "entity not found"
  | permissionDenied => "permission denied"
  | connectionRefused => "connection refused"
  | connectionReset => "connection reset"
  | connectionAborted => "connection aborted"
  | notConnected => "not connected"
  | addrInUse => "address in use"
  | addrNotAvailable => "address not available"
  | networkUnreachable => "network unreachable"
  | brokenPipe => "broken pipe"
  | alreadyExists => "entity already exists"
  | wouldBlock => "operation would block"
  | notADirectory => "not a directory"
  | isADirectory => "is a directory"
  | directoryNotEmpty => "directory not empty"
  | invalidFilename => "invalid filename"
  | invalidInput => "invalid input parameter"
  | invalidData => "invalid data"
  | timedOut => "timed out"
  | writeZero => "write zero"
  | interrupted => "operation interrupted"
  | unsupported => "unsupported"
  | unexpectedEof => "unexpected end of file"
  | outOfMemory => "out of memory"
  | other => "other error"
  | uncategorized => "uncategorized error"

/-- What the operating system says, with its number, where it is the one that fails. -/
def systemText? : IoKind → Option String
  | notFound => some "No such file or directory (os error 2)"
  | permissionDenied => some "Permission denied (os error 13)"
  | connectionRefused => some "Connection refused (os error 111)"
  | connectionReset => some "Connection reset by peer (os error 104)"
  | addrInUse => some "Address already in use (os error 98)"
  | addrNotAvailable => some "Cannot assign requested address (os error 99)"
  | networkUnreachable => some "Network is unreachable (os error 101)"
  | brokenPipe => some "Broken pipe (os error 32)"
  | alreadyExists => some "File exists (os error 17)"
  | notADirectory => some "Not a directory (os error 20)"
  | isADirectory => some "Is a directory (os error 21)"
  | directoryNotEmpty => some "Directory not empty (os error 39)"
  | invalidFilename => some "File name too long (os error 36)"
  | _ => none

end IoKind

/-- What can go wrong. -/
inductive Fault where
  | serial (detail : String)
  /-- `detail` is more than the kind says. -/
  | io (kind : IoKind) (detail : Option String)
  | configParse
  | configWrite
  | json
  /-- No heartbeat while opening the link. -/
  | handshakeTimeout (waited : Duration)
  | notConnected
  | alreadyConnected (port : String)
  | duplicateOutput (id : String)
  | outputNotFound (id : String)
  | unsupportedOutput (id : String)
  | alreadyRunning (id : String)
  | notRunning (id : String)
  | addrInUse (address : String)
  | connectionRefused (address : String)
  | connectTimeout (address : String)
  /-- The vehicle did not echo the parameter in time. -/
  | paramTimeout (name : String)
  /-- Another call waits for this parameter. -/
  | paramBusy (name : String)
  | invalidParamName (name : String)
  | unencodable (reason : String)
  | other (text : String)
  deriving DecidableEq, Repr, Inhabited

namespace Fault

def ofKind (kind : IoKind) : Fault := io kind none

/-- A failure of the operating system. -/
def ofSystem (kind : IoKind) : Fault := io kind kind.systemText?

/-- A text that is not in UTF-8. -/
def notUtf8 : Fault := io .invalidData (some "stream did not contain valid UTF-8")

/-- The name of the cause. -/
def name : Fault → String
  | serial _ => "Serial"
  | io _ _ => "Io"
  | configParse => "TomlDe"
  | configWrite => "TomlSer"
  | json => "Json"
  | handshakeTimeout _ => "HandshakeTimeout"
  | notConnected => "NotConnected"
  | alreadyConnected _ => "AlreadyConnected"
  | duplicateOutput _ => "DuplicateOutput"
  | outputNotFound _ => "OutputNotFound"
  | unsupportedOutput _ => "UnsupportedOutput"
  | alreadyRunning _ => "AlreadyRunning"
  | notRunning _ => "NotRunning"
  | addrInUse _ => "AddrInUse"
  | connectionRefused _ => "ConnectionRefused"
  | connectTimeout _ => "ConnectTimeout"
  | paramTimeout _ => "ParamTimeout"
  | paramBusy _ => "ParamBusy"
  | invalidParamName _ => "InvalidParamName"
  | unencodable _ => "Encode"
  | other _ => "Other"

/-- The cause of a name, about a text where it is about one. What needs more than a text has no such
form. -/
def ofName? (name text : String) : Option Fault :=
  [notConnected, alreadyConnected text, duplicateOutput text, outputNotFound text,
    unsupportedOutput text, alreadyRunning text, notRunning text, addrInUse text,
    connectionRefused text, connectTimeout text, paramTimeout text, paramBusy text,
    invalidParamName text, unencodable text, other text].find? fun fault => fault.name == name

/-- What an operator reads. -/
def message : Fault → String
  | serial detail => "Serial port error: " ++ detail
  | io kind detail => "I/O error: " ++ detail.getD kind.description
  | configParse => "Config parse error"
  | configWrite => "Config write error"
  | json => "JSON error"
  | handshakeTimeout waited => "No heartbeat received within " ++ waited.text
  | notConnected => "Not connected"
  | alreadyConnected port => "Already connected to " ++ port
  | duplicateOutput id => "Output '" ++ id ++ "' already exists"
  | outputNotFound id => "Output '" ++ id ++ "' not found"
  | unsupportedOutput id => "Unsupported output type: " ++ id
  | alreadyRunning id => "Output '" ++ id ++ "' is already running"
  | notRunning id => "Output '" ++ id ++ "' is not running"
  | addrInUse address => "Address " ++ address ++ " is already in use"
  | connectionRefused address => "Connection refused by " ++ address
  | connectTimeout address => "Connection to " ++ address ++ " timed out"
  | paramTimeout name => "Parameter '" ++ name ++ "' timed out"
  | paramBusy name => "Parameter '" ++ name ++ "' already has a request in flight"
  | invalidParamName name => "Invalid parameter name: " ++ name
  | unencodable reason => "Frame encode error: " ++ reason
  | other text => text

/-- The cause of a socket's failure at an address. -/
def ofSocket (kind : IoKind) (detail : Option String) (address : String) : Fault :=
  match kind with
  | .addrInUse => addrInUse address
  | .connectionRefused => connectionRefused address
  | .timedOut => connectTimeout address
  | .wouldBlock => connectTimeout address
  | kind => io kind detail

end Fault

end MavBridge
