/-! What can go wrong outside the capture path. Entering and leaving frames never fails;
configuration, attribute conversion, writing and listeners do. A failure is its cause;
its wording is `Failure.message`. -/
namespace SpanCapture

/-- Why a stream or a file gave out. -/
inductive StreamFault where
  | notFound
  | isDirectory
  | notDirectory
  | nameTooLong
  | nulInName
  | denied
  | notUtf8
  | writerFull
  | flushFailed
  /-- Something else, in the words of whoever noticed it. -/
  | other (message : String)
  deriving Repr, DecidableEq

def StreamFault.message : StreamFault → String
  | .notFound => "No such file or directory (os error 2)"
  | .isDirectory => "Is a directory (os error 21)"
  | .notDirectory => "Not a directory (os error 20)"
  | .nameTooLong => "File name too long (os error 36)"
  | .nulInName => "file name contained an unexpected NUL byte"
  | .denied => "Permission denied (os error 13)"
  | .notUtf8 => "stream did not contain valid UTF-8"
  | .writerFull => "writer full"
  | .flushFailed => "flush failed"
  | .other message => message

/-- Why a document could not be written: a date it holds has no written form, or the
stream gave out underneath. -/
inductive DocumentFault where
  | dateBefore1970
  | stream (fault : StreamFault)
  deriving Repr, DecidableEq

def DocumentFault.message : DocumentFault → String
  | .dateBefore1970 => "SystemTime must be later than UNIX_EPOCH"
  | .stream fault => fault.message

/-- Why a configuration is not valid. -/
inductive ConfigFault where
  /-- A limit that has to be positive is zero. -/
  | zeroLimit (field : String)
  | ratioAboveHundred (ratio : Nat)
  deriving Repr, DecidableEq

def ConfigFault.message : ConfigFault → String
  | .zeroLimit field => field ++ " must be > 0"
  | .ratioAboveHundred ratio => "endpoint_only_ratio must be in [0, 100], got " ++ toString ratio

/-- What a call may answer instead of a result. -/
inductive Failure where
  /-- A null stands somewhere in a value to be stored; the key is its path. -/
  | nullAttribute (key : String)
  | config (fault : ConfigFault)
  /-- The configuration text is malformed, or a field has a value of the wrong kind. -/
  | configText
  | stream (fault : StreamFault)
  | document (fault : DocumentFault)
  | listener (name reason : String)
  deriving Repr, DecidableEq

def Failure.message : Failure → String
  | .nullAttribute key =>
    "Invalid attribute value for '" ++ key ++ "': null is not a storable value"
  | .config fault => "Invalid configuration: " ++ fault.message
  | .configText => "Failed to parse TOML configuration: malformed document"
  | .stream fault => "I/O error: " ++ fault.message
  | .document fault => "Failed to serialize trace: " ++ fault.message
  | .listener name reason => "Listener '" ++ name ++ "' failed: " ++ reason

/-- The wordings of the causes underneath a failure, nearest first. -/
def Failure.causes : Failure → List String
  | .configText => ["malformed document"]
  | .stream fault => [fault.message]
  | .document fault => [fault.message]
  | _ => []

end SpanCapture
