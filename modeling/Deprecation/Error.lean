import Deprecation.Decoding

/-!
Errors of the library.  Each is a cause with the names that its text needs; the texts are given by
`Error.message`.  Warnings themselves never fail.
-/

namespace Deprecation

/-- Why a settings file could not be read. -/
inductive FileError where
  | missing
  | directory
  | notText
deriving DecidableEq, Repr

def FileError.message : FileError → String
  | missing => "No such file or directory (os error 2)"
  | directory => "Is a directory (os error 21)"
  | notText => "stream did not contain valid UTF-8"

/-- The text of a fault in the settings, with a line for the field if it lies in one. -/
def Fault.message (fault : Fault) : String :=
  fault.mismatch.message ++ "\n" ++
    match fault.field with
    | none => ""
    | some name => "in `" ++ name ++ "`\n"

inductive Error where
  | conflictingArguments (function newName oldName : String)
  | unknownMemberName (enumeration name : String)
  | unknownMemberValue (enumeration value : String)
  | emitterAlreadyInstalled
  | unknownKind (word : String)
  | settingsSyntax
  | settings (fault : Fault)
  | file (cause : FileError)
deriving DecidableEq, Repr

def Error.message : Error → String
  | conflictingArguments function newName oldName =>
    function ++ " received both " ++ newName ++ " and " ++ oldName ++ " (deprecated)."
  | unknownMemberName enumeration name =>
    "'" ++ name ++ "' is not a member of " ++ enumeration
  | unknownMemberValue enumeration value => value ++ " is not a valid " ++ enumeration
  | emitterAlreadyInstalled => "Global deprecation emitter is already installed"
  | unknownKind word => "Unknown deprecated type: " ++ word
  | settingsSyntax => "Invalid deprecation config: not a TOML document"
  | settings fault => "Invalid deprecation config: " ++ fault.message
  | file cause => "IO error: " ++ cause.message

end Deprecation
