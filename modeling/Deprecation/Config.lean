import Deprecation.Error
import Deprecation.Json.Document
import Deprecation.Toml.Document
import Deprecation.Toml.Reader

/-!
Settings of the library: whether warnings are shown, through which channel, and whether logged
warnings tell where they come from.  The settings are read from the section `deprecation` of a TOML
document, in which every field has a default, and they are written as such a section.
-/

namespace Deprecation

inductive Channel where
  | tracing
  | capture
  | discard
deriving DecidableEq, Repr, Inhabited

namespace Channel

/-- Every channel, in the order in which the channels are listed to users. -/
def all : List Channel := [tracing, capture, discard]

def word : Channel → String
  | tracing => "tracing"
  | capture => "capture"
  | discard => "none"

/-- The word of each channel, with the channel. -/
def options : List (String × Channel) :=
  all.map fun channel => (channel.word, channel)

theorem mem_all (channel : Channel) : channel ∈ all := by
  cases channel <;> decide

theorem word_injective {first second : Channel} (h : first.word = second.word) :
    first = second := by
  revert h
  cases first <;> cases second <;> decide

end Channel

structure Config where
  enabled : Bool := true
  channel : Channel := .tracing
  includeLocation : Bool := true
deriving DecidableEq, Repr, Inhabited

namespace Config

@[ext] theorem ext {first second : Config} (henabled : first.enabled = second.enabled)
    (hchannel : first.channel = second.channel)
    (hlocation : first.includeLocation = second.includeLocation) : first = second := by
  cases first
  cases second
  cases henabled
  cases hchannel
  cases hlocation
  rfl

def fieldNames : List String := ["enabled", "sink", "include_location"]

/-- Reads one field; an unknown one is skipped. -/
def visit {α : Type} [Document α] (config : Config) (field : String) (value : α) :
    Except Mismatch Config :=
  match field with
  | "enabled" => (Decoding.boolean value).map fun truth => { config with enabled := truth }
  | "sink" =>
    (Document.choose Channel.options value).map fun channel => { config with channel := channel }
  | "include_location" =>
    (Decoding.boolean value).map fun truth => { config with includeLocation := truth }
  | _ => .ok config

def typeName : String := "DeprecationConfig"

/-- Reads settings; what is not given has its default. -/
def decode {α : Type} [Document α] (value : α) : Except Fault Config :=
  Decoding.record typeName fieldNames 0 visit {} value

def encode (config : Config) : Json :=
  .object [
    ("enabled", .boolean config.enabled),
    ("include_location", .boolean config.includeLocation),
    ("sink", .string config.channel.word)]

def sectionName : String := "deprecation"

/-- The settings of a document: those of its section, or the defaults when it has none. -/
def ofDocument (entries : List (String × Toml)) : Except Error Config :=
  match entries.lookup sectionName with
  | none => .ok {}
  | some settings =>
    match decode settings with
    | .ok config => .ok config
    | .error fault => .error (.settings fault)

def ofText (text : String) : Except Error Config :=
  match Toml.read? text with
  | none => .error .settingsSyntax
  | some entries => ofDocument entries

/-- What is found at the path of a settings file. -/
inductive Source where
  | bytes (content : ByteArray)
  | missing
  | directory

def load : Source → Except Error Config
  | .missing => .error (.file .missing)
  | .directory => .error (.file .directory)
  | .bytes content =>
    match String.fromUTF8? content with
    | none => .error (.file .notText)
    | some text => ofText text

def truthWord (truth : Bool) : String :=
  if truth then "true" else "false"

/-- Writes the settings as a document that has only their section, its keys in ascending order. -/
def render (config : Config) : String :=
  "[" ++ sectionName ++ "]\n" ++
    "enabled = " ++ truthWord config.enabled ++ "\n" ++
    "include_location = " ++ truthWord config.includeLocation ++ "\n" ++
    "sink = \"" ++ config.channel.word ++ "\"\n"

end Config

end Deprecation
