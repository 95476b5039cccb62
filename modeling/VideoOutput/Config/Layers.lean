import VideoOutput.Config.Settings
import VideoOutput.Config.Toml.Document
import VideoOutput.Text.Utf8

/-!
# Layers of configuration

Configuration files are laid over the defaults, from the system's file to the one the environment
names. A file that is missing, is not UTF-8 or is not a document is passed over, by itself. The
layers are merged as values and only then read as settings, so that one bad value leaves nothing
but the defaults.
-/

namespace VideoOutput

/-- The configuration files that can be read, by their place. -/
structure ConfigFiles where
  system : Option (List UInt8) := none
  /-- The file below the user's configuration directory, where that directory is named. -/
  userConfig : Option (List UInt8) := none
  userConfigIsNamed : Bool := false
  /-- The file below the home directory, used where no configuration directory is named. -/
  home : Option (List UInt8) := none
  homeIsNamed : Bool := true
  working : Option (List UInt8) := none
  /-- The file that the environment names. -/
  named : Option (List UInt8) := none

namespace ConfigFiles

/-- The user's file. -/
def user (f : ConfigFiles) : Option (List UInt8) :=
  if f.userConfigIsNamed then f.userConfig else if f.homeIsNamed then f.home else none

/-- The files that are there, the one that counts least first. -/
def layers (f : ConfigFiles) : List (List UInt8) :=
  [f.system, f.user, f.working, f.named].filterMap id

end ConfigFiles

namespace Settings

/-- The table of a file, if it is well-formed text and a document. -/
def document? (bytes : List UInt8) : Option Toml.Value :=
  (Utf8.decode? bytes).bind Toml.document?

/-- The documents laid over the defaults, in order. -/
def merged (documents : List Toml.Value) : Toml.Value :=
  documents.foldl Toml.Value.merge (toValue {})

/-- The settings of the files. -/
def ofLayers (files : List (List UInt8)) : Settings :=
  (ofValue? (merged (files.filterMap document?))).getD {}

def load (files : ConfigFiles) : Settings := ofLayers files.layers

end Settings

end VideoOutput
