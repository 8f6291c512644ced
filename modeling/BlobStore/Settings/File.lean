import BlobStore.Files
import BlobStore.Settings.App

/-!
# Settings in a file

Settings are loaded from a file and saved to one. Where there is no file the settings are the
default ones; a file that is there has to be text, and its text has to spell settings.
-/

namespace BlobStore

/-- Why settings could not be loaded or saved. -/
inductive SettingsFault where
  | unreadable (path : String)
  /-- The text of the file spells no settings. -/
  | malformed (path : String)
  | unwritable (path : String)
  deriving DecidableEq, Inhabited, Repr

def SettingsFault.message : SettingsFault → String
  | unreadable path => "Failed to read config file " ++ Text.quote path
  | malformed path => "Failed to parse config file " ++ Text.quote path
  | unwritable path => "Failed to write config file " ++ Text.quote path

namespace AppSettings

def load (fs : Files) (path : String) : Except SettingsFault AppSettings :=
  if fs.contains path then
    match fs.readText? path with
    | none => .error (.unreadable path)
    | some text =>
      match ofText? text with
      | none => .error (.malformed path)
      | some settings => .ok settings
  else .ok default

def save (fs : Files) (path : String) (a : AppSettings) : Except SettingsFault Files :=
  match fs.write? path a.text.toUTF8 with
  | none => .error (.unwritable path)
  | some fs => .ok fs

end AppSettings

end BlobStore
