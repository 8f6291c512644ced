import BlobStore.Settings.S3

/-!
# Settings from the environment

Each part of the settings of a remote store can come from a variable of the environment. A variable
that is not set counts as empty; an empty region counts as the usual one.
-/

namespace BlobStore

/-- The variables that are set. -/
abbrev Environment := String → Option String

/-- The flag that a text spells; blanks around it and the case of its letters do not matter. -/
def flagOfText? (text : String) : Option Bool :=
  let word := String.ofList ((Text.trim text.toList).map Char.toLower)
  if word ∈ ["1", "true", "yes", "on"] then some true
  else if word ∈ ["0", "false", "no", "off", ""] then some false
  else none

namespace S3Settings

def flagVariable : String := "S3_PATH_STYLE"

/-- The flag is read first, so a text that is no flag is found whatever else is wrong. -/
def ofEnvironment (env : Environment) : Except ConfigFault S3Settings := do
  let pathStyle ← match env flagVariable with
    | none => pure false
    | some text =>
      match flagOfText? text with
      | some flag => pure flag
      | none => throw (.notBoolean flagVariable text)
  let text (name : String) : String := (env name).getD ""
  let region := text "S3_REGION"
  let s : S3Settings :=
    { bucket := text "S3_BUCKET"
      scope := text "S3_PREFIX"
      endpoint := text "S3_ENDPOINT"
      region := if region = "" then defaultRegion else region
      accessKey := text "S3_ACCESS_KEY_ID"
      secretKey := text "S3_SECRET_ACCESS_KEY"
      sessionToken := text "S3_SESSION_TOKEN"
      acl := text "S3_ACL"
      pathStyle }
  s.check
  return s

end S3Settings

end BlobStore
