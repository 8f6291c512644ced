import Mathlib
import BlobStore.Proofs.Text.Trim
import BlobStore.Settings.Environment

/-!
# Settings told by the environment and by a record

Settings can be told in two ways that share nothing but the names of their parts: `ToldBy` says which
variables tell them, and `IsRecord` which members of an object. Parts that count as usual can be left
out of either. `environment_agrees_with_record` says that both are read as the settings that were
meant; the environment is checked besides, and its flag before everything else.
-/

namespace BlobStore

/-! ## Flags -/

/-- The words for a flag. -/
def flagWords : Bool → List String
  | true => ["1", "true", "yes", "on"]
  | false => ["0", "false", "no", "off", ""]

/-- A word for the flag, in letters of either case and with blanks around it. -/
def SpellsFlag (flag : Bool) (text : String) : Prop :=
  ∃ before spelled after : List Char, ∃ word ∈ flagWords flag,
    text.toList = before ++ spelled ++ after ∧ Text.IsBlank before ∧ Text.IsBlank after ∧
      spelled.map Char.toLower = word.toList

theorem isBlank_toLower {c : Char} (h : Text.isBlank c = true) : Text.isBlank c.toLower = true := by
  have hlow : ¬ (c.val ≥ 'A'.val ∧ c.val ≤ 'Z'.val) := by
    rintro ⟨hfirst, hlast⟩
    have hfirst : 65 ≤ c.toNat := hfirst
    have hlast : c.toNat ≤ 90 := hlast
    simp only [Text.isBlank, Text.blank, Text.Ranges.contains, List.any_cons, List.any_nil,
      Bool.or_eq_true, Bool.and_eq_true, decide_eq_true_eq, Bool.false_eq_true, or_false] at h
    omega
  rw [Char.toLower]
  split
  · next hupper => exact absurd hupper hlow
  · exact h

theorem flagWords_apart : ∀ word ∈ flagWords true, word ∉ flagWords false := by decide

theorem not_isBlank_of_mem_word {flag : Bool} {word : String} (h : word ∈ flagWords flag) :
    ∀ c ∈ word.toList, Text.isBlank c = false := by
  have hall : ∀ flag, ∀ w ∈ flagWords flag, (w.toList.all fun c => !Text.isBlank c) = true := by
    decide +kernel
  simpa using hall flag word h

theorem flagOfText?_eq_some {flag : Bool} {text : String} : flagOfText? text = some flag ↔
    String.ofList ((Text.trim text.toList).map Char.toLower) ∈ flagWords flag := by
  have hunfold : flagOfText? text =
      if String.ofList ((Text.trim text.toList).map Char.toLower) ∈ flagWords true then some true
      else if String.ofList ((Text.trim text.toList).map Char.toLower) ∈ flagWords false then some false
      else none := rfl
  rw [hunfold]
  split_ifs with htrue hfalse
  · cases flag
    · simp [flagWords_apart _ htrue]
    · simp [htrue]
  · cases flag
    · simp [hfalse]
    · simp [htrue]
  · cases flag
    · simp [hfalse]
    · simp [htrue]

/-- **Which texts are flags**: the words, in either case and with blanks around them. -/
theorem flagOfText?_iff {flag : Bool} {text : String} :
    flagOfText? text = some flag ↔ SpellsFlag flag text := by
  rw [flagOfText?_eq_some]
  constructor
  · intro hword
    obtain ⟨before, after, htext, hbefore, hafter⟩ := Text.exists_trim text.toList
    exact ⟨before, _, after, _, hword, htext, hbefore, hafter, String.toList_ofList.symm⟩
  · rintro ⟨before, spelled, after, word, hword, htext, hbefore, hafter, hlower⟩
    have hspelled : ∀ c ∈ spelled, Text.isBlank c = false := by
      intro c hc
      have hmem : c.toLower ∈ word.toList := hlower ▸ List.mem_map_of_mem hc
      by_contra hblank
      rw [Bool.not_eq_false] at hblank
      have hplain := not_isBlank_of_mem_word hword _ hmem
      exact Bool.false_ne_true (hplain.symm.trans (isBlank_toLower hblank))
    rw [htext, Text.trim_of_padded hbefore hafter hspelled, hlower, String.ofList_toList]
    exact hword

/-! ## Settings by their variables -/

/-- The variable holds the text, or is not set and the text is the usual one. -/
def Environment.Holds (env : Environment) (name text usual : String) : Prop :=
  env name = some text ∨ (env name = none ∧ text = usual)

namespace S3Settings

/-- The variables tell the settings. An empty region counts as the usual one. -/
structure ToldBy (c : S3Settings) (env : Environment) : Prop where
  bucket : Environment.Holds env "S3_BUCKET" c.bucket ""
  scope : Environment.Holds env "S3_PREFIX" c.scope ""
  endpoint : Environment.Holds env "S3_ENDPOINT" c.endpoint ""
  region : Environment.Holds env "S3_REGION" c.region defaultRegion ∨
    (env "S3_REGION" = some "" ∧ c.region = defaultRegion)
  accessKey : Environment.Holds env "S3_ACCESS_KEY_ID" c.accessKey ""
  secretKey : Environment.Holds env "S3_SECRET_ACCESS_KEY" c.secretKey ""
  sessionToken : Environment.Holds env "S3_SESSION_TOKEN" c.sessionToken ""
  acl : Environment.Holds env "S3_ACL" c.acl ""
  pathStyle : (∃ text, env "S3_PATH_STYLE" = some text ∧ SpellsFlag c.pathStyle text) ∨
    (env "S3_PATH_STYLE" = none ∧ c.pathStyle = false)

variable {c : S3Settings} {env : Environment}

theorem getD_of_holds {name text : String} (h : Environment.Holds env name text "") :
    (env name).getD "" = text := by
  obtain h | ⟨h, rfl⟩ := h
  · rw [h, Option.getD_some]
  · rw [h, Option.getD_none]

theorem region_of_toldBy (h : c.ToldBy env) (hregion : c.region ≠ "") :
    (if (env "S3_REGION").getD "" = "" then defaultRegion else (env "S3_REGION").getD "") =
      c.region := by
  obtain (hset | ⟨hset, husual⟩) | ⟨hset, husual⟩ := h.region
  · rw [hset, Option.getD_some, if_neg hregion]
  · rw [hset, Option.getD_none, if_pos rfl, husual]
  · rw [hset, Option.getD_some, if_pos rfl, husual]

/-- The settings that the variables tell, with the flag as it was read. -/
def ofVariables (env : Environment) (pathStyle : Bool) : S3Settings where
  bucket := (env "S3_BUCKET").getD ""
  scope := (env "S3_PREFIX").getD ""
  endpoint := (env "S3_ENDPOINT").getD ""
  region := if (env "S3_REGION").getD "" = "" then defaultRegion else (env "S3_REGION").getD ""
  accessKey := (env "S3_ACCESS_KEY_ID").getD ""
  secretKey := (env "S3_SECRET_ACCESS_KEY").getD ""
  sessionToken := (env "S3_SESSION_TOKEN").getD ""
  acl := (env "S3_ACL").getD ""
  pathStyle := pathStyle

theorem ofVariables_of_toldBy (h : c.ToldBy env) (hregion : c.region ≠ "") :
    ofVariables env c.pathStyle = c := by
  simp only [ofVariables, getD_of_holds h.bucket, getD_of_holds h.scope, getD_of_holds h.endpoint,
    region_of_toldBy h hregion, getD_of_holds h.accessKey, getD_of_holds h.secretKey,
    getD_of_holds h.sessionToken, getD_of_holds h.acl]

theorem ofEnvironment_of_flag {flag : Bool}
    (h : (∃ text, env "S3_PATH_STYLE" = some text ∧ flagOfText? text = some flag) ∨
      (env "S3_PATH_STYLE" = none ∧ flag = false)) :
    ofEnvironment env = (ofVariables env flag).check.map fun _ => ofVariables env flag := by
  have hchecked : ofEnvironment env =
      (ofVariables env flag).check >>= fun _ => Except.ok (ofVariables env flag) := by
    unfold ofEnvironment flagVariable
    obtain ⟨text, hset, hflag⟩ | ⟨hset, rfl⟩ := h
    · simp only [hset, hflag]
      rfl
    · simp only [hset]
      rfl
  rw [hchecked]
  cases (ofVariables env flag).check <;> rfl

/-- **Settings are read from the environment as they were told**, and checked. -/
theorem ofEnvironment_of_toldBy (h : c.ToldBy env) (hregion : c.region ≠ "") :
    ofEnvironment env = c.check.map fun _ => c := by
  have hflag := h.pathStyle
  simp only [← flagOfText?_iff] at hflag
  rw [ofEnvironment_of_flag hflag, ofVariables_of_toldBy h hregion]

theorem ofEnvironment_of_not_spells {text : String} (hset : env "S3_PATH_STYLE" = some text)
    (hspells : ∀ flag, ¬ SpellsFlag flag text) :
    ofEnvironment env = .error (.notBoolean "S3_PATH_STYLE" text) := by
  have hunknown : flagOfText? text = none := by
    by_contra hknown
    obtain ⟨flag, hflag⟩ := Option.ne_none_iff_exists'.mp hknown
    exact hspells flag (flagOfText?_iff.mp hflag)
  unfold ofEnvironment flagVariable
  simp only [hset, hunknown]
  rfl

theorem message_notBoolean (text : String) :
    (StoreError.config (.notBoolean "S3_PATH_STYLE" text)).message =
      "invalid store configuration: S3_PATH_STYLE is not a boolean: " ++ text := by
  have hfront : "invalid store configuration: " ++ ("S3_PATH_STYLE" ++ " is not a boolean: ") =
      "invalid store configuration: S3_PATH_STYLE is not a boolean: " := by
    simp only [String.reduceAppend]
  calc (StoreError.config (.notBoolean "S3_PATH_STYLE" text)).message
    _ = "invalid store configuration: " ++ ("S3_PATH_STYLE" ++ " is not a boolean: " ++ text) := rfl
    _ = _ := by rw [← String.append_assoc, hfront]

/-! ## Settings by a record -/

/-- The members that tell the settings. -/
def members (c : S3Settings) : List (String × Json) :=
  [("bucket", .str c.bucket), ("prefix", .str c.scope), ("endpoint", .str c.endpoint),
   ("region", .str c.region), ("access_key_id", .str c.accessKey),
   ("secret_access_key", .str c.secretKey), ("session_token", .str c.sessionToken),
   ("acl", .str c.acl), ("force_path_style", .bool c.pathStyle)]

/-- The object has members of the settings only. It has the bucket, and the others can be left out
where they are the usual ones. -/
structure IsRecord (c : S3Settings) (given : List (String × Json)) : Prop where
  own : ∀ m ∈ given, m ∈ c.members
  bucket : ("bucket", .str c.bucket) ∈ given
  rest : ∀ m ∈ c.members, m ∈ given ∨ m ∈ (ofBucket c.bucket).members

/-- The first settings, with the parts of the second that have these names. -/
def withParts (a c : S3Settings) (names : List String) : S3Settings where
  bucket := if "bucket" ∈ names then c.bucket else a.bucket
  scope := if "prefix" ∈ names then c.scope else a.scope
  endpoint := if "endpoint" ∈ names then c.endpoint else a.endpoint
  region := if "region" ∈ names then c.region else a.region
  accessKey := if "access_key_id" ∈ names then c.accessKey else a.accessKey
  secretKey := if "secret_access_key" ∈ names then c.secretKey else a.secretKey
  sessionToken := if "session_token" ∈ names then c.sessionToken else a.sessionToken
  acl := if "acl" ∈ names then c.acl else a.acl
  pathStyle := if "force_path_style" ∈ names then c.pathStyle else a.pathStyle

theorem putMembers_cons {m : String × Json} (hm : m ∈ c.members) (rest : List (String × Json))
    (a : S3Settings) :
    Json.putMembers parts (m :: rest) a = Json.putMembers parts rest (a.withParts c [m.1]) := by
  simp only [members, List.mem_cons, List.not_mem_nil, or_false] at hm
  rcases hm with rfl | rfl | rfl | rfl | rfl | rfl | rfl | rfl | rfl <;> rfl

theorem withParts_withParts (a c : S3Settings) (name : String) (names : List String) :
    (a.withParts c [name]).withParts c names = a.withParts c (name :: names) := by
  have hpart : ∀ {α : Type} (part : String) (x y : α),
      (if part ∈ names then x else if part ∈ [name] then x else y) =
        if part ∈ name :: names then x else y := by
    intro α part x y
    by_cases hmem : part ∈ names <;> simp [hmem]
  simp only [withParts, hpart]

theorem putMembers_of_own {given : List (String × Json)} (h : ∀ m ∈ given, m ∈ c.members)
    (a : S3Settings) :
    Json.putMembers parts given a = .ok (a.withParts c (given.map Prod.fst)) := by
  induction given generalizing a with
  | nil => rfl
  | cons m given ih =>
    rw [List.forall_mem_cons] at h
    rw [putMembers_cons h.1, ih h.2, withParts_withParts, List.map_cons]

theorem withParts_of_isRecord {given : List (String × Json)} (h : c.IsRecord given) :
    (ofBucket "").withParts c (given.map Prod.fst) = c := by
  have hpart : ∀ {α : Type} {name : String} {part usual : α} {json : α → Json},
      (name, json part) ∈ c.members →
      ((name, json part) ∈ (ofBucket c.bucket).members → part = usual) →
      (if name ∈ given.map Prod.fst then part else usual) = part := by
    intro α name part usual json hmem husual
    split
    · rfl
    · next hout =>
      have hleft : (name, json part) ∉ given := fun hgiven => hout (List.mem_map_of_mem hgiven)
      exact (husual ((h.rest _ hmem).resolve_left hleft)).symm
  have hbucket : "bucket" ∈ given.map Prod.fst := List.mem_map_of_mem h.bucket
  rw [withParts, if_pos hbucket,
    @hpart _ "prefix" c.scope _ .str (by simp [members]) (by simp [members, ofBucket]),
    @hpart _ "endpoint" c.endpoint _ .str (by simp [members]) (by simp [members, ofBucket]),
    @hpart _ "region" c.region _ .str (by simp [members]) (by simp [members, ofBucket]),
    @hpart _ "access_key_id" c.accessKey _ .str (by simp [members]) (by simp [members, ofBucket]),
    @hpart _ "secret_access_key" c.secretKey _ .str (by simp [members])
      (by simp [members, ofBucket]),
    @hpart _ "session_token" c.sessionToken _ .str (by simp [members]) (by simp [members, ofBucket]),
    @hpart _ "acl" c.acl _ .str (by simp [members]) (by simp [members, ofBucket]),
    @hpart _ "force_path_style" c.pathStyle _ .bool (by simp [members])
      (by simp [members, ofBucket])]

theorem find?_missing {given : List (String × Json)} (h : ("bucket", .str c.bucket) ∈ given) :
    parts.find? (fun part => part.required && (given.lookup part.name).isNone) = none := by
  have hthere : (given.lookup "bucket").isNone = false := by
    rw [Option.isNone_eq_false_iff, List.lookup_isSome_iff]
    exact ⟨_, h, by simp⟩
  simp [parts, Json.Part.require, Json.Part.ofText, Json.Part.ofFlag, hthere]

/-- **Settings are read from a record as they were told.** -/
theorem ofJson_of_isRecord {given : List (String × Json)} (h : c.IsRecord given) :
    ofJson (.obj given) = .ok c := by
  rw [ofJson, Json.readRecord, putMembers_of_own h.own, withParts_of_isRecord h,
    find?_missing h.bucket]
  rfl

/-! ## Both ways -/

/-- **Environment and record agree.** If variables tell settings with a region, what is read of them
are just these settings if they pass the check, and else what the check says; and a record that
tells the settings is read as the same. A flag that is spelled in no such way is refused by its text,
whatever the other variables hold. -/
theorem environment_agrees_with_record (c : S3Settings) (hregion : c.region ≠ "")
    (env : Environment) (htold : c.ToldBy env) :
    (∀ read, ofEnvironment env = .ok read ↔ c.check = .ok () ∧ read = c) ∧
    (∀ fault, ofEnvironment env = .error fault ↔ c.check = .error fault) ∧
    (∀ given, c.IsRecord given → ofJson (.obj given) = .ok c) ∧
    ∀ (other : Environment) (text : String), other "S3_PATH_STYLE" = some text →
      (∀ flag, ¬ SpellsFlag flag text) →
      ofEnvironment other = .error (.notBoolean "S3_PATH_STYLE" text) ∧
      (StoreError.config (.notBoolean "S3_PATH_STYLE" text)).message =
        "invalid store configuration: S3_PATH_STYLE is not a boolean: " ++ text := by
  have hread := ofEnvironment_of_toldBy htold hregion
  refine ⟨fun read => ?_, fun fault => ?_, fun given => ofJson_of_isRecord,
    fun other text hset hspells =>
      ⟨ofEnvironment_of_not_spells hset hspells, message_notBoolean text⟩⟩
  · rw [hread]
    cases hcheck : c.check with
    | ok _ => simp [Except.map, eq_comm]
    | error fault => simp [Except.map]
  · rw [hread]
    cases hcheck : c.check with
    | ok _ => simp [Except.map]
    | error fault' => simp [Except.map]

/-- A bucket and a region that is not the usual one; the flag is spelled in capitals between blanks. -/
theorem environment_agrees_with_record_capitals :
    let c := { ofBucket "logs" with region := "eu-west-1", pathStyle := true }
    let env : Environment := fun name =>
      [("S3_BUCKET", "logs"), ("S3_REGION", "eu-west-1"), ("S3_PATH_STYLE", " YES\n")].lookup name
    c.region ≠ "" ∧ c.ToldBy env ∧ ofEnvironment env = .ok c ∧ c.IsRecord c.members ∧
      ofJson (.obj c.members) = .ok c := by
  intro c env
  have hregion : c.region ≠ "" := by decide
  have hcheck : c.check = .ok () := by decide +kernel
  have hbefore : Text.IsBlank [' '] := by
    simp [Text.IsBlank, Text.isBlank, Text.blank, Text.Ranges.contains]
  have hbehind : Text.IsBlank ['\n'] := by
    simp [Text.IsBlank, Text.isBlank, Text.blank, Text.Ranges.contains]
  have hspells : SpellsFlag true " YES\n" :=
    ⟨[' '], "YES".toList, ['\n'], "yes", by decide, rfl, hbefore, hbehind, by decide⟩
  have htold : c.ToldBy env :=
    { bucket := .inl rfl, scope := .inr ⟨rfl, rfl⟩, endpoint := .inr ⟨rfl, rfl⟩
      region := .inl (.inl rfl), accessKey := .inr ⟨rfl, rfl⟩, secretKey := .inr ⟨rfl, rfl⟩
      sessionToken := .inr ⟨rfl, rfl⟩, acl := .inr ⟨rfl, rfl⟩, pathStyle := .inl ⟨_, rfl, hspells⟩ }
  have hrecord : c.IsRecord c.members :=
    ⟨fun _ hm => hm, List.mem_cons_self, fun _ hm => .inl hm⟩
  obtain ⟨hok, -, hjson, -⟩ := environment_agrees_with_record c hregion env htold
  exact ⟨hregion, htold, (hok c).mpr ⟨hcheck, rfl⟩, hrecord, hjson _ hrecord⟩

end S3Settings

end BlobStore
