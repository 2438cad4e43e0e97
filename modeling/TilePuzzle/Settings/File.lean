import TilePuzzle.Settings.Basic
import TilePuzzle.Toml.Document

namespace TilePuzzle.Settings

open Toml

/-- The fields of a section, by name or by place. A list holds them in order; its absent fields have
their defaults, except for those that have none. -/
inductive Fields
  | named (es : Entries)
  | listed (vs : List Value)

namespace Fields

/-- A date counts as a section without fields. -/
def ofValue? : Value → Option Fields
  | .table _ es => some (named es)
  | .date => some (named [])
  | .list vs => some (listed vs)
  | .tables elements => some (listed (elements.map (.table .header ·)))
  | _ => none

def get? (fields : Fields) (place : Nat) (name : String) : Option Value :=
  match fields with
  | named es => es.find? name
  | listed vs => vs[place]?

end Fields

def text? : Value → Option String
  | .text s => some s
  | _ => none

def seconds? : Value → Option UInt64
  | .integer (.ofNat n) => some (.ofNat n)
  | _ => none

def field? (decode : Value → Option α) (default : α) (fields : Fields) (place : Nat)
    (name : String) : Option α :=
  match fields.get? place name with
  | some v => decode v
  | none => some default

def optionalField? (decode : Value → Option α) (fields : Fields) (place : Nat) (name : String) :
    Option (Option α) :=
  match fields, fields.get? place name with
  | _, some v => (decode v).map some
  | .named _, none => some none
  | .listed _, none => none

def Site.ofFields? (fields : Fields) : Option Site := do
  let d : Site := {}
  return {
    baseUrl := ← field? text? d.baseUrl fields 0 "base_url"
    startPath := ← field? text? d.startPath fields 1 "start_path"
    submitPath := ← field? text? d.submitPath fields 2 "submit_path"
    displayName := ← field? text? d.displayName fields 3 "display_name"
    tileClass := ← field? text? d.tileClass fields 4 "tile_class"
    tokenAttribute := ← field? text? d.tokenAttribute fields 5 "token_attribute" }

def Client.ofFields? (fields : Fields) : Option Client := do
  let d : Client := {}
  return {
    timeoutSecs := ← field? seconds? d.timeoutSecs fields 0 "timeout_secs"
    userAgent := ← field? text? d.userAgent fields 1 "user_agent" }

def Channel.ofFields? (fields : Fields) : Option Channel := do
  let d : Channel := {}
  return {
    url := ← optionalField? text? fields 0 "url"
    urlVariable := ← optionalField? text? fields 1 "url_env"
    connectTimeoutSecs := ← field? seconds? d.connectTimeoutSecs fields 2 "connect_timeout_secs"
    idleTimeoutSecs := ← optionalField? seconds? fields 3 "idle_timeout_secs" }

def section? (es : Entries) (name : String) (ofFields? : Fields → Option α) : Option (Option α) :=
  match es.find? name with
  | none => some none
  | some v => ((Fields.ofValue? v).bind ofFields?).map some

def ofEntries? (es : Entries) : Option Settings := do
  let site ← section? es "challenge" Site.ofFields?
  let client ← section? es "http" Client.ofFields?
  let channel ← section? es "channel" Channel.ofFields?
  return { site := site.getD {}, client := client.getD {}, channel }

def ofFile (file : String) : Except SettingsError Settings :=
  match (Toml.parse? file).bind ofEntries? with
  | none => .error .malformed
  | some s =>
    match s.check with
    | .error fault => .error (.invalid fault)
    | .ok () => .ok s

def textLine (name text : String) : List Char :=
  name.toList ++ " = ".toList ++ Toml.writeText text.toList ++ ['\n']

/-- Files hold integers of sixty-four bits with a sign. -/
def secondsLine? (name : String) (secs : UInt64) : Option (List Char) :=
  if secs.toNat ≤ 9223372036854775807 then
    some (name.toList ++ " = ".toList ++ Decimal.digits secs.toNat ++ ['\n'])
  else none

def writeSite (site : Site) : List Char :=
  "[challenge]\n".toList ++ textLine "base_url" site.baseUrl ++
    textLine "start_path" site.startPath ++ textLine "submit_path" site.submitPath ++
    textLine "display_name" site.displayName ++ textLine "tile_class" site.tileClass ++
    textLine "token_attribute" site.tokenAttribute

def writeClient? (client : Client) : Option (List Char) := do
  let timeout ← secondsLine? "timeout_secs" client.timeoutSecs
  return "[http]\n".toList ++ timeout ++ textLine "user_agent" client.userAgent

def writeOptional? (write : α → Option (List Char)) : Option α → Option (List Char)
  | none => some []
  | some a => write a

def writeChannel? (channel : Channel) : Option (List Char) := do
  let url ← writeOptional? (some ∘ textLine "url") channel.url
  let urlVariable ← writeOptional? (some ∘ textLine "url_env") channel.urlVariable
  let connect ← secondsLine? "connect_timeout_secs" channel.connectTimeoutSecs
  let idle ← writeOptional? (secondsLine? "idle_timeout_secs") channel.idleTimeoutSecs
  return "\n[channel]\n".toList ++ url ++ urlVariable ++ connect ++ idle

def write? (s : Settings) : Option String := do
  let client ← writeClient? s.client
  let channel ← writeOptional? writeChannel? s.channel
  return String.ofList (writeSite s.site ++ ['\n'] ++ client ++ channel)

end TilePuzzle.Settings
