import TilePuzzle.Channel.Basic
import TilePuzzle.Environment
import TilePuzzle.Text.Space

namespace TilePuzzle

inductive SettingsFault
  | baseUrl (url : String) (e : UrlError)
  | baseScheme (url : String)
  | relativePath (field path : String)
  | blank (field : String)
  | httpTimeout
  | channelWithoutUrl
  | channelUrl (url : String) (e : UrlError)
  | channelScheme (url : String)
  | connectTimeout
  deriving Repr, DecidableEq

inductive SettingsError
  | unreadable (cause : String)
  | malformed
  | variableNotFound (name : String)
  | invalid (fault : SettingsFault)
  deriving Repr, DecidableEq

def SettingsFault.message : SettingsFault → String
  | .baseUrl url e => s!"base_url '{url}': {e.message}"
  | .baseScheme url => s!"base_url '{url}' must use http or https"
  | .relativePath field path => s!"{field} '{path}' must start with '/'"
  | .blank field => s!"{field} must not be empty"
  | .httpTimeout => "http timeout_secs must be greater than zero"
  | .channelWithoutUrl => "[channel] requires either url or url_env"
  | .channelUrl url e => s!"channel url '{url}': {e.message}"
  | .channelScheme url => s!"channel url '{url}' must use ws or wss"
  | .connectTimeout => "channel connect_timeout_secs must be greater than zero"

def SettingsError.message : SettingsError → String
  | .unreadable cause => "Failed to read config file: " ++ cause
  | .malformed => "Failed to parse TOML"
  | .variableNotFound name => "Environment variable not found: " ++ name
  | .invalid fault => "Invalid configuration: " ++ fault.message

namespace Settings

structure Site where
  baseUrl : String := "https://challenge.longshotsystems.co.uk"
  startPath : String := "/go"
  submitPath : String := "/submitgo"
  displayName : String := "test"
  tileClass : String := "number-box"
  tokenAttribute : String := "data"
  deriving Repr, DecidableEq

structure Client where
  timeoutSecs : UInt64 := 30
  userAgent : String := "challenge-solver/0.1.0"
  deriving Repr, DecidableEq

structure Channel where
  url : Option String := none
  urlVariable : Option String := none
  connectTimeoutSecs : UInt64 := 10
  idleTimeoutSecs : Option UInt64 := none
  deriving Repr, DecidableEq

namespace Site

def endpoint (site : Site) (path : String) : Except UrlError Url := do
  (← Url.parse site.baseUrl).join path

def submissionUrl (site : Site) (answer : String) : Except UrlError Url := do
  let url ← site.endpoint site.submitPath
  return url.appendPairs
    [("answer".toList, answer.toList), ("name".toList, site.displayName.toList)]

def checkBase (site : Site) : Except SettingsFault Unit :=
  match Url.parse site.baseUrl with
  | .error e => .error (.baseUrl site.baseUrl e)
  | .ok url =>
    if url.isWebPage then .ok ()
    else .error (.baseScheme site.baseUrl)

def checkPath (field path : String) : Except SettingsFault Unit :=
  if path.toList.head? = some '/' then .ok () else .error (.relativePath field path)

def checkText (field text : String) : Except SettingsFault Unit :=
  if text.toList.all Text.isSpace then .error (.blank field) else .ok ()

def check (site : Site) : Except SettingsFault Unit := do
  site.checkBase
  checkPath "start_path" site.startPath
  checkPath "submit_path" site.submitPath
  checkText "display_name" site.displayName
  checkText "tile_class" site.tileClass
  checkText "token_attribute" site.tokenAttribute

end Site

def Client.check (client : Client) : Except SettingsFault Unit :=
  if client.timeoutSecs = 0 then .error .httpTimeout else .ok ()

namespace Channel

/-- The URL of the channel. A variable is looked up only where no URL is given. -/
def resolveUrl (channel : Channel) (env : Environment) : Except SettingsError String :=
  match channel.url, channel.urlVariable with
  | some url, _ => .ok url
  | none, some name =>
    match env.get? name with
    | some url => .ok url
    | none => .error (.variableNotFound name)
  | none, none => .error (.invalid .channelWithoutUrl)

def checkUrl (url : String) : Except SettingsFault Unit :=
  match Url.parse url with
  | .error e => .error (.channelUrl url e)
  | .ok parsed => if parsed.isChannel then .ok () else .error (.channelScheme url)

def check (channel : Channel) : Except SettingsFault Unit := do
  match channel.url, channel.urlVariable with
  | some url, _ => checkUrl url
  | none, some _ => .ok ()
  | none, none => .error .channelWithoutUrl
  if channel.connectTimeoutSecs = 0 then .error .connectTimeout else .ok ()

end Channel

end Settings

structure Settings where
  site : Settings.Site := {}
  client : Settings.Client := {}
  channel : Option Settings.Channel := none
  deriving Repr, DecidableEq

namespace Settings

/-- Reports the first fault: of the site, then of the client, then of the channel. -/
def check (s : Settings) : Except SettingsFault Unit := do
  s.site.check
  s.client.check
  match s.channel with
  | some channel => channel.check
  | none => .ok ()

end Settings

end TilePuzzle
