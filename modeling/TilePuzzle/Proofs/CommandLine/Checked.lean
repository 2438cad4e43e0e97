import TilePuzzle.Proofs.CommandLine.Stages
import TilePuzzle.Proofs.Scrape.Course
import TilePuzzle.Proofs.Url.Join

namespace TilePuzzle

variable {e : ChannelError} {env : Environment} {url : String}

namespace Settings

variable {s : Settings} {channel : Channel}

def IsBlank (text : String) : Prop :=
  ∀ c ∈ text.toList, Text.isSpace c = true

instance (text : String) : Decidable (IsBlank text) :=
  inferInstanceAs (Decidable (∀ c ∈ text.toList, Text.isSpace c = true))

theorem Site.checkText_eq_ok_iff {field text : String} :
    Site.checkText field text = .ok () ↔ ¬IsBlank text := by
  rw [checkText, IsBlank, ← List.all_eq_true]
  split_ifs with h
  · exact iff_of_false nofun (not_not_intro h)
  · exact iff_of_true rfl h

theorem check_rename (h : s.check = .ok ()) (name : String) :
    (s.renamed (some name)).check = Site.checkText "display_name" name := by
  simp only [check, Site.check, bind_eq_ok_iff] at h
  obtain ⟨_, ⟨_, hb, _, hs, _, hp, _, -, _, ht, ha⟩, _, hc, hn⟩ := h
  have hb' : (s.renamed (some name)).site.checkBase = .ok () := hb
  simp only [check, Site.check, hb']
  simp only [renamed, hs, hp, ht, ha, hc, hn]
  cases Site.checkText "display_name" name <;> rfl

theorem check_renamed_eq_error_iff (h : s.check = .ok ()) {name : Option String}
    {fault : SettingsFault} : (s.renamed name).check = .error fault ↔
      fault = .blank "display_name" ∧ ∃ n ∈ name, IsBlank n := by
  cases name with
  | none =>
      rw [renamed, h]
      constructor
      · rintro ⟨⟩
      · rintro ⟨-, _, ⟨⟩, -⟩
  | some name =>
      rw [check_rename h]
      cases ht : Site.checkText "display_name" name with
      | ok =>
          constructor
          · rintro ⟨⟩
          · rintro ⟨-, _, ⟨⟩, hb⟩
            exact absurd hb (Site.checkText_eq_ok_iff.1 ht)
      | error fault' =>
          have hb : IsBlank name := by
            by_contra hb
            rw [Site.checkText_eq_ok_iff.2 hb] at ht
            cases ht
          rw [Site.checkText, if_pos (List.all_eq_true.2 hb)] at ht
          cases ht
          rw [Except.error.injEq]
          exact ⟨fun h => ⟨h.symm, name, rfl, hb⟩, fun h => h.1.symm⟩

theorem channel_check_of_check (h : s.check = .ok ()) : ∀ c ∈ s.channel, c.check = .ok () := by
  simp only [check, bind_eq_ok_iff] at h
  obtain ⟨_, -, _, -, hc⟩ := h
  rintro c hm
  rw [Option.mem_def.1 hm] at hc
  exact hc

namespace Channel

inductive Resolves (channel : Channel) (env : Environment) : Except SettingsError String → Prop
  | given {url : String} (hu : channel.url = some url) (hc : checkUrl url = .ok ()) :
      Resolves channel env (.ok url)
  | found {name url : String} (hu : channel.url = none) (hn : channel.urlVariable = some name)
      (he : env.get? name = some url) : Resolves channel env (.ok url)
  | missing {name : String} (hu : channel.url = none) (hn : channel.urlVariable = some name)
      (he : env.get? name = none) : Resolves channel env (.error (.variableNotFound name))

theorem resolveUrl_of_url (h : channel.url = some url) (env : Environment) :
    channel.resolveUrl env = .ok url := by
  rw [resolveUrl, h]

theorem resolveUrl_of_variable {name : String} (hu : channel.url = none)
    (hn : channel.urlVariable = some name) (env : Environment) : channel.resolveUrl env =
      match env.get? name with
      | some url => .ok url
      | none => .error (.variableNotFound name) := by
  cases hv : env.get? name <;> simp only [resolveUrl, hu, hn, hv]

theorem resolves_of_check (h : channel.check = .ok ()) (env : Environment) :
    channel.Resolves env (channel.resolveUrl env) := by
  cases hu : channel.url with
  | some url =>
      simp only [check, hu, bind_eq_ok_iff] at h
      obtain ⟨_, hc, -⟩ := h
      rw [resolveUrl_of_url hu]
      exact .given hu hc
  | none =>
      cases hn : channel.urlVariable with
      | some name =>
          rw [resolveUrl_of_variable hu hn]
          cases he : env.get? name with
          | some url => exact .found hu hn he
          | none => exact .missing hu hn he
      | none =>
          simp only [check, hu, hn, bind_eq_ok_iff] at h
          obtain ⟨_, hc, -⟩ := h
          cases hc

theorem checkUrl_eq_ok_iff : checkUrl url = .ok () ↔
    ∃ parsed, Url.parse url = .ok parsed ∧ parsed.isChannel = true := by
  rw [checkUrl]
  cases hp : Url.parse url with
  | error => exact iff_of_false nofun fun ⟨_, h, _⟩ => nomatch h
  | ok parsed => simp

end Channel

end Settings

/-- Tells whether a connection was not attempted, for want of a URL that a channel may have. -/
def ChannelError.IsUrlFault : ChannelError → Prop
  | .malformedUrl _ _ | .foreignScheme _ => True
  | _ => False

namespace Socket

theorem checkUrl_eq_ok_iff :
    Socket.checkUrl url = .ok () ↔ Settings.Channel.checkUrl url = .ok () := by
  rw [Settings.Channel.checkUrl_eq_ok_iff, checkUrl]
  cases hp : Url.parse url with
  | error => exact iff_of_false nofun fun ⟨_, h, _⟩ => nomatch h
  | ok parsed => simp

theorem connect_eq_urlFault_iff (he : e.IsUrlFault) (peer : String → Handshake) (url : String)
    (timeoutSecs : UInt64) :
    connect peer url timeoutSecs = .error e ↔ Socket.checkUrl url = .error e := by
  rw [connect]
  cases hc : Socket.checkUrl url with
  | error => simp
  | ok =>
      refine iff_of_false (fun h => ?_) (by rintro ⟨⟩)
      cases hp : peer url with
      | accepted =>
          simp only [hp] at h
          cases h
      | failed | silent =>
          simp only [hp] at h
          cases h
          exact he

theorem next_eq_failed {s : Socket} (h : s.next.1 = .failed e) : ∃ fault, e = .socket fault := by
  obtain ⟨rest, ⟨raw, hn⟩ | ⟨fault, hn⟩ | hn | ⟨-, hn⟩⟩ := s.next_cases
  · cases (congrArg Prod.fst hn).symm.trans h
  · cases (congrArg Prod.fst hn).symm.trans h
    exact ⟨fault, rfl⟩
  · cases (congrArg Prod.fst hn).symm.trans h
  · cases (congrArg Prod.fst hn).symm.trans h

end Socket

namespace Session

variable {σ : Type} [FrameChannel σ]

theorem pump_eq_error {P : ChannelError → Prop}
    (hP : ∀ (channel : σ) (e : ChannelError), (FrameChannel.next channel).1 = .failed e → P e)
    {s : Session σ} (h : s.pump.1 = .error e) : P e := by
  induction s using pump_induction with
  | stopped s hm =>
      rw [pump_of_terminated hm] at h
      cases h
  | frame s raw channel hm hn ih =>
      rw [pump_of_frame hm hn] at h
      exact ih h
  | last s reading channel hm hn hl =>
      rw [pump_of_last hm hn hl] at h
      cases reading with
      | failed =>
          cases h
          exact hP s.channel e (by rw [hn])
      | frame | closed | idle => cases h

theorem run_socket_eq_error {socket : Socket} (h : (run socket).1 = .error e) :
    ∃ fault, e = .socket fault := by
  rw [run_eq] at h
  cases hp : (pump { channel := socket }).1 with
  | ok => rw [hp] at h; cases h
  | error =>
      rw [hp] at h
      cases h
      exact pump_eq_error (fun _ _ => Socket.next_eq_failed) hp

end Session

namespace CommandLine

variable {network : Network} {s : Settings} {slug : String} {name : Option String}

def OfScrape : SolverError → Prop
  | .derive _ | .scrape _ | .unknownScraper _ => True
  | _ => False

theorem ofScrape_startVisit {client : Settings.Client} {e : SolverError}
    (h : startVisit slug client = .error e) : OfScrape e := by
  cases hr : Scrape.isRegistered slug with
  | false =>
      rw [startVisit_of_not_registered hr] at h
      cases h
      trivial
  | true =>
      rw [startVisit, Scrape.visit?, if_pos hr] at h
      cases hv : Http.Visit.start client.userAgent with
      | ok => simp [hv] at h
      | error =>
          simp only [hv] at h
          cases h
          trivial

theorem ofScrape_run {server : Http.Server} {site : Settings.Site} {v : Http.Visit}
    {e : SolverError} (h : (Scrape.run server site v).1 = .error e) : OfScrape e := by
  obtain ⟨start, submission, -, hc⟩ := Scrape.run_course server site v
  rw [h] at hc
  cases hc <;> trivial

theorem solve_cases (network : Network) (env : Environment) (hs : s.check = .ok ()) (slug : String)
    (name : Option String) :
    (∃ fault, (s.renamed name).check = .error fault ∧
      (solve network env s slug name).result = .error (.settings (.invalid fault))) ∨
    (∃ e, OfScrape e ∧ (∀ page, ¬Scrapes network.server (s.renamed name) slug page) ∧
      (solve network env s slug name).result = .error e) ∨
    ∃ page, Scrapes network.server (s.renamed name) slug page ∧
      (solve network env s slug name).result =
        (afterScrape network.peer env (s.renamed name).channel).result := by
  cases hc : (s.renamed name).check with
  | error fault =>
      refine .inl ⟨fault, rfl, ?_⟩
      simp only [solve, override_eq hs, hc]
  | ok =>
      refine .inr ?_
      by_cases hp : ∃ page, Scrapes network.server (s.renamed name) slug page
      · obtain ⟨page, hp⟩ := hp
        obtain ⟨records, exchanges, he⟩ := solve_of_scrapes env hs hp
        exact .inr ⟨page, hp, by rw [he network rfl]⟩
      · have hn : ∀ page, ¬Scrapes network.server (s.renamed name) slug page :=
          fun page h => hp ⟨page, h⟩
        refine .inl ?_
        cases hv : startVisit slug (s.renamed name).client with
        | error e =>
            refine ⟨e, ofScrape_startVisit hv, hn, ?_⟩
            simp only [solve, override_eq hs, hc, hv]
        | ok v =>
            rcases hr : Scrape.run network.server (s.renamed name).site v with ⟨e | page, v'⟩
            · refine ⟨e, ofScrape_run (by rw [hr]), hn, ?_⟩
              simp only [solve, override_eq hs, hc, hv, hr]
            · exact absurd ⟨hc, v, hv, by rw [hr]⟩ (hn page)

section

variable {peer : String → Socket.Handshake} {channel : Settings.Channel}

theorem answerFrames_eq_settings_iff {fault : SettingsError} :
    (answerFrames peer env channel).result = .error (.settings fault) ↔
      channel.resolveUrl env = .error fault := by
  cases hu : channel.resolveUrl env with
  | error => simp [answerFrames, hu]
  | ok url =>
      refine iff_of_false ?_ (by rintro ⟨⟩)
      intro h
      cases hc : Socket.connect peer url channel.connectTimeoutSecs with
      | error =>
          simp only [answerFrames, hu, hc] at h
          cases h
      | ok socket =>
          rcases answerFrames_of_connects ⟨url, hu, hc⟩ with
            ⟨-, hr, -⟩ | ⟨-, ⟨e, -, hr, -⟩ | ⟨o, -, hr, -⟩⟩
          all_goals cases h.symm.trans hr

theorem answerFrames_eq_urlFault_iff (he : e.IsUrlFault) :
    (answerFrames peer env channel).result = .error (.channel e) ↔
      ∃ url, channel.resolveUrl env = .ok url ∧ Socket.checkUrl url = .error e := by
  cases hu : channel.resolveUrl env with
  | error =>
      rw [answerFrames, hu]
      constructor
      · rintro ⟨⟩
      · rintro ⟨_, ⟨⟩, -⟩
  | ok url =>
      have hf := Socket.connect_eq_urlFault_iff he peer url channel.connectTimeoutSecs
      simp only [Except.ok.injEq, exists_eq_left', ← hf]
      cases hc : Socket.connect peer url channel.connectTimeoutSecs with
      | error => simp [answerFrames, hu, hc]
      | ok socket =>
          refine iff_of_false ?_ (by rintro ⟨⟩)
          intro h
          rcases answerFrames_of_connects ⟨url, hu, hc⟩ with
            ⟨-, hr, -⟩ | ⟨-, ⟨e', hf, hr, -⟩ | ⟨o, -, hr, -⟩⟩
          · cases h.symm.trans hr
          · cases h.symm.trans hr
            obtain ⟨fault, rfl⟩ := Session.run_socket_eq_error hf
            exact he
          · cases h.symm.trans hr

theorem afterScrape_eq_settings_iff {channels : Option Settings.Channel}
    (h : ∀ c ∈ channels, c.check = .ok ()) {fault : SettingsError} :
    (afterScrape peer env channels).result = .error (.settings fault) ↔
      ∃ c ∈ channels, ∃ v, c.url = none ∧ c.urlVariable = some v ∧ env.get? v = none ∧
        fault = .variableNotFound v := by
  cases channels with
  | none => exact iff_of_false nofun fun ⟨_, h, _⟩ => nomatch h
  | some channel =>
      have hr := Settings.Channel.resolves_of_check (h channel rfl) env
      rw [afterScrape, answerFrames_eq_settings_iff]
      constructor
      · intro hf
        rw [hf] at hr
        cases hr with
        | missing hu hn he => exact ⟨channel, rfl, _, hu, hn, he, rfl⟩
      · rintro ⟨_, ⟨⟩, v, hu, hn, he, rfl⟩
        rw [Settings.Channel.resolveUrl_of_variable hu hn, he]

theorem afterScrape_eq_urlFault_iff {channels : Option Settings.Channel}
    (h : ∀ c ∈ channels, c.check = .ok ()) (he : e.IsUrlFault) :
    (afterScrape peer env channels).result = .error (.channel e) ↔
      ∃ c ∈ channels, ∃ v url, c.url = none ∧ c.urlVariable = some v ∧ env.get? v = some url ∧
        Socket.checkUrl url = .error e := by
  cases channels with
  | none => exact iff_of_false nofun fun ⟨_, h, _⟩ => nomatch h
  | some channel =>
      have hr := Settings.Channel.resolves_of_check (h channel rfl) env
      rw [afterScrape, answerFrames_eq_urlFault_iff he]
      constructor
      · rintro ⟨url, hu, hf⟩
        rw [hu] at hr
        cases hr with
        -- The URL in the settings was found to be one when they were checked.
        | given _ hc =>
            rw [Socket.checkUrl_eq_ok_iff.2 hc] at hf
            cases hf
        | found hu hn he => exact ⟨channel, rfl, _, url, hu, hn, he, hf⟩
      · rintro ⟨_, ⟨⟩, v, url, hu, hn, he, hf⟩
        refine ⟨url, ?_, hf⟩
        rw [Settings.Channel.resolveUrl_of_variable hu hn, he]

end

theorem renamed_channel (s : Settings) (name : Option String) :
    (s.renamed name).channel = s.channel := by
  cases name <;> rfl

theorem solve_eq_invalid_iff (network : Network) (env : Environment) (hs : s.check = .ok ())
    {fault : SettingsFault} :
    (solve network env s slug name).result = .error (.settings (.invalid fault)) ↔
      (s.renamed name).check = .error fault := by
  constructor
  · intro h
    obtain ⟨fault', hc, hr⟩ | ⟨e, he, -, hr⟩ | ⟨page, -, hr⟩ :=
      solve_cases network env hs slug name
    · rw [h] at hr
      cases hr
      exact hc
    · rw [h] at hr
      cases hr
      exact he.elim
    · rw [h, renamed_channel, eq_comm,
        afterScrape_eq_settings_iff (Settings.channel_check_of_check hs)] at hr
      obtain ⟨_, -, _, -, -, -, hf⟩ := hr
      cases hf
  · intro hc
    simp only [solve, override_eq hs, hc]

/-- Failures of the stages after the scrape come from nowhere else. -/
theorem solve_eq_error_iff (network : Network) (env : Environment) (hs : s.check = .ok ())
    (slug : String) (name : Option String) {e : SolverError} (hn : ¬OfScrape e)
    (hi : ∀ fault, e ≠ .settings (.invalid fault)) :
    (solve network env s slug name).result = .error e ↔
      (∃ page, Scrapes network.server (s.renamed name) slug page) ∧
        (afterScrape network.peer env s.channel).result = .error e := by
  rw [← renamed_channel s name]
  constructor
  · intro h
    obtain ⟨fault, -, hr⟩ | ⟨e', he, -, hr⟩ | ⟨page, hp, hr⟩ :=
      solve_cases network env hs slug name
    · rw [h] at hr
      cases hr
      exact absurd rfl (hi fault)
    · rw [h] at hr
      cases hr
      exact absurd he hn
    · exact ⟨⟨page, hp⟩, hr.symm.trans h⟩
  · rintro ⟨⟨page, hp⟩, h⟩
    obtain ⟨records, exchanges, he⟩ := solve_of_scrapes env hs hp
    rw [he network rfl]
    exact h

/-- A run under checked settings finds a fault in them only if it is given a blank name. It misses a
variable, or refuses a URL, only after a scrape and only where the channel takes its URL from a
variable: one that is not set to any text, or one that is set to something else than such a URL.
Settings and sockets take the same URLs, a URL in the settings goes before a variable, and a name
that is not blank keeps checked settings as they are. -/
theorem solve_trusts_checked_settings (network : Network) (env : Environment)
    (hs : s.check = .ok ()) (slug : String) (name : Option String) :
    let result := (solve network env s slug name).result
    let scrapes := ∃ page, Scrapes network.server (s.renamed name) slug page
    (∀ fault, result = .error (.settings (.invalid fault)) ↔
      fault = .blank "display_name" ∧ ∃ n ∈ name, Settings.IsBlank n) ∧
    (∀ v, result = .error (.settings (.variableNotFound v)) ↔
      scrapes ∧ ∃ c ∈ s.channel, c.url = none ∧ c.urlVariable = some v ∧ env.get? v = none) ∧
    (∀ e : ChannelError, e.IsUrlFault → (result = .error (.channel e) ↔
      scrapes ∧ ∃ c ∈ s.channel, ∃ v url, c.url = none ∧ c.urlVariable = some v ∧
        env.get? v = some url ∧ Socket.checkUrl url = .error e)) ∧
    (∀ url, Settings.Channel.checkUrl url = .ok () ↔ Socket.checkUrl url = .ok ()) ∧
    (∀ (c : Settings.Channel) (url : String) (env : Environment),
      c.url = some url → c.resolveUrl env = .ok url) ∧
    ∀ n, ¬Settings.IsBlank n → (s.renamed (some n)).check = .ok () := by
  intro result scrapes
  have hc := Settings.channel_check_of_check hs
  refine ⟨fun fault => ?_, fun v => ?_, fun e he => ?_,
    fun url => Socket.checkUrl_eq_ok_iff.symm,
    fun c url env h => Settings.Channel.resolveUrl_of_url h env,
    fun n hn => (Settings.check_rename hs n).trans (Settings.Site.checkText_eq_ok_iff.2 hn)⟩
  · rw [solve_eq_invalid_iff network env hs, Settings.check_renamed_eq_error_iff hs]
  · have hr := solve_eq_error_iff network env hs slug name
      (e := .settings (.variableNotFound v)) id (fun _ => nofun)
    rw [hr, afterScrape_eq_settings_iff hc]
    simp only [SettingsError.variableNotFound.injEq]
    refine and_congr_right fun _ => exists_congr fun c => and_congr_right fun _ => ?_
    constructor
    · rintro ⟨_, hu, hn, he, rfl⟩
      exact ⟨hu, hn, he⟩
    · rintro ⟨hu, hn, he⟩
      exact ⟨v, hu, hn, he, rfl⟩
  · have hr := solve_eq_error_iff network env hs slug name
      (e := .channel e) id (fun _ => nofun)
    rw [hr, afterScrape_eq_urlFault_iff hc he]

/-- The URL in the variable is found not to be one of a channel, and a blank name is refused. -/
theorem solve_trusts_checked_settings_variable :
    let page (text : String) : Http.Response :=
      { status := 200, reason := "OK", body := Utf8.encode text.toList }
    let network : Network :=
      { server requests := if requests.length = 1 then
          some (page "<p class=number-box data=x>8</p>") else some (page "ok")
        peer _ := .silent }
    let env : Environment := [("CHANNEL", "http://[::1]")]
    let channel : Settings.Channel := { urlVariable := some "CHANNEL" }
    let s : Settings := { site := { baseUrl := "http://[::1]" }, channel := some channel }
    s.check = .ok () ∧
    (solve network env s "challenge" none).result =
      .error (.channel (.foreignScheme "http://[::1]")) ∧
    (∃ page, Scrapes network.server s "challenge" page) ∧
    (solve network env s "challenge" (some "\t")).result =
      .error (.settings (.invalid (.blank "display_name"))) := by
  intro page network env channel s
  have hs : s.check = .ok () := by decide +kernel
  have hr : (solve network env s "challenge" none).result =
      .error (.channel (.foreignScheme "http://[::1]")) := by decide +kernel
  obtain ⟨-, -, hu, -⟩ := solve_trusts_checked_settings network env hs "challenge" none
  obtain ⟨hn, -⟩ := solve_trusts_checked_settings network env hs "challenge" (some "\t")
  have hb : Settings.IsBlank "\t" := by
    intro c hc
    obtain rfl : c = '\t' := by simpa using hc
    decide
  exact ⟨hs, hr, ((hu (.foreignScheme _) trivial).1 hr).1, (hn _).2 ⟨rfl, "\t", rfl, hb⟩⟩

end CommandLine

end TilePuzzle
