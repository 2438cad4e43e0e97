import TilePuzzle.CommandLine.Execute
import TilePuzzle.Proofs.Session.Result
import TilePuzzle.Proofs.Session.Socket
import TilePuzzle.Proofs.Settings.Default

namespace TilePuzzle

def Settings.renamed (s : Settings) : Option String → Settings
  | none => s
  | some name => { s with site := { s.site with displayName := name } }

namespace CommandLine

variable {network : Network} {server : Http.Server} {peer : String → Socket.Handshake}
variable {env : Environment} {channel : Settings.Channel} {s s₀ : Settings} {slug : String}
variable {name : Option String} {page : Scrape.Outcome} {o : Session.Outcome}

def Admits (s : Settings) (slug : String) : Prop :=
  s.check = .ok () ∧ Scrape.isRegistered slug = true

/-- The stages up to the scrape succeed: the settings pass, the visit starts and the scrape leads
to a page. -/
def Scrapes (server : Http.Server) (s : Settings) (slug : String) (page : Scrape.Outcome) : Prop :=
  s.check = .ok () ∧ ∃ v, startVisit slug s.client = .ok v ∧
    (Scrape.run server s.site v).1 = .ok page

/-- The stages up to the session succeed: the channel has a URL and its peer is reached. -/
def Connects (peer : String → Socket.Handshake) (env : Environment) (channel : Settings.Channel)
    (socket : Socket) : Prop :=
  ∃ url, channel.resolveUrl env = .ok url ∧
    Socket.connect peer url channel.connectTimeoutSecs = .ok socket

/-- The session reads until there is nothing to come, and is to wait for it without end. -/
def Endless (channel : Settings.Channel) (socket : Socket) : Prop :=
  channel.idleTimeoutSecs = none ∧ .read .idle ∈ Session.callsOn socket

def Answers (peer : String → Socket.Handshake) (env : Environment) (channel : Settings.Channel)
    (o : Session.Outcome) : Prop :=
  ∃ socket, Connects peer env channel socket ∧ ¬Endless channel socket ∧
    (Session.run socket).1 = .ok o

def Waits (peer : String → Socket.Handshake) (env : Environment) (channel : Settings.Channel) :
    Prop :=
  ∃ socket, Connects peer env channel socket ∧ Endless channel socket

def ReportsPage (text line : String) : Prop :=
  (line = s!"The scraped output is [{text}]" ↔ text ≠ "") ∧
  (text = "" → line = "Nothing was scraped. Sorry.")

def ReportsSession (submitted : Option String) (line : String) : Prop :=
  ((∃ value : String, line = s!"Submitted result [{value}]") ↔ submitted.isSome) ∧
  (∀ frame ∈ submitted, ∃ value : String, Frame.decode frame = .ok value ∧
    line = s!"Submitted result [{value}]") ∧
  (submitted = none → line = "No result was submitted.")

theorem reportsPage_pageLine (text : String) : ReportsPage text (pageLine text) := by
  by_cases ht : text = ""
  · subst ht
    exact ⟨iff_of_false (by decide) (by decide), fun _ => rfl⟩
  · have hl : pageLine text = s!"The scraped output is [{text}]" := by
      rw [pageLine, if_neg (by simpa using ht)]
    exact ⟨iff_of_true hl ht, fun h => absurd h ht⟩

theorem resultLine_some_ne (value : String) : resultLine (some value) ≠ resultLine none := by
  intro h
  have hl : resultLine (some value) = "Submitted result [" ++ value ++ "]" := rfl
  have hc := congrArg (fun text => text.toList.head?) h
  rw [hl, String.toList_append, String.toList_append, List.append_assoc, List.head?_append] at hc
  cases hc

theorem reportsSession_none : ReportsSession none (resultLine none) :=
  ⟨iff_of_false (fun ⟨value, hl⟩ => resultLine_some_ne value hl.symm) nofun, nofun, fun _ => rfl⟩

theorem Answers.reportsSession (h : Answers peer env channel o) :
    ReportsSession o.submitted (resultLine o.resultValue) := by
  obtain ⟨socket, _, _, hr⟩ := h
  have hs : o.submitted = (Interpreter.emitted (Session.heardOn socket)).getLast? := by
    rw [Session.outcome_of_ok hr]
  cases hf : o.submitted with
  | none =>
      rw [Session.Outcome.resultValue, hf]
      exact reportsSession_none
  | some frame =>
      -- The machine emitted the frame, so that it holds a total and can be decoded.
      obtain ⟨total, -, rfl⟩ := (Interpreter.emitted_run (Session.heardOn socket)).total_of_mem
        (List.mem_of_getLast? (hs.symm.trans hf))
      have hl := congrArg resultLine (Session.resultValue_of_total hf)
      refine ⟨iff_of_true ⟨_, hl⟩ rfl, fun frame he => ?_,
        fun hn => absurd hn (Option.some_ne_none _)⟩
      rw [← Option.mem_some.1 he]
      exact ⟨_, Interpreter.decode_totalFrame total, hl⟩

theorem override_eq (hs : s.check = .ok ()) (name : Option String) : override s name =
    match (s.renamed name).check with
    | .ok () => .ok (s.renamed name)
    | .error fault => .error (.settings (.invalid fault)) := by
  cases name with
  | none => rw [override, Settings.renamed, hs]
  | some name =>
      simp only [override, Settings.renamed]
      split <;> simp_all

theorem startVisit_of_not_registered (hn : Scrape.isRegistered slug = false)
    (client : Settings.Client) : startVisit slug client = .error (.unknownScraper slug) := by
  simp [startVisit, Scrape.visit?, hn]

theorem solve_of_not_admits (env : Environment) (hs : s₀.check = .ok ())
    (hn : ¬Admits (s₀.renamed name) slug) :
    ∃ e, ∀ network, solve network env s₀ slug name = { result := .error e } := by
  cases hc : (s₀.renamed name).check with
  | error fault =>
      refine ⟨.settings (.invalid fault), fun network => ?_⟩
      simp only [solve, override_eq hs, hc]
  | ok =>
      refine ⟨.unknownScraper slug, fun network => ?_⟩
      have hr : Scrape.isRegistered slug = false :=
        Bool.eq_false_of_not_eq_true fun hr => hn ⟨hc, hr⟩
      simp only [solve, override_eq hs, hc, startVisit_of_not_registered hr]

theorem solve_of_not_scrapes (env : Environment) (hs : s₀.check = .ok ())
    (hn : ∀ page, ¬Scrapes server (s₀.renamed name) slug page) :
    ∃ e records exchanges, ∀ network, network.server = server →
      solve network env s₀ slug name = { result := .error e, records, exchanges } := by
  cases hc : (s₀.renamed name).check with
  | error fault =>
      refine ⟨.settings (.invalid fault), [], [], ?_⟩
      rintro network rfl
      simp only [solve, override_eq hs, hc]
  | ok =>
      cases hv : startVisit slug (s₀.renamed name).client with
      | error e =>
          refine ⟨e, [], [], ?_⟩
          rintro network rfl
          simp only [solve, override_eq hs, hc, hv]
      | ok v =>
          rcases hr : Scrape.run server (s₀.renamed name).site v with ⟨e | page, v'⟩
          · refine ⟨e, Scrape.span.around v'.records, v'.exchanges, ?_⟩
            rintro network rfl
            simp only [solve, override_eq hs, hc, hv, hr]
          · exact absurd ⟨hc, v, hv, by rw [hr]⟩ (hn page)

theorem solve_of_scrapes (env : Environment) (hs : s₀.check = .ok ())
    (h : Scrapes server (s₀.renamed name) slug page) :
    ∃ records exchanges, ∀ network, network.server = server → solve network env s₀ slug name =
      let after := afterScrape network.peer env (s₀.renamed name).channel
      { after with
        lines := pageLine page.page.text :: after.lines
        records := records ++ after.records
        exchanges } := by
  obtain ⟨hc, v, hv, hr⟩ := h
  rcases hr' : Scrape.run server (s₀.renamed name).site v with ⟨result, v'⟩
  obtain rfl : result = .ok page := by rw [← hr, hr']
  refine ⟨Scrape.span.around v'.records ++ [note .info "Scrape complete"],
    v'.exchanges, ?_⟩
  rintro network rfl
  simp only [solve, override_eq hs, hc, hv, hr', List.append_assoc, List.singleton_append]

theorem endless_iff {socket : Socket} :
    (channel.idleTimeoutSecs.isNone && Session.waits { channel := socket }) = true ↔
      Endless channel socket := by
  rw [Bool.and_eq_true, Option.isNone_iff_eq_none, Session.waits_iff]
  rfl

theorem Waits.holdsOpen (h : Waits peer env channel) : channel.idleTimeoutSecs = none ∧
    ∃ url socket, peer url = .accepted socket ∧ socket.holdsOpen = true := by
  obtain ⟨socket, ⟨url, -, hc⟩, hi, hw⟩ := h
  refine ⟨hi, url, socket, ?_, Session.holdsOpen_of_waits ((Session.waits_iff socket).2 hw)⟩
  rw [Socket.connect] at hc
  split at hc
  · cases hc
  · split at hc
    next hp =>
      cases hc
      exact hp
    next => cases hc
    next => cases hc

theorem answerFrames_of_connects {socket : Socket} (h : Connects peer env channel socket) :
    let t := answerFrames peer env channel
    (Endless channel socket ∧ t.result = .waiting ∧ t.lines = []) ∨
    (¬Endless channel socket ∧
      ((∃ e, (Session.run socket).1 = .error e ∧ t.result = .error (.channel e) ∧ t.lines = []) ∨
        ∃ o, (Session.run socket).1 = .ok o ∧ t.result = .ok ∧
          t.lines = [resultLine o.resultValue])) := by
  obtain ⟨url, hu, hc⟩ := h
  rw [← endless_iff]
  by_cases he : (channel.idleTimeoutSecs.isNone && Session.waits { channel := socket }) = true
  · refine .inl ⟨he, ?_⟩
    simp only [answerFrames, hu, hc, if_pos he, and_self]
  · refine .inr ⟨he, ?_⟩
    rcases hr : Session.run socket with ⟨e | o, socket'⟩
    · refine .inl ⟨e, rfl, ?_⟩
      simp only [answerFrames, hu, hc, hr, if_neg he, and_self]
    · refine .inr ⟨o, rfl, ?_⟩
      simp only [answerFrames, hu, hc, hr, if_neg he, and_self]

theorem answerFrames_of_answers (h : Answers peer env channel o) :
    (answerFrames peer env channel).result = .ok ∧
      (answerFrames peer env channel).lines = [resultLine o.resultValue] := by
  obtain ⟨socket, hc, he, hr⟩ := h
  rcases answerFrames_of_connects hc with ⟨he', -⟩ | ⟨-, ⟨e, hr', -⟩ | ⟨o', hr', ho⟩⟩
  · exact absurd he' he
  · cases hr.symm.trans hr'
  · cases hr.symm.trans hr'
    exact ho

theorem answerFrames_of_waits (h : Waits peer env channel) :
    (answerFrames peer env channel).result = .waiting ∧
      (answerFrames peer env channel).lines = [] := by
  obtain ⟨socket, hc, he⟩ := h
  rcases answerFrames_of_connects hc with ⟨-, hw⟩ | ⟨he', -⟩
  · exact hw
  · exact absurd he he'

theorem answerFrames_of_fails (hn : ∀ o, ¬Answers peer env channel o)
    (hw : ¬Waits peer env channel) :
    (∃ e, (answerFrames peer env channel).result = .error e) ∧
      (answerFrames peer env channel).lines = [] := by
  cases hu : channel.resolveUrl env with
  | error e =>
      rw [answerFrames, hu]
      exact ⟨⟨_, rfl⟩, rfl⟩
  | ok url =>
      cases hc : Socket.connect peer url channel.connectTimeoutSecs with
      | error e =>
          simp only [answerFrames, hu, hc, and_true]
          exact ⟨_, rfl⟩
      | ok socket =>
          have hs : Connects peer env channel socket := ⟨url, hu, hc⟩
          rcases answerFrames_of_connects hs with ⟨he, -⟩ | ⟨he, ⟨e, -, hr, hl⟩ | ⟨o, hr, -⟩⟩
          · exact absurd ⟨socket, hs, he⟩ hw
          · exact ⟨⟨_, hr⟩, hl⟩
          · exact absurd ⟨socket, hs, he, hr⟩ (hn o)

theorem answerFrames_lines_of_not_answers (hn : ∀ o, ¬Answers peer env channel o) :
    (answerFrames peer env channel).lines = [] := by
  by_cases hw : Waits peer env channel
  · exact (answerFrames_of_waits hw).2
  · exact (answerFrames_of_fails hn hw).2

theorem afterScrape_lines_of_answers {channels : Option Settings.Channel} (hc : channel ∈ channels)
    (h : Answers peer env channel o) :
    (afterScrape peer env channels).lines = [resultLine o.resultValue] := by
  cases hc
  exact (answerFrames_of_answers h).2

theorem afterScrape_lines_of_not_answers {channels : Option Settings.Channel}
    (hn : ∀ c ∈ channels, ∀ o, ¬Answers peer env c o) :
    (afterScrape peer env channels).lines = [] := by
  cases channels with
  | none => rfl
  | some channel => exact answerFrames_lines_of_not_answers (hn channel rfl)

theorem answerFrames_result (peer : String → Socket.Handshake) (env : Environment)
    (channel : Settings.Channel) :
    ((answerFrames peer env channel).result = .ok ↔ ∃ o, Answers peer env channel o) ∧
      ((answerFrames peer env channel).result = .waiting ↔ Waits peer env channel) := by
  by_cases h : ∃ o, Answers peer env channel o
  · obtain ⟨o, ho⟩ := h
    have hr := (answerFrames_of_answers ho).1
    refine ⟨iff_of_true hr ⟨o, ho⟩, iff_of_false (by rw [hr]; exact nofun) fun hw => ?_⟩
    cases hr.symm.trans (answerFrames_of_waits hw).1
  · by_cases hw : Waits peer env channel
    · have hr := (answerFrames_of_waits hw).1
      exact ⟨iff_of_false (by rw [hr]; exact nofun) h, iff_of_true hr hw⟩
    · obtain ⟨⟨e, he⟩, -⟩ := answerFrames_of_fails (fun o ho => h ⟨o, ho⟩) hw
      rw [he]
      exact ⟨iff_of_false nofun h, iff_of_false nofun hw⟩

theorem afterScrape_result (peer : String → Socket.Handshake) (env : Environment)
    (channel : Option Settings.Channel) :
    ((afterScrape peer env channel).result = .ok ↔ ∀ c ∈ channel, ∃ o, Answers peer env c o) ∧
      ((afterScrape peer env channel).result = .waiting ↔ ∃ c ∈ channel, Waits peer env c) := by
  cases channel with
  | none => exact ⟨iff_of_true rfl nofun, iff_of_false nofun nofun⟩
  | some channel =>
      obtain ⟨ho, hw⟩ := answerFrames_result peer env channel
      rw [afterScrape, ho, hw]
      exact ⟨⟨fun h c hc => Option.mem_some.1 hc ▸ h, fun h => h channel rfl⟩,
        ⟨fun h => ⟨channel, rfl, h⟩, fun ⟨_, hc, h⟩ => Option.mem_some.1 hc ▸ h⟩⟩

theorem solve_result (hs : s₀.check = .ok ()) :
    ((solve network env s₀ slug name).result = .ok ↔
      (∃ page, Scrapes network.server (s₀.renamed name) slug page) ∧
        ∀ c ∈ (s₀.renamed name).channel, ∃ o, Answers network.peer env c o) ∧
    ((solve network env s₀ slug name).result = .waiting ↔
      (∃ page, Scrapes network.server (s₀.renamed name) slug page) ∧
        ∃ c ∈ (s₀.renamed name).channel, Waits network.peer env c) := by
  by_cases h : ∃ page, Scrapes network.server (s₀.renamed name) slug page
  · obtain ⟨page, hp⟩ := h
    obtain ⟨records, exchanges, he⟩ := solve_of_scrapes env hs hp
    obtain ⟨ho, hw⟩ := afterScrape_result network.peer env (s₀.renamed name).channel
    rw [he network rfl, ho, hw]
    exact ⟨⟨fun ha => ⟨⟨page, hp⟩, ha⟩, And.right⟩, ⟨fun hw => ⟨⟨page, hp⟩, hw⟩, And.right⟩⟩
  · obtain ⟨e, records, exchanges, he⟩ :=
      solve_of_not_scrapes env hs fun page hp => h ⟨page, hp⟩
    rw [he network rfl]
    exact ⟨iff_of_false nofun fun ha => h ha.1, iff_of_false nofun fun hw => h hw.1⟩

theorem solve_congr_peer (env : Environment) (hs : s₀.check = .ok ())
    (h : (∀ page, ¬Scrapes network.server (s₀.renamed name) slug page) ∨
      (s₀.renamed name).channel = none) :
    (solve network env s₀ slug name).called = none ∧ ∀ peer,
      solve { network with peer } env s₀ slug name = solve network env s₀ slug name := by
  by_cases hp : ∃ page, Scrapes network.server (s₀.renamed name) slug page
  · obtain ⟨page, hp⟩ := hp
    have hc : (s₀.renamed name).channel = none := h.resolve_left fun hn => hn page hp
    obtain ⟨records, exchanges, he⟩ := solve_of_scrapes env hs hp
    rw [hc] at he
    rw [he network rfl]
    exact ⟨rfl, fun peer => he { network with peer } rfl⟩
  · obtain ⟨e, records, exchanges, he⟩ :=
      solve_of_not_scrapes env hs fun page h => hp ⟨page, h⟩
    rw [he network rfl]
    exact ⟨rfl, fun peer => he { network with peer } rfl⟩

theorem solve_lines_of_not_scrapes (hs : s₀.check = .ok ())
    (hn : ∀ page, ¬Scrapes network.server (s₀.renamed name) slug page) :
    (solve network env s₀ slug name).lines = [] := by
  obtain ⟨e, records, exchanges, he⟩ := solve_of_not_scrapes env hs hn
  rw [he network rfl]

theorem solve_lines_of_scrapes (hs : s₀.check = .ok ())
    (h : Scrapes network.server (s₀.renamed name) slug page) :
    (solve network env s₀ slug name).lines = pageLine page.page.text ::
      (afterScrape network.peer env (s₀.renamed name).channel).lines := by
  obtain ⟨records, exchanges, he⟩ := solve_of_scrapes env hs h
  rw [he network rfl]

def givenName (input : Input) (name : Option String) : Option String :=
  name <|> input.env.get? "CHALLENGE_DISPLAY_NAME"

section

variable {input : Input} {path : Option String} {verbosity : Nat}

theorem called_run (hl : Settings.load input.sources path = .ok s₀) :
    (trace input ⟨path, verbosity, .run slug name⟩).called =
      (solve input.network input.env s₀ slug (givenName input name)).called := by
  simp only [trace, hl, perform, givenName]

variable (hp : parse input.args = .ok ⟨path, verbosity, .run slug name⟩)
variable (hl : Settings.load input.sources path = .ok s₀)
include hp hl

theorem execute_run :
    let t := solve input.network input.env s₀ slug (givenName input name)
    (execute input).output = String.join (t.lines.map (· ++ "\n")) ∧
    (execute input).exchanges = t.exchanges := by
  simp only [execute, hp, trace, hl, perform, givenName, and_self]

theorem execute_congr {network : Network}
    (h : solve network input.env s₀ slug (givenName input name) =
      solve input.network input.env s₀ slug (givenName input name)) :
    execute { input with network } = execute input := by
  rw [givenName] at h
  simp only [execute, hp, trace, hl, perform, h]

theorem exit_run :
    let t := solve input.network input.env s₀ slug (givenName input name)
    ((execute input).exit = some 0 ↔ t.result = .ok) ∧
    ((execute input).exit = none ↔ t.result = .waiting) ∧
    ∀ code ∈ (execute input).exit, code = 0 ∨ code = 1 := by
  simp only [execute, hp, trace, hl, perform, givenName]
  cases (solve input.network input.env s₀ slug
      (name <|> input.env.get? "CHALLENGE_DISPLAY_NAME")).result with
  | ok | error | waiting => simp

end

/-- A run succeeds if all stages that apply do. It does not end if its session waits for a frame
without end, for which it takes a channel without a time limit and a peer that holds the connection
open. It asks the site only under settings that pass and a slug that is registered, and calls the
peer of a channel only after a scrape that succeeded and where a channel is set up. It prints nothing
without a page, and otherwise one report of the page and then one of the session, if that returned. -/
theorem run_goes_in_stages {input : Input} {path : Option String} {verbosity : Nat}
    (hp : parse input.args = .ok ⟨path, verbosity, .run slug name⟩)
    (hl : Settings.load input.sources path = .ok s₀) :
    let s := s₀.renamed (givenName input name)
    let report := execute input
    let answers := Answers input.network.peer input.env
    ((report.exit = some 0 ↔ (∃ page, Scrapes input.network.server s slug page) ∧
        ∀ c ∈ s.channel, ∃ o, answers c o) ∧
      (report.exit = none ↔ (∃ page, Scrapes input.network.server s slug page) ∧
        ∃ c ∈ s.channel, Waits input.network.peer input.env c) ∧
      ∀ code ∈ report.exit, code = 0 ∨ code = 1) ∧
    (report.exit = none → ∃ c ∈ s.channel, c.idleTimeoutSecs = none ∧
      ∃ url socket, input.network.peer url = .accepted socket ∧ socket.holdsOpen = true) ∧
    (¬Admits s slug → report.exchanges = [] ∧
      ∀ server, execute { input with network := { input.network with server } } = report) ∧
    ((∀ page, ¬Scrapes input.network.server s slug page) ∨ s.channel = none →
      (trace input ⟨path, verbosity, .run slug name⟩).called = none ∧
      ∀ peer, execute { input with network := { input.network with peer } } = report) ∧
    ((∀ page, ¬Scrapes input.network.server s slug page) → report.output = "") ∧
    ∀ page, Scrapes input.network.server s slug page →
      ∃ line, ReportsPage page.page.text line ∧
        ((∀ c ∈ s.channel, ∀ o, ¬answers c o) → report.output = line ++ "\n") ∧
        ∀ c ∈ s.channel, ∀ o, answers c o →
          ∃ line', ReportsSession o.submitted line' ∧
            report.output = line ++ "\n" ++ (line' ++ "\n") := by
  intro s report answers
  have hs : s₀.check = .ok () := Settings.check_of_load hl
  have hout : report.output = _ := (execute_run hp hl).1
  obtain ⟨hok, hwaits, hcode⟩ := exit_run hp hl
  rw [(solve_result hs).1] at hok
  rw [(solve_result hs).2] at hwaits
  refine ⟨⟨hok, hwaits, hcode⟩, fun he => ?_, fun hn => ?_, fun hn => ?_, fun hn => ?_,
    fun page hpage => ⟨_, reportsPage_pageLine page.page.text, ?_, ?_⟩⟩
  · obtain ⟨-, c, hc, hw⟩ := hwaits.1 he
    exact ⟨c, hc, hw.holdsOpen⟩
  · -- The outcome is the same on all networks, so that no server was asked.
    obtain ⟨e, he⟩ := solve_of_not_admits input.env hs hn
    refine ⟨?_, fun server => execute_congr hp hl ((he _).trans (he _).symm)⟩
    rw [(execute_run hp hl).2, he]
  · obtain ⟨hc, hpeer⟩ := solve_congr_peer input.env hs hn
    exact ⟨(called_run hl).trans hc, fun peer => execute_congr hp hl (hpeer peer)⟩
  · rw [hout, solve_lines_of_not_scrapes hs hn]
    rfl
  · intro hn
    rw [hout, solve_lines_of_scrapes hs hpage, afterScrape_lines_of_not_answers hn]
    rfl
  · intro c hc o ho
    refine ⟨_, ho.reportsSession, ?_⟩
    rw [hout, solve_lines_of_scrapes hs hpage, afterScrape_lines_of_answers hc ho]
    rfl

/-- A run that reaches a site and a peer at addresses of this machine, and one that waits there. -/
theorem run_goes_in_stages_loopback :
    let file := "[challenge]\nbase_url = 'http://[::1]'\n[channel]\nurl = 'ws://[::1]'"
    let page (text : String) : Http.Response :=
      { status := 200, reason := "OK", body := Utf8.encode text.toList }
    let frames := ["STORE 5 a", "STORE -7 a", "END"].map Frame.encode
    let input : Input :=
      { args := ["-c", "solver.toml", "run", "challenge", "--name", "me"]
        sources _ := .file (Utf8.encode file.toList)
        network :=
          { server requests := if requests.length = 1 then
              some (page "<p class=number-box data=x>8</p>") else some (page "ok")
            peer _ := .accepted { incoming := frames.map (.ok <| .text ·) } } }
    let silent : Input :=
      { input with network.peer _ := .accepted { incoming := [], holdsOpen := true } }
    let s : Settings :=
      { site := { baseUrl := "http://[::1]" }, channel := some { url := some "ws://[::1]" } }
    parse input.args = .ok ⟨some "solver.toml", 0, .run "challenge" (some "me")⟩ ∧
    Settings.load input.sources (some "solver.toml") = .ok s ∧
    (execute input).exit = some 0 ∧
    (execute input).output = "The scraped output is [ok]\nSubmitted result [-7]\n" ∧
    (∃ page, Scrapes input.network.server (s.renamed (some "me")) "challenge" page) ∧
    (∃ o, Answers input.network.peer input.env { url := some "ws://[::1]" } o) ∧
    (execute silent).exit = none ∧
    Waits silent.network.peer silent.env { url := some "ws://[::1]" } := by
  intro file page frames input silent s
  have hp : parse input.args = .ok ⟨some "solver.toml", 0, .run "challenge" (some "me")⟩ := by
    decide +kernel
  have hl : Settings.load input.sources (some "solver.toml") = .ok s := by decide +kernel
  have hc : (execute input).exit = some 0 := by decide +kernel
  have hs : (execute silent).exit = none := by decide +kernel
  obtain ⟨hpage, ho⟩ := (run_goes_in_stages hp hl).1.1.1 hc
  have hp' : parse silent.args = .ok ⟨some "solver.toml", 0, .run "challenge" (some "me")⟩ := hp
  obtain ⟨-, _, ⟨⟩, hw⟩ := (run_goes_in_stages hp' hl).1.2.1.1 hs
  exact ⟨hp, hl, hc, by decide +kernel, hpage, ho _ rfl, hs, hw⟩

end CommandLine

end TilePuzzle
