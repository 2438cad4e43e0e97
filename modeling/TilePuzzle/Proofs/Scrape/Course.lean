import TilePuzzle.Proofs.Http.Chain
import TilePuzzle.Scrape

namespace TilePuzzle.Scrape

open Http

variable {server : Server} {site : Settings.Site} {past : List Request}
variable {start submission : List Exchange} {tiles : List Tile} {v : Visit}

def Opens (server : Server) (site : Settings.Site) (past : List Request) (start : List Exchange)
    (result : Except Fault Http.Page) : Prop :=
  ∃ url, site.endpoint site.startPath = .ok url ∧
    Fetches server Visit.maxRedirects past (withoutCredentials url) start result

def Shows (server : Server) (site : Settings.Site) (past : List Request) (start : List Exchange)
    (tiles : List Tile) : Prop :=
  ∃ page, Opens server site past start (.ok page) ∧
    Page.tiles page.text site.tileClass site.tokenAttribute = .ok tiles

/-- What a scrape does after some requests: its exchanges for the start page and for the
submission, and what comes of it. -/
inductive Course (server : Server) (site : Settings.Site) (past : List Request) :
    List Exchange → List Exchange → Except SolverError Outcome → Prop
  | noStart {e : UrlError} (hu : site.endpoint site.startPath = .error e) :
      Course server site past [] [] (.error (.scrape (.invalidUrl e)))
  | notFetched {start : List Exchange} {fault : Fault}
      (hs : Opens server site past start (.error fault)) :
      Course server site past start [] (.error (.scrape (.http fault)))
  | noTiles {start : List Exchange} {page : Http.Page} {e : Page.TileError}
      (hs : Opens server site past start (.ok page))
      (ht : Page.tiles page.text site.tileClass site.tokenAttribute = .error e) :
      Course server site past start [] (.error (.scrape (.tiles e)))
  | noAnswer {start : List Exchange} {tiles : List Tile} {e : DeriveError}
      (hs : Shows server site past start tiles) (hd : Derivation.ofTiles tiles = .error e) :
      Course server site past start [] (.error (.derive e))
  | noSubmission {start : List Exchange} {tiles : List Tile} {d : Derivation} {e : UrlError}
      (hs : Shows server site past start tiles) (hd : Derivation.ofTiles tiles = .ok d)
      (hu : site.submissionUrl d.answer = .error e) :
      Course server site past start [] (.error (.scrape (.invalidUrl e)))
  | notSubmitted {start submission : List Exchange} {tiles : List Tile} {d : Derivation} {url : Url}
      {fault : Fault} (hs : Shows server site past start tiles)
      (hd : Derivation.ofTiles tiles = .ok d) (hu : site.submissionUrl d.answer = .ok url)
      (hf : Fetches server Visit.maxRedirects (past ++ start.map Exchange.request)
        (withoutCredentials url) submission (.error fault)) :
      Course server site past start submission (.error (.scrape (.http fault)))
  | submitted {start submission : List Exchange} {tiles : List Tile} {d : Derivation} {url : Url}
      {page : Http.Page} (hs : Shows server site past start tiles)
      (hd : Derivation.ofTiles tiles = .ok d) (hu : site.submissionUrl d.answer = .ok url)
      (hf : Fetches server Visit.maxRedirects (past ++ start.map Exchange.request)
        (withoutCredentials url) submission (.ok page)) :
      Course server site past start submission
        (.ok ⟨tiles, d.answer, ⟨toString page.url, Page.text page.text⟩⟩)

theorem fetchTiles_course (server : Server) (site : Settings.Site) (v : Visit) :
    ∃ start, (fetchTiles server site v).2.exchanges = v.exchanges ++ start ∧
      ((∃ tiles, Shows server site v.requests start tiles ∧
          (fetchTiles server site v).1 = .ok tiles) ∨
        ∃ e, Course server site v.requests start [] (.error (.scrape e)) ∧
          (fetchTiles server site v).1 = .error e) := by
  cases hu : site.endpoint site.startPath with
  | error e =>
      rw [fetchTiles, hu, getPage]
      exact ⟨[], (List.append_nil _).symm, .inr ⟨_, .noStart hu, rfl⟩⟩
  | ok url =>
      obtain ⟨start, hs, hf⟩ := Visit.fetches_get server v url
      rw [fetchTiles, hu, getPage]
      rcases hg : v.get server url with ⟨fault | page, v'⟩
      · rw [hg] at hs hf
        exact ⟨start, hs, .inr ⟨_, .notFetched ⟨url, hu, hf⟩, rfl⟩⟩
      · rw [hg] at hs hf
        cases ht : Page.tiles page.text site.tileClass site.tokenAttribute with
        | error e =>
            simp only [ht]
            exact ⟨start, hs, .inr ⟨_, .noTiles ⟨url, hu, hf⟩ ht, rfl⟩⟩
        | ok tiles =>
            simp only [ht]
            exact ⟨start, hs, .inl ⟨tiles, ⟨page, ⟨url, hu, hf⟩, ht⟩, rfl⟩⟩

theorem answerTiles_course (hs : Shows server site past start tiles)
    (hv : v.requests = past ++ start.map Exchange.request) :
    ∃ submission, (answerTiles server site tiles v).2.exchanges = v.exchanges ++ submission ∧
      Course server site past start submission (answerTiles server site tiles v).1 := by
  cases hd : Derivation.ofTiles tiles with
  | error e =>
      rw [answerTiles, hd]
      exact ⟨[], (List.append_nil _).symm, .noAnswer hs hd⟩
  | ok d =>
      cases hu : site.submissionUrl d.answer with
      | error e =>
          simp only [answerTiles, hd, submit, hu, getPage]
          exact ⟨[], (List.append_nil _).symm, .noSubmission hs hd hu⟩
      | ok url =>
          -- The note in between makes no request.
          obtain ⟨submission, he, hf⟩ :=
            Visit.fetches_get server (v.note .info "Derived answer") url
          have hf' : Fetches server Visit.maxRedirects (past ++ start.map Exchange.request)
              (withoutCredentials url) submission
              ((v.note .info "Derived answer").get server url).1 := hv ▸ hf
          simp only [answerTiles, hd, submit, hu, getPage]
          rcases hg : (v.note .info "Derived answer").get server url with ⟨fault | page, v'⟩
          · rw [hg] at he hf'
            exact ⟨submission, he, .notSubmitted hs hd hu hf'⟩
          · rw [hg] at he hf'
            exact ⟨submission, he, .submitted hs hd hu hf'⟩

theorem Course.submission_of_ne_nil {result : Except SolverError Outcome}
    (h : Course server site past start submission result) (hn : submission ≠ []) :
    ∃ tiles d url, Shows server site past start tiles ∧ Derivation.ofTiles tiles = .ok d ∧
      site.submissionUrl d.answer = .ok url ∧ Chain (withoutCredentials url) submission := by
  cases h with
  | noStart | notFetched | noTiles | noAnswer | noSubmission => exact absurd rfl hn
  | notSubmitted hs hd hu hf | submitted hs hd hu hf => exact ⟨_, _, _, hs, hd, hu, hf.chain⟩

theorem Course.start_url {result : Except SolverError Outcome}
    (h : Course server site past start submission result) :
    ∀ e ∈ start.head?, ∃ url, site.endpoint site.startPath = .ok url ∧
      e.request.url = withoutCredentials url := by
  cases h with
  | noStart => exact nofun
  | notFetched hs | noTiles hs =>
      obtain ⟨url, hu, hf⟩ := hs
      exact fun e he => ⟨url, hu, hf.chain.head?_url e he⟩
  | noAnswer hs | noSubmission hs | notSubmitted hs | submitted hs =>
      obtain ⟨_, ⟨url, hu, hf⟩, -⟩ := hs
      exact fun e he => ⟨url, hu, hf.chain.head?_url e he⟩

theorem Course.submission_url {result : Except SolverError Outcome}
    (h : Course server site past start submission result) :
    ∀ e ∈ submission.head?, ∃ answer url, site.submissionUrl answer = .ok url ∧
      e.request.url = withoutCredentials url := by
  intro e he
  have hn : submission ≠ [] := by
    rintro rfl
    cases he
  obtain ⟨tiles, d, url, -, -, hu, hc⟩ := h.submission_of_ne_nil hn
  exact ⟨d.answer, url, hu, hc.head?_url e he⟩

theorem Course.of_invalidUrl {e : UrlError}
    (h : Course server site past start submission (.error (.scrape (.invalidUrl e)))) :
    site.endpoint site.startPath = .error e ∨ ∃ answer, site.submissionUrl answer = .error e := by
  cases h with
  | noStart hu => exact .inl hu
  | noSubmission hs hd hu => exact .inr ⟨_, hu⟩

theorem run_course (server : Server) (site : Settings.Site) (v : Visit) :
    ∃ start submission,
      (run server site v).2.exchanges = v.exchanges ++ start ++ submission ∧
      Course server site v.requests start submission (run server site v).1 := by
  obtain ⟨start, he, ⟨tiles, hs, hr⟩ | ⟨e, hc, hr⟩⟩ := fetchTiles_course server site v
  · rcases hf : fetchTiles server site v with ⟨result, v'⟩
    rw [hf] at he hr
    cases hr
    have hv : v'.requests = v.requests ++ start.map Exchange.request := by
      rw [Visit.requests, he, List.map_append]
      rfl
    obtain ⟨submission, he', hc⟩ := answerTiles_course hs hv
    rw [run, hf]
    exact ⟨start, submission, he'.trans (congrArg (· ++ submission) he), hc⟩
  · rcases hf : fetchTiles server site v with ⟨result, v'⟩
    rw [hf] at he hr
    cases hr
    rw [run, hf]
    exact ⟨start, [], he.trans (List.append_nil _).symm, hc⟩

end TilePuzzle.Scrape
