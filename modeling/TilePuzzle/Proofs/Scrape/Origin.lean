import Mathlib.Control.Monad.Basic
import TilePuzzle.Proofs.Scrape.Course
import TilePuzzle.Proofs.Url.Join

namespace TilePuzzle

open Http Url

namespace Settings.Site

/-- A site whose base is the URL of a page of the web and whose paths start with a slash. -/
structure Grounded (site : Site) (base : Url) : Prop where
  parse : Url.parse site.baseUrl = .ok base
  web : base.isWebPage = true
  rooted : ∀ path ∈ [site.startPath, site.submitPath], path.toList.head? = some '/'

variable {site : Site} {base : Url} {path : String}

theorem exists_of_checkBase (h : site.checkBase = .ok ()) :
    ∃ base, Url.parse site.baseUrl = .ok base ∧ base.isWebPage = true := by
  rw [checkBase] at h
  split at h
  · cases h
  · rename_i base hb
    split at h
    · exact ⟨base, hb, ‹_›⟩
    · cases h

theorem head?_of_checkPath {field : String} (h : checkPath field path = .ok ()) :
    path.toList.head? = some '/' := by
  rw [checkPath] at h
  split at h
  · assumption
  · cases h

theorem grounded_of_check (h : site.check = .ok ()) : ∃ base, site.Grounded base := by
  simp only [check, bind_eq_ok_iff] at h
  obtain ⟨_, hb, _, hs, _, hp, -⟩ := h
  obtain ⟨base, hu, hw⟩ := exists_of_checkBase hb
  refine ⟨base, hu, hw, ?_⟩
  simp only [List.forall_mem_cons]
  exact ⟨head?_of_checkPath hs, head?_of_checkPath hp, nofun⟩

theorem endpoint_of_parse (h : Url.parse site.baseUrl = .ok base) (path : String) :
    site.endpoint path = base.join path := by
  rw [endpoint, h]
  rfl

namespace Grounded

theorem isBase (hg : site.Grounded base) : base.IsBase :=
  isBase_of_isWebPage hg.parse hg.web

theorem endpoint (hg : site.Grounded base) (hp : path ∈ [site.startPath, site.submitPath])
    (hn : namesHost path = false) :
    ∃ url, site.endpoint path = .ok url ∧ url.SameOrigin base := by
  rw [endpoint_of_parse hg.parse]
  exact join_sameOrigin hg.isBase (hg.rooted path hp) hn

theorem submissionUrl (hg : site.Grounded base) (hn : namesHost site.submitPath = false)
    (answer : String) : ∃ url, site.submissionUrl answer = .ok url ∧ url.SameOrigin base := by
  obtain ⟨url, hu, ho⟩ := hg.endpoint (List.mem_cons_of_mem _ (List.mem_singleton_self _)) hn
  rw [Site.submissionUrl, hu]
  exact ⟨_, rfl, (appendPairs_sameOrigin url _).trans ho⟩

end Grounded

theorem endpoint_congr {site' : Site} {base' : Url} (hb : Url.parse site.baseUrl = .ok base)
    (hb' : Url.parse site'.baseUrl = .ok base') (hw : base.isWebPage = true)
    (hs : base.scheme = base'.scheme) (hr : path.toList.head? = some '/')
    (hn : namesHost path = true) : site.endpoint path = site'.endpoint path := by
  have hw' : base'.isWebPage = true := by rwa [isWebPage, ← hs]
  rw [endpoint_of_parse hb, endpoint_of_parse hb']
  exact join_congr (isBase_of_isWebPage hb hw) (isBase_of_isWebPage hb' hw') hs hr hn

def StaysOnSites (path : String) : Prop :=
  ∀ (site : Site) (base : Url), Url.parse site.baseUrl = .ok base → base.isWebPage = true →
    ∃ url, site.endpoint path = .ok url ∧ url.SameOrigin base

theorem staysOnSites_iff (hr : path.toList.head? = some '/') :
    StaysOnSites path ↔ namesHost path = false := by
  constructor
  · intro h
    cases hn : namesHost path with
    | false => rfl
    | true =>
        -- On two sites with the same scheme the path leads to one place, which is not on both.
        let here : Site := { baseUrl := "http://[::1]" }
        let there : Site := { baseUrl := "http://[::2]" }
        let url (n : Nat) : Url :=
          { scheme := "http".toList
            authority := some { host := .ipv6 [0, 0, 0, 0, 0, 0, 0, n] }
            path := .segments [[]] }
        have h1 : Url.parse here.baseUrl = .ok (url 1) := by decide +kernel
        have h2 : Url.parse there.baseUrl = .ok (url 2) := by decide +kernel
        obtain ⟨u, hu, ho⟩ := h here (url 1) h1 rfl
        obtain ⟨w, hw, ho'⟩ := h there (url 2) h2 rfl
        rw [← endpoint_congr h1 h2 rfl rfl hr hn, hu] at hw
        cases hw
        exact absurd (ho.host.symm.trans ho'.host) (by decide)
  · intro hn site base hb hw
    rw [endpoint_of_parse hb]
    exact join_sameOrigin (isBase_of_isWebPage hb hw) hr hn

end Settings.Site

namespace Scrape

theorem withoutCredentials_sameOrigin (url : Url) : (withoutCredentials url).SameOrigin url where
  scheme := rfl
  host := by
    rw [Url.host, Url.host, withoutCredentials, Option.map_map]
    rfl
  port := by
    rw [Url.port, Url.port, withoutCredentials, Option.bind_map]
    rfl

/-- A scrape of a checked site asks the origin of the site for the start page and for the
submission, and finds no fault with their URLs, as long as the paths do not name hosts. No other
paths that start with a slash stay with the origin of every site. -/
theorem run_stays_on_site (server : Server) (site : Settings.Site) (v : Visit)
    (h : site.check = .ok ()) :
    ∃ base start submission,
      Url.parse site.baseUrl = .ok base ∧ base.isWebPage = true ∧
      (∀ path ∈ [site.startPath, site.submitPath], namesHost path = false →
        ∃ url, site.endpoint path = .ok url ∧ url.SameOrigin base) ∧
      (∀ path : String, path.toList.head? = some '/' →
        (Settings.Site.StaysOnSites path ↔ namesHost path = false)) ∧
      (run server site v).2.exchanges = v.exchanges ++ start ++ submission ∧
      Course server site v.requests start submission (run server site v).1 ∧
      (namesHost site.startPath = false →
        ∀ e ∈ start.head?, e.request.url.SameOrigin base) ∧
      (namesHost site.submitPath = false →
        ∀ e ∈ submission.head?, e.request.url.SameOrigin base) ∧
      (namesHost site.startPath = false → namesHost site.submitPath = false →
        ∀ e, (run server site v).1 ≠ .error (.scrape (.invalidUrl e))) := by
  obtain ⟨base, hg⟩ := Settings.Site.grounded_of_check h
  obtain ⟨start, submission, he, hc⟩ := run_course server site v
  have hstart : namesHost site.startPath = false →
      ∃ url, site.endpoint site.startPath = .ok url ∧ url.SameOrigin base :=
    hg.endpoint (List.mem_cons_self)
  refine ⟨base, start, submission, hg.parse, hg.web, fun _ => hg.endpoint,
    fun _ => Settings.Site.staysOnSites_iff, he, hc, ?_, ?_, ?_⟩
  · intro hn e hm
    obtain ⟨url, hu, ho⟩ := hstart hn
    obtain ⟨_, hu', hr⟩ := hc.start_url e hm
    cases hu.symm.trans hu'
    rw [hr]
    exact (withoutCredentials_sameOrigin _).trans ho
  · intro hn e hm
    obtain ⟨answer, _, hu', hr⟩ := hc.submission_url e hm
    obtain ⟨url, hu, ho⟩ := hg.submissionUrl hn answer
    cases hu.symm.trans hu'
    rw [hr]
    exact (withoutCredentials_sameOrigin _).trans ho
  · intro hn hn' e hr
    rw [hr] at hc
    obtain hu | ⟨answer, hu⟩ := hc.of_invalidUrl
    · obtain ⟨url, hu', -⟩ := hstart hn
      cases hu'.symm.trans hu
    · obtain ⟨url, hu', -⟩ := hg.submissionUrl hn' answer
      cases hu'.symm.trans hu

theorem run_stays_on_site_loopback :
    let site : Settings.Site := { baseUrl := "http://[::1]:8080", startPath := "/\t?/\\" }
    site.check = .ok () ∧ namesHost site.startPath = false ∧
      ∃ url, site.endpoint site.startPath = .ok url ∧
        url.host = some (.ipv6 [0, 0, 0, 0, 0, 0, 0, 1]) ∧ url.port = some 8080 := by
  intro site
  have hc : site.check = .ok () := by decide +kernel
  have hb : (Url.parse site.baseUrl).map (fun u => (u.host, u.port)) =
      .ok (some (.ipv6 [0, 0, 0, 0, 0, 0, 0, 1]), some 8080) := by decide +kernel
  have hn : namesHost site.startPath = false := by decide
  obtain ⟨base, start, submission, hp, -, hs, -⟩ :=
    run_stays_on_site (fun _ => none) site { userAgent := "" } hc
  obtain ⟨url, hu, ho⟩ := hs site.startPath List.mem_cons_self hn
  rw [hp] at hb
  obtain ⟨hh, hport⟩ := Prod.mk.inj (Except.ok.inj hb)
  exact ⟨hc, hn, url, hu, ho.host.trans hh, ho.port.trans hport⟩

theorem check_admits_other_host :
    let site : Settings.Site :=
      { baseUrl := "http://[::1]", startPath := "//[::2]/go", submitPath := "//" }
    site.check = .ok () ∧
      (Url.parse site.baseUrl).map Url.host = .ok (some (.ipv6 [0, 0, 0, 0, 0, 0, 0, 1])) ∧
      (site.endpoint site.startPath).map Url.host = .ok (some (.ipv6 [0, 0, 0, 0, 0, 0, 0, 2])) ∧
      site.endpoint site.submitPath = .error .emptyHost := by
  decide +kernel

end Scrape

end TilePuzzle
