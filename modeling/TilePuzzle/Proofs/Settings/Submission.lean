import TilePuzzle.Proofs.Url.Form
import TilePuzzle.Settings.Basic

namespace TilePuzzle.Settings.Site

variable {site : Site} {endpoint : Url}

def fields (site : Site) (answer : String) : List (List Char × List Char) :=
  [("answer".toList, answer.toList), ("name".toList, site.displayName.toList)]

theorem submissionUrl_of_endpoint (h : site.endpoint site.submitPath = .ok endpoint)
    (answer : String) :
    site.submissionUrl answer = .ok (endpoint.appendPairs (site.fields answer)) := by
  rw [submissionUrl, h]
  rfl

theorem fields_inj {site' : Site} {answer answer' : String} :
    site'.fields answer' = site.fields answer ↔
      answer' = answer ∧ site'.displayName = site.displayName := by
  simp [fields, String.toList_inj]

/-- A submission keeps the endpoint and its parameters, and adds the answer and the name. No other
answer or name is submitted by the same URL. -/
theorem submissionUrl_carries_fields (site : Site) (answer : String)
    (h : site.endpoint site.submitPath = .ok endpoint) :
    ∃ url, site.submissionUrl answer = .ok url ∧
      url.pairs = endpoint.pairs ++
        [("answer".toList, answer.toList), ("name".toList, site.displayName.toList)] ∧
      url = { endpoint with query := url.query } ∧
      ∀ answer' name' : String,
        ({ site with displayName := name' }.submissionUrl answer').map toString =
            .ok (toString url) ↔
          answer' = answer ∧ name' = site.displayName := by
  refine ⟨_, submissionUrl_of_endpoint h answer, Url.pairs_appendPairs endpoint _, rfl, ?_⟩
  intro answer' name'
  -- The endpoint does not depend on the name.
  have h' : { site with displayName := name' }.endpoint site.submitPath = .ok endpoint := h
  rw [submissionUrl_of_endpoint h', Except.map, Except.ok.injEq, Url.toString_appendPairs_inj]
  exact fields_inj

/-- Signs that set off parameters do not do so in an answer or a name. -/
theorem submissionUrl_carries_fields_reserved :
    let site : Site :=
      { baseUrl := "http://[::1]", submitPath := "/go?a=%26&&b#=", displayName := "x&name=y z" }
    ∃ endpoint url, site.endpoint site.submitPath = .ok endpoint ∧
      site.submissionUrl "1+1=2%#" = .ok url ∧
      url.pairs = [("a".toList, "&".toList), ("b".toList, []),
        ("answer".toList, "1+1=2%#".toList), ("name".toList, "x&name=y z".toList)] ∧
      url.fragment = some ['='] := by
  intro site
  have hv : (site.endpoint site.submitPath).map (fun u => (u.pairs, u.fragment)) =
      .ok ([("a".toList, "&".toList), ("b".toList, [])], some ['=']) := by decide +kernel
  cases h : site.endpoint site.submitPath with
  | error e =>
      rw [h] at hv
      cases hv
  | ok endpoint =>
      rw [h] at hv
      obtain ⟨hp, hf⟩ := Prod.mk.inj (Except.ok.inj hv)
      obtain ⟨url, hu, hq, he, -⟩ := submissionUrl_carries_fields site "1+1=2%#" h
      refine ⟨endpoint, url, rfl, hu, ?_, ?_⟩
      · rw [hq, hp]
        rfl
      · rw [he]
        exact hf

end TilePuzzle.Settings.Site
