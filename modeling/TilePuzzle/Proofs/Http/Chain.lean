import TilePuzzle.Http.Visit

namespace TilePuzzle.Http

def Exchange.target? (e : Exchange) : Option Url :=
  e.response.bind fun r => r.redirect? e.request.url

inductive Chain : Url → List Exchange → Prop
  | nil (url : Url) : Chain url []
  | single (e : Exchange) : Chain e.request.url [e]
  | redirected {e : Exchange} {target : Url} {es : List Exchange} (ht : e.target? = some target)
      (h : Chain target es) : Chain e.request.url (e :: es)

inductive Answered (server : Server) : List Request → List Exchange → Prop
  | nil (past : List Request) : Answered server past []
  | cons {past : List Request} {e : Exchange} {es : List Exchange}
      (hr : e.response = server (past ++ [e.request]))
      (h : Answered server (past ++ [e.request]) es) : Answered server past (e :: es)

/-- The URL to ask for after some exchanges, if there is one: that of the page, or where the last
response leads. -/
def pending? (url : Url) (es : List Exchange) : Option Url :=
  match es.getLast? with
  | none => some url
  | some e => e.target?

/-- What comes of the exchanges that followed up to `hops` redirects from a URL. -/
def landing (hops : Nat) (url : Url) (es : List Exchange) : Except Fault Page :=
  match es.getLast? with
  | none => .error (.unsendable url)
  | some e =>
    match e.response, e.target? with
    | none, _ => .error (.unreachable e.request.url)
    | some _, some target =>
      if es.length ≤ hops then .error (.unsendable target)
      else .error (.tooManyRedirects e.request.url)
    | some r, none =>
      if r.isError then .error (.status r.status r.reason e.request.url)
      else if !r.complete then .error .body
      else .ok ⟨e.request.url, String.ofList (Utf8.decodeLossy r.body)⟩

/-- A visit to the page at a URL after some requests: its exchanges and what comes of them. It ends
where there is nothing more to ask for, nothing that can be asked for, or one redirect too many. -/
structure Fetches (server : Server) (hops : Nat) (past : List Request) (url : Url)
    (es : List Exchange) (result : Except Fault Page) : Prop where
  chain : Chain url es
  answered : Answered server past es
  sendable : ∀ e ∈ es, isSendable e.request.url = true
  ended : ∀ next, pending? url es = some next → es.length = hops + 1 ∨ isSendable next = false
  length_le : es.length ≤ hops + 1
  landing : landing hops url es = result

variable {server : Server} {hops : Nat} {past : List Request} {url target : Url}
variable {e : Exchange} {es : List Exchange} {result : Except Fault Page} {v : Visit}

theorem Chain.head?_url (h : Chain url es) : ∀ e ∈ es.head?, e.request.url = url := by
  cases h with
  | nil => exact nofun
  | single | redirected =>
      rintro e ⟨⟩
      rfl

theorem landing_cons (ht : e.target? = some target) (es : List Exchange) :
    landing (hops + 1) url (e :: es) = landing hops target es := by
  cases es with
  | nil =>
      obtain ⟨r, hr, -⟩ := Option.bind_eq_some_iff.1 ht
      simp [landing, ht, hr]
  | cons e' es =>
      obtain ⟨last, hl⟩ : ∃ last, (e' :: es).getLast? = some last :=
        ⟨_, List.getLast?_eq_some_getLast (List.cons_ne_nil e' es)⟩
      simp only [landing, List.getLast?_cons_cons, hl, List.length_cons, Nat.add_le_add_iff_right]

theorem pending?_cons (ht : e.target? = some target) (es : List Exchange) :
    pending? url (e :: es) = pending? target es := by
  cases es with
  | nil => exact ht
  | cons e' es =>
      obtain ⟨last, hl⟩ : ∃ last, (e' :: es).getLast? = some last :=
        ⟨_, List.getLast?_eq_some_getLast (List.cons_ne_nil e' es)⟩
      simp only [pending?, List.getLast?_cons_cons, hl]

theorem Fetches.unsendable (past : List Request) (h : isSendable url = false) :
    Fetches server hops past url [] (.error (.unsendable url)) where
  chain := .nil url
  answered := .nil past
  sendable := nofun
  ended := by
    rintro _ ⟨⟩
    exact .inr h
  length_le := Nat.zero_le _
  landing := rfl

theorem Fetches.single (hs : isSendable url = true) (hu : e.request.url = url)
    (hr : e.response = server (past ++ [e.request])) (ht : e.target? = none ∨ hops = 0) :
    Fetches server hops past url [e] (Http.landing hops url [e]) where
  chain := hu ▸ .single e
  answered := .cons hr (.nil _)
  sendable := List.forall_mem_singleton.2 (hu ▸ hs)
  ended := by
    intro next hn
    rcases ht with ht | rfl
    · cases ht.symm.trans hn
    · exact .inl rfl
  length_le := Nat.le_add_left 1 hops
  landing := rfl

theorem Fetches.redirected (hs : isSendable url = true) (hu : e.request.url = url)
    (hr : e.response = server (past ++ [e.request])) (ht : e.target? = some target)
    (h : Fetches server hops (past ++ [e.request]) target es result) :
    Fetches server (hops + 1) past url (e :: es) result where
  chain := hu ▸ .redirected ht h.chain
  answered := .cons hr h.answered
  sendable := List.forall_mem_cons.2 ⟨hu ▸ hs, h.sendable⟩
  ended next hn := by
    rw [pending?_cons ht] at hn
    exact (h.ended next hn).imp_left (congrArg (· + 1))
  length_le := Nat.succ_le_succ h.length_le
  landing := (landing_cons ht es).trans h.landing

namespace Visit

def exchange (server : Server) (v : Visit) (url : Url) : Exchange :=
  let request := { url, userAgent := v.userAgent, cookies := v.jar.pairs url }
  ⟨request, server (v.requests ++ [request])⟩

@[simp]
theorem exchange_url (server : Server) (v : Visit) (url : Url) :
    (v.exchange server url).request.url = url := rfl

theorem send_eq (server : Server) (v : Visit) (url : Url) :
    v.send server url = ((v.exchange server url).response, (v.send server url).2) := rfl

theorem exchanges_send (server : Server) (v : Visit) (url : Url) :
    (v.send server url).2.exchanges = v.exchanges ++ [v.exchange server url] := rfl

theorem requests_send (server : Server) (v : Visit) (url : Url) :
    (v.send server url).2.requests = v.requests ++ [(v.exchange server url).request] :=
  List.map_append

/-- One step of a visit: the URL cannot be asked for, or it is asked for, and then there is either
an end to it or a redirect to follow. -/
theorem follow_cases (server : Server) (hops : Nat) (v : Visit) (url : Url) :
    (isSendable url = false ∧ v.follow server hops url = (.error (.unsendable url), v)) ∨
    isSendable url = true ∧
      (((v.exchange server url).target? = none ∨ hops = 0) ∧ v.follow server hops url =
        (landing hops url [v.exchange server url], (v.send server url).2) ∨
      ∃ hops' target, hops = hops' + 1 ∧ (v.exchange server url).target? = some target ∧
        v.follow server hops url = (v.send server url).2.follow server hops' target) := by
  by_cases hs : isSendable url = true
  · refine .inr ⟨hs, ?_⟩
    rw [follow.eq_def, if_neg (by rw [hs]; decide), send_eq]
    cases hr : (v.exchange server url).response with
    | none =>
        refine .inl ⟨.inl ?_, ?_⟩
        · rw [Exchange.target?, hr]
          rfl
        · simp [landing, hr]
    | some r =>
        have ht : (v.exchange server url).target? = r.redirect? url := by
          rw [Exchange.target?, hr]
          rfl
        cases hd : r.redirect? url with
        | none =>
            refine .inl ⟨.inl (ht.trans hd), ?_⟩
            simp only [landing, List.getLast?_singleton, hr, ht, hd, exchange_url]
            split
            · rfl
            · split <;> rfl
        | some target =>
            cases hops with
            | zero =>
                refine .inl ⟨.inr rfl, ?_⟩
                simp [landing, hr, ht, hd]
            | succ hops =>
                refine .inr ⟨hops, target, rfl, ht.trans hd, ?_⟩
                simp [hd]
  · rw [Bool.not_eq_true] at hs
    refine .inl ⟨hs, ?_⟩
    rw [follow.eq_def, hs]
    rfl

theorem fetches_follow (server : Server) (hops : Nat) (v : Visit) (url : Url) :
    ∃ es, (v.follow server hops url).2.exchanges = v.exchanges ++ es ∧
      Fetches server hops v.requests url es (v.follow server hops url).1 := by
  induction hops using Nat.strongRecOn generalizing v url with
  | ind hops ih =>
    rcases follow_cases server hops v url with
      ⟨hs, hf⟩ | ⟨hs, ⟨ht, hf⟩ | ⟨hops, target, rfl, ht, hf⟩⟩
    · rw [hf]
      exact ⟨[], (List.append_nil _).symm, .unsendable _ hs⟩
    · rw [hf]
      exact ⟨_, exchanges_send server v url, .single hs rfl rfl ht⟩
    · obtain ⟨es, hes, hfe⟩ := ih hops (Nat.lt_succ_self hops) (v.send server url).2 target
      rw [hf]
      rw [exchanges_send, List.append_assoc] at hes
      rw [requests_send] at hfe
      exact ⟨_, hes, hfe.redirected hs rfl rfl ht⟩

theorem fetches_get (server : Server) (v : Visit) (url : Url) :
    ∃ es, (v.get server url).2.exchanges = v.exchanges ++ es ∧
      Fetches server maxRedirects v.requests (withoutCredentials url) es (v.get server url).1 :=
  fetches_follow server maxRedirects (v.note .debug "GET") (withoutCredentials url)

end Visit

end TilePuzzle.Http
