import TilePuzzle.Url.Parse

namespace TilePuzzle

theorem bind_eq_ok_iff {ε α β : Type} {x : Except ε α} {f : α → Except ε β} {b : β} :
    x >>= f = .ok b ↔ ∃ a, x = .ok a ∧ f a = .ok b := by
  cases x with
  | error => exact ⟨nofun, nofun⟩
  | ok a =>
      refine ⟨fun h => ⟨a, rfl, h⟩, ?_⟩
      rintro ⟨_, ⟨⟩, h⟩
      exact h

namespace Url

def isWebSlash (c : Char) : Bool :=
  c = '/' || c = '\\'

/-- Tells whether a text starts with a slash and then another one. The second may be a backslash,
and tabs and line breaks in between do not count. -/
def namesHost (text : String) : Bool :=
  match text.toList with
  | '/' :: cs => (cs.find? fun c => c ≠ '\t' && c ≠ '\n' && c ≠ '\r').any isWebSlash
  | _ => false

structure SameOrigin (u w : Url) : Prop where
  scheme : u.scheme = w.scheme
  host : u.host = w.host
  port : u.port = w.port

theorem SameOrigin.trans {t u w : Url} (h : t.SameOrigin u) (h' : u.SameOrigin w) :
    t.SameOrigin w :=
  ⟨h.scheme.trans h'.scheme, h.host.trans h'.host, h.port.trans h'.port⟩

def IsHier (u : Url) : Prop :=
  ∃ a ss, u.authority = some a ∧ u.path = .segments ss

variable {base base' u : Url} {scheme cs ds : List Char} {text : String}

theorem continuePath_isHier (scheme : List Char) (a : Authority) (ss : List (List Char))
    (cs : List Char) : (continuePath scheme (some a) ss cs).IsHier :=
  ⟨a, _, rfl, rfl⟩

theorem continuePath_sameOrigin (base : Url) (ss : List (List Char)) (cs : List Char) :
    (continuePath base.scheme base.authority ss cs).SameOrigin base where
  scheme := rfl
  host := rfl
  port := rfl

theorem appendPairs_sameOrigin (u : Url) (pairs : List (List Char × List Char)) :
    (u.appendPairs pairs).SameOrigin u where
  scheme := rfl
  host := rfl
  port := rfl

theorem parseAfterSlashes_isHier (h : parseAfterSlashes scheme cs = .ok u) : u.IsHier := by
  obtain ⟨⟨a, rest⟩, -, h⟩ := bind_eq_ok_iff.1 h
  cases h
  exact ⟨a, _, rfl, rfl⟩

theorem parseFileHost_isHier (h : parseFileHost cs = .ok u) : u.IsHier := by
  simp only [parseFileHost] at h
  split at h
  · cases h
    exact continuePath_isHier _ _ _ _
  split at h
  · cases h
    exact continuePath_isHier _ _ _ _
  obtain ⟨host, -, h⟩ := bind_eq_ok_iff.1 h
  cases h
  exact continuePath_isHier _ _ _ _

theorem parseFile_isHier (h : parseFile none cs = .ok u) : u.IsHier := by
  cases cs with
  | nil =>
      cases h
      exact continuePath_isHier _ _ _ _
  | cons c cs =>
      simp only [parseFile] at h
      split at h
      · split at h
        · exact parseFileHost_isHier h
        · cases h
          exact continuePath_isHier _ _ _ _
      · cases h
        exact continuePath_isHier _ _ _ _

theorem parseAbsolute_isHier (h : parseAbsolute none scheme cs = .ok u)
    (hk : u.kind ≠ .general) : u.IsHier := by
  rw [parseAbsolute.eq_def] at h
  cases hs : SchemeKind.ofScheme scheme with
  | file =>
      rw [hs] at h
      exact parseFile_isHier h
  | web port =>
      rw [hs] at h
      exact parseAfterSlashes_isHier h
  | general =>
      rw [hs] at h
      dsimp only at h
      split at h
      · exact parseAfterSlashes_isHier h
      · cases h
        exact absurd hs hk
      · cases h
        exact absurd hs hk

/-- Only in a scheme that knows no hierarchy is there a URL without one. -/
theorem parse_isHier (h : parse text = .ok u) (hk : u.kind ≠ .general) : u.IsHier := by
  rw [parse, parseWith] at h
  split at h
  · exact parseAbsolute_isHier h hk
  · cases h

theorem kind_of_isWebPage (h : u.isWebPage = true) : ∃ port, u.kind = .web port := by
  rw [isWebPage, Bool.or_eq_true, decide_eq_true_eq, decide_eq_true_eq] at h
  rw [kind]
  obtain h | h := h
  · exact ⟨80, by rw [h]; decide⟩
  · exact ⟨443, by rw [h]; decide⟩

structure IsBase (u : Url) : Prop where
  isHier : u.IsHier
  kind_ne_file : u.kind ≠ .file

theorem isBase_of_isWebPage (h : parse text = .ok u) (hw : u.isWebPage = true) : u.IsBase := by
  obtain ⟨port, hk⟩ := kind_of_isWebPage hw
  exact ⟨parse_isHier h (hk ▸ nofun), hk ▸ nofun⟩

theorem exists_trimmed (p : Char → Bool) (hp : p '/' = false) (cs : List Char) :
    ∃ kept blanks, cs = kept ++ blanks ∧ blanks.all p = true ∧
      ((('/' :: cs).dropWhile p).reverse.dropWhile p).reverse = '/' :: kept := by
  refine ⟨(cs.reverse.dropWhile p).reverse, (cs.reverse.takeWhile p).reverse, ?_, ?_, ?_⟩
  · rw [← List.reverse_append, List.takeWhile_append_dropWhile, List.reverse_reverse]
  · rw [List.all_reverse, List.all_takeWhile]
  · have h : ['/'].dropWhile p = ['/'] := List.dropWhile_cons_of_neg (by rw [hp]; decide)
    rw [List.dropWhile_cons_of_neg (by rw [hp]; decide), List.reverse_cons, List.dropWhile_append,
      h]
    split
    · rename_i he
      rw [List.isEmpty_iff.1 he]
      rfl
    · rw [List.reverse_append]
      rfl

theorem isWebSlash_of_blank {c : Char} (h : c.toNat ≤ 0x20) : isWebSlash c = false := by
  rw [isWebSlash, Bool.or_eq_false_iff, decide_eq_false_iff_not, decide_eq_false_iff_not]
  constructor
  · rintro rfl
    exact absurd h (by decide)
  · rintro rfl
    exact absurd h (by decide)

theorem clean_slash (ht : text.toList = '/' :: cs) :
    ∃ ds, clean text.toList = '/' :: ds ∧ ds.head?.any isWebSlash = namesHost text := by
  obtain ⟨kept, blanks, rfl, hb, hc⟩ :=
    exists_trimmed (fun c => c.toNat ≤ 0x20) (by decide) cs
  refine ⟨_, by rw [clean, ht, hc, List.filter_cons_of_pos (by decide)], ?_⟩
  rw [List.head?_filter]
  simp only [namesHost, ht, List.find?_append]
  cases List.find? _ kept with
  | some c => rfl
  | none =>
      cases hf : List.find? _ blanks with
      | none => rfl
      | some c =>
          have hm := List.all_eq_true.1 hb c (List.mem_of_find?_eq_some hf)
          exact (isWebSlash_of_blank (decide_eq_true_iff.1 hm)).symm

theorem splitScheme?_slash (ds : List Char) : splitScheme? ('/' :: ds) = none := rfl

theorem join_of_clean (hb : base.IsBase) (hc : clean text.toList = '/' :: ds) :
    base.join text = resolve base ('/' :: ds) := by
  obtain ⟨a, ss, -, hp⟩ := hb.isHier
  rw [join, parseWith, hc, splitScheme?_slash]
  simp [hp, hb.kind_ne_file]

theorem resolve_path (hd : ds.head?.any isWebSlash = false) :
    resolve base ('/' :: ds) = .ok (continuePath base.scheme base.authority [] ds) := by
  cases ds with
  | nil => rfl
  | cons d ds =>
    simp only [List.head?_cons, Option.any_some, isWebSlash, Bool.or_eq_false_iff,
      decide_eq_false_iff_not] at hd
    simp [resolve, hd, Ne.symm hd.1]

theorem resolve_host (hs : base.scheme = base'.scheme) (hd : ds.head?.any isWebSlash = true) :
    resolve base ('/' :: ds) = resolve base' ('/' :: ds) := by
  cases ds with
  | nil => cases hd
  | cons d ds =>
    simp only [List.head?_cons, Option.any_some, isWebSlash, Bool.or_eq_true,
      decide_eq_true_eq] at hd
    simp [resolve, hd, hs]

theorem join_sameOrigin (hb : base.IsBase) (ht : text.toList.head? = some '/')
    (hn : namesHost text = false) : ∃ u, base.join text = .ok u ∧ u.SameOrigin base := by
  obtain ⟨cs, ht⟩ := List.head?_eq_some_iff.1 ht
  obtain ⟨ds, hc, hd⟩ := clean_slash ht
  refine ⟨_, ?_, continuePath_sameOrigin base [] ds⟩
  rw [join_of_clean hb hc, resolve_path (hd.trans hn)]

/-- A relative URL that names a host leads to the same place from every base with the same
scheme. -/
theorem join_congr (hb : base.IsBase) (hb' : base'.IsBase) (hs : base.scheme = base'.scheme)
    (ht : text.toList.head? = some '/') (hn : namesHost text = true) :
    base.join text = base'.join text := by
  obtain ⟨cs, ht⟩ := List.head?_eq_some_iff.1 ht
  obtain ⟨ds, hc, hd⟩ := clean_slash ht
  rw [join_of_clean hb hc, join_of_clean hb' hc, resolve_host hs (hd.trans hn)]

end Url

end TilePuzzle
