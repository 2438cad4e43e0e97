import TilePuzzle.Proofs.Markup.Attribute
import TilePuzzle.Proofs.Markup.PageText
import TilePuzzle.Proofs.Markup.Tag
import TilePuzzle.Proofs.Text.Words

namespace TilePuzzle.Markup

namespace PageText

variable {content name rest slashes word : List Char} {s : State}

/-- Elements with tags that do more than vanish. -/
def effectNames : List (List Char) :=
  ["script", "style", "br"].map String.toList ++ blockNames

def bareName (word : List Char) : List Char :=
  (word.dropWhile (· = '/')).takeWhile (· ≠ '/')

/-- The element that a tag belongs to, in lower case: its first word, without the slash of a closing
tag and without what a slash sets off. -/
def tagName (content : List Char) : List Char :=
  bareName (Text.lower ((Text.words content).headD []))

structure Inline (content : List Char) : Prop where
  noBracket : ∀ c ∈ content, c ≠ '<' ∧ c ≠ '>'
  name : tagName content ∉ effectNames

theorem effectName_plain (h : name ∈ effectNames) : name ≠ [] ∧ '/' ∉ name := by
  have hall : ∀ name ∈ effectNames, name ≠ [] ∧ '/' ∉ name := by decide
  exact hall name h

theorem bareName_eq (hs : ∀ c ∈ slashes, c = '/') (hne : name ≠ []) (hn : '/' ∉ name)
    (hr : ∀ c ∈ rest.head?, c = '/') : bareName (slashes ++ (name ++ rest)) = name := by
  have hname : ∀ c ∈ name, c ≠ '/' := by
    rintro _ hc rfl
    exact hn hc
  have hstart : ∀ c ∈ (name ++ rest).head?, decide (c = '/') = false := by
    obtain ⟨c, name, rfl⟩ := List.exists_cons_of_ne_nil hne
    rintro _ ⟨⟩
    exact decide_eq_false (hname c List.mem_cons_self)
  have hend : ∀ c ∈ rest.head?, decide (c ≠ '/') = false := fun c hc => by simpa using hr c hc
  rw [bareName, (Text.span_append (fun c hc => decide_eq_true (hs c hc)) hstart).2]
  exact (Text.span_append (fun c hc => decide_eq_true (hname c hc)) hend).1

theorem exists_of_breaksLine (h : breaksLine word) : ∃ lead name slashes,
    word = lead ++ (name ++ slashes) ∧ (∀ c ∈ lead, c = '/') ∧ name ∈ effectNames ∧
      ∀ c ∈ slashes, c = '/' := by
  have hword := List.takeWhile_append_dropWhile (p := fun c => decide (c = '/')) (l := word.reverse)
  have hslashes : ∀ c ∈ (word.reverse.takeWhile fun c => decide (c = '/')).reverse, c = '/' :=
    fun c hc => of_decide_eq_true
      (List.mem_takeWhile_imp (p := fun c => decide (c = '/')) (List.mem_reverse.1 hc))
  rw [breaksLine] at h
  generalize word.reverse.dropWhile (fun c => decide (c = '/')) = front at h hword
  generalize word.reverse.takeWhile (fun c => decide (c = '/')) = slashes at hword hslashes
  have hw : word = front.reverse ++ slashes.reverse := by
    rw [← List.reverse_append, hword, List.reverse_reverse]
  rw [Bool.or_eq_true, decide_eq_true_eq] at h
  rcases h with hbr | hblock
  · refine ⟨[], ['b', 'r'], slashes.reverse, by rw [hw, hbr]; rfl, nofun, by decide, hslashes⟩
  · split at hblock
    next name hf =>
      have hn : name ∈ effectNames := List.mem_append_right _ (of_decide_eq_true hblock)
      exact ⟨['/'], name, slashes.reverse, by rw [hw, hf]; rfl, by simp, hn, hslashes⟩
    next =>
      have hn : front.reverse ∈ effectNames :=
        List.mem_append_right _ (of_decide_eq_true hblock)
      exact ⟨[], front.reverse, slashes.reverse, hw, nofun, hn, hslashes⟩

theorem bareName_of_breaksLine (h : breaksLine word) : bareName word ∈ effectNames := by
  obtain ⟨lead, name, slashes, rfl, hl, hm, hs⟩ := exists_of_breaksLine h
  obtain ⟨hne, hn⟩ := effectName_plain hm
  rwa [bareName_eq hl hne hn fun c hc => hs c (List.mem_of_mem_head? hc)]

theorem closeTag_inline (h : bareName word ∉ effectNames) :
    closeTag s word = { s with tag := none } := by
  have hword (effect : List Char) (he : bareName effect ∈ effectNames) : word ≠ effect := by
    rintro rfl
    exact h he
  have hb : breaksLine word = false :=
    Bool.eq_false_iff.2 fun hb => h (bareName_of_breaksLine hb)
  simp only [closeTag, hb, hword "script".toList (by decide), hword "/script".toList (by decide),
    hword "style".toList (by decide), hword "/style".toList (by decide), if_false,
    Bool.false_eq_true]

theorem scan_inline (h : Inline content) (ht : s.tag = none) :
    scan s ('<' :: (content ++ ['>'])) = s := by
  have hc : closeTag s (tagWord content) = { s with tag := none } := closeTag_inline h.name
  rw [scan_closed h.noBracket, hc, ← ht]

end PageText

structure Tag.IsInline (t : Tag) : Prop where
  name : ElementName t.name
  noEffect : Text.lower t.name ∉ PageText.effectNames
  setOff : ∀ c ∈ t.body.head?, Text.isSpace c ∨ c = '/'
  noBracket : ∀ c ∈ t.body, c ≠ '<' ∧ c ≠ '>'

instance (t : Tag) : Decidable t.IsInline :=
  decidable_of_iff (ElementName t.name ∧ !PageText.effectNames.contains (Text.lower t.name) ∧
      t.body.head?.all (fun c => Text.isSpace c || c = '/') ∧
      t.body.all fun c => c ≠ '<' && c ≠ '>') <| by
    simp only [Option.all_eq_true, List.all_eq_true, Bool.and_eq_true, Bool.or_eq_true,
      decide_eq_true_eq, Bool.not_eq_true', List.contains_eq_mem, decide_eq_false_iff_not]
    exact ⟨fun h => ⟨h.1, h.2.1, h.2.2.1, h.2.2.2⟩,
      fun h => ⟨h.name, h.noEffect, h.setOff, h.noBracket⟩⟩

theorem toLower_ne_slash {c : Char} (h : c.isAlphanum) : c.toLower ≠ '/' := by
  have hall : ∀ n < 128, (Char.ofNat n).isAlphanum → (Char.ofNat n).toLower ≠ '/' := by
    decide +kernel
  have hc := isAlphanum_iff_toNat.1 h
  have hn := hall c.toNat (by omega)
  rw [Char.ofNat_toNat] at hn
  exact hn h

theorem not_name_of_isSpace {c : Char} (h : Text.isSpace c) :
    isTagName c = false ∧ Text.isWord c = false := by
  have ha := isAttributeName_of_isSpace h
  constructor
  · simp only [isAttributeName, isAttributeStart, Bool.or_eq_false_iff] at ha
    simp only [isTagName, ha, Bool.or_self]
  · rw [Text.isWord, h, Bool.not_true, Bool.false_and]
    split
    next =>
      simp only [isAttributeName, isAttributeStart, isNameLetter, Bool.or_eq_false_iff] at ha
      simp only [Char.isAlphanum, ha, Bool.or_self]
    next => rfl

namespace Tag

variable {t : Tag}

def content (t : Tag) : List Char :=
  (if t.closing then ['/'] else []) ++ t.name ++ t.body

theorem chars_eq (t : Tag) : t.chars = '<' :: (t.content ++ ['>']) := by
  rw [chars, content, List.cons_append, List.cons_append, List.cons_append]

namespace IsInline

theorem wellFormed (h : t.IsInline) : t.WellFormed where
  name := h.name
  body := by
    refine ⟨fun c hc => ?_, h.noBracket⟩
    rcases h.setOff c hc with hs | rfl
    · exact not_name_of_isSpace hs
    · decide

theorem ascii_name (h : t.IsInline) : ∀ c ∈ t.name, c.toNat < 128 := by
  intro c hc
  have hc := isAlphanum_iff_toNat.1 (h.name.alphanum c hc)
  omega

theorem lower_name (h : t.IsInline) : Text.lower t.name ≠ [] ∧ '/' ∉ Text.lower t.name := by
  rw [Text.lower_ascii h.ascii_name]
  refine ⟨fun hn => h.name.ne_nil (List.map_eq_nil_iff.1 hn), fun hm => ?_⟩
  obtain ⟨c, hc, hs⟩ := List.mem_map.1 hm
  exact toLower_ne_slash (h.name.alphanum c hc) hs

theorem isWord_append {after lead : List Char} (h : t.IsInline) (hl : ∀ c ∈ lead, c = '/')
    (ha : ∀ c ∈ after, Text.isSpace c = false) : Text.IsWord (lead ++ t.name ++ after) := by
  have hlead : ∀ c ∈ lead, Text.isSpace c = false := by
    intro c hc
    rw [hl c hc]
    decide
  have hname : ∀ c ∈ t.name, Text.isSpace c = false := by
    intro c hc
    have hc := isAlphanum_iff_toNat.1 (h.name.alphanum c hc)
    exact Text.isSpace_visible (by omega)
  refine ⟨fun hn => ?_, List.forall_mem_append.2 ⟨List.forall_mem_append.2 ⟨hlead, hname⟩, ha⟩⟩
  exact h.name.ne_nil (List.append_eq_nil_iff.1 (List.append_eq_nil_iff.1 hn).1).2

theorem tagName_content (h : t.IsInline) : PageText.tagName t.content = Text.lower t.name := by
  have hlead : ∀ c ∈ if t.closing then ['/'] else [], c = '/' := by
    split <;> simp
  obtain ⟨after, rest, hb, ha, hr⟩ := Text.exists_first_word t.body
  have hslash : ∀ c ∈ after.head?, c = '/' := by
    intro c hc
    have hs := h.setOff c (by rw [hb, List.head?_append, Option.mem_def.1 hc]; rfl)
    have hn : Text.isSpace c = false := ha c (List.mem_of_mem_head? hc)
    exact hs.resolve_left (Bool.eq_false_iff.1 hn)
  rw [content, hb]
  generalize (if t.closing then ['/'] else []) = lead at hlead
  have hascii : ∀ c ∈ lead ++ t.name, c.toNat < 128 := by
    refine List.forall_mem_append.2 ⟨fun c hc => ?_, h.ascii_name⟩
    rw [hlead c hc]
    decide
  have hslashes : ∀ c ∈ lead.map Char.toLower, c = '/' := by
    intro c hc
    obtain ⟨d, hd, rfl⟩ := List.mem_map.1 hc
    rw [hlead d hd]
    rfl
  obtain ⟨hne, hn⟩ := h.lower_name
  have hend := Text.head?_lowerAfter ((lead ++ t.name).reverse ++ []) hslash
  rw [PageText.tagName, ← List.append_assoc, Text.words_word (h.isWord_append hlead ha) hr,
    List.headD_cons, Text.lower, Text.lowerAfter_append [] after hascii, List.map_append,
    List.append_assoc, ← Text.lower_ascii h.ascii_name]
  exact PageText.bareName_eq hslashes hne hn hend

theorem noBracket_content (h : t.IsInline) : ∀ c ∈ t.content, c ≠ '<' ∧ c ≠ '>' := by
  have hlead : ∀ c ∈ if t.closing then ['/'] else [], c ≠ '<' ∧ c ≠ '>' := by
    split <;> simp
  refine List.forall_mem_append.2 ⟨List.forall_mem_append.2 ⟨hlead, fun c hc => ?_⟩, h.noBracket⟩
  exact not_bracket_of_isAlphanum (h.name.alphanum c hc)

theorem inline (h : t.IsInline) : PageText.Inline t.content where
  noBracket := h.noBracket_content
  name := by
    rw [h.tagName_content]
    exact h.noEffect

theorem scan_chars {s : PageText.State} (h : t.IsInline) (hs : s.tag = none) :
    PageText.scan s t.chars = s := by
  rw [t.chars_eq]
  exact PageText.scan_inline h.inline hs

end IsInline

end Tag

end TilePuzzle.Markup
