import Mathlib.Data.List.Induction
import TilePuzzle.Page
import TilePuzzle.Proofs.Markup.PageText

namespace TilePuzzle

namespace Markup.PageText

variable {cs chunk written : List Char} {chunks : List (List Char)} {s : State}

def leadingWords (chunks : List (List Char)) : List (List Char) :=
  (chunks.filter ('>' ∈ ·)).map fun chunk => tagWord (chunk.takeWhile (· ≠ '>'))

/-- The first words of the tags in a text. A tag is what stands between an opening bracket and the
first closing bracket after it, if no other opening bracket stands in between. -/
def tagWords (cs : List Char) : List (List Char) :=
  leadingWords (cs.splitOnP (· = '<')).tail

inductive Hidden
  | script
  | style
  deriving Repr, DecidableEq

namespace Hidden

def other : Hidden → Hidden
  | script => style
  | style => script

def name : Hidden → List Char
  | script => "script".toList
  | style => "style".toList

def opening (e : Hidden) : List Char :=
  '<' :: e.name ++ ['>']

def closing (e : Hidden) : List Char :=
  '<' :: '/' :: e.name ++ ['>']

/-- Tells whether tags with the given first words leave an element open: the last one that is a tag
of this element opens it. -/
def isLeftOpen (e : Hidden) (words : List (List Char)) : Bool :=
  words.reverse.find? (fun word => word = e.name || word = '/' :: e.name) = some e.name

end Hidden

namespace State

def isOpen (s : State) : Hidden → Bool
  | .script => s.script
  | .style => s.style

def inside (written : List Char) : Hidden → Bool → State
  | .script, isOpen => { written, script := isOpen }
  | .style, isOpen => { written, style := isOpen }

end State

theorem isOpen_closeTag (s : State) (word : List Char) (e : Hidden) :
    (closeTag s word).isOpen e =
      if word = e.name then true else if word = '/' :: e.name then false else s.isOpen e := by
  cases e <;> rfl

theorem scan_hidden {e : Hidden} (ht : s.tag = none) (he : s.isOpen e = true) (h : '<' ∉ cs) :
    scan s cs = s := by
  induction cs with
  | nil => rfl
  | cons c cs ih =>
      obtain ⟨hc, hcs⟩ := List.ne_and_not_mem_of_not_mem_cons h
      have hv : (s.script || s.style) = true := by
        cases e <;> simp_all [State.isOpen]
      have hstep : step s c = s := by
        simp [step, Ne.symm hc, ht, hv]
      rw [scan, List.foldl_cons, hstep]
      exact ih hcs

theorem noBracket (ho : '<' ∉ chunk) (hc : '>' ∉ chunk) : ∀ c ∈ chunk, c ≠ '<' ∧ c ≠ '>' := by
  rintro c hm
  constructor <;> rintro rfl
  · exact ho hm
  · exact hc hm

theorem scan_finished {e : Hidden} (ho : '<' ∉ chunk) (hc : '>' ∈ chunk)
    (he : (closeTag s (tagWord (chunk.takeWhile (· ≠ '>')))).isOpen e = true) :
    scan s ('<' :: chunk) = closeTag s (tagWord (chunk.takeWhile (· ≠ '>'))) := by
  obtain ⟨content, rest, rfl, hn⟩ := List.eq_append_cons_of_mem hc
  rw [(Text.cut_append hn rest).1] at he ⊢
  have hcontent := noBracket (fun hm => ho (List.mem_append_left _ hm)) hn
  have hrest : '<' ∉ rest := fun hm => ho (List.mem_append_right _ (List.mem_cons_of_mem _ hm))
  have hsplit : '<' :: (content ++ '>' :: rest) = '<' :: (content ++ ['>']) ++ rest := by
    rw [List.cons_append, List.append_assoc, List.singleton_append]
  rw [hsplit, scan_append, scan_closed hcontent]
  exact scan_hidden rfl he hrest

/-- What tags with the given first words come to inside an element: each that breaks the line does
so, the element stays open, and the other one is opened and closed. -/
structure Passed (e : Hidden) (words : List (List Char)) (s s' : State) : Prop where
  written : s'.written = List.replicate (words.countP breaksLine) '\n' ++ s.written
  isOpen : s'.isOpen e = true
  other : s'.isOpen e.other = e.other.isLeftOpen words

namespace Passed

variable {e : Hidden} {word : List Char} {words : List (List Char)} {s' : State}

theorem nil (he : s.isOpen e = true) (ho : s.isOpen e.other = false) : Passed e [] s s := by
  refine ⟨rfl, he, ?_⟩
  rw [ho]
  cases e <;> rfl

theorem isLeftOpen_concat (e : Hidden) (words : List (List Char)) (word : List Char) :
    e.isLeftOpen (words ++ [word]) =
      if word = e.name then true else if word = '/' :: e.name then false
      else e.isLeftOpen words := by
  rw [Hidden.isLeftOpen, List.reverse_append, List.reverse_singleton, List.singleton_append,
    List.find?_cons]
  by_cases hn : word = e.name
  · simp [hn]
  · by_cases hc : word = '/' :: e.name
    · simp [hc]
    · simp [hn, hc, Hidden.isLeftOpen]

theorem closeTag (h : Passed e words s s') (hw : word ≠ '/' :: e.name) :
    Passed e (words ++ [word]) s (closeTag s' word) := by
  constructor
  · rw [PageText.closeTag, h.written, List.countP_append, List.countP_singleton]
    split_ifs <;> rfl
  · rw [isOpen_closeTag, if_neg hw, h.isOpen, ite_self]
  · rw [isOpen_closeTag, isLeftOpen_concat, h.other]

end Passed

theorem leadingWords_concat (chunks : List (List Char)) (chunk : List Char) :
    leadingWords (chunks ++ [chunk]) = leadingWords chunks ++
      if '>' ∈ chunk then [tagWord (chunk.takeWhile (· ≠ '>'))] else [] := by
  rw [leadingWords, List.filter_append, List.map_append]
  congr 1
  by_cases hc : '>' ∈ chunk <;> simp [hc]

section

variable {e : Hidden}

theorem passed_chunks (he : s.isOpen e = true) (ho : s.isOpen e.other = false)
    (h : ∀ chunk ∈ chunks, '<' ∉ chunk) (hw : '/' :: e.name ∉ leadingWords chunks) :
    ∃ tag s', scan s (chunks.flatMap ('<' :: ·)) = { s' with tag } ∧
      Passed e (leadingWords chunks) s s' := by
  induction chunks using List.reverseRecOn with
  | nil => exact ⟨s.tag, s, rfl, .nil he ho⟩
  | append_singleton chunks chunk ih =>
      rw [leadingWords_concat, List.mem_append, not_or] at hw
      obtain ⟨hchunks, hchunk⟩ := List.forall_mem_append.1 h
      rw [List.forall_mem_singleton] at hchunk
      obtain ⟨tag, s', hs, hp⟩ := ih hchunks hw.1
      rw [List.flatMap_append, List.flatMap_singleton, scan_append, hs, leadingWords_concat]
      by_cases hc : '>' ∈ chunk
      · rw [if_pos hc] at hw ⊢
        have hp' := hp.closeTag (List.ne_of_not_mem_cons hw.2).symm
        have hf := scan_finished (s := { s' with tag }) hchunk hc hp'.isOpen
        exact ⟨none, _, hf, hp'⟩
      · rw [if_neg hc, List.append_nil, scan_unfinished (noBracket hchunk hc)]
        exact ⟨_, s', rfl, hp⟩

theorem exists_chunks (cs : List Char) : ∃ lead chunks,
    cs.splitOnP (· = '<') = lead :: chunks ∧ '<' ∉ lead ∧ (∀ chunk ∈ chunks, '<' ∉ chunk) ∧
      cs = lead ++ chunks.flatMap ('<' :: ·) := by
  induction cs with
  | nil => exact ⟨[], [], rfl, List.not_mem_nil, List.forall_mem_nil _, rfl⟩
  | cons c cs ih =>
      obtain ⟨lead, chunks, hs, hl, hc, he⟩ := ih
      by_cases ho : c = '<'
      · refine ⟨[], lead :: chunks, ?_, List.not_mem_nil, List.forall_mem_cons.2 ⟨hl, hc⟩, ?_⟩
        · rw [List.splitOnP_cons_eq_if_modifyHead, if_pos (decide_eq_true ho), hs]
        · rw [ho, List.flatMap_cons, List.nil_append, List.cons_append, ← he]
      · refine ⟨c :: lead, chunks, ?_, List.not_mem_cons_of_ne_of_not_mem (Ne.symm ho) hl, hc, ?_⟩
        · rw [List.splitOnP_cons_eq_if_modifyHead, if_neg (by simpa using ho), hs]
          rfl
        · rw [List.cons_append, ← he]

theorem passed_body (ht : s.tag = none) (he : s.isOpen e = true) (ho : s.isOpen e.other = false)
    (hw : '/' :: e.name ∉ tagWords cs) :
    ∃ tag s', scan s cs = { s' with tag } ∧ Passed e (tagWords cs) s s' := by
  obtain ⟨lead, chunks, hs, hl, hc, hcs⟩ := exists_chunks cs
  rw [tagWords, hs, List.tail_cons] at hw ⊢
  rw [hcs, scan_append, scan_hidden ht he hl]
  exact passed_chunks he ho hc hw

theorem scan_opening (e : Hidden) (written : List Char) :
    scan { written } e.opening = .inside written e true := by
  cases e <;> rfl

theorem scan_closing (e : Hidden) (s : State) :
    scan s e.closing = .inside s.written e.other (s.isOpen e.other) := by
  cases e <;> rfl

theorem scan_element (hw : '/' :: e.name ∉ tagWords cs) (written : List Char) :
    scan { written } (e.opening ++ cs ++ e.closing) =
      .inside (List.replicate ((tagWords cs).countP breaksLine) '\n' ++ written) e.other
        (e.other.isLeftOpen (tagWords cs)) := by
  have hin : (State.inside written e true).tag = none ∧
      (State.inside written e true).isOpen e = true ∧
      (State.inside written e true).isOpen e.other = false ∧
      (State.inside written e true).written = written := by
    cases e <;> exact ⟨rfl, rfl, rfl, rfl⟩
  obtain ⟨ht, he, ho, hwritten⟩ := hin
  obtain ⟨tag, s', hs, hp⟩ := passed_body ht he ho hw
  have hother : ({ s' with tag } : State).isOpen e.other = s'.isOpen e.other := by
    cases e <;> rfl
  rw [scan_append, scan_append, scan_opening, hs, scan_closing, hother, hp.other, hp.written,
    hwritten]

theorem inside_false (written : List Char) (e : Hidden) :
    State.inside written e false = { written } := by
  cases e <;> rfl

structure Outside (cs : List Char) : Prop where
  tag : (scan {} cs).tag = none
  script : (scan {} cs).script = false
  style : (scan {} cs).style = false

theorem Outside.scan_eq (h : Outside cs) : scan {} cs = { written := (scan {} cs).written } := by
  obtain ⟨ht, hs, hy⟩ := h
  generalize scan {} cs = s at ht hs hy
  obtain ⟨written, tag, script, style⟩ := s
  cases ht
  cases hs
  cases hy
  rfl

def shown (written : List Char) : List Char :=
  Text.joinWith ['\n'] (Text.trimmedLines (decodeEntities written.reverse))

theorem trimmedLines_breaks (n : Nat) (cs : List Char) :
    Text.trimmedLines (List.replicate n '\n' ++ cs) = Text.trimmedLines cs := by
  induction n with
  | zero => rfl
  | succ n ih =>
      have hl := Text.trimmedLines_newline [] (List.replicate n '\n' ++ cs)
      rw [List.nil_append] at hl
      rw [List.replicate_succ, List.cons_append, hl, ih]
      rfl

theorem shown_breaks (n : Nat) :
    shown ('y' :: (List.replicate (n + 1) '\n' ++ ['x'])) = ['x', '\n', 'y'] := by
  have hr : ('y' :: (List.replicate (n + 1) '\n' ++ ['x'])).reverse =
      ['x'] ++ '\n' :: (List.replicate n '\n' ++ ['y']) := by
    simp [List.replicate_succ']
  have ha : '&' ∉ ['x'] ++ '\n' :: (List.replicate n '\n' ++ ['y']) := by
    simp [List.mem_replicate]
  rw [shown, hr, decodeEntities_eq_self ha, Text.trimmedLines_newline, trimmedLines_breaks]
  decide

end

end Markup.PageText

namespace Page

open Markup PageText

def element : Hidden → String → String
  | .script, body => "<script>" ++ body ++ "</script>"
  | .style, body => "<style>" ++ body ++ "</style>"

variable {a b body : String} {e : Hidden}

theorem toList_element (e : Hidden) (body : String) :
    (element e body).toList = e.opening ++ body.toList ++ e.closing := by
  cases e <;> rw [element, String.toList_append, String.toList_append] <;> rfl

theorem text_element (ha : Outside a.toList) (hw : '/' :: e.name ∉ tagWords body.toList)
    (b : String) : text (a ++ element e body ++ b) = String.ofList (shown (scan
      (.inside (List.replicate ((tagWords body.toList).countP breaksLine) '\n' ++
        (scan {} a.toList).written) e.other (e.other.isLeftOpen (tagWords body.toList)))
      b.toList).written) := by
  rw [text, ofPage, String.toList_append, String.toList_append, toList_element, scan_append,
    scan_append, ha.scan_eq, scan_element hw]
  rfl

theorem text_empty_element (ha : Outside a.toList) (e : Hidden) (b : String) :
    text (a ++ element e "" ++ b) =
      String.ofList (shown (scan { written := (scan {} a.toList).written } b.toList).written) := by
  have hw : '/' :: e.name ∉ tagWords "".toList := List.not_mem_nil
  rw [text_element ha hw]
  have hi := inside_false (scan {} a.toList).written e.other
  have ho : e.other.isLeftOpen (tagWords "".toList) = false := by
    cases e <;> rfl
  rw [ho]
  exact congrArg (fun s => String.ofList (shown (scan s b.toList).written)) hi

/-- A script or style sheet leaves no trace on any page exactly if none of its tags breaks the line
and the last one that opens or closes an element of the other kind does not open one, given that no
tag of it is taken for its end. -/
theorem text_hides_body_iff (hw : '/' :: e.name ∉ tagWords body.toList) :
    (∀ a b : String, Outside a.toList →
      text (a ++ element e body ++ b) = text (a ++ element e "" ++ b)) ↔
    (∀ word ∈ tagWords body.toList, breaksLine word = false) ∧
      e.other.isLeftOpen (tagWords body.toList) = false := by
  constructor
  · intro h
    have hempty : Outside "".toList := ⟨rfl, rfl, rfl⟩
    have hx : Outside "x".toList := ⟨rfl, rfl, rfl⟩
    have ho : e.other.isLeftOpen (tagWords body.toList) = false := by
      rw [← Bool.not_eq_true]
      intro ho
      -- Nothing that follows is shown, while it is after an empty element.
      have h₁ := h "" "" hempty
      have h₂ := h "" "y" hempty
      rw [text_element hempty hw, text_empty_element hempty, ho] at h₁ h₂
      have hy (written : List Char) :
          scan (.inside written e.other true) "y".toList = .inside written e.other true := by
        cases e <;> rfl
      rw [hy] at h₂
      exact absurd (h₁.symm.trans h₂) (by decide +kernel)
    refine ⟨fun word hm => ?_, ho⟩
    rw [← Bool.not_eq_true]
    intro hb
    obtain ⟨n, hn⟩ := Nat.exists_eq_add_one.2 (List.countP_pos_iff.2 ⟨word, hm, hb⟩)
    have hxy := h "x" "y" hx
    rw [text_element hx hw, text_empty_element hx, ho, hn, inside_false] at hxy
    have hs : shown ('y' :: (List.replicate (n + 1) '\n' ++ ['x'])) = shown ['y', 'x'] :=
      String.ofList_injective hxy
    rw [shown_breaks] at hs
    exact absurd hs (by decide +kernel)
  · rintro ⟨hb, ho⟩ a b ha
    have hn : (tagWords body.toList).countP breaksLine = 0 := by
      rw [List.countP_eq_zero]
      intro word hm
      rw [hb word hm]
      exact Bool.false_ne_true
    rw [text_element ha hw, text_empty_element ha, hn, ho, inside_false]
    rfl

/-- Comparison signs, inline tags and a whole style sheet in a string leave no trace. -/
theorem text_hides_body_iff_inline :
    let body := "if (a<b && c>d) x = '<b>1 < 2</b><style>p</style>' // </scripts>"
    '/' :: Hidden.script.name ∉ tagWords body.toList ∧
    text ("one" ++ element .script body ++ "two") =
      text ("one" ++ element .script "" ++ "two") := by
  intro body
  have hw : '/' :: Hidden.script.name ∉ tagWords body.toList := by decide +kernel
  refine ⟨hw, (text_hides_body_iff hw).2 ⟨?_, ?_⟩ "one" "two" ⟨rfl, rfl, rfl⟩⟩
  · decide +kernel
  · decide +kernel

/-- A script that writes a paragraph breaks the line, and one that writes a style sheet hides the
rest of the page, though the closing tag of a script occurs in neither of them. -/
theorem text_shows_script_tags :
    let closes (body : String) := "</script".toList <:+: body.toList.map Char.toLower
    (Outside "one".toList ∧ ¬closes "write('<p>')" ∧
      text ("one" ++ "<script>" ++ "write('<p>')" ++ "</script>" ++ "two") = "one\ntwo" ∧
      text ("one" ++ "<script></script>" ++ "two") = "onetwo") ∧
    (Outside "one".toList ∧ ¬closes "write('<style>')" ∧
      text ("one" ++ "<script>" ++ "write('<style>')" ++ "</script>" ++ "two") = "one" ∧
      text ("one" ++ "<script></script>" ++ "two") = "onetwo") := by
  have ho : Outside "one".toList := ⟨rfl, rfl, rfl⟩
  refine ⟨⟨ho, ?_, ?_, ?_⟩, ho, ?_, ?_, ?_⟩ <;> decide +kernel

end Page

end TilePuzzle
