import TilePuzzle.Page
import TilePuzzle.Proofs.Markup.Inline
import TilePuzzle.Proofs.Markup.Spacing

namespace TilePuzzle.Page

open Markup PageText

structure Paragraph where
  name : String
  text : String
  deriving Repr, DecidableEq

/-- The units of a page with inline tags anywhere between them. -/
inductive Strewn : List (List Char) → List Char → Prop
  | nil : Strewn [] []
  | unit {unit cs : List Char} {units : List (List Char)} (h : Strewn units cs) :
      Strewn (unit :: units) (unit ++ cs)
  | tag {content cs : List Char} {units : List (List Char)} (ht : Inline content)
      (h : Strewn units cs) : Strewn units ('<' :: (content ++ ['>']) ++ cs)

variable {cs written : List Char} {p : Paragraph} {ps : List Paragraph} {us : List (List Char)}

namespace Paragraph

def opening (p : Paragraph) : List Char :=
  '<' :: (p.name.toList ++ ['>'])

def closing (p : Paragraph) : List Char :=
  '<' :: '/' :: (p.name.toList ++ ['>'])

def render (p : Paragraph) : String :=
  String.ofList (p.opening ++ (escape p.text.toList ++ p.closing))

def units (p : Paragraph) : List (List Char) :=
  p.opening :: (p.text.toList.map escapeChar ++ [p.closing])

def normal (p : Paragraph) : List Char :=
  [' '].intercalate (Text.words p.text.toList)

theorem flatten_units (p : Paragraph) : p.units.flatten = p.render.toList := by
  rw [render, String.toList_ofList, units, List.flatten_cons, List.flatten_append, escape,
    List.flatMap_def]
  simp

theorem scan_render (h : p.name.toList ∈ blockNames) (written : List Char) : ∃ n,
    scan { written } p.render.toList = { written :=
      '\n' :: (List.replicate n ' ' ++ ((escape p.normal).reverse ++ '\n' :: written)) } := by
  have hbreak : AtBreak ('\n' :: written) := ⟨'\n', rfl, .inr rfl⟩
  have hspaced := spaced_escape (Text.spaced_words p.text.toList)
  obtain ⟨n, hn⟩ := foldl_write_spaced hspaced hbreak
  have hb : '<' ∉ escape p.text.toList := not_mem_escape (by decide) _
  refine ⟨n, ?_⟩
  rw [render, String.toList_ofList, scan_append, scan_append, opening, (scan_block h written).1,
    scan_text rfl ⟨rfl, rfl⟩ hb, hn, closing, normal, escape_intercalate]
  exact (scan_block h _).2

end Paragraph

theorem isSpace_replicate (n : Nat) : ∀ c ∈ List.replicate n ' ', Text.isSpace c := by
  intro c hc
  rw [List.eq_of_mem_replicate hc]
  decide

theorem trimmedLines_normal (p : Paragraph) (n : Nat) :
    Text.trimmedLines (p.normal ++ List.replicate n ' ') = [p.normal].filter (· ≠ []) := by
  have hwords := (Text.spaced_words p.text.toList).isWord
  obtain ⟨hfirst, hlast⟩ := Text.ends_intercalate hwords
  have hn : '\n' ∉ p.normal ++ List.replicate n ' ' := by
    rw [List.mem_append, List.mem_replicate, not_or]
    refine ⟨fun hm => ?_, by simp⟩
    rcases Text.mem_intercalate hm with hc | ⟨w, hw, hc⟩
    · exact absurd hc (by decide)
    · exact absurd ((hwords w hw).2 _ hc) (by decide)
  rw [Text.trimmedLines_line hn, Paragraph.normal,
    Text.trim_append hfirst hlast (isSpace_replicate n)]

theorem scan_paragraphs (h : ∀ p ∈ ps, p.name.toList ∈ blockNames) (written : List Char) :
    ∃ out, scan { written } (String.join (ps.map Paragraph.render)).toList =
        { written := (escape out).reverse ++ written } ∧
      Text.trimmedLines out = (ps.map Paragraph.normal).filter (· ≠ []) := by
  induction ps generalizing written with
  | nil => exact ⟨[], rfl, rfl⟩
  | cons p ps ih =>
      obtain ⟨hp, hps⟩ := List.forall_mem_cons.1 h
      obtain ⟨n, hn⟩ := Paragraph.scan_render hp written
      obtain ⟨out, hout, hlines⟩ := ih hps
        ('\n' :: (List.replicate n ' ' ++ ((escape p.normal).reverse ++ '\n' :: written)))
      have hescape : escape ('\n' :: (p.normal ++ List.replicate n ' ' ++ '\n' :: out)) =
          '\n' :: (escape p.normal ++ List.replicate n ' ' ++ '\n' :: escape out) := by
        have hbreak (cs : List Char) : escape ('\n' :: cs) = '\n' :: escape cs := rfl
        rw [hbreak, escape_append, hbreak, escape_append, escape_spaces (isSpace_replicate n)]
      refine ⟨'\n' :: (p.normal ++ List.replicate n ' ' ++ '\n' :: out), ?_, ?_⟩
      · rw [hescape, List.map_cons, String.join_cons, String.toList_append, scan_append, hn, hout]
        simp
      · have hfirst := Text.trimmedLines_newline [] (p.normal ++ List.replicate n ' ' ++ '\n' :: out)
        rw [List.nil_append] at hfirst
        rw [hfirst, Text.trimmedLines_newline, trimmedLines_normal, hlines]
        exact (List.filter_append [p.normal] (ps.map Paragraph.normal)).symm

theorem text_join (h : ∀ p ∈ ps, p.name.toList ∈ blockNames) :
    text (String.join (ps.map Paragraph.render)) =
      String.ofList (['\n'].intercalate ((ps.map Paragraph.normal).filter (· ≠ []))) := by
  obtain ⟨out, hs, hl⟩ := scan_paragraphs h []
  rw [text, ofPage, hs, List.append_nil, List.reverse_reverse, decodeEntities_escape, hl]
  rfl

def StaysOutside (unit : List Char) : Prop :=
  ∀ written, ∃ written', scan { written } unit = { written := written' }

theorem staysOutside_units (h : p.name.toList ∈ blockNames) : ∀ u ∈ p.units, StaysOutside u := by
  intro u hu
  rw [Paragraph.units, List.mem_cons, List.mem_append, List.mem_singleton] at hu
  rcases hu with rfl | hu | rfl
  · exact fun written => ⟨_, (scan_block h written).1⟩
  · obtain ⟨c, -, rfl⟩ := List.mem_map.1 hu
    have hb : '<' ∉ escapeChar c := by
      have he := not_mem_escape (c := '<') (by decide) [c]
      rwa [escape, List.flatMap_singleton] at he
    exact fun written => ⟨_, scan_text rfl ⟨rfl, rfl⟩ hb⟩
  · exact fun written => ⟨_, (scan_block h written).2⟩

theorem Strewn.flatten (us : List (List Char)) : Strewn us us.flatten := by
  induction us with
  | nil => exact .nil
  | cons unit us ih => exact .unit ih

theorem Strewn.scan_eq (h : Strewn us cs) (hu : ∀ u ∈ us, StaysOutside u)
    (written : List Char) : scan { written } cs = scan { written } us.flatten := by
  induction h generalizing written with
  | nil => rfl
  | unit h ih =>
      obtain ⟨hunit, hunits⟩ := List.forall_mem_cons.1 hu
      obtain ⟨written', hw⟩ := hunit written
      rw [List.flatten_cons, scan_append, scan_append, hw, ih hunits]
  | tag ht h ih => rw [scan_append, scan_inline ht rfl, ih hu]

/-- The readable text of paragraphs is their texts in normal form, one on each line, and inline tags
between the characters of a text, inside or outside a paragraph, do not change it. -/
theorem text_paragraphs (h : ∀ p ∈ ps, p.name.toList ∈ blockNames) :
    text (String.join (ps.map Paragraph.render)) =
      String.ofList (['\n'].intercalate ((ps.map Paragraph.normal).filter (· ≠ []))) ∧
    ∀ page : String, Strewn (ps.flatMap Paragraph.units) page.toList →
      text page = text (String.join (ps.map Paragraph.render)) := by
  refine ⟨text_join h, fun page hp => ?_⟩
  have hunits : ∀ u ∈ ps.flatMap Paragraph.units, StaysOutside u := by
    intro u hu
    obtain ⟨p, hp, hu⟩ := List.mem_flatMap.1 hu
    exact staysOutside_units (h p hp) u hu
  have hflat : (ps.flatMap Paragraph.units).flatten =
      (String.join (ps.map Paragraph.render)).toList := by
    rw [String.toList_join, List.flatMap_map, ← List.flatMap_id, List.flatMap_assoc]
    simp only [List.flatMap_id, Paragraph.flatten_units]
  rw [text, text, ofPage, ofPage, hp.scan_eq hunits, hflat]

/-- An entity in the text, white space at its ends and a paragraph of white space alone. -/
theorem text_paragraphs_tags :
    text "<p>\u00a0a \t&amp;lt;</p><li>\n</li>" = "a &lt;" ∧
    text "<I/><p>\u00a0<b p>a \t&amp;</b>lt;</p><li>\n</li>" =
      text "<p>\u00a0a \t&amp;lt;</p><li>\n</li>" := by
  let ps : List Paragraph := [⟨"p", "\u00a0a \t&lt;"⟩, ⟨"li", "\n"⟩]
  have h : ∀ p ∈ ps, p.name.toList ∈ blockNames := by decide
  have hrender : String.join (ps.map Paragraph.render) =
      "<p>\u00a0a \t&amp;lt;</p><li>\n</li>" := by
    decide +kernel
  have hopening : Inline "b p".toList := ⟨by simp, by decide +kernel⟩
  have hclosing : Inline "/b".toList := ⟨by simp, by decide +kernel⟩
  have hempty : Inline "I/".toList := ⟨by simp, by decide +kernel⟩
  have hunits : ps.flatMap Paragraph.units = ["<p>", "\u00a0", "a", " ", "\t", "&amp;", "l", "t", ";",
      "</p>", "<li>", "\n", "</li>"].map String.toList := by
    decide +kernel
  have hstrewn : ∃ page, Strewn (ps.flatMap Paragraph.units) page ∧
      page = "<I/><p>\u00a0<b p>a \t&amp;</b>lt;</p><li>\n</li>".toList := by
    rw [hunits]
    exact ⟨_, .tag hempty (.unit (.unit (.tag hopening (.unit (.unit (.unit (.unit (.tag hclosing
      (.flatten _))))))))), by decide +kernel⟩
  obtain ⟨_, hstrewn, rfl⟩ := hstrewn
  have ht := text_paragraphs h
  rw [hrender] at ht
  refine ⟨ht.1.trans (by decide +kernel), ht.2 _ hstrewn⟩

end TilePuzzle.Page
