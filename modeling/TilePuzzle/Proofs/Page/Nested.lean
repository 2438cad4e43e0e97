import TilePuzzle.Proofs.Markup.Inline
import TilePuzzle.Proofs.Page.Rendered

namespace TilePuzzle.Page

open Markup

variable {before className token tokenAttribute : String} {d : Char} {ds name : List Char}
  {ps : List Piece} {t u : Tag}

/-- Digits and inline elements, whose closing tags stand as deep as their opening tags. The second
list has the digits alone. -/
inductive Nested : List Piece → List Char → Prop
  | nil : Nested [] []
  | digit {d : Char} {ps : List Piece} {ds : List Char} (hd : d.isDigit) (h : Nested ps ds) :
      Nested (.char d :: ps) (d :: ds)
  | leaf {t : Tag} {ps : List Piece} {ds : List Char} (ht : t.IsInline) (hs : t.selfClosing)
      (h : Nested ps ds) : Nested (.tag t :: ps) ds
  | element {t u : Tag} {inner ps : List Piece} {ds ds' : List Char}
      (ht : t.IsInline) (ho : opens t.name (.tag t)) (hi : Nested inner ds)
      (hu : u.IsInline) (hc : closes t.name (.tag u)) (h : Nested ps ds') :
      Nested (.tag t :: (inner ++ .tag u :: ps)) (ds ++ ds')

namespace Nested

theorem isDigit (h : Nested ps ds) : ∀ d ∈ ds, d.isDigit := by
  induction h with
  | nil => exact List.forall_mem_nil _
  | digit hd h ih => exact List.forall_mem_cons.2 ⟨hd, ih⟩
  | leaf ht hs h ih => exact ih
  | element ht ho hi hu hc h ihi ih => exact List.forall_mem_append.2 ⟨ihi, ih⟩

theorem wellFormed (h : Nested ps ds) : ∀ p ∈ ps, p.WellFormed := by
  induction h with
  | nil => exact List.forall_mem_nil _
  | digit hd h ih =>
      refine List.forall_mem_cons.2 ⟨?_, ih⟩
      rintro rfl
      exact absurd hd (by decide)
  | leaf ht hs h ih => exact List.forall_mem_cons.2 ⟨ht.wellFormed, ih⟩
  | element ht ho hi hu hc h ihi ih =>
      exact List.forall_mem_cons.2 ⟨ht.wellFormed, List.forall_mem_append.2
        ⟨ihi, List.forall_mem_cons.2 ⟨hu.wellFormed, ih⟩⟩⟩

theorem countsFor_of_selfClosing (h : t.selfClosing) : countsFor name t = false := by
  rw [countsFor, h, Bool.not_true, Bool.and_false]

theorem sameName_of_closes (hc : closes t.name (.tag u)) (name : List Char) :
    sameName u.name name = sameName t.name name := by
  rw [closes, countsFor, Bool.and_assoc, Bool.and_eq_true] at hc
  have hn : u.name.map Char.toLower = t.name.map Char.toLower := of_decide_eq_true hc.1
  rw [sameName, sameName, hn]

theorem balanced (h : Nested ps ds) (name : List Char) : Balanced name 0 ps := by
  induction h with
  | nil => exact balanced_nil.2 rfl
  | digit hd h ih => exact (balanced_pass rfl rfl).2 ih
  | leaf ht hs h ih =>
      have hn : countsFor name _ = false := countsFor_of_selfClosing hs
      refine (balanced_pass ?_ ?_).2 ih
      · rw [opens, hn, Bool.false_and]
      · rw [closes, hn, Bool.false_and]
  | @element t u inner ps ds ds' ht ho hi hu hc h ihi ih =>
      have hn := sameName_of_closes hc name
      simp only [opens, closes, countsFor, Bool.and_eq_true, Bool.not_eq_true'] at ho hc
      cases hsame : sameName t.name name with
      | true =>
          -- The closing tag takes the depth back to what it was before the element.
          rw [hsame] at hn
          refine (balanced_open (by simp [opens, countsFor, hsame, ho])).2 ?_
          have hclosed : Balanced name 1 (.tag u :: ps) :=
            (balanced_close (by simp [closes, countsFor, hn, hc])).2 ih
          have hinner := ihi.append hclosed
          rwa [Nat.zero_add] at hinner ⊢
      | false =>
          rw [hsame] at hn
          refine (balanced_pass ?_ ?_).2 (ihi.append ((balanced_pass ?_ ?_).2 ih)) <;>
            simp [opens, closes, countsFor, hsame, hn]

theorem scan_digit (hd : d.isDigit) (written : List Char) :
    PageText.scan { written } [d] = { written := d :: written } := by
  have hb : '<' ∉ [d] := Text.not_mem_of_isDigit (by decide) (List.forall_mem_singleton.2 hd)
  have hs : ∀ c ∈ [d], Text.isSpace c = false :=
    List.forall_mem_singleton.2 (Text.not_isSpace_of_isDigit hd)
  rw [PageText.scan_text rfl ⟨rfl, rfl⟩ hb, PageText.foldl_write_eq written hs]
  rfl

theorem scan_eq (h : Nested ps ds) (written : List Char) :
    PageText.scan { written } (ps.flatMap Piece.chars) = { written := ds.reverse ++ written } := by
  induction h generalizing written with
  | nil => rfl
  | @digit d ps ds hd h ih =>
      rw [List.flatMap_cons, PageText.scan_append, Piece.chars, scan_digit hd, ih,
        List.reverse_cons, List.append_assoc, List.singleton_append]
  | leaf ht hs h ih =>
      rw [List.flatMap_cons, PageText.scan_append, Piece.chars, ht.scan_chars rfl, ih]
  | @element t u inner ps ds ds' ht ho hi hu hc h ihi ih =>
      rw [List.flatMap_cons, List.flatMap_append, List.flatMap_cons, PageText.scan_append,
        PageText.scan_append, PageText.scan_append, Piece.chars, Piece.chars, ht.scan_chars rfl,
        ihi, hu.scan_chars rfl, ih, List.reverse_append, List.append_assoc]

theorem ofPage_eq (h : Nested ps ds) : PageText.ofPage (ps.flatMap Piece.chars) = ds := by
  have hb : '<' ∉ ds := Text.not_mem_of_isDigit (by decide) h.isDigit
  have hs : ∀ d ∈ ds, Text.isSpace d = false := fun d hd =>
    Text.not_isSpace_of_isDigit (h.isDigit d hd)
  have hscan : PageText.scan {} (ps.flatMap Piece.chars) = PageText.scan {} ds := by
    rw [h.scan_eq, PageText.scan_text rfl ⟨rfl, rfl⟩ hb, PageText.foldl_write_eq [] hs]
  rw [PageText.ofPage, hscan]
  exact PageText.ofPage_digits h.isDigit

end Nested

structure TileElement where
  opening : Tag
  content : List Piece
  closing : Tag
  deriving Repr, DecidableEq

namespace TileElement

variable {e : TileElement} {digits : List Char}

def render (e : TileElement) : String :=
  String.ofList (e.opening.chars ++ (e.content.flatMap Piece.chars ++ e.closing.chars))

structure Holds (className tokenAttribute token : String) (digits : List Char) (e : TileElement) :
    Prop where
  opening : e.opening.WellFormed
  isTile : isTile className e.opening
  token : ∃ a, e.opening.attributes.find?
    (·.name = String.ofList (Text.lower tokenAttribute.toList)) = some a ∧ a.value = token
  content : Nested e.content digits
  closing : e.closing.WellFormed
  closes : closes e.opening.name (.tag e.closing)

namespace Holds

theorem pieces_page (h : e.Holds className tokenAttribute token digits)
    (hb : '<' ∉ before.toList) (tail : String) :
    pieces (before ++ e.render ++ tail).toList = before.toList.map .char ++
      .tag e.opening :: (e.content ++ .tag e.closing :: pieces tail.toList) := by
  rw [String.toList_append, String.toList_append, render, String.toList_ofList, List.append_assoc,
    List.append_assoc, List.append_assoc, pieces_text hb, pieces_tag h.opening,
    pieces_flatMap_chars h.content.wellFormed, pieces_tag h.closing]

theorem content_eq (h : e.Holds className tokenAttribute token digits) (ps : List Piece) :
    Page.content e.opening.name (e.content ++ .tag e.closing :: ps) =
      e.content.flatMap Piece.chars := by
  have hb : balanced? e.opening.name 0 (e.content ++ .tag e.closing :: ps) = some e.content :=
    balanced?_eq_some_iff.2 ⟨e.closing, ps, rfl, h.closes, h.content.balanced _⟩
  rw [Page.content, hb]

theorem tile_eq (h : e.Holds className tokenAttribute token digits) :
    tile (String.ofList (Text.lower tokenAttribute.toList)) (e.content.flatMap Piece.chars)
        e.opening.attributes =
      match Decimal.word? digits with
      | none => .error (.value (String.ofList digits))
      | some v => .ok ⟨v, token⟩ := by
  have ht := Text.trim_eq_self fun d hd => Text.not_isSpace_of_isDigit (h.content.isDigit d hd)
  obtain ⟨a, ha, rfl⟩ := h.token
  rw [tile, h.content.ofPage_eq, ht]
  cases Decimal.word? digits with
  | none => rfl
  | some v => simp only [ha]

theorem collect_page (h : e.Holds className tokenAttribute token digits)
    (hb : '<' ∉ before.toList) (tail : String) :
    collect className (String.ofList (Text.lower tokenAttribute.toList)) 0
        (pieces (before ++ e.render ++ tail).toList) =
      match Decimal.word? digits with
      | none => .error (.invalidTile 0 (.value (String.ofList digits)))
      | some v => (collect className (String.ofList (Text.lower tokenAttribute.toList)) 1
          (e.content ++ .tag e.closing :: pieces tail.toList)).map (⟨v, token⟩ :: ·) := by
  rw [h.pieces_page hb, collect_text, collect_tile h.isTile, h.content_eq, h.tile_eq]
  cases Decimal.word? digits <;> rfl

theorem tiles_of_word?_none (h : e.Holds className tokenAttribute token digits)
    (hb : '<' ∉ before.toList) (hw : Decimal.word? digits = none) (tail : String) :
    tiles (before ++ e.render ++ tail) className tokenAttribute =
      .error (.invalidTile 0 (.value (String.ofList digits))) := by
  simp only [tiles, h.collect_page hb, hw]

theorem tiles_of_word?_some {v : UInt64} (h : e.Holds className tokenAttribute token digits)
    (hb : '<' ∉ before.toList) (hw : Decimal.word? digits = some v) (tail : String) :
    (∃ ts, tiles (before ++ e.render ++ tail) className tokenAttribute = .ok (⟨v, token⟩ :: ts)) ∨
      ∃ position fault, 1 ≤ position ∧ tiles (before ++ e.render ++ tail) className
        tokenAttribute = .error (.invalidTile position fault) := by
  simp only [tiles, h.collect_page hb, hw]
  rw [← Nat.add_zero 1, collect_shift]
  cases hr : collect className (String.ofList (Text.lower tokenAttribute.toList)) 0
      (e.content ++ .tag e.closing :: pieces tail.toList) with
  | ok ts => exact .inl ⟨ts, rfl⟩
  | error fault =>
      obtain ⟨position, fault, rfl⟩ := exists_of_collect_error hr
      exact .inr ⟨1 + position, fault, Nat.le_add_right 1 position, rfl⟩

end Holds

end TileElement

/-- The value of a tile is what the digits in its element denote, however they are spread over
elements inside. What is wrong with the page after the tile is reported for a later one. -/
theorem tiles_nested {digits : List Char} {e : TileElement}
    (h : e.Holds className tokenAttribute token digits) (hb : '<' ∉ before.toList)
    (tail : String) :
    (∀ v : UInt64, digits ≠ [] → Decimal.denoted digits = v.toNat →
      (∃ ts, tiles (before ++ e.render ++ tail) className tokenAttribute =
        .ok (⟨v, token⟩ :: ts)) ∨
      ∃ position fault, 1 ≤ position ∧ tiles (before ++ e.render ++ tail) className
        tokenAttribute = .error (.invalidTile position fault)) ∧
    (digits = [] ∨ 2 ^ 64 ≤ Decimal.denoted digits →
      tiles (before ++ e.render ++ tail) className tokenAttribute =
        .error (.invalidTile 0 (.value (String.ofList digits)))) := by
  have hd := h.content.isDigit
  constructor
  · intro v hne hv
    exact h.tiles_of_word?_some hb (Decimal.word?_eq_some hne hd hv) tail
  · intro hv
    exact h.tiles_of_word?_none hb (Decimal.word?_eq_none hd hv) tail

/-- Neither an element of the same name nor an empty one ends the tile, and a tile behind it that is
none is reported for its own place. -/
theorem tiles_nested_same_name :
    let page := "2 > 1 <b class='row tile' T=x>0<B id=\"y\">1<i/></B >2</b><b class=tile>"
    ((∃ ts, tiles page "tile" "T" = .ok (⟨12, "x"⟩ :: ts)) ∨
      ∃ position fault, 1 ≤ position ∧
        tiles page "tile" "T" = .error (.invalidTile position fault)) ∧
    tiles "<p class=tile T=x><i></i></p>4" "tile" "T" = .error (.invalidTile 0 (.value "")) := by
  let b : Tag := ⟨false, ['B'], " id=\"y\"".toList⟩
  let b' : Tag := ⟨true, ['B'], [' ']⟩
  let i : Tag := ⟨false, ['i'], []⟩
  let i' : Tag := ⟨true, ['i'], []⟩
  let empty : Tag := ⟨false, ['i'], ['/']⟩
  let full : List Piece :=
    .char '0' :: .tag b :: ([.char '1', .tag empty] ++ [.tag b', .char '2'])
  have hfull : Nested full ['0', '1', '2'] :=
    .digit (by decide) (.element (by decide +kernel) (by decide +kernel)
      (.digit (by decide) (.leaf (by decide +kernel) (by decide) .nil))
      (by decide +kernel) (by decide +kernel) (.digit (by decide) .nil))
  let hollow : List Piece := .tag i :: ([] ++ [.tag i'])
  have hnone : Nested hollow [] :=
    .element (by decide +kernel) (by decide +kernel) .nil (by decide +kernel) (by decide +kernel)
      .nil
  let e : TileElement := ⟨⟨false, ['b'], " class='row tile' T=x".toList⟩, full, ⟨true, ['b'], []⟩⟩
  have he : e.Holds "tile" "T" "x" ['0', '1', '2'] :=
    ⟨by decide +kernel, by decide +kernel, ⟨⟨"t", "x"⟩, by decide +kernel, rfl⟩, hfull,
      by decide +kernel, by decide +kernel⟩
  let e' : TileElement := ⟨⟨false, ['p'], " class=tile T=x".toList⟩, hollow, ⟨true, ['p'], []⟩⟩
  have he' : e'.Holds "tile" "T" "x" [] :=
    ⟨by decide +kernel, by decide +kernel, ⟨⟨"t", "x"⟩, by decide +kernel, rfl⟩, hnone,
      by decide +kernel, by decide +kernel⟩
  have hpage : "2 > 1 " ++ e.render ++ "<b class=tile>" =
      "2 > 1 <b class='row tile' T=x>0<B id=\"y\">1<i/></B >2</b><b class=tile>" := by
    decide +kernel
  have hpage' : "" ++ e'.render ++ "4" = "<p class=tile T=x><i></i></p>4" := by decide +kernel
  rw [← hpage, ← hpage']
  exact ⟨(tiles_nested he (by decide) _).1 12 (by decide) (by decide),
    (tiles_nested he' (by decide) _).2 (.inl rfl)⟩

end TilePuzzle.Page
