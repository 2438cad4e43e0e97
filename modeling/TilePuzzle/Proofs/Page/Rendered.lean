import TilePuzzle.Proofs.Codec.Decimal
import TilePuzzle.Proofs.Markup.Attribute
import TilePuzzle.Proofs.Markup.PageText
import TilePuzzle.Proofs.Markup.Tag
import TilePuzzle.Proofs.Page.Append

namespace TilePuzzle.Page

open Markup

def LowerName : List Char → Prop
  | [] => False
  | c :: cs => (c.isLower ∨ c ∈ ['_', ':']) ∧
    ∀ d ∈ cs, d.isLower ∨ d.isDigit ∨ d ∈ ['_', ':', '.', '-']

variable {cs name value : List Char}

theorem LowerName.attributeName (h : LowerName name) : AttributeName name := by
  cases name with
  | nil => exact h
  | cons c cs =>
      refine ⟨h.1.imp_left fun hl => Text.isAlpha_iff.2 (.inr hl), fun d hd => ?_⟩
      rcases h.2 d hd with hl | hd | hs
      · exact .inl (Text.isAlphanum_iff.2 (.inl (Text.isAlpha_iff.2 (.inr hl))))
      · exact .inl (Text.isAlphanum_iff.2 (.inr hd))
      · exact .inr hs

theorem LowerName.forall_mem (h : LowerName name) :
    ∀ c ∈ name, c.isLower ∨ c.isDigit ∨ c ∈ ['_', ':', '.', '-'] := by
  cases name with
  | nil => exact List.forall_mem_nil _
  | cons c cs =>
      refine List.forall_mem_cons.2 ⟨h.1.imp_right fun hc => .inr ?_, h.2⟩
      exact List.mem_append_left ['.', '-'] hc

theorem LowerName.isUpper (h : LowerName name) : ∀ c ∈ name, c.isUpper = false := by
  intro c hc
  rw [← Bool.not_eq_true, Text.isUpper_iff_toNat]
  rcases h.forall_mem c hc with hl | hd | hs
  · have hl := Text.isLower_iff_toNat.1 hl
    omega
  · have hd := Char.isDigit_iff_toNat.1 hd
    simp only [Char.reduceToNat] at hd
    omega
  · simp only [List.mem_cons, List.not_mem_nil, or_false] at hs
    rcases hs with rfl | rfl | rfl | rfl <;> decide

theorem LowerName.lower_eq (h : LowerName name) : Text.lower name = name :=
  Text.lower_eq_self fun c hc => ⟨h.attributeName.ascii c hc, h.isUpper c hc⟩

theorem lowerName_class : LowerName "class".toList := by
  simp [LowerName]

def attributeText (name value : List Char) : List Char :=
  ' ' :: (name ++ '=' :: '"' :: (value ++ ['"']))

theorem ofText_attributeText (h : LowerName name) (hv : '"' ∉ value) (rest : List Char) :
    Attribute.ofText (attributeText name value ++ rest) =
      ⟨String.ofList name, String.ofList (decodeEntities value)⟩ :: Attribute.ofText rest := by
  have hw : value? ('"' :: (value ++ ['"']) ++ rest) =
      some (value, ('"' :: (value ++ ['"'])).length) := by
    have hq := value?_quoted (.inl rfl) hv rest
    simpa using hq
  have hs : ∀ c ∈ [' '], Text.isSpace c := List.forall_mem_singleton.2 (by decide)
  have ha := Attribute.ofText_attribute [' '] [] [] hs h.attributeName.start
    h.attributeName.isAttributeName (List.forall_mem_nil _) (List.forall_mem_nil _) hw
  rw [h.lower_eq] at ha
  simpa [attributeText] using ha

theorem noBracket_attributeText (hn : ∀ c ∈ name, c ≠ '<' ∧ c ≠ '>')
    (hv : ∀ c ∈ value, c ≠ '<' ∧ c ≠ '>') : ∀ c ∈ attributeText name value, c ≠ '<' ∧ c ≠ '>' := by
  intro c hc
  simp only [attributeText, List.mem_cons, List.mem_append, List.not_mem_nil, or_false] at hc
  rcases hc with rfl | hc | rfl | rfl | hc | rfl
  · decide
  · exact hn c hc
  · decide
  · decide
  · exact hv c hc
  · decide

structure Shown where
  name : String
  classes : String
  tile : Tile
  deriving Repr, DecidableEq

structure Shown.WellFormed (className : String) (e : Shown) : Prop where
  name : ∃ c cs, e.name.toList = c :: cs ∧ c.isLower ∧ ∀ d ∈ cs, d.isLower ∨ d.isDigit
  classes : ∀ c ∈ e.classes.toList, c ∉ ['"', '<', '>', '&']
  shows : className.toList ∈ Text.words e.classes.toList

def Shown.render (tokenName : String) (e : Shown) : String :=
  String.join ["<", e.name, " class=\"", e.classes, "\" ", tokenName, "=\"",
    String.ofList (escape e.tile.token.toList), "\">",
    String.ofList (Decimal.digits e.tile.value.toNat), "</", e.name, ">"]

/-- A page. Each element has its own text after it, and the first has text before it. -/
def rendered (tokenName before : String) (shown : List (Shown × String)) : String :=
  before ++ String.join (shown.map fun p => p.1.render tokenName ++ p.2)

variable {before className tokenName : String} {e : Shown} {position : Nat} {ps : List Piece}
  {shown : List (Shown × String)}

def Shown.opening (tokenName : String) (e : Shown) : Tag where
  closing := false
  name := e.name.toList
  body := attributeText "class".toList e.classes.toList ++
    attributeText tokenName.toList (escape e.tile.token.toList)

def Shown.pieces (tokenName : String) (e : Shown) : List Piece :=
  .tag (e.opening tokenName) :: ((Decimal.digits e.tile.value.toNat).map .char ++
    [.tag ⟨true, e.name.toList, []⟩])

theorem toList_render (tokenName : String) (e : Shown) :
    (e.render tokenName).toList = (e.opening tokenName).chars ++
      (Decimal.digits e.tile.value.toNat ++ (⟨true, e.name.toList, []⟩ : Tag).chars) := by
  simp only [Shown.render, Shown.opening, Tag.chars, attributeText, String.toList_join,
    List.flatMap_cons, List.flatMap_nil, String.toList_ofList, List.append_assoc,
    List.cons_append, List.nil_append, if_true, Bool.false_eq_true, if_false]
  rfl

theorem Shown.WellFormed.elementName (h : e.WellFormed className) : ElementName e.name.toList := by
  obtain ⟨c, cs, hn, hc, hcs⟩ := h.name
  rw [hn]
  refine ⟨⟨c, rfl, ?_⟩, List.forall_mem_cons.2 ⟨?_, fun d hd => ?_⟩⟩
  · exact Text.isAlpha_iff.2 (.inr hc)
  · exact Text.isAlphanum_iff.2 (.inl (Text.isAlpha_iff.2 (.inr hc)))
  · rcases hcs d hd with hd | hd
    · exact Text.isAlphanum_iff.2 (.inl (Text.isAlpha_iff.2 (.inr hd)))
    · exact Text.isAlphanum_iff.2 (.inr hd)

theorem Shown.WellFormed.opening (h : e.WellFormed className) (ht : LowerName tokenName.toList) :
    (e.opening tokenName).WellFormed where
  name := h.elementName
  body := by
    refine ⟨?_, ?_⟩
    · rintro _ ⟨⟩
      decide
    · have hclass : ∀ c ∈ e.classes.toList, c ≠ '<' ∧ c ≠ '>' := by
        intro c hc
        constructor <;> rintro rfl <;> exact h.classes _ hc (by decide)
      have hescape : ∀ c ∈ escape e.tile.token.toList, c ≠ '<' ∧ c ≠ '>' := by
        intro c hc
        constructor <;> rintro rfl <;> exact not_mem_escape (by decide) _ hc
      exact List.forall_mem_append.2 ⟨noBracket_attributeText lowerName_class.attributeName.noBracket hclass,
        noBracket_attributeText ht.attributeName.noBracket hescape⟩

theorem attributes_opening (h : e.WellFormed className) (ht : LowerName tokenName.toList) :
    (e.opening tokenName).attributes = [⟨"class", e.classes⟩, ⟨tokenName, e.tile.token⟩] := by
  have hq : '"' ∉ e.classes.toList := fun hc => h.classes '"' hc (by decide)
  have ha : '&' ∉ e.classes.toList := fun hc => h.classes '&' hc (by decide)
  have hv := not_mem_escape (c := '"') (by decide) e.tile.token.toList
  have hlast := ofText_attributeText ht hv []
  rw [List.append_nil, Attribute.ofText] at hlast
  rw [Tag.attributes, Shown.opening, ofText_attributeText lowerName_class hq, hlast,
    decodeEntities_eq_self ha, decodeEntities_escape]
  simp only [String.ofList_toList]

theorem balanced?_text (depth : Nat) :
    balanced? name depth (cs.map .char ++ ps) =
      (balanced? name depth ps).map (cs.map .char ++ ·) := by
  induction cs with
  | nil => simp
  | cons c cs ih =>
      rw [List.map_cons, List.cons_append, balanced?, ih, Option.map_map]
      rfl

theorem content_text (name cs : List Char) (ps : List Piece) :
    content name (cs.map .char ++ .tag ⟨true, name, []⟩ :: ps) = cs := by
  have hb : balanced? name 0 (.tag ⟨true, name, []⟩ :: ps) = some [] := by
    simp [balanced?, sameName, Tag.selfClosing]
  rw [content, balanced?_text, hb]
  simp [List.flatMap_map, Piece.chars]

theorem collect_text :
    collect className tokenName position (cs.map .char ++ ps) =
      collect className tokenName position ps := by
  induction cs with
  | nil => rfl
  | cons c cs ih => rw [List.map_cons, List.cons_append, collect, ih]

theorem hasClass_opening (h : e.WellFormed className) (ht : LowerName tokenName.toList) :
    hasClass className (e.opening tokenName).attributes := by
  rw [attributes_opening h ht, hasClass, List.any_cons]
  have hw : (Text.words e.classes.toList).any (· = className.toList) :=
    List.any_eq_true.2 ⟨_, h.shows, decide_eq_true rfl⟩
  simp [hw]

theorem tile_shown (h : e.WellFormed className) (ht : LowerName tokenName.toList)
    (hne : tokenName ≠ "class") :
    tile tokenName (Decimal.digits e.tile.value.toNat) (e.opening tokenName).attributes =
      .ok e.tile := by
  have hd := Decimal.isDigit_digits e.tile.value.toNat
  have hs := Text.trim_eq_self fun c hc => Text.not_isSpace_of_isDigit (hd c hc)
  have hf : (e.opening tokenName).attributes.find? (·.name = tokenName) =
      some ⟨tokenName, e.tile.token⟩ := by
    rw [attributes_opening h ht, List.find?_cons_of_neg (by simpa using hne.symm)]
    simp
  simp only [tile, PageText.ofPage_digits hd, hs, Decimal.word?_digits, hf]

theorem collect_shown (h : e.WellFormed className) (ht : LowerName tokenName.toList)
    (hne : tokenName ≠ "class") :
    collect className tokenName position (e.pieces tokenName ++ ps) =
      (collect className tokenName (position + 1) ps).map (e.tile :: ·) := by
  have hopening : isTile className (e.opening tokenName) := hasClass_opening h ht
  have hname : (e.opening tokenName).name = e.name.toList := rfl
  have hcontent := content_text e.name.toList (Decimal.digits e.tile.value.toNat) ps
  rw [Shown.pieces, List.cons_append, List.append_assoc, List.singleton_append,
    collect_tile hopening, hname, hcontent, tile_shown h ht hne, collect_text, collect_skip rfl]

theorem pieces_rendered (ht : LowerName tokenName.toList) (hb : '<' ∉ before.toList)
    (hs : ∀ p ∈ shown, p.1.WellFormed className ∧ '<' ∉ p.2.toList) :
    Markup.pieces (rendered tokenName before shown).toList =
      before.toList.map .char ++ shown.flatMap fun p =>
        p.1.pieces tokenName ++ p.2.toList.map .char := by
  have hp : pieces (shown.flatMap fun p => (p.1.render tokenName ++ p.2).toList) =
      shown.flatMap fun p => p.1.pieces tokenName ++ p.2.toList.map .char := by
    induction shown with
    | nil => rw [List.flatMap_nil, pieces, List.flatMap_nil]
    | cons p shown ih =>
        obtain ⟨e, after⟩ := p
        obtain ⟨⟨he, ha⟩, hs⟩ := List.forall_mem_cons.1 hs
        have hclosing : (⟨true, e.name.toList, []⟩ : Tag).WellFormed :=
          ⟨he.elementName, .nil⟩
        have hd : '<' ∉ Decimal.digits e.tile.value.toNat :=
          Text.not_mem_of_isDigit (by decide) (Decimal.isDigit_digits _)
        rw [List.flatMap_cons, String.toList_append, toList_render, List.append_assoc,
          List.append_assoc, List.append_assoc, pieces_tag (he.opening ht), pieces_text hd,
          pieces_tag hclosing, pieces_text ha, ih hs]
        simp [Shown.pieces]
  rw [rendered, String.toList_append, String.toList_join, pieces_text hb, List.flatMap_map, hp]

theorem collect_rendered (ht : LowerName tokenName.toList) (hne : tokenName ≠ "class")
    (position : Nat) (hs : ∀ p ∈ shown, p.1.WellFormed className) :
    collect className tokenName position (shown.flatMap fun p =>
      p.1.pieces tokenName ++ p.2.toList.map .char) = .ok (shown.map (·.1.tile)) := by
  induction shown generalizing position with
  | nil => rfl
  | cons p shown ih =>
      obtain ⟨he, hs⟩ := List.forall_mem_cons.1 hs
      rw [List.flatMap_cons, List.append_assoc, collect_shown he ht hne, collect_text,
        ih (position + 1) hs]
      rfl

/-- The tiles of a rendered page are those it was rendered from, whatever their tokens hold and
whatever text stands between them. -/
theorem tiles_rendered (ht : LowerName tokenName.toList) (hne : tokenName ≠ "class")
    (hb : '<' ∉ before.toList)
    (hs : ∀ p ∈ shown, p.1.WellFormed className ∧ '<' ∉ p.2.toList) (hn : shown ≠ []) :
    tiles (rendered tokenName before shown) className tokenName =
      .ok (shown.map (·.1.tile)) := by
  have hl : String.ofList (Text.lower tokenName.toList) = tokenName := by
    rw [ht.lower_eq, String.ofList_toList]
  have hc := collect_rendered ht hne 0 fun p hp => (hs p hp).1
  rw [tiles, hl, pieces_rendered ht hb hs, collect_text, hc]
  cases shown with
  | nil => exact absurd rfl hn
  | cons p shown => rfl

theorem tiles_rendered_escaped :
    tiles ("1 > 0\n<li class=\"row\ttile\" data-t=\"&quot;&amp;lt;&#39;\n class=&quot;x\">0</li>" ++
      " & <h1 class=\"tile\" data-t=\"\">18446744073709551615</h1>") "tile" "data-t" =
      .ok [⟨0, "\"&lt;'\n class=\"x"⟩, ⟨18446744073709551615, ""⟩] := by
  have h₁ : Shown.WellFormed "tile" ⟨"li", "row\ttile", 0, "\"&lt;'\n class=\"x"⟩ :=
    ⟨⟨'l', ['i'], by simp⟩, by simp, by decide⟩
  have h₂ : Shown.WellFormed "tile" ⟨"h1", "tile", 18446744073709551615, ""⟩ :=
    ⟨⟨'h', ['1'], by simp⟩, by simp, by decide⟩
  have ht : LowerName "data-t".toList := by simp [LowerName]
  have hpage : rendered "data-t" "1 > 0\n"
      [(⟨"li", "row\ttile", 0, "\"&lt;'\n class=\"x"⟩, " & "),
        (⟨"h1", "tile", 18446744073709551615, ""⟩, "")] =
      "1 > 0\n<li class=\"row\ttile\" data-t=\"&quot;&amp;lt;&#39;\n class=&quot;x\">0</li>" ++
      " & <h1 class=\"tile\" data-t=\"\">18446744073709551615</h1>" := by
    decide +kernel
  rw [← hpage]
  exact tiles_rendered ht (by decide) (by decide) (by simp [h₁, h₂]) (by decide)

end TilePuzzle.Page
