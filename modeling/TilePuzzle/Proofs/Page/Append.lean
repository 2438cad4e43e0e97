import TilePuzzle.Proofs.Markup.Append
import TilePuzzle.Proofs.Page.Element

namespace TilePuzzle.Page

open Markup

variable {a className tokenName : String} {position : Nat} {ps : List Piece} {p : Piece} {t : Tag}
  {e : TileError}

def isTile (className : String) (t : Tag) : Bool :=
  !t.closing && hasClass className t.attributes

/-- Every tile element has its closing tag. -/
def TilesClosed (className : String) : List Piece → Prop
  | [] => True
  | .char _ :: ps => TilesClosed className ps
  | .tag t :: ps => (isTile className t → Closed t.name ps) ∧ TilesClosed className ps

instance decidableTilesClosed (className : String) : DecidablePred (TilesClosed className)
  | [] => inferInstanceAs (Decidable True)
  | .char _ :: ps => decidableTilesClosed className ps
  | .tag t :: ps =>
    have := decidableTilesClosed className ps
    inferInstanceAs (Decidable ((isTile className t → Closed t.name ps) ∧ _))

def TileError.shift (n : Nat) : TileError → TileError
  | .noTiles className => .noTiles className
  | .invalidTile position fault => .invalidTile (n + position) fault

/-- What two pages give one after the other, given what each of them gives. A page without tiles
counts as an empty list, and a fault is reported at its place among the tiles of both. -/
def joined : Except TileError (List Tile) → Except TileError (List Tile) →
    Except TileError (List Tile)
  | .error (.noTiles _), r => r
  | .error (.invalidTile position fault), _ => .error (.invalidTile position fault)
  | .ok ts, .error (.noTiles _) => .ok ts
  | .ok ts, .error (.invalidTile position fault) =>
    .error (.invalidTile (ts.length + position) fault)
  | .ok ts, .ok us => .ok (ts ++ us)

theorem collect_char (c : Char) :
    collect className tokenName position (.char c :: ps) =
      collect className tokenName position ps := rfl

theorem collect_skip (h : isTile className t = false) :
    collect className tokenName position (.tag t :: ps) =
      collect className tokenName position ps := by
  have hs : (t.closing || !hasClass className t.attributes) = true := by
    simpa [isTile, or_iff_not_imp_left] using h
  rw [collect]
  exact if_pos hs

theorem collect_tile (h : isTile className t) :
    collect className tokenName position (.tag t :: ps) =
      match tile tokenName (content t.name ps) t.attributes with
      | .error fault => .error (.invalidTile position fault)
      | .ok tile => (collect className tokenName (position + 1) ps).map (tile :: ·) := by
  have hs : ¬(t.closing || !hasClass className t.attributes) = true := by
    simpa [isTile] using h
  rw [collect]
  exact if_neg hs

theorem collect_shift (n position : Nat) (ps : List Piece) :
    collect className tokenName (n + position) ps =
      (collect className tokenName position ps).mapError (.shift n) := by
  induction ps generalizing position with
  | nil => rfl
  | cons p ps ih =>
      cases p with
      | char c => rw [collect_char, collect_char, ih]
      | tag t =>
          cases ht : isTile className t with
          | false => rw [collect_skip ht, collect_skip ht, ih]
          | true =>
              rw [collect_tile ht, collect_tile ht, Nat.add_assoc, ih]
              cases tile tokenName (content t.name ps) t.attributes with
              | error fault => rfl
              | ok tile => cases collect className tokenName (position + 1) ps <;> rfl

theorem collect_append (h : TilesClosed className ps) (qs : List Piece) (position : Nat) :
    collect className tokenName position (ps ++ qs) =
      (collect className tokenName position ps).bind fun ts =>
        (collect className tokenName (position + ts.length) qs).map (ts ++ ·) := by
  induction ps generalizing position with
  | nil =>
      rw [List.nil_append]
      exact (congrFun Except.map_id (collect className tokenName position qs)).symm
  | cons p ps ih =>
      cases p with
      | char c => rw [List.cons_append, collect_char, collect_char, ih h]
      | tag t =>
          have ih := ih h.2
          cases ht : isTile className t with
          | false => rw [List.cons_append, collect_skip ht, collect_skip ht, ih]
          | true =>
              -- The content of the tile ends within `ps`, so `qs` is not looked at.
              have hc := h.1 ht
              rw [List.cons_append, collect_tile ht, collect_tile ht, content_append hc, ih]
              cases tile tokenName (content t.name ps) t.attributes with
              | error fault => rfl
              | ok tile =>
                  cases collect className tokenName (position + 1) ps with
                  | error e => rfl
                  | ok ts =>
                      have hn : position + (tile :: ts).length = position + 1 + ts.length := by
                        rw [List.length_cons, Nat.add_assoc, Nat.add_comm 1]
                      simp only [Except.bind, Except.map, hn]
                      cases collect className tokenName (position + 1 + ts.length) qs <;> rfl

theorem exists_of_collect_error (h : collect className tokenName position ps = .error e) :
    ∃ position fault, e = .invalidTile position fault := by
  induction ps generalizing position with
  | nil => cases h
  | cons p ps ih =>
      cases p with
      | char c => exact ih h
      | tag t =>
          cases ht : isTile className t with
          | false =>
              rw [collect_skip ht] at h
              exact ih h
          | true =>
              rw [collect_tile ht] at h
              split at h
              next fault _ =>
                cases h
                exact ⟨position, fault, rfl⟩
              next tile _ =>
                cases hr : collect className tokenName (position + 1) ps with
                | error e' =>
                    rw [hr] at h
                    cases h
                    exact ih hr
                | ok ts =>
                    rw [hr] at h
                    cases h

/-- If no tag of a page and no tile on it is left unfinished, it gives the same tiles whatever page
comes after it, and that page gives its own tiles in turn. -/
theorem tiles_append (ha : Bracketed a.toList) (hc : TilesClosed className (pieces a.toList))
    (b tokenAttribute : String) :
    tiles (a ++ b) className tokenAttribute =
      joined (tiles a className tokenAttribute) (tiles b className tokenAttribute) := by
  simp only [tiles, String.toList_append, pieces_append ha, collect_append hc]
  generalize String.ofList (Text.lower tokenAttribute.toList) = tokenName
  cases hr : collect className tokenName 0 (pieces a.toList) with
  | error e =>
      obtain ⟨position, fault, rfl⟩ := exists_of_collect_error hr
      rfl
  | ok ts =>
      simp only [Except.bind, Nat.zero_add]
      rw [← Nat.add_zero ts.length, collect_shift]
      cases hs : collect className tokenName 0 (pieces b.toList) with
      | error e =>
          obtain ⟨position, fault, rfl⟩ := exists_of_collect_error hs
          cases ts <;> simp [Except.mapError, Except.map, TileError.shift, joined]
      | ok us => cases ts <;> cases us <;> simp [Except.mapError, Except.map, joined]

theorem tiles_append_nested :
    tiles ("<b class=tile t=x>1<b/><b>2</b></B> & <i>" ++ "</i><p class=\"tile\">no</p>")
      "tile" "T" = .error (.invalidTile 1 (.value "no")) := by
  have ha : Bracketed "<b class=tile t=x>1<b/><b>2</b></B> & <i>".toList := by decide +kernel
  have hc : TilesClosed "tile" (pieces "<b class=tile t=x>1<b/><b>2</b></B> & <i>".toList) := by
    decide +kernel
  have hfirst : tiles "<b class=tile t=x>1<b/><b>2</b></B> & <i>" "tile" "T" =
      .ok [⟨12, "x"⟩] := by
    decide +kernel
  have hsecond : tiles "</i><p class=\"tile\">no</p>" "tile" "T" =
      .error (.invalidTile 0 (.value "no")) := by
    decide +kernel
  rw [tiles_append ha hc, hfirst, hsecond]
  rfl

end TilePuzzle.Page
