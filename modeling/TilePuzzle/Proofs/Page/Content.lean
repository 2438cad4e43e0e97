import TilePuzzle.Proofs.Codec.Utf8
import TilePuzzle.Proofs.Markup.Append
import TilePuzzle.Proofs.Markup.Tag
import TilePuzzle.Proofs.Page.Element

namespace TilePuzzle.Page

open Markup Utf8

variable {cs ds name rest : List Char} {before ps : List Piece}

theorem cutAt?_append (cs ds : List Char) : cutAt? (cs ++ ds) (byteLength cs) = some (cs, ds) := by
  induction cs with
  | nil => cases ds <;> rfl
  | cons c cs ih =>
      have hl : byteLength (c :: cs) = byteLength [c] + byteLength cs := byteLength_append [c] cs
      obtain ⟨n, hn⟩ := Nat.exists_eq_add_one.2 (byteLength_pos c)
      have hs : byteLength (c :: cs) = n + byteLength cs + 1 := by omega
      have hd : n + byteLength cs + 1 - byteLength [c] = byteLength cs := by omega
      rw [List.cons_append, hs, cutAt?, if_pos (by omega), hd, ih]
      rfl

/-- The count is one more than the depth of what lies between, and so does not come to zero before
the closing tag that matches. -/
theorem search_eq (name : List Char) (depth position : Nat) (ps : List Piece) :
    search name (depth + 1) position ps = match balanced? name depth ps with
      | some inner => .found (position + byteLength (inner.flatMap Piece.chars))
      | none => .exhausted := by
  induction ps generalizing depth position with
  | nil => rfl
  | cons p ps ih =>
      have hnext (d : Nat) : search name (d + 1) (position + byteLength p.chars) ps =
          match (balanced? name d ps).map (p :: ·) with
          | some inner => .found (position + byteLength (inner.flatMap Piece.chars))
          | none => .exhausted := by
        rw [ih]
        cases balanced? name d ps with
        | none => rfl
        | some inner =>
            simp only [Option.map_some, List.flatMap_cons, byteLength_append, Nat.add_assoc]
      rw [search, balanced?_cons]
      unfold depthAfter?
      split
      next => exact hnext (depth + 1)
      next =>
        split
        next =>
          cases depth with
          | zero => rfl
          | succ depth => exact hnext depth
        next => exact hnext depth

theorem content?_append (name before rest : List Char) :
    content? name (before ++ rest) (byteLength before) = some (content name (pieces rest)) := by
  have hcut (cs ds : List Char) (h : rest = cs ++ ds) :
      (cutAt? rest (byteLength cs)).map Prod.fst = some cs := by
    rw [h, cutAt?_append]
    rfl
  have hs := search_eq name 0 0 (pieces rest)
  simp only [content?, cutAt?_append, content, flatMap_chars_pieces]
  cases hb : balanced? name 0 (pieces rest) with
  | none =>
      rw [hb] at hs
      simp only [hs]
      exact hcut _ _ List.takeWhile_append_dropWhile.symm
  | some inner =>
      rw [hb] at hs
      simp only [hs, Nat.zero_add]
      obtain ⟨t, after, hp, -, -⟩ := balanced?_eq_some_iff.1 hb
      refine hcut _ ((Piece.tag t :: after).flatMap Piece.chars) ?_
      rw [← List.flatMap_append, ← hp, flatMap_chars_pieces]

theorem pieces_rest (h : pieces cs = before ++ ps) : pieces (ps.flatMap Piece.chars) = ps := by
  induction cs using induction_pieces generalizing before with
  | nil =>
      rw [pieces] at h
      obtain ⟨-, rfl⟩ := List.append_eq_nil_iff.1 h.symm
      exact pieces.eq_1
  | tag t rest ht ih =>
      cases before with
      | nil =>
          rw [List.nil_append] at h
          rw [← h, flatMap_chars_pieces]
      | cons p before =>
          rw [pieces_read ht] at h
          exact ih (List.cons.inj h).2
  | char c rest hc ih =>
      cases before with
      | nil =>
          rw [List.nil_append] at h
          rw [← h, flatMap_chars_pieces]
      | cons p before =>
          rw [pieces_unread hc] at h
          exact ih (List.cons.inj h).2

theorem content?_of_pieces {page : List Char} {t : Tag} {after : List Piece}
    (h : pieces page = before ++ .tag t :: after) (name : List Char) :
    content? name page (byteLength (before.flatMap Piece.chars ++ t.chars)) =
      some (content name after) := by
  have hsplit : pieces page = (before ++ [.tag t]) ++ after := by
    rw [h, List.append_assoc, List.singleton_append]
  have hpage : page = before.flatMap Piece.chars ++ t.chars ++ after.flatMap Piece.chars := by
    rw [← flatMap_chars_pieces page, h, List.flatMap_append, List.flatMap_cons, List.append_assoc]
    rfl
  rw [hpage, content?_append, pieces_rest hsplit]

theorem content_balanced (hn : ElementName name) (hp : ∀ p ∈ ps, p.WellFormed)
    (hb : Balanced name 0 ps) (tail : List Char) :
    content name (pieces (ps.flatMap Piece.chars ++ ('<' :: '/' :: (name ++ '>' :: tail)))) =
      ps.flatMap Piece.chars := by
  let t : Tag := ⟨true, name, []⟩
  have ht : t.WellFormed := ⟨hn, .nil⟩
  have hc : closes name (.tag t) := by simp [closes, countsFor, sameName, Tag.selfClosing, t]
  have hchars : '<' :: '/' :: (name ++ '>' :: tail) = t.chars ++ tail := by simp [Tag.chars, t]
  have hinner : balanced? name 0 (ps ++ .tag t :: pieces tail) = some ps :=
    balanced?_eq_some_iff.2 ⟨t, pieces tail, rfl, hc, hb⟩
  rw [hchars, pieces_flatMap_chars hp, pieces_tag ht, content, hinner]

theorem content_of_not_closed (h : ¬Closed name (pieces rest)) :
    content name (pieces rest) = rest.takeWhile (· ≠ '<') := by
  have hn : balanced? name 0 (pieces rest) = none := by
    rw [Option.eq_none_iff_forall_ne_some]
    exact fun inner hb => h (closed_iff.2 ⟨inner, hb⟩)
  rw [content, hn, flatMap_chars_pieces]

/-- The content of an element is all that stands before the first tag that closes the element and
none inside it, whatever the rest of the page is. An element without such a tag ends where the next
tag could begin. The content is found by byte positions: every cut lies between two characters of
the page or at one of its ends, and the count of open elements does not fall below zero. -/
theorem content_ends_at_matching_tag (name : List Char) :
    (∀ ps tail, ElementName name → (∀ p ∈ ps, p.WellFormed) → Balanced name 0 ps →
      content name (pieces (ps.flatMap Piece.chars ++ ('<' :: '/' :: (name ++ '>' :: tail)))) =
        ps.flatMap Piece.chars) ∧
    (∀ rest, ¬Closed name (pieces rest) →
      content name (pieces rest) = rest.takeWhile (· ≠ '<')) ∧
    ∀ page before t after, pieces page = before ++ .tag t :: after →
      content? name page (byteLength (before.flatMap Piece.chars ++ t.chars)) =
        some (content name after) :=
  ⟨fun _ tail hn hp hb => content_balanced hn hp hb tail, fun _ => content_of_not_closed,
    fun _ _ _ _ h => content?_of_pieces h name⟩

example : content "b".toList (pieces "1<B x>2</b ><b/></bb></i>3</b></b>4".toList) =
    "1<B x>2</b ><b/></bb></i>3".toList := by
  decide +kernel

end TilePuzzle.Page
