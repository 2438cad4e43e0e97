import TilePuzzle.Page

namespace TilePuzzle.Page

open Markup

variable {d depth : Nat} {inner ps : List Piece} {name : List Char} {p : Piece}

/-- Pieces which close the elements that they open and `depth` more, and never more than are
open. -/
structure Balanced (name : List Char) (depth : Nat) (ps : List Piece) : Prop where
  enough : ∀ qs, qs <+: ps → qs.countP (closes name) ≤ depth + qs.countP (opens name)
  settled : ps.countP (closes name) = depth + ps.countP (opens name)

def Closed (name : List Char) (ps : List Piece) : Prop :=
  ∃ inner t rest, ps = inner ++ .tag t :: rest ∧ closes name (.tag t) ∧ Balanced name 0 inner

def depthAfter? (name : List Char) (depth : Nat) (p : Piece) : Option Nat :=
  if opens name p then some (depth + 1)
  else if closes name p then match depth with
    | 0 => none
    | depth + 1 => some depth
  else some depth

theorem closes_of_opens (h : opens name p) : closes name p = false := by
  cases p with
  | char c => rfl
  | tag t =>
      rw [opens, Bool.and_eq_true, Bool.not_eq_true'] at h
      rw [closes, h.2, Bool.and_false]

theorem depthAfter?_eq_some_iff : depthAfter? name depth p = some d ↔
    d + [p].countP (closes name) = depth + [p].countP (opens name) := by
  rw [List.countP_singleton, List.countP_singleton]
  unfold depthAfter?
  split
  next ho =>
    rw [closes_of_opens ho, Option.some_inj]
    simp only [Bool.false_eq_true, if_false]
    omega
  next =>
    split
    next =>
      cases depth with
      | zero => simp
      | succ depth =>
          simp only [Option.some_inj]
          omega
    next =>
      rw [Option.some_inj]
      omega

theorem depthAfter?_eq_none_iff : depthAfter? name depth p = none ↔
    closes name p ∧ depth = 0 := by
  unfold depthAfter?
  split
  next ho => simp [closes_of_opens ho]
  next =>
    split
    next hc => cases depth <;> simp [hc]
    next hc => simp [hc]

theorem balanced_nil : Balanced name depth [] ↔ depth = 0 := by
  constructor
  · intro h
    simpa using h.settled.symm
  · rintro rfl
    refine ⟨?_, rfl⟩
    rintro qs hq
    rw [List.prefix_nil.1 hq]
    exact Nat.zero_le _

theorem balanced_cons : Balanced name depth (p :: ps) ↔
    ∃ d, depthAfter? name depth p = some d ∧ Balanced name d ps := by
  have hcons (f : Piece → Bool) (qs : List Piece) :
      (p :: qs).countP f = [p].countP f + qs.countP f := by
    rw [← List.countP_append, List.singleton_append]
  simp only [depthAfter?_eq_some_iff]
  constructor
  · intro h
    have hp := h.enough [p] (List.cons_prefix_cons.2 ⟨rfl, List.nil_prefix⟩)
    refine ⟨depth + [p].countP (opens name) - [p].countP (closes name), by omega, ?_, ?_⟩
    · intro qs hq
      have hqs := h.enough (p :: qs) (List.cons_prefix_cons.2 ⟨rfl, hq⟩)
      rw [hcons _ qs, hcons _ qs] at hqs
      omega
    · have hs := h.settled
      rw [hcons _ ps, hcons _ ps] at hs
      omega
  · rintro ⟨d, hd, h⟩
    refine ⟨?_, ?_⟩
    · intro qs hq
      rcases List.prefix_cons_iff.1 hq with rfl | ⟨qs, rfl, hqs⟩
      · exact Nat.zero_le _
      · have hqs := h.enough qs hqs
        rw [hcons _ qs, hcons _ qs]
        omega
    · have hs := h.settled
      rw [hcons _ ps, hcons _ ps]
      omega

theorem balanced_pass (ho : opens name p = false) (hc : closes name p = false) :
    Balanced name depth (p :: ps) ↔ Balanced name depth ps := by
  simp [balanced_cons, depthAfter?, ho, hc]

theorem balanced_open (ho : opens name p) :
    Balanced name depth (p :: ps) ↔ Balanced name (depth + 1) ps := by
  simp [balanced_cons, depthAfter?, ho]

theorem balanced_close (hc : closes name p) :
    Balanced name (depth + 1) (p :: ps) ↔ Balanced name depth ps := by
  have ho : opens name p = false := by
    rw [← Bool.not_eq_true]
    intro ho
    exact Bool.false_ne_true ((closes_of_opens ho).symm.trans hc)
  simp [balanced_cons, depthAfter?, ho, hc]

theorem Balanced.append {qs : List Piece} (h : Balanced name depth ps) (hq : Balanced name d qs) :
    Balanced name (depth + d) (ps ++ qs) := by
  induction ps generalizing depth with
  | nil =>
      obtain rfl := balanced_nil.1 h
      rwa [Nat.zero_add]
  | cons p ps ih =>
      obtain ⟨e, he, hps⟩ := balanced_cons.1 h
      rw [depthAfter?_eq_some_iff] at he
      refine balanced_cons.2 ⟨e + d, ?_, ih hps⟩
      rw [depthAfter?_eq_some_iff]
      omega

theorem balanced?_cons (name : List Char) (depth : Nat) (p : Piece) (ps : List Piece) :
    balanced? name depth (p :: ps) = match depthAfter? name depth p with
      | some d => (balanced? name d ps).map (p :: ·)
      | none => some [] := by
  cases p with
  | char c => rfl
  | tag t =>
      cases hn : sameName t.name name <;> cases hs : t.selfClosing <;>
        cases hc : t.closing <;> cases depth <;>
        simp [balanced?, depthAfter?, opens, closes, countsFor, hn, hs, hc]

theorem balanced?_eq_some_iff : balanced? name depth ps = some inner ↔
    ∃ t rest, ps = inner ++ .tag t :: rest ∧ closes name (.tag t) ∧ Balanced name depth inner := by
  induction ps generalizing depth inner with
  | nil => simp [balanced?]
  | cons p ps ih =>
      rw [balanced?_cons]
      cases hd : depthAfter? name depth p with
      | none =>
          obtain ⟨hc, rfl⟩ := depthAfter?_eq_none_iff.1 hd
          constructor
          · rintro ⟨⟩
            cases p with
            | char c => cases hc
            | tag t => exact ⟨t, ps, rfl, hc, balanced_nil.2 rfl⟩
          · rintro ⟨t, rest, hps, ht, hb⟩
            cases inner with
            | nil => rfl
            | cons q inner =>
                obtain ⟨rfl, -⟩ := List.cons.inj hps
                obtain ⟨d, hd', -⟩ := balanced_cons.1 hb
                cases hd.symm.trans hd'
      | some d =>
          constructor
          · intro h
            obtain ⟨inner, hi, rfl⟩ := Option.map_eq_some_iff.1 h
            obtain ⟨t, rest, rfl, ht, hb⟩ := ih.1 hi
            exact ⟨t, rest, rfl, ht, balanced_cons.2 ⟨d, hd, hb⟩⟩
          · rintro ⟨t, rest, hps, ht, hb⟩
            cases inner with
            | nil =>
                obtain ⟨rfl, -⟩ := List.cons.inj hps
                have hn := depthAfter?_eq_none_iff.2 ⟨ht, balanced_nil.1 hb⟩
                cases hd.symm.trans hn
            | cons q inner =>
                obtain ⟨rfl, rfl⟩ := List.cons.inj hps
                obtain ⟨e, he, hb⟩ := balanced_cons.1 hb
                cases hd.symm.trans he
                exact Option.map_eq_some_iff.2 ⟨inner, ih.2 ⟨t, rest, rfl, ht, hb⟩, rfl⟩

theorem closed_iff : Closed name ps ↔ ∃ inner, balanced? name 0 ps = some inner := by
  simp only [Closed, balanced?_eq_some_iff]

instance : Decidable (Closed name ps) :=
  decidable_of_iff ((balanced? name 0 ps).isSome = true)
    (Option.isSome_iff_exists.trans closed_iff.symm)

theorem content_append (h : Closed name ps) (qs : List Piece) :
    content name (ps ++ qs) = content name ps := by
  obtain ⟨inner, t, rest, rfl, ht, hb⟩ := h
  have hi : balanced? name 0 (inner ++ .tag t :: rest) = some inner :=
    balanced?_eq_some_iff.2 ⟨t, rest, rfl, ht, hb⟩
  have ha : balanced? name 0 (inner ++ .tag t :: rest ++ qs) = some inner :=
    balanced?_eq_some_iff.2 ⟨t, rest ++ qs, by simp, ht, hb⟩
  rw [content, content, hi, ha]

end TilePuzzle.Page
