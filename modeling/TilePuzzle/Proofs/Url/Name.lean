import TilePuzzle.Proofs.Text.Plain
import TilePuzzle.Url.Host

namespace TilePuzzle.Url.Idna

variable {c : Char} {name label before : List Char}

def isPlain (c : Char) : Bool :=
  c.toNat < 128 && !c.isUpper && !isForbidden c

theorem mapM_of_forall {α β : Type} {f : α → Option β} {g : α → β} {as : List α}
    (h : ∀ a ∈ as, f a = some (g a)) : as.mapM f = some (as.map g) := by
  induction as with
  | nil => rfl
  | cons a as ih =>
      obtain ⟨ha, has⟩ := List.forall_mem_cons.1 h
      rw [List.mapM_cons, ha, ih has]
      rfl

theorem ascii_of_isPlain (h : isPlain c = true) : c.toNat < 128 := by
  simp only [isPlain, Bool.and_eq_true, decide_eq_true_eq] at h
  exact h.1.1

theorem map?_plain (h : isPlain c = true) : map? c = some [c] := by
  simp only [isPlain, Bool.and_eq_true, decide_eq_true_eq, Bool.not_eq_true'] at h
  obtain ⟨⟨ha, hu⟩, -⟩ := h
  have hl : c.toLower = c :=
    dif_neg fun hr => Bool.false_ne_true (hu.symm.trans (decide_eq_true hr))
  rw [map?, if_pos ha, hl]

theorem canonical?_plain (h : ∀ c ∈ name, isPlain c = true) : canonical? name = some name := by
  have hm : name.mapM map? = some (name.map ([·])) :=
    mapM_of_forall fun c hc => map?_plain (h c hc)
  have hf : (name.map ([·])).flatten = name := by
    rw [← List.flatMap_def, List.flatMap_singleton']
  have ha : name.all (·.toNat < 128) = true :=
    List.all_eq_true.2 fun c hc => decide_eq_true (ascii_of_isPlain (h c hc))
  simp only [canonical?, hm, Option.map_some, hf, if_pos ha]

theorem joinersAllowed_ascii (h : ∀ c ∈ label, c.toNat < 128) :
    joinersAllowed before label = true := by
  induction label generalizing before with
  | nil => rfl
  | cons c label ih =>
      obtain ⟨hc, hl⟩ := List.forall_mem_cons.1 h
      have hn : c ≠ nonJoiner := by
        rintro rfl
        exact absurd hc (by decide)
      have hj : c ≠ joiner := by
        rintro rfl
        exact absurd hc (by decide)
      simp only [joinersAllowed, if_neg hn, if_neg hj, ih hl, Bool.and_self]

theorem isDirected_ascii (h : ∀ c ∈ label, c.toNat < 128) : isDirected label = false := by
  rw [isDirected, List.any_eq_false]
  intro c hc
  simp only [direction, if_pos (h c hc)]
  split
  · decide
  split <;> decide

theorem isAllowedLabel_plain (h : ∀ c ∈ label, isPlain c = true) :
    isAllowedLabel label = true := by
  have hm : label.head?.any isMark = false := by
    cases label with
    | nil => rfl
    | cons c label =>
        have hc := ascii_of_isPlain (h c List.mem_cons_self)
        simp only [List.head?_cons, Option.any_some, isMark, Bool.and_eq_false_imp,
          decide_eq_true_eq]
        omega
  have hf : label.any isForbidden = false := by
    rw [List.any_eq_false]
    intro c hc
    have := h c hc
    simp only [isPlain, Bool.and_eq_true, Bool.not_eq_true'] at this
    simp [this.2]
  rw [isAllowedLabel, hm, hf, joinersAllowed_ascii fun c hc => ascii_of_isPlain (h c hc)]
  rfl

def isPlainLabel (label : List Char) : Bool :=
  label.all isPlain && !acePrefix.isPrefixOf label

theorem toAscii?_plain (hn : name.all isPlain = true)
    (hl : (name.splitOnP (· = '.')).all isPlainLabel = true) : toAscii? name = some name := by
  have hs : ((name.splitOnP (· = '.')).intersperse ['.']).flatten = name :=
    List.intercalate_splitOn '.'
  rw [toAscii?, canonical?_plain (List.all_eq_true.1 hn), Option.bind_eq_bind, Option.bind_some]
  generalize name.splitOnP (· = '.') = labels at hl hs
  simp only [List.all_eq_true, isPlainLabel, Bool.and_eq_true, Bool.not_eq_true'] at hl
  have hp : ∀ label ∈ labels, ∀ c ∈ label, isPlain c = true := fun label h => (hl label h).1
  have hascii : ∀ label ∈ labels, ∀ c ∈ label, c.toNat < 128 :=
    fun label h c hc => ascii_of_isPlain (hp label h c hc)
  have hr : labels.mapM readLabel? = some (labels.map id) :=
    mapM_of_forall fun label h => if_neg (Bool.eq_false_iff.1 (hl label h).2)
  have ha : labels.all isAllowedLabel = true :=
    List.all_eq_true.2 fun label h => isAllowedLabel_plain (hp label h)
  have hd : labels.any isDirected = false :=
    List.any_eq_false.2 fun label h => Bool.eq_false_iff.1 (isDirected_ascii (hascii label h))
  have hw : labels.map writeLabel = labels.map id :=
    List.map_congr_left fun label h =>
      if_pos (List.all_eq_true.2 fun c hc => decide_eq_true (hascii label h c hc))
  rw [List.map_id] at hr hw
  simp only [Option.bind_eq_bind, Option.bind_some, hr, ha, hd, hw, hs]
  rfl

end TilePuzzle.Url.Idna
