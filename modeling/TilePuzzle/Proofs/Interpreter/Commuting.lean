import TilePuzzle.Proofs.Interpreter.Run
import TilePuzzle.Proofs.Variables.Unordered

namespace TilePuzzle

namespace Instruction

variable {texts texts' : String → Option String} {i j : Instruction} {name text : String}

def src? : Instruction → Option String
  | store _ _ => none
  | mov src _ => some src
  | add _ src _ => some src
  | finish => none
  | unknown _ _ => none

structure Independent (i j : Instruction) : Prop where
  left : i.dest?.isSome
  right : j.dest?.isSome
  dests : i.dest? ≠ j.dest?
  left_src : i.src? ≠ j.dest?
  right_src : j.src? ≠ i.dest?

theorem Independent.symm (h : Independent i j) : Independent j i :=
  ⟨h.right, h.left, h.dests.symm, h.right_src, h.left_src⟩

theorem Writes.congr (h : i.Writes texts name text) (ht : ∀ src ∈ i.src?, texts src = texts' src) :
    i.Writes texts' name text := by
  cases h with
  | store => exact .store text name
  | @mov src _ _ hs => exact .mov name (ht src rfl ▸ hs)
  | @add _ src _ _ _ _ ha hs hb => exact .add name ha (ht src rfl ▸ hs) hb

theorem Refused.congr {e : FrameError} (h : i.Refused texts e)
    (ht : ∀ src ∈ i.src?, texts src = texts' src) : i.Refused texts' e := by
  cases h with
  | @source src dest hs => exact .source dest (ht src rfl ▸ hs)
  | literal src dest ha => exact .literal src dest ha
  | @operand _ src _ dest ha hs => exact .operand dest ha (ht src rfl ▸ hs)
  | @text _ src _ _ dest ha hs hb => exact .text dest ha (ht src rfl ▸ hs) hb

end Instruction

namespace Interpreter

variable {a b m : Interpreter} {i j : Instruction} {is is' : List Instruction} {dest dest' : String}

inductive Reachable : Interpreter → Prop
  | new : Reachable new
  | apply {m : Interpreter} (h : Reachable m) (i : Instruction) : Reachable (m.apply i).2
  | execute {m : Interpreter} (h : Reachable m) (raw : String) : Reachable (m.execute raw).2

def applyAll (m : Interpreter) (is : List Instruction) : Interpreter :=
  is.foldl (fun m i => (m.apply i).2) m

def overwrite (m : Interpreter) (dest : String) : Option String → Interpreter
  | some text => m.define dest text
  | none => m

/-- Two machines that differ in nothing but the order of their names. -/
structure Similar (a b : Interpreter) : Prop where
  phase : a.phase = b.phase
  vars : Variables.Same a.vars b.vars

/-- `END` has the same result on two machines, save for the error that it may report. -/
def SameEnd (a b : Interpreter) : Prop :=
  (a.apply .finish).1.toOption = (b.apply .finish).1.toOption

/-- The result of an instruction and the text that it writes depend on no name but its source. -/
theorem exists_effect (hd : i.dest? = some dest) (texts : String → Option String) :
    ∃ result written, ∀ m : Interpreter, m.isTerminated = false →
      (∀ src ∈ i.src?, texts src = m.vars.get? src) →
      m.apply i = (result, m.overwrite dest written) := by
  rcases Instruction.writes_or_refused texts hd with ⟨text, hw⟩ | ⟨e, he⟩
  · exact ⟨.ok none, some text, fun m hm ht => apply_of_writes hm (hw.congr ht)⟩
  · exact ⟨.error e, none, fun m hm ht => apply_of_refused hm (he.congr ht)⟩

theorem apply_of_terminated (hm : m.isTerminated = true) (i : Instruction) :
    m.apply i = (.ok none, m) := by
  unfold apply
  rw [if_pos hm]

section Overwrite

variable (written written' : Option String)

theorem isTerminated_overwrite : (m.overwrite dest written).isTerminated = m.isTerminated := by
  cases written <;> rfl

theorem coherent_overwrite (h : m.vars.Coherent) : (m.overwrite dest written).vars.Coherent := by
  cases written with
  | none => exact h
  | some text => exact h.set dest text

theorem get?_overwrite_of_ne (h : m.vars.Coherent) {name : String} (hn : name ≠ dest) :
    (m.overwrite dest written).vars.get? name = m.vars.get? name := by
  cases written with
  | none => rfl
  | some text => exact (h.get?_set dest text name).trans (if_neg hn)

theorem Similar.overwrite (h : Similar a b) :
    Similar (a.overwrite dest written) (b.overwrite dest written) := by
  cases written with
  | none => exact h
  | some text => exact ⟨h.phase, h.vars.set dest text⟩

theorem similar_overwrite_overwrite (h : m.vars.Coherent) (hd : dest ≠ dest') :
    Similar ((m.overwrite dest written).overwrite dest' written')
      ((m.overwrite dest' written').overwrite dest written) := by
  cases written with
  | none => exact ⟨rfl, .refl (coherent_overwrite written' h)⟩
  | some text =>
      cases written' with
      | none => exact ⟨rfl, .refl (h.set dest text)⟩
      | some text' => exact ⟨rfl, h.same_set_set hd text text'⟩

end Overwrite

theorem vars_finish (m : Interpreter) : m.finish.2.vars = m.vars := by
  rw [finish]
  split
  · rfl
  · split <;> rfl

theorem coherent_apply (h : m.vars.Coherent) (i : Instruction) : (m.apply i).2.vars.Coherent := by
  cases hm : m.isTerminated with
  | true =>
      rw [apply_of_terminated hm]
      exact h
  | false =>
      cases hd : i.dest? with
      | some dest =>
          obtain ⟨result, written, he⟩ := exists_effect hd m.vars.get?
          rw [he m hm fun _ _ => rfl]
          exact coherent_overwrite written h
      | none =>
          cases i with
          | store | mov | add => cases hd
          | finish =>
              rw [apply_finish hm, vars_finish]
              exact h
          | unknown =>
              rw [apply, hm]
              exact h

theorem Reachable.coherent (h : Reachable m) : m.vars.Coherent := by
  induction h with
  | new => exact Variables.coherent_empty
  | apply h i ih => exact coherent_apply ih i
  | execute h raw ih => exact coherent_execute ih raw

namespace Similar

theorem refl (h : m.vars.Coherent) : Similar m m :=
  ⟨rfl, .refl h⟩

theorem trans {c : Interpreter} (h : Similar a b) (h' : Similar b c) : Similar a c :=
  ⟨h.phase.trans h'.phase, h.vars.trans h'.vars⟩

theorem isTerminated_eq (h : Similar a b) : a.isTerminated = b.isTerminated := by
  rw [isTerminated, h.phase, isTerminated]

theorem apply (h : Similar a b) (hd : i.dest?.isSome) :
    (a.apply i).1 = (b.apply i).1 ∧ Similar (a.apply i).2 (b.apply i).2 := by
  obtain ⟨dest, hd⟩ := Option.isSome_iff_exists.1 hd
  cases ha : a.isTerminated with
  | true =>
      have hb : b.isTerminated = true := h.isTerminated_eq ▸ ha
      rw [apply_of_terminated ha, apply_of_terminated hb]
      exact ⟨rfl, h⟩
  | false =>
      have hb : b.isTerminated = false := h.isTerminated_eq ▸ ha
      obtain ⟨result, written, he⟩ := exists_effect hd a.vars.get?
      rw [he a ha fun _ _ => rfl, he b hb fun src _ => h.vars.texts src]
      exact ⟨rfl, h.overwrite written⟩

theorem applyAll (h : Similar a b) (hd : ∀ i ∈ is, i.dest?.isSome) :
    Similar (a.applyAll is) (b.applyAll is) := by
  induction is generalizing a b with
  | nil => exact h
  | cons i is ih =>
      obtain ⟨hi, his⟩ := List.forall_mem_cons.1 hd
      exact ih (h.apply hi).2 his

theorem sameEnd (h : Similar a b) : SameEnd a b := by
  rw [SameEnd]
  cases ha : a.isTerminated with
  | true =>
      have hb : b.isTerminated = true := h.isTerminated_eq ▸ ha
      rw [apply_of_terminated ha, apply_of_terminated hb]
  | false =>
      have hb : b.isTerminated = false := h.isTerminated_eq ▸ ha
      rw [apply_finish ha, apply_finish hb, finish, finish, ← h.vars.isEmpty_eq]
      split
      · rfl
      cases hta : a.vars.total with
      | ok total => rw [h.vars.total_eq_ok_iff.1 hta]
      | error e =>
          -- The other total fails too, but not always at the same text.
          cases htb : b.vars.total with
          | ok total =>
              rw [h.vars.total_eq_ok_iff.2 htb] at hta
              cases hta
          | error e' => rfl

end Similar

theorem exists_written (h : m.vars.Coherent) (hm : m.isTerminated = false)
    (hd : i.dest? = some dest) : ∃ written, (m.apply i).2 = m.overwrite dest written ∧
      ∀ dest' written', i.src? ≠ some dest' → (m.overwrite dest' written').apply i =
        ((m.apply i).1, (m.overwrite dest' written').overwrite dest written) := by
  obtain ⟨result, written, he⟩ := exists_effect hd m.vars.get?
  have hi : m.apply i = (result, m.overwrite dest written) := he m hm fun _ _ => rfl
  refine ⟨written, by rw [hi], fun dest' written' hne => ?_⟩
  rw [hi]
  refine he _ ((isTerminated_overwrite written').trans hm) fun src hs => ?_
  rw [get?_overwrite_of_ne written' h]
  rintro rfl
  exact hne hs

theorem apply_apply (h : m.vars.Coherent) (hij : Instruction.Independent i j) :
    ((m.apply j).2.apply i).1 = (m.apply i).1 ∧
      Similar ((m.apply i).2.apply j).2 ((m.apply j).2.apply i).2 := by
  cases hm : m.isTerminated with
  | true =>
      simp only [apply_of_terminated hm]
      exact ⟨trivial, .refl h⟩
  | false =>
      obtain ⟨dest, hd⟩ := Option.isSome_iff_exists.1 hij.left
      obtain ⟨dest', hd'⟩ := Option.isSome_iff_exists.1 hij.right
      obtain ⟨written, hi, hi'⟩ := exists_written h hm hd
      obtain ⟨written', hj, hj'⟩ := exists_written h hm hd'
      have hne : dest ≠ dest' := by
        rintro rfl
        exact hij.dests (hd.trans hd'.symm)
      rw [hi, hj, hi' dest' written' (hd' ▸ hij.left_src), hj' dest written (hd ▸ hij.right_src)]
      exact ⟨rfl, similar_overwrite_overwrite written written' h hne⟩

theorem applyAll_perm (h : m.vars.Coherent) (hp : is.Perm is')
    (hi : is.Pairwise Instruction.Independent) : Similar (m.applyAll is) (m.applyAll is') := by
  induction hp generalizing m with
  | nil => exact .refl h
  | cons i hp ih => exact ih (coherent_apply h i) (List.pairwise_cons.1 hi).2
  | swap i j is =>
      -- The rest of the list cannot tell the two orders apart, since all of it writes.
      obtain ⟨hj, hi⟩ := List.pairwise_cons.1 hi
      have hs := (apply_apply h (hj i List.mem_cons_self)).2
      exact hs.applyAll fun k hk => (hj k (List.mem_cons_of_mem i hk)).right
  | trans hp₁ hp₂ ih₁ ih₂ =>
      have hi' := hp₁.pairwise hi fun h => h.symm
      exact (ih₁ h hi).trans (ih₂ h hi')

theorem independent_of_stores (hs : ∀ i ∈ is, ∃ value dest, i = .store value dest)
    (hd : (is.map Instruction.dest?).Nodup) : is.Pairwise Instruction.Independent := by
  refine (List.pairwise_map.1 hd).imp_of_mem fun hi hj hne => ?_
  obtain ⟨value, dest, rfl⟩ := hs _ hi
  obtain ⟨value', dest', rfl⟩ := hs _ hj
  exact ⟨rfl, rfl, hne, (Option.some_ne_none dest').symm, (Option.some_ne_none dest).symm⟩

/-- Two instructions that write to different names, neither of which the other reads, have the same
results in either order, and they leave the same texts and the same outcome of `END`. Instructions
that store texts under different names lead `END` to the same outcome in any order. -/
theorem independent_instructions_commute (hm : m.Reachable) :
    (∀ i j, Instruction.Independent i j →
      ((m.apply j).2.apply i).1 = (m.apply i).1 ∧ ((m.apply i).2.apply j).1 = (m.apply j).1 ∧
      (∀ name, (m.applyAll [i, j]).vars.get? name = (m.applyAll [j, i]).vars.get? name) ∧
      SameEnd (m.applyAll [i, j]) (m.applyAll [j, i])) ∧
    ∀ is is' : List Instruction, (∀ i ∈ is, ∃ value dest, i = .store value dest) →
      (is.map Instruction.dest?).Nodup → is.Perm is' →
      SameEnd (m.applyAll is) (m.applyAll is') := by
  have h := hm.coherent
  constructor
  · intro i j hij
    obtain ⟨hi, hs⟩ := apply_apply h hij
    exact ⟨hi, (apply_apply h hij.symm).1, hs.vars.texts, hs.sameEnd⟩
  · intro is is' hs hd hp
    exact (applyAll_perm h hp (independent_of_stores hs hd)).sameEnd

/-- A sum and a copy of a variable; the first of them is named first. -/
theorem independent_instructions_commute_copies :
    Reachable (new.apply (.store "5" "a")).2 ∧
    Instruction.Independent (.add "1" "a" "b") (.mov "a" "c") ∧
    ((new.apply (.store "5" "a")).2.applyAll [.add "1" "a" "b", .mov "a" "c"]).vars.names =
      ["a", "b", "c"] ∧
    ((new.apply (.store "5" "a")).2.applyAll [.mov "a" "c", .add "1" "a" "b"]).vars.names =
      ["a", "c", "b"] ∧
    SameEnd ((new.apply (.store "5" "a")).2.applyAll [.add "1" "a" "b", .mov "a" "c"])
      ((new.apply (.store "5" "a")).2.applyAll [.mov "a" "c", .add "1" "a" "b"]) := by
  have hm : Reachable (new.apply (.store "5" "a")).2 := Reachable.new.apply _
  have hi : Instruction.Independent (.add "1" "a" "b") (.mov "a" "c") :=
    ⟨rfl, rfl, by decide, by decide, by decide⟩
  refine ⟨hm, hi, by decide +kernel, by decide +kernel, ?_⟩
  exact ((independent_instructions_commute hm).1 _ _ hi).2.2.2

/-- `END` reports the text that comes first. -/
example :
    ((new.applyAll [.store "x" "a", .store "y" "b"]).apply .finish).1 = .error (.nonNumeric "x") ∧
      ((new.applyAll [.store "y" "b", .store "x" "a"]).apply .finish).1 =
        .error (.nonNumeric "y") := by
  decide +kernel

end Interpreter

end TilePuzzle
