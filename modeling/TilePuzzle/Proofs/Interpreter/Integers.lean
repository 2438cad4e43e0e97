import TilePuzzle.Proofs.Instruction.Grammar
import TilePuzzle.Proofs.Interpreter.LastWriter
import TilePuzzle.Proofs.Variables.Total

namespace TilePuzzle.Interpreter

open Variables (Numeric)

variable {raw text value src dest : String} {raws : List String}

def Stored (text : String) (m : Interpreter) (raw : String) : Prop :=
  m.Ran raw ∧ ∃ dest, Instruction.ofFrame raw = .ok (.store text dest)

def StoresIntegers (raws : List String) : Prop :=
  ∀ i text, OccursAt (Stored text) raws i → Numeric text

/-- A text that a frame of a run stores, or an integer in its canonical form. -/
def Sourced (raws : List String) (text : String) : Prop :=
  (∃ i, OccursAt (Stored text) raws i) ∨ ∃ z, text = String.ofList (Decimal.ofInt z)

theorem Sourced.concat (h : Sourced raws text) (raw : String) : Sourced (raws ++ [raw]) text := by
  rcases h with ⟨i, hi⟩ | hz
  · exact .inl ⟨i, occursAt_concat.2 (.inl hi)⟩
  · exact .inr hz

theorem Sourced.numeric (h : Sourced raws text) (hs : StoresIntegers raws) : Numeric text := by
  rcases h with ⟨i, hi⟩ | ⟨z, rfl⟩
  · exact hs i text hi
  · exact Variables.numeric_ofInt z

theorem sourced_of_wrote {name : String} (hw : Wrote name text (new.run raws) raw)
    (ih : ∀ name text, (name, text) ∈ (new.run raws).vars.toList → Sourced raws text) :
    Sourced (raws ++ [raw]) text := by
  obtain ⟨hr, i, hi, hw⟩ := hw
  cases hw with
  | store => exact .inl ⟨raws.length, occursAt_concat.2 (.inr ⟨rfl, hr, name, hi⟩)⟩
  | @mov src _ _ ht => exact (ih src text ((coherent_run raws).get?_eq_some_iff.1 ht)).concat raw
  | add => exact .inr ⟨_, rfl⟩

theorem sourced_run (raws : List String) :
    ∀ name text, (name, text) ∈ (new.run raws).vars.toList → Sourced raws text :=
  entries_induction (P := fun raws _ text => Sourced raws text)
    (fun _ raw _ _ h => h.concat raw) (fun _ _ _ _ hw ih => sourced_of_wrote hw ih) raws

section Consequences

variable {m : Interpreter} (hn : ∀ name text, (name, text) ∈ m.vars.toList → Numeric text)
include hn

theorem exists_total_of_numeric : ∃ total, m.vars.total = .ok total :=
  Variables.exists_total_iff.2 fun entry he => hn entry.1 entry.2 he

theorem execute_finish_of_numeric (hp : m.phase = .running)
    (hi : Instruction.ofFrame raw = .ok .finish) :
    (∃ out, (m.execute raw).1 = .ok out) ∧ (m.execute raw).2.phase = .terminated := by
  have hm := isTerminated_eq_false_iff.2 hp
  cases hv : m.vars.isEmpty with
  | true =>
      rw [execute_of_empty hm hi hv]
      exact ⟨⟨_, rfl⟩, rfl⟩
  | false =>
      obtain ⟨total, ht⟩ := exists_total_of_numeric hn
      rw [execute_of_total hm hi hv ht]
      exact ⟨⟨_, rfl⟩, rfl⟩

theorem text_numeric (hc : m.vars.Coherent) (ht : m.vars.get? src = some text) : Numeric text :=
  hn src text (hc.get?_eq_some_iff.1 ht)

theorem execute_add_of_numeric (hc : m.vars.Coherent) (hp : m.phase = .running)
    (hi : Instruction.ofFrame raw = .ok (.add value src dest)) (ha : Numeric value) :
    (m.execute raw).1 =
      if m.vars.get? src = none then .error (.undefinedVariable src) else .ok none := by
  have hm := isTerminated_eq_false_iff.2 hp
  obtain ⟨addend, ha⟩ := ha
  rw [← Decimal.int?_eq_some_iff] at ha
  cases ht : m.vars.get? src with
  | none =>
      rw [execute_of_refused hm hi (.operand dest ha ht)]
      rfl
  | some text =>
      obtain ⟨base, hb⟩ := text_numeric hn hc ht
      rw [← Decimal.int?_eq_some_iff] at hb
      rw [execute_of_writes hm hi (.add dest ha ht hb)]
      rfl

theorem exists_add_of_nonNumeric (hc : m.vars.Coherent)
    (he : (m.execute raw).1 = .error (.nonNumeric text)) :
    ∃ src dest, Instruction.ofFrame raw = .ok (.add text src dest) ∧ ¬Numeric text := by
  have hs := step_execute m raw
  generalize m.execute raw = r at hs he
  cases hs with
  | ignored | wrote | skipped | stopped | emitted => cases he
  | malformed hm hi =>
      cases he
      obtain ⟨reason, hr⟩ := Instruction.malformed_of_ofFrame hi
      cases hr
  | unsummed hm hi hv ht =>
      obtain ⟨total, ht'⟩ := exists_total_of_numeric hn
      rw [ht'] at ht
      cases ht
  | refused hm hi hr =>
      cases he
      cases hr with
      | literal src dest ha =>
          refine ⟨src, dest, hi, fun ⟨z, hz⟩ => ?_⟩
          rw [Decimal.int?_eq_some_iff.2 hz] at ha
          cases ha
      | text dest ha ht hb =>
          obtain ⟨z, hz⟩ := text_numeric hn hc ht
          rw [Decimal.int?_eq_some_iff.2 hz] at hb
          cases hb

end Consequences

/-- Every text after a run was stored by one of its frames or is an integer in canonical form. If
all that the frames stored are integers, then so are all texts. There is a total then, `END` stops a
machine that runs, an addition of an integer fails exactly if its source is undefined, and the only
text that is ever reported as no integer is the literal of an addition. -/
theorem run_keeps_integers (raws : List String) :
    (∀ name text, (name, text) ∈ (new.run raws).vars.toList →
      (∃ i, OccursAt (Stored text) raws i) ∨ ∃ z, text = String.ofList (Decimal.ofInt z)) ∧
    (StoresIntegers raws →
      (∀ name text, (name, text) ∈ (new.run raws).vars.toList → Numeric text) ∧
      (∃ total, (new.run raws).vars.total = .ok total) ∧
      ((new.run raws).phase = .running → ∀ raw, Instruction.ofFrame raw = .ok .finish →
        (∃ out, ((new.run raws).execute raw).1 = .ok out) ∧
          ((new.run raws).execute raw).2.phase = .terminated) ∧
      ((new.run raws).phase = .running → ∀ raw value src dest,
        Instruction.ofFrame raw = .ok (.add value src dest) → Numeric value →
          ((new.run raws).execute raw).1 = if (new.run raws).vars.get? src = none then
            .error (.undefinedVariable src) else .ok none) ∧
      ∀ raw text, ((new.run raws).execute raw).1 = .error (.nonNumeric text) →
        ∃ src dest, Instruction.ofFrame raw = .ok (.add text src dest) ∧ ¬Numeric text) := by
  refine ⟨sourced_run raws, fun hs => ?_⟩
  have hc := coherent_run raws
  have hn (name text : String) (he : (name, text) ∈ (new.run raws).vars.toList) : Numeric text :=
    (sourced_run raws name text he).numeric hs
  refine ⟨hn, exists_total_of_numeric hn, ?_, ?_, ?_⟩
  · intro hp raw hi
    exact execute_finish_of_numeric hn hp hi
  · intro hp raw value src dest hi ha
    exact execute_add_of_numeric hn hc hp hi ha
  · intro raw text he
    exact exists_add_of_nonNumeric hn hc he

/-- Leading zeros and a plus sign are kept by a copy and lost in a sum. -/
theorem run_keeps_integers_sum :
    let raws := ["STORE +007 a", "MOV a b", "ADD -10 b b", "ADD x b b"].map Frame.encode
    StoresIntegers raws ∧
      (new.run raws).vars.toList = [("a", "+007"), ("b", "-3")] ∧
      ∃ total, (new.run raws).vars.total = .ok total := by
  intro raws
  have hs : StoresIntegers raws := by
    rintro i text ⟨raw, hr, -, dest, hi⟩
    have hm := List.mem_map_of_mem (f := Instruction.ofFrame) (List.mem_of_getElem? hr)
    have hf : raws.map Instruction.ofFrame = [.ok (.store "+007" "a"), .ok (.mov "a" "b"),
        .ok (.add "-10" "b" "b"), .ok (.add "x" "b" "b")] := by
      decide +kernel
    rw [hf, hi] at hm
    obtain ⟨rfl, rfl⟩ : text = "+007" ∧ dest = "a" := by simpa using hm
    exact ⟨7, Decimal.int?_eq_some_iff.1 (by decide)⟩
  refine ⟨hs, by decide +kernel, ?_⟩
  exact ((run_keeps_integers raws).2 hs).2.1

end TilePuzzle.Interpreter
