import TilePuzzle.Interpreter
import TilePuzzle.Proofs.Variables.Integer

namespace TilePuzzle

/-- An instruction that writes a text to a name when variables have the given texts. -/
inductive Instruction.Writes (texts : String → Option String) :
    Instruction → String → String → Prop
  | store (value dest : String) : Writes texts (.store value dest) dest value
  | mov {src text : String} (dest : String) (ht : texts src = some text) :
      Writes texts (.mov src dest) dest text
  | add {value src text : String} {addend base : Int} (dest : String)
      (ha : Decimal.int? value.toList = some addend) (ht : texts src = some text)
      (hb : Decimal.int? text.toList = some base) :
      Writes texts (.add value src dest) dest (String.ofList (Decimal.ofInt (base + addend)))

/-- An instruction that can write nothing. The literal of an addition is looked at first. -/
inductive Instruction.Refused (texts : String → Option String) : Instruction → FrameError → Prop
  | source {src : String} (dest : String) (ht : texts src = none) :
      Refused texts (.mov src dest) (.undefinedVariable src)
  | literal {value : String} (src dest : String) (ha : Decimal.int? value.toList = none) :
      Refused texts (.add value src dest) (.nonNumeric value)
  | operand {value src : String} {addend : Int} (dest : String)
      (ha : Decimal.int? value.toList = some addend) (ht : texts src = none) :
      Refused texts (.add value src dest) (.undefinedVariable src)
  | text {value src text : String} {addend : Int} (dest : String)
      (ha : Decimal.int? value.toList = some addend) (ht : texts src = some text)
      (hb : Decimal.int? text.toList = none) :
      Refused texts (.add value src dest) (.nonNumeric text)

theorem Variables.require_eq_some {vars : Variables} {name text : String}
    (h : vars.get? name = some text) : vars.require name = .ok text := by
  rw [require, h]

theorem Variables.require_eq_none {vars : Variables} {name : String} (h : vars.get? name = none) :
    vars.require name = .error (.undefinedVariable name) := by
  rw [require, h]

namespace Interpreter

def count (m : Interpreter) : Interpreter :=
  { m with executed := m.executed + 1 }

def stop (m : Interpreter) : Interpreter :=
  { m with phase := .terminated }

/-- The ways in which a machine takes a raw frame, with the result and the machine after it. -/
inductive Step (m : Interpreter) (raw : String) : Result → Prop
  | ignored (hm : m.isTerminated = true) : Step m raw (.ok none, m)
  | malformed {e : FrameError} (hm : m.isTerminated = false)
      (hi : Instruction.ofFrame raw = .error e) : Step m raw (.error e, m)
  | refused {i : Instruction} {e : FrameError} (hm : m.isTerminated = false)
      (hi : Instruction.ofFrame raw = .ok i) (he : i.Refused m.vars.get? e) :
      Step m raw (.error e, m)
  | wrote {i : Instruction} {name text : String} (hm : m.isTerminated = false)
      (hi : Instruction.ofFrame raw = .ok i) (hw : i.Writes m.vars.get? name text) :
      Step m raw (.ok none, (m.define name text).count)
  | skipped {op : String} {operands : List String} (hm : m.isTerminated = false)
      (hi : Instruction.ofFrame raw = .ok (.unknown op operands)) : Step m raw (.ok none, m.count)
  | unsummed {e : FrameError} (hm : m.isTerminated = false)
      (hi : Instruction.ofFrame raw = .ok .finish) (hv : m.vars.isEmpty = false)
      (ht : m.vars.total = .error e) : Step m raw (.error e, m)
  | stopped (hm : m.isTerminated = false) (hi : Instruction.ofFrame raw = .ok .finish)
      (hv : m.vars.isEmpty = true) : Step m raw (.ok none, m.stop.count)
  | emitted {total : Int} (hm : m.isTerminated = false)
      (hi : Instruction.ofFrame raw = .ok .finish) (hv : m.vars.isEmpty = false)
      (ht : m.vars.total = .ok total) :
      Step m raw (.ok (some (Frame.encode (String.ofList (Decimal.ofInt total)))), m.stop.count)

variable {m : Interpreter} {raw : String}

theorem execute_of_terminated (hm : m.isTerminated = true) (raw : String) :
    m.execute raw = (.ok none, m) := by
  rw [execute, if_pos hm]

theorem execute_of_malformed {e : FrameError} (hm : m.isTerminated = false)
    (hi : Instruction.ofFrame raw = .error e) : m.execute raw = (.error e, m) := by
  rw [execute, hm, hi]
  rfl

theorem execute_of_error {i : Instruction} {e : FrameError} {m' : Interpreter}
    (hm : m.isTerminated = false) (hi : Instruction.ofFrame raw = .ok i)
    (ha : m.apply i = (.error e, m')) : m.execute raw = (.error e, m') := by
  rw [execute, hm, hi]
  simp only [ha, Bool.false_eq_true, if_false]

theorem execute_of_ok {i : Instruction} {out : Option String} {m' : Interpreter}
    (hm : m.isTerminated = false) (hi : Instruction.ofFrame raw = .ok i)
    (ha : m.apply i = (.ok out, m')) : m.execute raw = (.ok out, m'.count) := by
  rw [execute, hm, hi]
  simp only [ha, Bool.false_eq_true, if_false, count]

theorem apply_of_writes {i : Instruction} {name text : String} (hm : m.isTerminated = false)
    (hw : i.Writes m.vars.get? name text) : m.apply i = (.ok none, m.define name text) := by
  cases hw with
  | store =>
      rw [apply, hm]
      rfl
  | mov dest ht =>
      simp only [apply, hm, Variables.require_eq_some ht, Bool.false_eq_true, if_false]
  | add dest ha ht hb =>
      simp only [apply, hm, addition, Variables.integer_eq_some ha, Variables.require_eq_some ht,
        Variables.integer_eq_some hb, Bool.false_eq_true, if_false]

theorem apply_of_refused {i : Instruction} {e : FrameError} (hm : m.isTerminated = false)
    (he : i.Refused m.vars.get? e) : m.apply i = (.error e, m) := by
  cases he with
  | source dest ht =>
      simp only [apply, hm, Variables.require_eq_none ht, Bool.false_eq_true, if_false]
  | literal src dest ha =>
      simp only [apply, hm, addition, Variables.integer_eq_none ha, Bool.false_eq_true, if_false]
  | operand dest ha ht =>
      simp only [apply, hm, addition, Variables.integer_eq_some ha, Variables.require_eq_none ht,
        Bool.false_eq_true, if_false]
  | text dest ha ht hb =>
      simp only [apply, hm, addition, Variables.integer_eq_some ha, Variables.require_eq_some ht,
        Variables.integer_eq_none hb, Bool.false_eq_true, if_false]

theorem execute_of_writes {i : Instruction} {name text : String} (hm : m.isTerminated = false)
    (hi : Instruction.ofFrame raw = .ok i) (hw : i.Writes m.vars.get? name text) :
    m.execute raw = (.ok none, (m.define name text).count) :=
  execute_of_ok hm hi (apply_of_writes hm hw)

theorem execute_of_refused {i : Instruction} {e : FrameError} (hm : m.isTerminated = false)
    (hi : Instruction.ofFrame raw = .ok i) (he : i.Refused m.vars.get? e) :
    m.execute raw = (.error e, m) :=
  execute_of_error hm hi (apply_of_refused hm he)

theorem execute_of_unknown {op : String} {operands : List String} (hm : m.isTerminated = false)
    (hi : Instruction.ofFrame raw = .ok (.unknown op operands)) :
    m.execute raw = (.ok none, m.count) := by
  have ha : m.apply (.unknown op operands) = (.ok none, m) := by
    rw [apply, hm]
    rfl
  exact execute_of_ok hm hi ha

theorem apply_finish (hm : m.isTerminated = false) : m.apply .finish = m.finish := by
  rw [apply, hm]
  rfl

theorem execute_of_empty (hm : m.isTerminated = false)
    (hi : Instruction.ofFrame raw = .ok .finish) (hv : m.vars.isEmpty = true) :
    m.execute raw = (.ok none, m.stop.count) := by
  have ha := apply_finish hm
  rw [finish, if_pos hv] at ha
  exact execute_of_ok hm hi ha

theorem execute_of_unsummed {e : FrameError} (hm : m.isTerminated = false)
    (hi : Instruction.ofFrame raw = .ok .finish) (hv : m.vars.isEmpty = false)
    (ht : m.vars.total = .error e) : m.execute raw = (.error e, m) := by
  have ha := apply_finish hm
  rw [finish, hv, ht] at ha
  exact execute_of_error hm hi ha

theorem execute_of_total {total : Int} (hm : m.isTerminated = false)
    (hi : Instruction.ofFrame raw = .ok .finish) (hv : m.vars.isEmpty = false)
    (ht : m.vars.total = .ok total) : m.execute raw =
      (.ok (some (Frame.encode (String.ofList (Decimal.ofInt total)))), m.stop.count) := by
  have ha := apply_finish hm
  rw [finish, hv, ht] at ha
  exact execute_of_ok hm hi ha

theorem step_of_finish (hm : m.isTerminated = false)
    (hi : Instruction.ofFrame raw = .ok .finish) : Step m raw (m.execute raw) := by
  cases hv : m.vars.isEmpty with
  | true =>
      rw [execute_of_empty hm hi hv]
      exact .stopped hm hi hv
  | false =>
      cases ht : m.vars.total with
      | error e =>
          rw [execute_of_unsummed hm hi hv ht]
          exact .unsummed hm hi hv ht
      | ok total =>
          rw [execute_of_total hm hi hv ht]
          exact .emitted hm hi hv ht

end Interpreter

namespace Instruction

variable (texts : String → Option String)

theorem mov_writes_or_refused (src dest : String) :
    (∃ text, (mov src dest).Writes texts dest text) ∨ ∃ e, (mov src dest).Refused texts e := by
  cases ht : texts src with
  | none => exact .inr ⟨_, .source dest ht⟩
  | some text => exact .inl ⟨_, .mov dest ht⟩

theorem add_writes_or_refused (value src dest : String) :
    (∃ text, (add value src dest).Writes texts dest text) ∨
      ∃ e, (add value src dest).Refused texts e := by
  cases ha : Decimal.int? value.toList with
  | none => exact .inr ⟨_, .literal src dest ha⟩
  | some addend =>
      cases ht : texts src with
      | none => exact .inr ⟨_, .operand dest ha ht⟩
      | some text =>
          cases hb : Decimal.int? text.toList with
          | none => exact .inr ⟨_, .text dest ha ht hb⟩
          | some base => exact .inl ⟨_, .add dest ha ht hb⟩

def dest? : Instruction → Option String
  | store _ dest => some dest
  | mov _ dest => some dest
  | add _ _ dest => some dest
  | finish => none
  | unknown _ _ => none

theorem writes_or_refused {i : Instruction} {dest : String} (hd : i.dest? = some dest) :
    (∃ text, i.Writes texts dest text) ∨ ∃ e, i.Refused texts e := by
  cases i with
  | store value dest =>
      cases hd
      exact .inl ⟨value, .store value dest⟩
  | mov src dest =>
      cases hd
      exact mov_writes_or_refused texts src dest
  | add value src dest =>
      cases hd
      exact add_writes_or_refused texts value src dest
  | finish => cases hd
  | unknown => cases hd

end Instruction

namespace Interpreter

variable {m : Interpreter} {raw : String}

theorem step_of_writes {i : Instruction} {name text : String} (hm : m.isTerminated = false)
    (hi : Instruction.ofFrame raw = .ok i) (hw : i.Writes m.vars.get? name text) :
    Step m raw (m.execute raw) := by
  rw [execute_of_writes hm hi hw]
  exact .wrote hm hi hw

theorem step_of_refused {i : Instruction} {e : FrameError} (hm : m.isTerminated = false)
    (hi : Instruction.ofFrame raw = .ok i) (he : i.Refused m.vars.get? e) :
    Step m raw (m.execute raw) := by
  rw [execute_of_refused hm hi he]
  exact .refused hm hi he

theorem step_execute (m : Interpreter) (raw : String) : Step m raw (m.execute raw) := by
  cases hm : m.isTerminated with
  | true =>
      rw [execute_of_terminated hm]
      exact .ignored hm
  | false =>
      cases hi : Instruction.ofFrame raw with
      | error e =>
          rw [execute_of_malformed hm hi]
          exact .malformed hm hi
      | ok i =>
          cases hd : i.dest? with
          | some dest =>
              rcases Instruction.writes_or_refused m.vars.get? hd with ⟨_, hw⟩ | ⟨_, he⟩
              · exact step_of_writes hm hi hw
              · exact step_of_refused hm hi he
          | none =>
              cases i with
              | store | mov | add => cases hd
              | finish => exact step_of_finish hm hi
              | unknown op operands =>
                  rw [execute_of_unknown hm hi]
                  exact .skipped hm hi

end Interpreter

end TilePuzzle
