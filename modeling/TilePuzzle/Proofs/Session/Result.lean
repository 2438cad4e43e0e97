import TilePuzzle.Channel.Script
import TilePuzzle.Proofs.Codec.Decimal
import TilePuzzle.Proofs.Interpreter.LastWriter
import TilePuzzle.Proofs.Session.Discipline
import TilePuzzle.Proofs.Variables.Balance

namespace TilePuzzle

namespace Interpreter

variable {raws : List String} {total : Int}

theorem exists_sum_of_total (ht : (new.run raws).vars.total = .ok total) :
    ∃ (names : Finset String) (value : String → Int),
      (∀ name, name ∈ names ↔ Written raws name) ∧
      (∀ name ∈ names, ∃ text, LastText raws name text ∧
        Variables.integer text = .ok (value name)) ∧
      total = ∑ name ∈ names, value name := by
  have hc := coherent_run raws
  obtain ⟨value, hv, hs⟩ := hc.total_eq_ok_iff.1 ht
  refine ⟨(new.run raws).vars.names.toFinset, value, ?_, ?_, hs⟩
  · intro name
    rw [List.mem_toFinset, mem_names_iff_written]
  · intro name hn
    obtain ⟨text, ht'⟩ := hc.mem_names_iff.1 (List.mem_toFinset.1 hn)
    exact ⟨text, (get?_eq_some_iff_lastText raws name text).1 ht',
      Variables.integer_eq_ok_iff.2 (hv name text ht')⟩

end Interpreter

namespace Session

open Interpreter (emitted new Written LastText)

variable {σ : Type} [FrameChannel σ] {channel : σ} {outcome : Outcome}

def heardOn (channel : σ) : List String :=
  (callsOn channel).filterMap fun
    | .read (.frame raw) => some raw
    | _ => none

theorem heardOn_eq {frames : List String} {last : Option Reading} {payloads : List String}
    (hc : callsOn channel = transcript (frames.map .frame ++ last.toList) payloads ++ [.close])
    (hl : ∀ raw, last ≠ some (.frame raw)) : heardOn channel = frames := by
  rw [heardOn, hc, transcript]
  cases last with
  | none => simp
  | some reading =>
      cases reading with
      | frame raw => exact absurd rfl (hl raw)
      | closed | failed | idle => simp

theorem outcome_of_ok (h : (run channel).1 = .ok outcome) : outcome =
    { framesReceived := (heardOn channel).length
      submitted := (emitted (heardOn channel)).getLast?
      terminated := (new.run (heardOn channel)).isTerminated } := by
  obtain ⟨frames, last, result, -, he, hc, ho⟩ := exists_ending channel
  rw [heardOn_eq hc he.ne_frame]
  rw [h] at ho
  cases result with
  | error => cases ho
  | ok => exact Except.ok.inj ho

theorem resultValue_of_total {total : Int}
    (h : outcome.submitted = some (Interpreter.totalFrame total)) :
    outcome.resultValue = some (String.ofList (Decimal.ofInt total)) := by
  rw [Outcome.resultValue, h, Option.bind_some, Interpreter.decode_totalFrame]
  rfl

theorem not_written_of_empty {raws : List String} (hv : (new.run raws).vars.toList = [])
    (name : String) : ¬Written raws name := by
  rw [← Interpreter.mem_names_iff_written, Variables.names, hv]
  exact List.not_mem_nil

/-- A session that submitted anything was stopped by its machine and reports a number: the sum, over
the names that its frames wrote to, of what they wrote last. A session that was stopped without
submitting anything had no such names. -/
theorem resultValue_is_sum (h : (run channel).1 = .ok outcome) :
    outcome.framesReceived = (heardOn channel).length ∧
    (outcome.resultValue.isSome ↔ outcome.submitted.isSome) ∧
    (outcome.submitted.isSome → outcome.terminated = true) ∧
    (∀ result, outcome.resultValue = some result → Decimal.IsInteger result.toList ∧
      ∃ (names : Finset String) (value : String → Int),
        (∀ name, name ∈ names ↔ Written (heardOn channel) name) ∧
        (∀ name ∈ names, ∃ text, LastText (heardOn channel) name text ∧
          Variables.integer text = .ok (value name)) ∧
        Variables.integer result = .ok (∑ name ∈ names, value name)) ∧
    (outcome.terminated = true → outcome.submitted = none →
      ∀ name, ¬Written (heardOn channel) name) := by
  obtain rfl := outcome_of_ok h
  have he := Interpreter.emitted_run (heardOn channel)
  generalize emitted (heardOn channel) = frames at he
  refine ⟨rfl, ?_⟩
  cases he with
  | running hp =>
      refine ⟨Iff.rfl, nofun, nofun, fun ht => ?_⟩
      rw [Interpreter.isTerminated_iff, hp] at ht
      cases ht
  | silent hp hv => exact ⟨Iff.rfl, nofun, nofun, fun _ _ => not_written_of_empty hv⟩
  | @spoken total hp hv ht =>
      have hr : Outcome.resultValue ⟨(heardOn channel).length, some (Interpreter.totalFrame total),
          (new.run (heardOn channel)).isTerminated⟩ = _ := resultValue_of_total rfl
      rw [List.getLast?_singleton, hr]
      refine ⟨iff_of_true rfl rfl, fun _ => Interpreter.isTerminated_iff.2 hp, ?_, nofun⟩
      rintro result ⟨⟩
      obtain ⟨names, value, hn, hl, rfl⟩ := Interpreter.exists_sum_of_total ht
      rw [String.toList_ofList]
      refine ⟨Decimal.isInteger_ofInt _, names, value, hn, hl, ?_⟩
      exact Variables.integer_eq_some (by rw [String.toList_ofList, Decimal.int?_ofInt])

theorem resultValue_is_sum_overwritten :
    ∃ script : Script,
      script.frames = ["STORE 5 a", "STORE -7 a", "END"].map Frame.encode ∧
      (run script).1 =
        .ok { framesReceived := 3, submitted := some "LTc=", terminated := true } ∧
      ∃ (names : Finset String) (value : String → Int),
        (∀ name, name ∈ names ↔ Written (heardOn script) name) ∧
        (∀ name ∈ names, ∃ text, LastText (heardOn script) name text ∧
          Variables.integer text = .ok (value name)) ∧
        Variables.integer "-7" = .ok (∑ name ∈ names, value name) := by
  have h : (run { frames := ["STORE 5 a", "STORE -7 a", "END"].map Frame.encode : Script }).1 =
      .ok { framesReceived := 3, submitted := some "LTc=", terminated := true } := by
    decide +kernel
  have hv : Outcome.resultValue
      { framesReceived := 3, submitted := some "LTc=", terminated := true } = some "-7" := by
    decide +kernel
  obtain ⟨-, names, value, hs⟩ := (resultValue_is_sum h).2.2.2.1 "-7" hv
  exact ⟨_, rfl, h, names, value, hs⟩

end Session

end TilePuzzle
