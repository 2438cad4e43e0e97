import TilePuzzle.Interpreter
import TilePuzzle.Proofs.Codec.Bijection
import TilePuzzle.Proofs.Codec.Tokens

namespace TilePuzzle

namespace Instruction

variable {raw line op : String} {tokens operands : List String} {i : Instruction} {n : Nat}

def arities : List (String × Nat) :=
  [("STORE", 2), ("MOV", 2), ("ADD", 3), ("END", 0)]

inductive Spelled : List String → Instruction → Prop
  | store (value dest : String) : Spelled ["STORE", value, dest] (.store value dest)
  | mov (src dest : String) : Spelled ["MOV", src, dest] (.mov src dest)
  | add (value src dest : String) : Spelled ["ADD", value, src, dest] (.add value src dest)
  | finish : Spelled ["END"] .finish
  | unknown {op : String} (operands : List String) (h : ∀ n, (op, n) ∉ arities) :
      Spelled (op :: operands) (.unknown op operands)

theorem mem_arities_iff :
    (op, n) ∈ arities ↔ ∃ code : OpCode, op = code.name ∧ n = code.arity := by
  constructor
  · intro h
    simp only [arities, List.mem_cons, Prod.mk.injEq, List.not_mem_nil, or_false] at h
    rcases h with h | h | h | h
    exacts [⟨.store, h⟩, ⟨.mov, h⟩, ⟨.add, h⟩, ⟨.finish, h⟩]
  · rintro ⟨code, rfl, rfl⟩
    cases code <;> decide

theorem named?_name (code : OpCode) : OpCode.named? code.name = some code := by
  cases code <;> rfl

theorem eq_name_of_named? {code : OpCode} (h : OpCode.named? op = some code) : op = code.name := by
  unfold OpCode.named? at h
  have ho := List.find?_some h
  exact (of_decide_eq_true ho).symm

theorem named?_eq_none_iff : OpCode.named? op = none ↔ ∀ n, (op, n) ∉ arities := by
  constructor
  · intro h n hm
    obtain ⟨code, rfl, rfl⟩ := mem_arities_iff.1 hm
    rw [named?_name] at h
    cases h
  · intro h
    cases hn : OpCode.named? op with
    | none => rfl
    | some code => exact absurd (mem_arities_iff.2 ⟨code, eq_name_of_named? hn, rfl⟩) (h _)

theorem spelled_of_instruction? {code : OpCode} (h : code.instruction? operands = some i) :
    Spelled (code.name :: operands) i := by
  unfold OpCode.instruction? at h
  split at h
  case h_5 => cases h
  all_goals
    cases h
    constructor

theorem exists_instruction?_iff {code : OpCode} :
    (∃ i, code.instruction? operands = some i) ↔ operands.length = code.arity := by
  constructor
  · rintro ⟨i, h⟩
    unfold OpCode.instruction? at h
    split at h
    case h_5 => cases h
    all_goals rfl
  · intro h
    cases code with
    | store | mov =>
        obtain ⟨_, _, rfl⟩ := List.length_eq_two.1 h
        exact ⟨_, rfl⟩
    | add =>
        obtain ⟨_, _, _, rfl⟩ := List.length_eq_three.1 h
        exact ⟨_, rfl⟩
    | finish =>
        obtain rfl := List.length_eq_zero_iff.1 h
        exact ⟨_, rfl⟩

theorem ofTokens_eq_ok_iff : ofTokens tokens = .ok i ↔ Spelled tokens i := by
  constructor
  · intro h
    cases tokens with
    | nil => cases h
    | cons op operands =>
        rw [ofTokens] at h
        cases hn : OpCode.named? op with
        | none =>
            rw [hn] at h
            cases h
            exact .unknown operands (named?_eq_none_iff.1 hn)
        | some code =>
            rw [hn] at h
            obtain rfl := eq_name_of_named? hn
            cases hi : code.instruction? operands with
            | none =>
                simp only [hi] at h
                cases h
            | some j =>
                simp only [hi] at h
                cases h
                exact spelled_of_instruction? hi
  · intro h
    cases h with
    | store | mov | add | finish => rfl
    | unknown operands h => rw [ofTokens, named?_eq_none_iff.2 h]

theorem ofTokens_of_length_ne (hm : (op, n) ∈ arities) (hl : operands.length ≠ n) :
    ofTokens (op :: operands) = .error (.malformed (.operands op n operands.length)) := by
  obtain ⟨code, rfl, rfl⟩ := mem_arities_iff.1 hm
  have hi : code.instruction? operands = none := by
    rw [Option.eq_none_iff_forall_ne_some]
    exact fun i hi => hl (exists_instruction?_iff.1 ⟨i, hi⟩)
  rw [ofTokens, named?_name]
  simp only [hi]

theorem exists_spelled_iff : (∃ i, Spelled (op :: operands) i) ↔
    ∀ n, (op, n) ∈ arities → operands.length = n := by
  constructor
  · rintro ⟨i, h⟩ n hm
    by_contra hl
    rw [← ofTokens_eq_ok_iff, ofTokens_of_length_ne hm hl] at h
    cases h
  · intro h
    cases hn : OpCode.named? op with
    | none => exact ⟨_, .unknown operands (named?_eq_none_iff.1 hn)⟩
    | some code =>
        obtain rfl := eq_name_of_named? hn
        obtain ⟨i, hi⟩ := exists_instruction?_iff.2 (h _ (mem_arities_iff.2 ⟨code, rfl, rfl⟩))
        exact ⟨i, spelled_of_instruction? hi⟩

theorem malformed_of_ofTokens {e : FrameError} (h : ofTokens tokens = .error e) :
    ∃ reason, e = .malformed reason := by
  unfold ofTokens at h
  split at h
  · cases h
    exact ⟨_, rfl⟩
  · split at h
    · cases h
    · split at h
      · cases h
      · cases h
        exact ⟨_, rfl⟩

theorem Spelled.tokens_eq (h : Spelled tokens i) : i.tokens = tokens := by
  cases h <;> rfl

theorem Spelled.unknown_iff (h : Spelled tokens i) :
    (∃ op operands, i = .unknown op operands) ↔ ∀ n, (i.op, n) ∉ arities := by
  have hk (code : OpCode) : ¬∀ n, (code.name, n) ∉ arities := fun h =>
    h code.arity (mem_arities_iff.2 ⟨code, rfl, rfl⟩)
  cases h with
  | store => exact iff_of_false nofun (hk .store)
  | mov => exact iff_of_false nofun (hk .mov)
  | add => exact iff_of_false nofun (hk .add)
  | finish => exact iff_of_false nofun (hk .finish)
  | unknown operands h => exact iff_of_true ⟨_, _, rfl⟩ h

theorem ofFrame_of_holds (h : Frame.Holds raw line) (ht : Frame.Tokenized line tokens) :
    ofFrame raw = ofTokens tokens := by
  have hd : Frame.decode raw = .ok line := Frame.decode_of_holds h
  rw [ofFrame, hd]
  simp only [Frame.tokens_eq_iff.2 ht]

theorem ofFrame_eq_ok_iff : ofFrame raw = .ok i ↔
    ∃ line tokens, Frame.Holds raw line ∧ Frame.Tokenized line tokens ∧ Spelled tokens i := by
  constructor
  · intro h
    rcases Frame.holds_or_malformed raw with ⟨line, -, hl⟩ | ⟨reason, hd⟩
    · have ht : Frame.Tokenized line (Frame.tokens line) := Frame.tokens_eq_iff.1 rfl
      rw [ofFrame_of_holds hl ht, ofTokens_eq_ok_iff] at h
      exact ⟨line, _, hl, ht, h⟩
    · rw [ofFrame, hd] at h
      cases h
  · rintro ⟨line, tokens, hl, ht, hs⟩
    rw [ofFrame_of_holds hl ht, ofTokens_eq_ok_iff]
    exact hs

theorem malformed_of_ofFrame {e : FrameError} (h : ofFrame raw = .error e) :
    ∃ reason, e = .malformed reason := by
  rcases Frame.holds_or_malformed raw with ⟨line, -, hl⟩ | ⟨reason, hd⟩
  · rw [ofFrame_of_holds hl (Frame.tokens_eq_iff.1 rfl)] at h
    exact malformed_of_ofTokens h
  · rw [ofFrame, hd] at h
    cases h
    exact ⟨reason, rfl⟩

theorem isToken_of_ofFrame (h : ofFrame raw = .ok i) : ∀ token ∈ i.tokens, Frame.IsToken token := by
  obtain ⟨line, tokens, -, ht, hs⟩ := ofFrame_eq_ok_iff.1 h
  obtain rfl := hs.tokens_eq
  exact ht.isToken

theorem ofFrame_encode (ht : Frame.Tokenized line tokens) (hs : Spelled tokens i) :
    ofFrame (Frame.encode line) = .ok i :=
  ofFrame_eq_ok_iff.2 ⟨line, tokens, Frame.decode_eq_ok_iff.1 (Frame.decode_encode line), ht, hs⟩

/-- A frame is an instruction exactly if it holds a line of one or more tokens in which a known
operation, told by its name to the letter, has as many operands as it takes. The instruction has
the tokens of the line in their order. Any other frame is malformed. -/
theorem ofFrame_accepts_grammar (raw : String) :
    (∀ i, ofFrame raw = .ok i ↔
      ∃ line tokens, Frame.Holds raw line ∧ Frame.Tokenized line tokens ∧ Spelled tokens i) ∧
    ((∃ i, ofFrame raw = .ok i) ↔ ∃ line op operands, Frame.Holds raw line ∧
      Frame.Tokenized line (op :: operands) ∧ ∀ n, (op, n) ∈ arities → operands.length = n) ∧
    (∀ i line tokens, ofFrame raw = .ok i → Frame.Holds raw line → Frame.Tokenized line tokens →
      i.op :: i.operands = tokens ∧
        ((∃ op operands, i = .unknown op operands) ↔ ∀ n, (i.op, n) ∉ arities)) ∧
    (∀ e, ofFrame raw = .error e → ∃ reason, e = .malformed reason) ∧
    ∀ line op operands n, Frame.Holds raw line → Frame.Tokenized line (op :: operands) →
      (op, n) ∈ arities → operands.length ≠ n → ∃ reason, ofFrame raw = .error (.malformed reason) ∧
        reason.message =
          op ++ " expects " ++ toString n ++ " operands, found " ++ toString operands.length := by
  refine ⟨fun i => ofFrame_eq_ok_iff, ?_, ?_, fun e => malformed_of_ofFrame, ?_⟩
  · constructor
    · rintro ⟨i, h⟩
      obtain ⟨line, tokens, hl, ht, hs⟩ := ofFrame_eq_ok_iff.1 h
      have hi : i.op :: i.operands = tokens := hs.tokens_eq
      subst hi
      exact ⟨line, _, _, hl, ht, exists_spelled_iff.1 ⟨i, hs⟩⟩
    · rintro ⟨line, op, operands, hl, ht, hn⟩
      obtain ⟨i, hs⟩ := exists_spelled_iff.2 hn
      exact ⟨i, ofFrame_eq_ok_iff.2 ⟨line, _, hl, ht, hs⟩⟩
  · intro i line tokens h hl ht
    rw [ofFrame_of_holds hl ht, ofTokens_eq_ok_iff] at h
    exact ⟨h.tokens_eq, h.unknown_iff⟩
  · intro line op operands n hl ht hm hn
    refine ⟨.operands op n operands.length, ?_, rfl⟩
    rw [ofFrame_of_holds hl ht, ofTokens_of_length_ne hm hn]

/-- Display and encoding lose nothing of an instruction that came in a frame. The tokens of such an
instruction are free of white space and quotes, which others need not be. -/
theorem ofFrame_encode_display (h : ofFrame raw = .ok i) :
    ofFrame (Frame.encode (toString i)) = .ok i ∧
      ∀ m : Interpreter, m.execute (Frame.encode (toString i)) = m.execute raw := by
  obtain ⟨line, tokens, hl, ht, hs⟩ := ofFrame_eq_ok_iff.1 h
  obtain rfl := hs.tokens_eq
  have hd : Frame.Tokenized (toString i) i.tokens := Frame.tokenized_intercalate ht.isToken
  have he : Frame.Holds (Frame.encode (toString i)) (toString i) :=
    Frame.decode_eq_ok_iff.1 (Frame.decode_encode _)
  have hi : ofFrame (Frame.encode (toString i)) = .ok i :=
    ofFrame_eq_ok_iff.2 ⟨_, _, he, hd, hs⟩
  refine ⟨hi, fun m => ?_⟩
  rw [Interpreter.execute, Interpreter.execute, hi, h]

/-- Quotes inside and around tokens, and a space of another kind. -/
theorem ofFrame_encode_display_unknown :
    ofFrame " RW5kICIiIHgieSLjgIAiK03igJwi " = .ok (.unknown "End" ["xy", "+M“"]) ∧
      ofFrame (Frame.encode "End xy +M“") = .ok (.unknown "End" ["xy", "+M“"]) ∧
      ∀ m : Interpreter, m.execute (Frame.encode "End xy +M“") =
        m.execute " RW5kICIiIHgieSLjgIAiK03igJwi " := by
  have h : ofFrame " RW5kICIiIHgieSLjgIAiK03igJwi " = .ok (.unknown "End" ["xy", "+M“"]) := by
    decide +kernel
  have hs : toString (Instruction.unknown "End" ["xy", "+M“"]) = "End xy +M“" := by
    decide +kernel
  have hd := ofFrame_encode_display h
  rw [hs] at hd
  exact ⟨h, hd⟩

/-- An operation with a space in it does not come in any frame. -/
example : ofFrame (Frame.encode (toString (unknown "a b" []))) = .ok (.unknown "a" ["b"]) := by
  decide +kernel

end Instruction

end TilePuzzle
