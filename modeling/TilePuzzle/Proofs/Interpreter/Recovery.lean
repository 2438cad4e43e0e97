import TilePuzzle.Proofs.Instruction.Grammar
import TilePuzzle.Proofs.Interpreter.Emission
import TilePuzzle.Proofs.Interpreter.LastWriter

namespace TilePuzzle

theorem Frame.isToken_ofInt (z : Int) : IsToken (String.ofList (Decimal.ofInt z)) := by
  have hplain : ∀ c : Char, c.isDigit ∨ c = '-' → Text.isSpace c = false ∧ c ≠ '"' := by
    rintro c (hc | rfl)
    · refine ⟨Text.not_isSpace_of_isDigit hc, ?_⟩
      rintro rfl
      exact absurd hc (by decide)
    · decide
  have hz : Decimal.ofInt z ≠ [] ∧ ∀ c ∈ Decimal.ofInt z, c.isDigit ∨ c = '-' := by
    have hi := Decimal.isInteger_ofInt z
    generalize Decimal.ofInt z = cs at hi
    cases hi with
    | nat h => exact ⟨h.ne_nil, fun c hc => .inl (h.isDigit c hc)⟩
    | neg h =>
        refine ⟨List.cons_ne_nil _ _, List.forall_mem_cons.2 ⟨.inr rfl, fun c hc => ?_⟩⟩
        exact .inl (h.isDigit c hc)
  rw [IsToken, String.toList_ofList]
  exact ⟨⟨hz.1, fun c hc => (hplain c (hz.2 c hc)).1⟩, fun hq => (hplain _ (hz.2 _ hq)).2 rfl⟩

namespace Interpreter

variable {m m' : Interpreter} {name raw text : String} {names raws : List String}

def resetFrame (name : String) : String :=
  Frame.encode ("STORE 0 " ++ name)

def endFrame : String :=
  Frame.encode "END"

theorem isToken_of_wrote (hw : Wrote name text (new.run raws) raw)
    (ih : ∀ name text, (name, text) ∈ (new.run raws).vars.toList →
      Frame.IsToken name ∧ Frame.IsToken text) : Frame.IsToken name ∧ Frame.IsToken text := by
  obtain ⟨-, i, hi, hw⟩ := hw
  have ht := Instruction.isToken_of_ofFrame hi
  cases hw with
  | store =>
      exact ⟨ht name (by simp [Instruction.tokens, Instruction.operands]),
        ht text (by simp [Instruction.tokens, Instruction.operands])⟩
  | @mov src _ _ hs =>
      exact ⟨ht name (by simp [Instruction.tokens, Instruction.operands]),
        (ih src text ((coherent_run raws).get?_eq_some_iff.1 hs)).2⟩
  | add =>
      exact ⟨ht name (by simp [Instruction.tokens, Instruction.operands]), Frame.isToken_ofInt _⟩

theorem isToken_run (raws : List String) : ∀ name text, (name, text) ∈ (new.run raws).vars.toList →
    Frame.IsToken name ∧ Frame.IsToken text :=
  entries_induction (P := fun _ name text => Frame.IsToken name ∧ Frame.IsToken text)
    (fun _ _ _ _ h => h) (fun _ _ _ _ hw ih => isToken_of_wrote hw ih) raws

theorem ofFrame_resetFrame (h : Frame.IsToken name) :
    Instruction.ofFrame (resetFrame name) = .ok (.store "0" name) := by
  have hl : " ".intercalate ["STORE", "0", name] = "STORE 0 " ++ name := by
    apply String.toList_injective
    simp
  have ht : ∀ token ∈ ["STORE", "0", name], Frame.IsToken token := by
    rw [List.forall_mem_cons, List.forall_mem_cons, List.forall_mem_singleton]
    exact ⟨by decide, by decide, h⟩
  have ht := Frame.tokenized_intercalate ht
  rw [hl] at ht
  exact Instruction.ofFrame_encode ht (.store "0" name)

theorem ofFrame_endFrame : Instruction.ofFrame endFrame = .ok .finish := by
  decide +kernel

/-- What remains of a machine after zero was stored under some of its names. -/
structure Reset (m m' : Interpreter) (names : List String) : Prop where
  coherent : m'.vars.Coherent
  phase : m'.phase = .running
  names_eq : m'.vars.names = m.vars.names
  zero : ∀ name ∈ names, m'.vars.get? name = some "0"

theorem Reset.nil (hc : m.vars.Coherent) (hp : m.phase = .running) : Reset m m [] :=
  ⟨hc, hp, rfl, List.forall_mem_nil _⟩

theorem Reset.execute (h : Reset m m' names) (ht : Frame.IsToken name) :
    m'.execute (resetFrame name) = (.ok none, (m'.define name "0").count) :=
  execute_of_writes (isTerminated_eq_false_iff.2 h.phase) (ofFrame_resetFrame ht)
    (.store "0" name)

theorem Reset.concat (h : Reset m m' names) (ht : Frame.IsToken name) (hn : name ∈ m.vars.names) :
    Reset m (m'.execute (resetFrame name)).2 (names ++ [name]) := by
  rw [h.execute ht]
  refine ⟨h.coherent.set name "0", h.phase, ?_, ?_⟩
  · show (m'.vars.set name "0").names = m.vars.names
    rw [h.coherent.names_set, h.names_eq, if_pos hn]
  · intro other ho
    show (m'.vars.set name "0").get? other = some "0"
    rw [h.coherent.get?_set]
    split_ifs with hne
    · rfl
    · rcases List.mem_append.1 ho with ho | ho
      · exact h.zero other ho
      · exact absurd (List.mem_singleton.1 ho) hne

theorem reset_run (hc : m.vars.Coherent) (hp : m.phase = .running)
    (hn : ∀ name ∈ names, Frame.IsToken name ∧ name ∈ m.vars.names) :
    Reset m (m.run (names.map resetFrame)) names ∧
      m.outputs (names.map resetFrame) = List.replicate names.length none := by
  induction names using List.reverseRecOn with
  | nil => exact ⟨.nil hc hp, rfl⟩
  | append_singleton names name ih =>
      obtain ⟨hnames, hname⟩ := List.forall_mem_append.1 hn
      obtain ⟨ht, hm⟩ := List.forall_mem_singleton.1 hname
      obtain ⟨hr, ho⟩ := ih hnames
      rw [List.map_append, List.map_singleton, run_concat, outputs_append, ho, List.length_append,
        List.length_singleton, List.replicate_succ']
      refine ⟨hr.concat ht hm, ?_⟩
      rw [outputs, outputs, handle_fst, hr.execute ht]
      rfl

theorem total_eq_zero {vars : Variables} (h : ∀ entry ∈ vars.toList, entry.2 = "0") :
    vars.total = .ok 0 := by
  have hz : vars.toList.map (fun entry => Decimal.int? entry.2.toList) =
      (List.replicate vars.toList.length (0 : Int)).map some := by
    rw [List.map_replicate, List.eq_replicate_iff, List.length_map]
    refine ⟨rfl, List.forall_mem_map.2 fun entry he => ?_⟩
    rw [h entry he]
    decide
  exact Variables.total_eq_ok_iff.2 ⟨_, hz, by rw [List.sum_replicate, nsmul_zero]⟩

theorem Reset.finish (h : Reset m m' names) (hn : ∀ name ∈ m.vars.names, name ∈ names) :
    (m'.handle endFrame).1 = (if m.vars.names = [] then none else some (Frame.encode "0")) ∧
      (m'.execute endFrame).2.phase = .terminated ∧
      (m'.execute endFrame).2.vars = m'.vars := by
  have hm := isTerminated_eq_false_iff.2 h.phase
  rw [handle_fst, ← h.names_eq]
  cases hv : m'.vars.isEmpty with
  | true =>
      rw [execute_of_empty hm ofFrame_endFrame hv, if_pos]
      · exact ⟨rfl, rfl, rfl⟩
      · rw [Variables.names, Variables.isEmpty_iff.1 hv, List.map_nil]
  | false =>
      have hz : m'.vars.total = .ok 0 := by
        apply total_eq_zero
        intro entry he
        have hm : entry.1 ∈ m'.vars.names := List.mem_map_of_mem he
        rw [h.names_eq] at hm
        have ht := h.zero entry.1 (hn entry.1 hm)
        rw [h.coherent.get?_eq_some_iff.2 he] at ht
        exact Option.some.inj ht
      rw [execute_of_total hm ofFrame_endFrame hv hz, if_neg]
      · exact ⟨rfl, rfl, rfl⟩
      · rw [Variables.names, List.map_eq_nil_iff]
        exact Variables.isEmpty_eq_false_iff.1 hv

theorem isToken_of_mem_names (hn : name ∈ (new.run raws).vars.names) : Frame.IsToken name := by
  obtain ⟨entry, he, rfl⟩ := List.mem_map.1 hn
  exact (isToken_run raws entry.1 entry.2 he).1

/-- After any run, names and texts are non-empty and free of white space and quotes. A machine that
still runs takes a frame that stores zero for each of its names, in any order, without a failure and
without a new name, and `END` then stops it. What it emits is a zero, and nothing if it has no
names. -/
theorem run_recovers (raws : List String) :
    (∀ name text, (name, text) ∈ (new.run raws).vars.toList →
      Frame.IsToken name ∧ Frame.IsToken text) ∧
    ((new.run raws).phase = .running → ∀ names, names.Perm (new.run raws).vars.names →
      (∀ sent name rest, names = sent ++ name :: rest →
        (((new.run raws).run (sent.map resetFrame)).execute (resetFrame name)).1 = .ok none ∧
        (((new.run raws).run (sent.map resetFrame)).execute (resetFrame name)).2.vars.names =
          (new.run raws).vars.names) ∧
      ((new.run raws).run (names.map resetFrame ++ [endFrame])).phase = .terminated ∧
      ((new.run raws).run (names.map resetFrame ++ [endFrame])).vars.names =
        (new.run raws).vars.names ∧
      (new.run raws).outputs (names.map resetFrame ++ [endFrame]) =
        List.replicate names.length none ++
          [if (new.run raws).vars.names = [] then none else some (Frame.encode "0")]) ∧
    Frame.decode (Frame.encode "0") = .ok "0" := by
  refine ⟨isToken_run raws, fun hp names hperm => ?_, Frame.decode_encode "0"⟩
  have hc := coherent_run raws
  have hn : ∀ name ∈ names, Frame.IsToken name ∧ name ∈ (new.run raws).vars.names := by
    intro name hm
    have hm := hperm.mem_iff.1 hm
    exact ⟨isToken_of_mem_names hm, hm⟩
  obtain ⟨hr, ho⟩ := reset_run hc hp hn
  obtain ⟨hout, hphase, hvars⟩ := hr.finish fun name hm => hperm.mem_iff.2 hm
  refine ⟨?_, ?_, ?_, ?_⟩
  · rintro sent name rest rfl
    obtain ⟨ht, hm⟩ := hn name (by simp)
    have hs := (reset_run hc hp fun other ho => hn other (List.mem_append_left _ ho)).1
    rw [hs.execute ht]
    refine ⟨rfl, ?_⟩
    have hnames := (hs.concat ht hm).names_eq
    rwa [hs.execute ht] at hnames
  · rw [run_concat]
    exact hphase
  · rw [run_concat, hvars]
    exact hr.names_eq
  · rw [outputs_append, ho, outputs, outputs, hout]

/-- A variable with the name of an operation and a text that cannot be summed. -/
theorem run_recovers_failed_end :
    let raws := ["STORE ten a", "MOV a END", "END"].map Frame.encode
    ((new.run (raws.take 2)).execute endFrame).1 = .error (.nonNumeric "ten") ∧
      (new.run raws).phase = .running ∧
      ["END", "a"].Perm (new.run raws).vars.names ∧
      (new.run raws).outputs (["END", "a"].map resetFrame ++ [endFrame]) =
        [none, none, some "MA=="] := by
  intro raws
  have hp : (new.run raws).phase = .running := by decide +kernel
  have hn : ["END", "a"].Perm (new.run raws).vars.names := by decide +kernel
  have ho := ((run_recovers raws).2.1 hp _ hn).2.2.2
  refine ⟨by decide +kernel, hp, hn, ho.trans ?_⟩
  decide +kernel

end Interpreter

end TilePuzzle
