import Mathlib.Tactic.SplitIfs
import TilePuzzle.Toml.Text

namespace TilePuzzle.Toml

variable {c d x : Char} {cs ws p rest : List Char} {n quotes : Nat}
variable {read : List Char → Reading}

def Unquoted (rest : List Char) : Prop :=
  ∀ c ∈ rest.head?, c ≠ '"' ∧ c ≠ '\''

@[simp]
theorem isControl_newline : isControl '\n' = true := by
  decide

@[simp]
theorem isControl_return : isControl '\r' = true := by
  decide

@[simp]
theorem isControl_quote : isControl '"' = false := by
  decide

@[simp]
theorem isControl_apostrophe : isControl '\'' = false := by
  decide

@[simp]
theorem isControl_backslash : isControl '\\' = false := by
  decide

inductive Spelling (c : Char) : List Char → Prop
  | plain (hc : isControl c = false) (hq : c ≠ '"') (hb : c ≠ '\\') : Spelling c [c]
  | short {d : Char} (h : escaped? d = some c) : Spelling c ['\\', d]
  | code {a b d e : Char} (h : codePoint? [a, b, d, e] = some c) :
      Spelling c ['\\', 'u', a, b, d, e]

theorem code_control (h : n < 128) :
    let ds := (Nat.toDigits 16 n).map Char.toUpper
    let hi := (n / 16).digitChar
    let lo := (n % 16).digitChar.toUpper
    List.replicate (4 - ds.length) '0' ++ ds = ['0', '0', hi, lo] ∧
      codePoint? ['0', '0', hi, lo] = some (Char.ofNat n) := by
  revert n
  decide

theorem toNat_control (h : isControl c = true) : c.toNat < 128 := by
  simp only [isControl, Bool.or_eq_true, Bool.and_eq_true, decide_eq_true_eq] at h
  omega

theorem escape_cases (multiline : Bool) (quotes : Nat) (c : Char) :
    (multiline = true ∧ quotes < 2 ∧ c = '"' ∧ escape multiline quotes c = ['"']) ∨
      (multiline = true ∧ c = '\n' ∧ escape multiline quotes c = ['\n']) ∨
      Spelling c (escape multiline quotes c) := by
  by_cases hq : c = '"'
  · subst hq
    rw [escape, if_pos rfl]
    by_cases hr : multiline = true ∧ quotes < 2
    · exact .inl ⟨hr.1, hr.2, rfl, if_pos (by simpa [hr.1] using hr.2)⟩
    · rw [if_neg (by cases multiline <;> simp_all)]
      exact .inr (.inr (.short rfl))
  · rw [escape, if_neg hq]
    split_ifs with hb hl hm ht hr h8 h12 hc
    · subst hb
      exact .inr (.inr (.short rfl))
    · exact .inr (.inl ⟨hm, hl, rfl⟩)
    · exact .inr (.inr (.short (hl ▸ rfl)))
    · exact .inr (.inr (.short (ht ▸ rfl)))
    · exact .inr (.inr (.short (hr ▸ rfl)))
    · exact .inr (.inr (.short (congrArg some (Char.toNat_inj.1 h8.symm))))
    · exact .inr (.inr (.short (congrArg some (Char.toNat_inj.1 h12.symm))))
    · obtain ⟨he, hd⟩ := code_control (toNat_control hc)
      rw [List.append_assoc, he]
      rw [Char.ofNat_toNat] at hd
      exact .inr (.inr (.code hd))
    · exact .inr (.inr (.plain (Bool.eq_false_iff.2 hc) hq hb))

theorem basic_spelling (h : Spelling c p) (cs : List Char) :
    basic (p ++ cs) = (basic cs).push c := by
  cases h with
  | plain hc hq hb => simp [basic, hc, hb]
  | @short d hd =>
      unfold escaped? at hd
      split at hd <;> cases hd <;> simp [basic, escaped?]
  | code hd =>
      simp only [List.cons_append, List.nil_append]
      rw [basic, hd]

theorem multilineBasic_cons (hc : isControl c = false) (hb : c ≠ '\\')
    (hq : c = '"' → ¬['"', '"'] <+: cs) :
    multilineBasic false (c :: cs) = (multilineBasic false cs).push c := by
  rw [multilineBasic.eq_def]
  split <;> simp_all

theorem multilineLiteral_cons (hc : isControl c = true → c = '\n')
    (hq : c = '\'' → ¬['\'', '\''] <+: cs) :
    multilineLiteral (c :: cs) = (multilineLiteral cs).push c := by
  rw [multilineLiteral.eq_def]
  split <;> simp_all

theorem multilineBasic_spelling (h : Spelling c p) (cs : List Char) :
    multilineBasic false (p ++ cs) = (multilineBasic false cs).push c := by
  cases h with
  | plain hc hq hb => exact multilineBasic_cons hc hb fun h => absurd h hq
  | @short d hd =>
      unfold escaped? at hd
      split at hd <;> cases hd <;> simp [multilineBasic, escaped?, skipBlanks, isBlank, newline?]
  | code hd =>
      simp only [List.cons_append, List.nil_append]
      rw [multilineBasic, hd]

/-- A reader of strings that three quotes end. -/
structure LongReader (x : Char) (read : List Char → Reading) : Prop where
  quote {cs : List Char} (h : ¬[x, x] <+: cs) : read (x :: cs) = (read cs).push x
  stop {rest : List Char} (h : rest.head? ≠ some x) : read (x :: x :: x :: rest) = some ([], rest)
  stop_one {rest : List Char} (h : rest.head? ≠ some x) :
    read (x :: x :: x :: x :: rest) = some ([x], rest)
  stop_two (rest : List Char) : read (x :: x :: x :: x :: x :: rest) = some ([x, x], rest)

theorem longReader_basic : LongReader '"' (multilineBasic false) where
  quote h := multilineBasic_cons (by decide) (by decide) fun _ => h
  stop h := by
    rw [multilineBasic] <;> rintro _ rfl <;> exact h rfl
  stop_one h := by
    rw [multilineBasic]
    rintro _ rfl
    exact h rfl
  stop_two rest := by rw [multilineBasic]

theorem longReader_literal : LongReader '\'' multilineLiteral where
  quote h := multilineLiteral_cons (by decide) fun _ => h
  stop h := by
    rw [multilineLiteral] <;> rintro _ rfl <;> exact h rfl
  stop_one h := by
    rw [multilineLiteral]
    rintro _ rfl
    exact h rfl
  stop_two rest := by rw [multilineLiteral]

/-- Writings of a text in which no more than two quotes stand in a row, given the number of those
just before. -/
inductive Written (x : Char) (read : List Char → Reading) : Nat → List Char → List Char → Prop
  | nil {quotes : Nat} : Written x read quotes [] []
  | quote {quotes : Nat} {cs ws : List Char} (hq : quotes < 2)
      (h : Written x read (quotes + 1) cs ws) : Written x read quotes (x :: cs) (x :: ws)
  | other {quotes : Nat} {c : Char} {p cs ws : List Char}
      (hr : ∀ cs, read (p ++ cs) = (read cs).push c) (hp : ∀ cs, (p ++ cs).head? ≠ some x)
      (h : Written x read 0 cs ws) : Written x read quotes (c :: cs) (p ++ ws)

theorem head?_of_leading (h : x :: p <+: cs) : cs.head? = some x := by
  obtain ⟨t, rfl⟩ := h
  rfl

theorem read_written (hr : LongReader x read) (h : Written x read quotes cs ws)
    (hx : rest.head? ≠ some x) : read (ws ++ x :: x :: x :: rest) = some (cs, rest) := by
  induction h with
  | nil => exact hr.stop hx
  | other hp _ _ ih =>
      rw [List.append_assoc, hp, ih]
      rfl
  | quote hq h ih =>
      -- A quote is read alone unless it is one of the last, which are read together.
      have hpush := fun hn => (hr.quote hn).trans (congrArg (Reading.push x) ih)
      cases h with
      | nil => exact hr.stop_one hx
      | other _ hne _ =>
          refine hpush fun hn => ?_
          rw [List.append_assoc] at hn
          exact hne _ (head?_of_leading hn)
      | quote hq' h =>
          cases h with
          | nil => exact hr.stop_two rest
          | other _ hne _ =>
              refine hpush fun hn => ?_
              rw [List.cons_append, List.append_assoc, List.cons_prefix_cons] at hn
              exact hne _ (head?_of_leading hn.2)
          | quote hq'' _ => omega

theorem spelling_head? (h : Spelling c p) :
    ∀ d ∈ (p ++ cs).head?, d ≠ '"' ∧ isControl d = false := by
  cases h with
  | plain hc hq _ => simp [hc, hq]
  | short _ => simp
  | code _ => simp

theorem basic_escapeAll (quotes : Nat) (cs rest : List Char) :
    basic (escapeAll false quotes cs ++ '"' :: rest) = some (cs, rest) := by
  induction cs generalizing quotes with
  | nil => rfl
  | cons c cs ih =>
      rcases escape_cases false quotes c with ⟨hm, -⟩ | ⟨hm, -⟩ | hs
      · cases hm
      · cases hm
      · rw [escapeAll, List.append_assoc, basic_spelling hs, ih]
        rfl

theorem written_escapeAll (quotes : Nat) (cs : List Char) :
    Written '"' (multilineBasic false) quotes cs (escapeAll true quotes cs) := by
  induction cs generalizing quotes with
  | nil => exact .nil
  | cons c cs ih =>
      rcases escape_cases true quotes c with ⟨-, hq, rfl, he⟩ | ⟨-, rfl, he⟩ | hs
      · rw [escapeAll, he]
        exact .quote hq (ih (quotes + 1))
      · have hr : ∀ cs,
            multilineBasic false (['\n'] ++ cs) = (multilineBasic false cs).push '\n' := by
          intro cs
          rw [List.singleton_append, multilineBasic]
          rfl
        rw [escapeAll, he]
        exact .other hr (by simp) (ih 0)
      · have hp : ∀ cs, (escape true quotes c ++ cs).head? ≠ some '"' :=
          fun cs h => (spelling_head? hs _ h).1 rfl
        have hne : escape true quotes c ≠ ['"'] := by
          intro h
          rw [h] at hp
          exact hp [] rfl
        simp only [escapeAll, if_neg hne]
        exact .other (multilineBasic_spelling hs) hp (ih 0)

theorem length_takeWhile_le_longestRun (x : Char) (cs : List Char) :
    (cs.takeWhile (· = x)).length ≤ longestRun x cs := by
  cases cs with
  | nil => exact Nat.le_refl _
  | cons c cs => exact Nat.le_max_left _ _

theorem written_raw (hc : ∀ c ∈ cs, isControl c = true → c = '\n')
    (hrun : longestRun '\'' cs ≤ 2) (hq : quotes + (cs.takeWhile (· = '\'')).length ≤ 2) :
    Written '\'' multilineLiteral quotes cs cs := by
  induction cs generalizing quotes with
  | nil => exact .nil
  | cons c cs ih =>
      obtain ⟨hc, hcs⟩ := List.forall_mem_cons.1 hc
      have hrun' : longestRun '\'' cs ≤ 2 := Nat.le_trans (Nat.le_max_right _ _) hrun
      by_cases hx : c = '\''
      · subst hx
        rw [List.takeWhile_cons_of_pos (by simp), List.length_cons] at hq
        exact .quote (by omega) (ih hcs hrun' (by omega))
      · have ht := Nat.le_trans (length_takeWhile_le_longestRun '\'' cs) hrun'
        have hr : ∀ cs, multilineLiteral ([c] ++ cs) = (multilineLiteral cs).push c :=
          fun cs => multilineLiteral_cons hc fun h => absurd h hx
        exact .other hr (fun cs h => hx (Option.some.inj h)) (ih hcs hrun' (by omega))

theorem literal_append (hc : ∀ c ∈ cs, isControl c = false) (hq : '\'' ∉ cs) (rest : List Char) :
    literal (cs ++ '\'' :: rest) = some (cs, rest) := by
  induction cs with
  | nil => rfl
  | cons c cs ih =>
      obtain ⟨hc, hcs⟩ := List.forall_mem_cons.1 hc
      obtain ⟨hq, hqs⟩ := not_or.1 (mt List.mem_cons.2 hq)
      have hl : literal (c :: (cs ++ '\'' :: rest)) = (literal (cs ++ '\'' :: rest)).push c := by
        simp [literal, hc, Ne.symm hq]
      rw [List.cons_append, hl, ih hcs hqs]
      rfl

theorem skipNewline_of_head? (h : ∀ c ∈ ws.head?, isControl c = false) : skipNewline ws = ws := by
  cases ws with
  | nil => rfl
  | cons c ws =>
      have hc := h c rfl
      rw [skipNewline, newline?.eq_def]
      split <;> simp_all

theorem skipNewline_lead {lead : Prop} [Decidable lead]
    (h : ¬lead → ∀ c ∈ ws.head?, isControl c = false) :
    skipNewline ((if lead then ['\n'] else []) ++ ws) = ws := by
  split
  · rfl
  · exact skipNewline_of_head? (h ‹_›)

theorem escapeAll_head? (multiline : Bool) (quotes : Nat) (h : '\n' ∉ cs) :
    ∀ c ∈ (escapeAll multiline quotes cs ++ '"' :: rest).head?, isControl c = false := by
  cases cs with
  | nil => simp [escapeAll]
  | cons c cs =>
      rw [escapeAll, List.append_assoc]
      rcases escape_cases multiline quotes c with ⟨-, -, rfl, he⟩ | ⟨-, rfl, he⟩ | hs
      · simp [he]
      · exact absurd List.mem_cons_self h
      · exact fun c hc => (spelling_head? hs c hc).2

theorem controls (h : (cs.any fun c => isControl c && c ≠ '\n') = false) :
    ∀ c ∈ cs, isControl c = true → c = '\n' := by
  simpa using h

theorem no_control (hc : ∀ c ∈ cs, isControl c = true → c = '\n') (hn : '\n' ∉ cs) :
    ∀ c ∈ cs, isControl c = false := by
  intro c h
  refine Bool.eq_false_iff.2 fun hc' => ?_
  cases hc c h hc'
  exact hn h

theorem text_basic (cs : List Char) (hr : Unquoted rest) :
    text ('"' :: escapeAll false 0 cs ++ ['"'] ++ rest) = some (cs, rest) := by
  rw [List.append_assoc, List.cons_append, List.singleton_append, text, basic_escapeAll]
  -- An empty string is not taken for three quotes.
  cases cs with
  | nil =>
      rintro _ ⟨⟩
      exact (hr '"' rfl).1 rfl
  | cons c cs =>
      intro ws hws
      rcases escape_cases false 0 c with ⟨hm, -⟩ | ⟨hm, -⟩ | hs
      · cases hm
      · cases hm
      · rw [escapeAll, List.append_assoc] at hws
        exact (spelling_head? hs '"' (congrArg List.head? hws)).1 rfl

theorem text_literal (hc : ∀ c ∈ cs, isControl c = false) (hq : '\'' ∉ cs) (hr : Unquoted rest) :
    text ('\'' :: cs ++ ['\''] ++ rest) = some (cs, rest) := by
  rw [List.append_assoc, List.cons_append, List.singleton_append, text, literal_append hc hq]
  cases cs with
  | nil =>
      rintro _ ⟨⟩
      exact (hr '\'' rfl).2 rfl
  | cons c cs =>
      intro ws hws
      obtain rfl := (List.cons.inj hws).1
      exact hq List.mem_cons_self

theorem text_longBasic (cs : List Char) (hr : Unquoted rest) :
    text (['"', '"', '"'] ++ (if '\n' ∈ cs then ['\n'] else []) ++ escapeAll true 0 cs ++
      ['"', '"', '"'] ++ rest) = some (cs, rest) := by
  have hrest : rest.head? ≠ some '"' := fun h => (hr _ h).1 rfl
  simp only [List.append_assoc, List.cons_append, List.nil_append, text]
  rw [skipNewline_lead (escapeAll_head? true 0)]
  exact read_written longReader_basic (written_escapeAll 0 cs) hrest

theorem text_longLiteral (hc : ∀ c ∈ cs, isControl c = true → c = '\n')
    (hrun : longestRun '\'' cs ≤ 2) (hr : Unquoted rest) :
    text (['\'', '\'', '\''] ++ (if '\n' ∈ cs then ['\n'] else []) ++ cs ++
      ['\'', '\'', '\''] ++ rest) = some (cs, rest) := by
  have hrest : rest.head? ≠ some '\'' := fun h => (hr _ h).2 rfl
  have hw : Written '\'' multilineLiteral 0 cs cs := written_raw hc hrun (by
    have := length_takeWhile_le_longestRun '\'' cs
    omega)
  have hs : '\n' ∉ cs → ∀ c ∈ (cs ++ '\'' :: '\'' :: '\'' :: rest).head?, isControl c = false := by
    intro hn
    cases cs with
    | nil => simp
    | cons c cs => simpa using no_control hc hn c List.mem_cons_self
  simp only [List.append_assoc, List.cons_append, List.nil_append, text]
  rw [skipNewline_lead hs]
  exact read_written longReader_literal hw hrest

theorem text_writeText (cs : List Char) (hr : Unquoted rest) :
    text (writeText cs ++ rest) = some (cs, rest) := by
  simp only [writeText]
  split
  next => exact text_basic cs hr
  split
  next h =>
    simp only [Bool.and_eq_true, Bool.not_eq_true', decide_eq_true_eq, decide_eq_false_iff_not] at h
    obtain ⟨⟨hc, hq⟩, hn⟩ := h
    exact text_literal (no_control (controls hc) hn) hq hr
  split
  next => exact text_longBasic cs hr
  split
  next h =>
    simp only [Bool.and_eq_true, Bool.not_eq_true', decide_eq_true_eq] at h
    exact text_longLiteral (controls h.1) h.2 hr
  split
  next h => simpa only [if_pos h] using text_longBasic cs hr
  next => exact text_basic cs hr

end TilePuzzle.Toml
