import TilePuzzle.Proofs.Toml.Number
import TilePuzzle.Proofs.Toml.Text
import TilePuzzle.Toml.Document

namespace TilePuzzle.Toml

variable {c d : Char} {cs cs' ws rest : List Char} {ss ss' : List Statement} {s : Statement}
variable {name : String} {v : Value} {es fields : Entries}

def IsBare (name : String) : Prop :=
  name.toList ≠ [] ∧ ∀ c ∈ name.toList, isBareKey c = true

instance (name : String) : Decidable (IsBare name) :=
  @instDecidableAnd _ _ _ (List.decidableBAll _ _)

/-- Lines that say the statements, whatever follows them. -/
def Spells (cs : List Char) (ss : List Statement) : Prop :=
  ∀ rest, statements (cs ++ rest) = (statements rest).map (ss ++ ·)

structure Denotes (ws : List Char) (v : Value) : Prop where
  head : ∀ c ∈ ws.head?, isBlank c = false
  read (rest : List Char) : value maxDepth (ws ++ '\n' :: rest) = some (v, '\n' :: rest)

def headerLine (name : String) : List Char :=
  '[' :: name.toList ++ "]\n".toList

def entryLine (name : String) (ws : List Char) : List Char :=
  name.toList ++ " = ".toList ++ ws ++ ['\n']

theorem statements_nil : statements [] = some [] := by
  rw [statements]
  rfl

theorem spells_nil : Spells [] [] := by
  intro rest
  rw [List.nil_append]
  cases statements rest <;> rfl

theorem Spells.append (h : Spells cs ss) (h' : Spells cs' ss') :
    Spells (cs ++ cs') (ss ++ ss') := by
  intro rest
  rw [List.append_assoc, h, h', Option.map_map]
  simp only [List.append_assoc]
  rfl

theorem statements_of_spells (h : Spells cs ss) : statements cs = some ss := by
  have hs := h []
  rwa [List.append_nil, statements_nil, Option.map_some, List.append_nil] at hs

theorem skipBlanks_cons (h : isBlank c = false) : skipBlanks (c :: cs) = c :: cs := by
  simp [skipBlanks, h]

theorem lineEnd_newline (rest : List Char) : lineEnd ('\n' :: rest) = some rest := by
  simp [lineEnd, skipBlanks_cons, isBlank, newline?]

theorem spells_blankLine : Spells ['\n'] [] := by
  intro rest
  rw [List.singleton_append, statements, skipBlanks_cons (by decide)]
  simp only [lineEnd_newline]
  simp

theorem spells_line (hb : isBlank c = false) (hc : c ∉ ['#', '\n', '\r'])
    (h : ∀ rest, statement (c :: cs ++ '\n' :: rest) = some (s, '\n' :: rest)) :
    Spells (c :: cs ++ ['\n']) [s] := by
  intro rest
  have hs := h rest
  have hc : (c = '#' || c = '\n' || c = '\r') = false := by
    simpa [and_assoc] using hc
  rw [List.append_assoc, List.singleton_append]
  rw [List.cons_append] at hs ⊢
  rw [statements, skipBlanks_cons hb]
  simp only [hs, lineEnd_newline, hc]
  rw [if_neg Bool.false_ne_true, if_pos (by simp; omega)]
  rfl

theorem ne_of_isBareKey (h : isBareKey c = true) (hd : isBareKey d = false) : c ≠ d := by
  rintro rfl
  exact Bool.false_ne_true (hd.symm.trans h)

theorem isBlank_of_isBareKey (h : isBareKey c = true) : isBlank c = false := by
  have hs := ne_of_isBareKey h (d := ' ') (by decide)
  have ht := ne_of_isBareKey h (d := '\t') (by decide)
  simp [isBlank, hs, ht]

theorem eq_cons_of_isBare (h : IsBare name) :
    ∃ c cs, name.toList = c :: cs ∧ isBareKey c = true := by
  obtain ⟨c, cs, hc⟩ := List.exists_cons_of_ne_nil h.1
  exact ⟨c, cs, hc, h.2 c (hc ▸ List.mem_cons_self)⟩

theorem skipBlanks_bare (hn : IsBare name) :
    skipBlanks (name.toList ++ rest) = name.toList ++ rest := by
  obtain ⟨c, cs, hc, hb⟩ := eq_cons_of_isBare hn
  rw [hc]
  exact skipBlanks_cons (isBlank_of_isBareKey hb)

theorem keyPart_bare (hn : IsBare name) (hr : ∀ c ∈ rest.head?, isBareKey c = false) :
    keyPart (name.toList ++ rest) = some (name.toList, rest) := by
  obtain ⟨ht, hd⟩ := Text.span_append hn.2 hr
  have hl : lineText (name.toList ++ rest) = none := by
    obtain ⟨c, cs, hc, hb⟩ := eq_cons_of_isBare hn
    rw [hc, List.cons_append, lineText]
    · exact fun _ h => ne_of_isBareKey hb (by decide) (List.cons.inj h).1
    · exact fun _ h => ne_of_isBareKey hb (by decide) (List.cons.inj h).1
  simp only [keyPart, hl, ht, hd, if_neg hn.1]

theorem key_bare (hn : IsBare name) (hr : ∀ c ∈ rest.head?, isBareKey c = false)
    (hd : (skipBlanks rest).head? ≠ some '.') :
    key (name.toList ++ rest) = some ([name], skipBlanks rest) := by
  rw [key, skipBlanks_bare hn, keyPart_bare hn hr]
  simp only [String.ofList_toList]
  split
  next h => exact absurd (congrArg List.head? h) hd
  next => rfl

theorem spells_header (hn : IsBare name) : Spells (headerLine name) [.header [name]] := by
  have h : ∀ rest, statement ('[' :: (name.toList ++ [']']) ++ '\n' :: rest) =
      some (.header [name], '\n' :: rest) := by
    intro rest
    have hk : key (name.toList ++ ']' :: '\n' :: rest) = some ([name], ']' :: '\n' :: rest) :=
      key_bare hn (by simp; decide) (by simp [skipBlanks, isBlank])
    rw [List.cons_append, List.append_assoc, List.singleton_append, statement]
    · simp only [hk]
    · intro cs hcs
      obtain ⟨c, cs, hc, hb⟩ := eq_cons_of_isBare hn
      rw [hc] at hcs
      exact ne_of_isBareKey hb (by decide) (List.cons.inj hcs).1
  have hs := spells_line (by decide) (by decide) h
  simpa [headerLine] using hs

theorem statement_bare (hn : IsBare name) :
    statement (name.toList ++ rest) = (keyValue (value maxDepth) (name.toList ++ rest)).map
      fun ((path, v), rest) => (.entry path v, rest) := by
  obtain ⟨c, cs, hc, hb⟩ := eq_cons_of_isBare hn
  rw [hc, List.cons_append, statement]
  · exact fun _ h => ne_of_isBareKey hb (by decide) (List.cons.inj h).1
  · exact fun _ h => ne_of_isBareKey hb (by decide) (List.cons.inj h).1

theorem Denotes.skipBlanks (h : Denotes ws v) (rest : List Char) :
    skipBlanks (' ' :: (ws ++ '\n' :: rest)) = ws ++ '\n' :: rest := by
  have hs : Toml.skipBlanks (ws ++ '\n' :: rest) = ws ++ '\n' :: rest := by
    cases ws with
    | nil => exact skipBlanks_cons (by decide)
    | cons c ws => exact skipBlanks_cons (h.head c rfl)
  exact hs

theorem spells_entry (hn : IsBare name) (hw : Denotes ws v) :
    Spells (entryLine name ws) [.entry [name] v] := by
  have h : ∀ rest, statement (name.toList ++ ' ' :: '=' :: ' ' :: (ws ++ '\n' :: rest)) =
      some (.entry [name] v, '\n' :: rest) := by
    intro rest
    have hk : key (name.toList ++ ' ' :: '=' :: ' ' :: (ws ++ '\n' :: rest)) =
        some ([name], '=' :: ' ' :: (ws ++ '\n' :: rest)) :=
      key_bare hn (by simp; decide) (by simp [Toml.skipBlanks, isBlank])
    rw [statement_bare hn, keyValue, hk]
    simp only [hw.skipBlanks, hw.read, Option.map_some]
  obtain ⟨c, cs, hc, hb⟩ := eq_cons_of_isBare hn
  have hne : c ∉ ['#', '\n', '\r'] := by
    simp [ne_of_isBareKey hb (d := '#') (by decide), ne_of_isBareKey hb (d := '\n') (by decide),
      ne_of_isBareKey hb (d := '\r') (by decide)]
  have hs : Spells (c :: (cs ++ ' ' :: '=' :: ' ' :: ws) ++ ['\n']) [.entry [name] v] :=
    spells_line (isBlank_of_isBareKey hb) hne fun rest => by simpa [hc] using h rest
  simpa [entryLine, hc] using hs

theorem writeText_head (cs : List Char) :
    ∃ ws, writeText cs = '"' :: ws ∨ writeText cs = '\'' :: ws := by
  simp only [writeText]
  repeat' split
  all_goals first | exact ⟨_, .inl rfl⟩ | exact ⟨_, .inr rfl⟩

theorem denotes_text (t : String) : Denotes (writeText t.toList) (.text t) := by
  have hr : ∀ rest, text (writeText t.toList ++ '\n' :: rest) = some (t.toList, '\n' :: rest) :=
    fun rest => text_writeText t.toList (by simp [Unquoted])
  obtain ⟨ws, hw | hw⟩ := writeText_head t.toList
  all_goals
    rw [hw] at hr ⊢
    refine ⟨by simp [isBlank], fun rest => ?_⟩
    have ht := hr rest
    rw [List.cons_append] at ht ⊢
    rw [value, ht]
    simp

theorem denotes_integer {n : Nat} (hn : n ≤ 9223372036854775807) :
    Denotes (Decimal.digits n) (.integer n) := by
  obtain ⟨d, ds, hd⟩ := List.exists_cons_of_ne_nil (Decimal.digits_ne_nil n)
  have hdigit : d.isDigit := Decimal.isDigit_digits n d (hd ▸ List.mem_cons_self)
  have hne : ∀ c, c.isDigit = false → d ≠ c := fun c => ne_of_isDigit hdigit
  have hs : ∀ rest, scalar (Decimal.digits n ++ '\n' :: rest) = some (.integer n, '\n' :: rest) :=
    fun rest => scalar_digits hn (by simp; decide)
  rw [hd] at hs ⊢
  refine ⟨by simp [isBlank, hne ' ' rfl, hne '\t' rfl], fun rest => ?_⟩
  -- A digit opens neither a list, nor a table, nor a text.
  rw [List.cons_append, value, ← List.cons_append, hs]
  all_goals exact fun _ h => hne _ rfl (List.cons.inj h).1

def sectionStatements (s : String × Entries) : List Statement :=
  .header [s.1] :: s.2.map fun e => .entry [e.1] e.2

def tables (sections : List (String × Entries)) : Entries :=
  sections.map fun s => (s.1, .table .header s.2)

namespace Entries

def keys (es : Entries) : List String :=
  es.map Prod.fst

theorem not_mem_keys {e : String × Value} (h : (keys (es ++ e :: fields)).Nodup) :
    e.1 ∉ es.keys := by
  rw [keys, List.map_append, List.nodup_append] at h
  exact fun hm => h.2.2 _ hm _ List.mem_cons_self rfl

theorem find?_eq_none (h : name ∉ es.keys) : es.find? name = none := by
  have hn : List.find? (fun e => decide (e.1 = name)) es = none := by
    rw [List.find?_eq_none]
    rintro e he hd
    exact h (List.mem_map.2 ⟨e, he, of_decide_eq_true hd⟩)
  rw [find?, hn, Option.map_none]

theorem find?_concat (h : name ∉ es.keys) (v : Value) :
    find? (es ++ [(name, v)]) name = some v := by
  have hn := find?_eq_none h
  rw [find?, Option.map_eq_none_iff] at hn
  rw [find?, List.find?_append, hn]
  simp

theorem replace_concat (h : name ∉ es.keys) (v w : Value) :
    replace (es ++ [(name, v)]) name w = es ++ [(name, w)] := by
  have hs : es.map (fun e => if e.1 = name then (name, w) else e) = es.map id := by
    refine List.map_congr_left fun e he => if_neg ?_
    rintro rfl
    exact h (List.mem_map_of_mem he)
  rw [replace, List.map_append, hs, List.map_id]
  simp

end Entries

theorem add_header (h : name ∉ es.keys) (header : List String) :
    Draft.add ⟨es, header⟩ (.header [name]) = some ⟨es ++ [(name, .table .header [])], [name]⟩ := by
  simp [Draft.add, Entries.openTable, Entries.update, Entries.find?_eq_none h]

theorem add_entry {e : String × Value} (h : name ∉ es.keys) (he : e.1 ∉ fields.keys) :
    Draft.add ⟨es ++ [(name, .table .header fields)], [name]⟩ (.entry [e.1] e.2) =
      some ⟨es ++ [(name, .table .header (fields ++ [e]))], [name]⟩ := by
  simp [Draft.add, Entries.insertUnder, Entries.insert, Entries.update, Entries.find?_concat h,
    Entries.find?_eq_none he, Entries.replace_concat h]

theorem addAll_entries (h : name ∉ es.keys) (fields more : Entries)
    (hn : (Entries.keys (fields ++ more)).Nodup) (ss : List Statement) :
    Draft.addAll ⟨es ++ [(name, .table .header fields)], [name]⟩
        ((more.map fun e => .entry [e.1] e.2) ++ ss) =
      Draft.addAll ⟨es ++ [(name, .table .header (fields ++ more))], [name]⟩ ss := by
  induction more generalizing fields with
  | nil => rw [List.append_nil, List.map_nil, List.nil_append]
  | cons e more ih =>
      have hk := Entries.not_mem_keys hn
      rw [List.append_cons fields] at hn ⊢
      rw [List.map_cons, List.cons_append, Draft.addAll, add_entry h hk, Option.bind_some, ih _ hn]

theorem addAll_sections {sections : List (String × Entries)}
    (hs : (Entries.keys (es ++ tables sections)).Nodup) (hf : ∀ s ∈ sections, s.2.keys.Nodup)
    (header : List String) :
    (Draft.addAll ⟨es, header⟩ (sections.flatMap sectionStatements)).map (·.entries) =
      some (es ++ tables sections) := by
  -- Only the last header counts, and the next section replaces it.
  induction sections generalizing es header with
  | nil => simp [Draft.addAll, tables]
  | cons s sections ih =>
      obtain ⟨hf, hfs⟩ := List.forall_mem_cons.1 hf
      rw [tables, List.map_cons] at hs ⊢
      have hk := Entries.not_mem_keys hs
      rw [List.append_cons] at hs ⊢
      rw [List.flatMap_cons, sectionStatements, List.cons_append, Draft.addAll, add_header hk,
        Option.bind_some, addAll_entries hk [] s.2 hf]
      exact ih hs hfs [s.1]

/-- A file of sections is read as their tables. -/
theorem parse?_sections {sections : List (String × Entries)}
    (h : Spells cs (sections.flatMap sectionStatements)) (hm : cs.head? ≠ some (Char.ofNat 0xFEFF))
    (hs : (tables sections).keys.Nodup) (hf : ∀ s ∈ sections, s.2.keys.Nodup) :
    parse? (String.ofList cs) = some (tables sections) := by
  rw [parse?, String.toList_ofList, skipMark, if_neg hm, statements_of_spells h, Option.bind_some]
  exact addAll_sections hs hf []

end TilePuzzle.Toml
