import Mathlib.Data.List.Chain
import TilePuzzle.Proofs.Markup.Attribute
import TilePuzzle.Proofs.Markup.Entity

namespace TilePuzzle.Markup

inductive Delimiter
  | double
  | single
  | bare
  deriving Repr, DecidableEq

def Delimiter.enclose : Delimiter → List Char → List Char
  | .double, cs => '"' :: (cs ++ ['"'])
  | .single, cs => '\'' :: (cs ++ ['\''])
  | .bare, cs => cs

/-- An attribute as it is written: text before the name, the name, text on either side of the equals
sign, and the value, which is escaped and delimited. -/
structure Written where
  lead : List Char
  name : List Char
  left : List Char
  right : List Char
  delimiter : Delimiter
  value : List Char
  deriving Repr, DecidableEq

namespace Written

def valueText (w : Written) : List Char :=
  w.delimiter.enclose (escape w.value)

def chars (w : Written) : List Char :=
  w.lead ++ (w.name ++ (w.left ++ '=' :: (w.right ++ w.valueText)))

def meaning (w : Written) : Attribute where
  name := String.ofList (w.name.map Char.toLower)
  value := String.ofList w.value

structure WellFormed (w : Written) : Prop where
  lead : ∀ c ∈ w.lead, Text.isSpace c
  name : AttributeName w.name
  left : ∀ c ∈ w.left, Text.isSpace c
  right : ∀ c ∈ w.right, Text.isSpace c
  bare : w.delimiter = .bare → escape w.value ≠ [] ∧
    ∀ c ∈ escape w.value, Text.isSpace c = false ∧ c ∉ ['=', '\x60']

instance (w : Written) : Decidable w.WellFormed :=
  decidable_of_iff (w.lead.all Text.isSpace ∧ AttributeName w.name ∧ w.left.all Text.isSpace ∧
      w.right.all Text.isSpace ∧ (w.delimiter = .bare → escape w.value ≠ [] ∧
        (escape w.value).all fun c => !Text.isSpace c && c ∉ ['=', '\x60'])) <| by
    simp only [List.all_eq_true, Bool.and_eq_true, Bool.not_eq_true', decide_eq_true_eq]
    exact ⟨fun ⟨lead, name, left, right, bare⟩ => ⟨lead, name, left, right, bare⟩,
      fun h => ⟨h.lead, h.name, h.left, h.right, h.bare⟩⟩

/-- White space may be missing before an attribute unless a value without quotes stands there. -/
def Separated (ws : List Written) : Prop :=
  ws.IsChain fun w next => w.delimiter = .bare → next.lead ≠ []

variable {w : Written} {ws : List Written} {rest : List Char}

theorem isBareValue_escape (h : w.WellFormed) (hb : w.delimiter = .bare) :
    ∀ c ∈ escape w.value, isBareValue c := by
  intro c hc
  obtain ⟨hs, hm⟩ := (h.bare hb).2 c hc
  have he : c ∉ ['<', '>', '"', '\''] := fun hm => not_mem_escape hm _ hc
  simp only [List.mem_cons, List.not_mem_nil, or_false, not_or] at hm he
  simp [isBareValue, hs, hm, he]

theorem value?_valueText (h : w.WellFormed)
    (hr : w.delimiter = .bare → ∀ c ∈ rest.head?, isBareValue c = false) :
    value? (w.valueText ++ rest) = some (escape w.value, w.valueText.length) := by
  rw [valueText]
  cases hd : w.delimiter with
  | double =>
      have hq := value?_quoted (.inl rfl) (not_mem_escape (by decide) w.value) rest
      simpa [Delimiter.enclose] using hq
  | single =>
      have hq := value?_quoted (.inr rfl) (not_mem_escape (by decide) w.value) rest
      simpa [Delimiter.enclose] using hq
  | bare => exact value?_bare (h.bare hd).1 (isBareValue_escape h hd) (hr hd)

theorem ofText_chars (h : w.WellFormed)
    (hr : w.delimiter = .bare → ∀ c ∈ rest.head?, isBareValue c = false) :
    Attribute.ofText (w.chars ++ rest) = w.meaning :: Attribute.ofText rest := by
  have ha := Attribute.ofText_attribute w.lead w.left w.right h.lead h.name.start
    h.name.isAttributeName h.left h.right (value?_valueText h hr)
  rw [Text.lower_ascii h.name.ascii, decodeEntities_escape] at ha
  simpa [chars, meaning] using ha

theorem head?_flatMap_chars (h : ∀ w ∈ ws, w.WellFormed) (hs : Separated (w :: ws))
    (hb : w.delimiter = .bare) : ∀ c ∈ (ws.flatMap chars).head?, isBareValue c = false := by
  cases ws with
  | nil => exact nofun
  | cons next ws =>
      have hl : next.lead ≠ [] := (List.isChain_cons_cons.1 hs).1 hb
      obtain ⟨c, cs, hc⟩ := List.exists_cons_of_ne_nil hl
      have hspace := (h next List.mem_cons_self).lead c (hc ▸ List.mem_cons_self)
      rw [List.flatMap_cons, chars, hc]
      rintro _ ⟨⟩
      simp [isBareValue, hspace]

/-- Written attributes are read back, in order and with repetitions. Names are read in lower case,
and values come back whatever they hold. -/
theorem ofText_written (h : ∀ w ∈ ws, w.WellFormed) (hs : Separated ws) :
    Attribute.ofText (ws.flatMap chars) = ws.map meaning := by
  induction ws with
  | nil => simp [Attribute.ofText]
  | cons w ws ih =>
      obtain ⟨hw, hws⟩ := List.forall_mem_cons.1 h
      rw [List.flatMap_cons, ofText_chars hw (head?_flatMap_chars hws hs), ih hws hs.tail,
        List.map_cons]

theorem ofText_written_delimiters :
    Attribute.ofText ("\nData-X =\t\"a=&quot;b&#39; c=d &amp;lt;\"_x:y='it&#39;s'" ++
      "\u00A0id=&lt;&amp;&gt; ID = a/").toList =
      [⟨"data-x", "a=\"b' c=d &lt;"⟩, ⟨"_x:y", "it's"⟩, ⟨"id", "<&>"⟩, ⟨"id", "a/"⟩] := by
  have ht := @ofText_written
    [⟨['\n'], "Data-X".toList, [' '], ['\t'], .double, "a=\"b' c=d &lt;".toList⟩,
      ⟨[], "_x:y".toList, [], [], .single, "it's".toList⟩,
      ⟨['\u00A0'], "id".toList, [], [], .bare, "<&>".toList⟩,
      ⟨[' '], "ID".toList, [' '], [' '], .bare, "a/".toList⟩]
    (by decide +kernel) (by simp [Separated])
  refine (congrArg Attribute.ofText ?_).trans (ht.trans ?_) <;> decide +kernel

end Written

end TilePuzzle.Markup
