import TilePuzzle.Proofs.Codec.Decimal
import TilePuzzle.Proofs.Text.Plain
import TilePuzzle.Toml.Number

namespace TilePuzzle.Toml

open Decimal

variable {c d : Char} {cs ds rest : List Char}

theorem ne_of_isDigit (h : d.isDigit) (hc : c.isDigit = false) : d ≠ c := by
  rintro rfl
  exact Bool.false_ne_true (hc.symm.trans h)

theorem isScalarChar_of_isDigit (h : d.isDigit) : isScalarChar d = true := by
  simp [isScalarChar, Char.isAlphanum, h]

theorem drop?_of_isDigit (h : ∀ d ∈ ds, d.isDigit) (hc : c.isDigit = false) :
    drop? c ds = none := by
  cases ds with
  | nil => rfl
  | cons d ds => exact if_neg (ne_of_isDigit (h d List.mem_cons_self) hc)

theorem day?_of_isDigit (h : ∀ d ∈ ds, d.isDigit) : day? ds = none := by
  have hd : drop? '-' (ds.drop 4) = none :=
    drop?_of_isDigit (fun d hd => h d (List.mem_of_mem_drop hd)) rfl
  rw [day?, hd]
  cases nat? (ds.take 4) with
  | none => rfl
  | some year =>
      simp only [Option.bind_eq_bind, Option.bind_some]
      split <;> rfl

theorem eq_drop_of_twoDigits? {low high n : Nat} (h : twoDigits? low high ds = some (n, rest)) :
    rest = ds.drop 2 := by
  unfold twoDigits? at h
  split at h
  · obtain ⟨m, -, h⟩ := Option.bind_eq_some_iff.1 h
    split at h
    · cases h
      rfl
    · cases h
  · cases h

theorem time?_of_isDigit (h : ∀ d ∈ ds, d.isDigit) : time? ds = none := by
  rw [time?]
  cases ht : twoDigits? 0 23 ds with
  | none => rfl
  | some hour =>
      have hd : drop? ':' hour.2 = none := by
        rw [eq_drop_of_twoDigits? ht]
        exact drop?_of_isDigit (fun d hd => h d (List.mem_of_mem_drop hd)) rfl
      simp only [Option.bind_eq_bind, Option.bind_some, hd]
      rfl

theorem isDate_of_isDigit (h : ∀ d ∈ ds, d.isDigit) : isDate ds = false := by
  simp only [isDate, day?_of_isDigit h, isTime, time?_of_isDigit h]

theorem digits?_of_isDigit (h : ∀ d ∈ ds, d.isDigit) (hne : ds ≠ []) :
    digits? Char.isDigit ds = some ds := by
  have hs : ds.splitOnP (· = '_') = [ds] :=
    List.splitOnP_eq_singleton fun d hd => decide_eq_false (ne_of_isDigit (h d hd) rfl)
  simpa [digits?, hs, hne] using h

theorem splitSign_of_isDigit (h : ∀ d ∈ ds, d.isDigit) : splitSign ds = (false, ds) := by
  rw [splitSign.eq_def]
  split
  · exact absurd (h '-' List.mem_cons_self) (by decide)
  · exact absurd (h '+' List.mem_cons_self) (by decide)
  · rfl

theorem ne_of_forall_isDigit (h : ∀ d ∈ ds, d.isDigit) (hc : c ∈ cs) (hd : c.isDigit = false) :
    ds ≠ cs := by
  rintro rfl
  exact Bool.false_ne_true (hd.symm.trans (h c hc))

theorem float?_of_isDigit (h : ∀ d ∈ ds, d.isDigit) : float? ds = none := by
  have hi : ds ≠ "inf".toList := ne_of_forall_isDigit h (c := 'i') (by decide) rfl
  have hn : ds ≠ "nan".toList := ne_of_forall_isDigit h (c := 'n') (by decide) rfl
  have he : ∀ d ∈ ds, (!(decide (d = 'e') || decide (d = 'E'))) = true := by
    intro d hd
    simp [ne_of_isDigit (h d hd) (c := 'e') rfl, ne_of_isDigit (h d hd) (c := 'E') rfl]
  have hp : ∀ d ∈ ds, decide (d ≠ '.') = true :=
    fun d hd => decide_eq_true (ne_of_isDigit (h d hd) rfl)
  simp only [float?, splitSign_of_isDigit h]
  rw [List.takeWhile_eq_self_iff.2 he, List.dropWhile_eq_nil_iff.2 he,
    List.takeWhile_eq_self_iff.2 hp, List.dropWhile_eq_nil_iff.2 hp]
  simpa using And.intro hi hn

theorem wholeDigits?_numeral (h : IsNumeral ds) : wholeDigits? ds = some ds := by
  rw [wholeDigits?, digits?_of_isDigit h.isDigit h.ne_nil, Option.bind_some, if_neg]
  simp only [Bool.and_eq_true, decide_eq_true_eq, not_and]
  intro hl h0
  rw [h.lead h0] at hl
  exact absurd hl (by decide)

theorem integer?_numeral (h : IsNumeral ds) (hv : value ds ≤ 9223372036854775807) :
    integer? ds = some (.integer (value ds)) := by
  have hb : bounded? (value ds) = some (.integer (value ds)) := if_pos ⟨by omega, by omega⟩
  have hx : ∀ c cs, c.isDigit = false → ds ≠ '0' :: c :: cs :=
    fun c cs => ne_of_forall_isDigit h.isDigit (by simp)
  rw [integer?, splitSign_of_isDigit h.isDigit]
  · simp only [wholeDigits?_numeral h, Option.bind_some]
    exact hb
  · exact fun cs => hx 'x' cs rfl
  · exact fun cs => hx 'o' cs rfl
  · exact fun cs => hx 'b' cs rfl

theorem scalar?_numeral (h : IsNumeral ds) (hv : value ds ≤ 9223372036854775807) :
    scalar? ds = some (.integer (value ds)) := by
  have hd := h.isDigit
  have ht : ds ≠ "true".toList := ne_of_forall_isDigit hd (c := 't') (by decide) rfl
  have hf : ds ≠ "false".toList := ne_of_forall_isDigit hd (c := 'f') (by decide) rfl
  rw [scalar?, if_neg ht, if_neg hf, isDate_of_isDigit hd, if_neg Bool.false_ne_true,
    float?_of_isDigit hd, integer?_numeral h hv]

theorem scalar_digits {n : Nat} (hn : n ≤ 9223372036854775807)
    (hr : ∀ c ∈ rest.head?, isScalarChar c = false) :
    scalar (digits n ++ rest) = some (.integer n, rest) := by
  have hd := isDigit_digits n
  obtain ⟨ht, hr⟩ := Text.span_append (fun d h => isScalarChar_of_isDigit (hd d h)) hr
  have hv : value (digits n) ≤ 9223372036854775807 := (value_digits n).symm ▸ hn
  simp only [scalar, ht, hr, day?_of_isDigit hd, scalar?_numeral (isNumeral_digits n) hv]
  simp [value_digits]

end TilePuzzle.Toml
