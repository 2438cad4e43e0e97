import Mathlib.Data.List.Forall2
import TilePuzzle.CommandLine.Execute
import TilePuzzle.Proofs.Codec.Integer
import TilePuzzle.Proofs.Text.Plain

namespace TilePuzzle.CommandLine

variable {raw message number : String} {raws before : List String} {tile : Tile}
  {tiles : List Tile}

/-- Before the first colon of an argument stands the number of the tile, perhaps in white space, and
behind it the token. -/
def Gives (raw : String) (tile : Tile) : Prop :=
  ∃ number : String, ':' ∉ number.toList ∧ raw = number ++ ":" ++ tile.token ∧
    Decimal.IsWord (Text.trim number.toList) tile.value

inductive Faulty : String → String → Prop
  | colon {raw : String} (h : ':' ∉ raw.toList) : Faulty raw s!"tile '{raw}' must be VALUE:TOKEN"
  | number {number : String} (token : String) (hc : ':' ∉ number.toList)
      (hn : ∀ v, ¬Decimal.IsWord (Text.trim number.toList) v) :
      Faulty (number ++ ":" ++ token) s!"tile value '{number}' is not a number"

def argument (tile : Tile) : String :=
  String.ofList (Decimal.digits tile.value.toNat) ++ ":" ++ tile.token

def derived (tiles : List Tile) : Trace :=
  match Derivation.ofTiles tiles with
  | .ok d => { result := .ok, lines := [d.answer] }
  | .error e => { result := .error (.derive e) }

theorem tileOfArgument_of_no_colon (h : ':' ∉ raw.toList) :
    tileOfArgument raw = .error (.invalidInput s!"tile '{raw}' must be VALUE:TOKEN") := by
  have hd : raw.toList.dropWhile (· ≠ ':') = [] :=
    List.dropWhile_eq_nil_iff.2 fun c hc => decide_eq_true fun he => h (he ▸ hc)
  rw [tileOfArgument, hd]

theorem tileOfArgument_cut (hc : ':' ∉ number.toList) (token : String) :
    tileOfArgument (number ++ ":" ++ token) =
      match Decimal.word? (Text.trim number.toList) with
      | some word => .ok ⟨word, token⟩
      | none => .error (.invalidInput s!"tile value '{number}' is not a number") := by
  have hl : (number ++ ":" ++ token).toList = number.toList ++ ':' :: token.toList := by
    rw [String.toList_append, String.toList_append, List.append_assoc]
    rfl
  obtain ⟨ht, hd⟩ := Text.cut_append hc token.toList
  cases hw : Decimal.word? (Text.trim number.toList) <;>
    simp only [tileOfArgument, hl, ht, hd, hw, String.ofList_toList]

theorem tileOfArgument_of_gives (h : Gives raw tile) : tileOfArgument raw = .ok tile := by
  obtain ⟨number, hc, rfl, hw⟩ := h
  rw [tileOfArgument_cut hc, Decimal.word?_eq_some_iff.2 hw]

theorem tileOfArgument_of_faulty (h : Faulty raw message) :
    tileOfArgument raw = .error (.invalidInput message) := by
  cases h with
  | colon h => exact tileOfArgument_of_no_colon h
  | @number number token hc hn =>
      have hw : Decimal.word? (Text.trim number.toList) = none :=
        Option.eq_none_iff_forall_ne_some.2 fun v hv => hn v (Decimal.word?_eq_some_iff.1 hv)
      rw [tileOfArgument_cut hc, hw]

theorem exists_cut (h : ':' ∈ raw.toList) :
    ∃ number token : String, ':' ∉ number.toList ∧ raw = number ++ ":" ++ token := by
  obtain ⟨cs, ds, hl, hc⟩ := List.eq_append_cons_of_mem h
  refine ⟨String.ofList cs, String.ofList ds, by rwa [String.toList_ofList], ?_⟩
  rw [← String.toList_inj, hl]
  simp

theorem gives_or_faulty (raw : String) :
    (∃ tile, Gives raw tile) ∨ ∃ message, Faulty raw message := by
  by_cases hm : ':' ∈ raw.toList
  · obtain ⟨number, token, hc, rfl⟩ := exists_cut hm
    by_cases hw : ∃ v, Decimal.IsWord (Text.trim number.toList) v
    · obtain ⟨v, hv⟩ := hw
      exact .inl ⟨⟨v, token⟩, number, hc, rfl, hv⟩
    · exact .inr ⟨_, .number token hc (not_exists.1 hw)⟩
  · exact .inr ⟨_, .colon hm⟩

theorem tilesOfArguments_of_gives (h : List.Forall₂ Gives raws tiles) :
    tilesOfArguments raws = .ok tiles := by
  induction h with
  | nil => rfl
  | cons h _ ih =>
      rw [tilesOfArguments, tileOfArgument_of_gives h, ih]
      rfl

theorem tilesOfArguments_of_faulty (hb : ∀ r ∈ before, ∃ tile, Gives r tile)
    (hf : Faulty raw message) (after : List String) :
    tilesOfArguments (before ++ raw :: after) = .error (.invalidInput message) := by
  induction before with
  | nil => rw [List.nil_append, tilesOfArguments, tileOfArgument_of_faulty hf]
  | cons r before ih =>
      obtain ⟨⟨tile, hr⟩, hb⟩ := List.forall_mem_cons.1 hb
      rw [List.cons_append, tilesOfArguments, tileOfArgument_of_gives hr, ih hb]
      rfl

/-- Either all arguments give tiles or one is the first that does not. -/
theorem give_or_first_faulty (raws : List String) : (∃ tiles, List.Forall₂ Gives raws tiles) ∨
    ∃ before raw after message, raws = before ++ raw :: after ∧
      (∀ r ∈ before, ∃ tile, Gives r tile) ∧ Faulty raw message := by
  induction raws with
  | nil => exact .inl ⟨[], .nil⟩
  | cons raw raws ih =>
      rcases gives_or_faulty raw with ⟨tile, ht⟩ | ⟨message, hf⟩
      · rcases ih with ⟨tiles, hs⟩ | ⟨before, bad, after, message, rfl, hb, hf⟩
        · exact .inl ⟨tile :: tiles, .cons ht hs⟩
        · exact .inr ⟨raw :: before, bad, after, message, rfl,
            List.forall_mem_cons.2 ⟨⟨tile, ht⟩, hb⟩, hf⟩
      · exact .inr ⟨[], raw, raws, message, rfl, List.forall_mem_nil _, hf⟩

theorem gives_argument (tile : Tile) : Gives (argument tile) tile := by
  have hd := Decimal.isDigit_digits tile.value.toNat
  refine ⟨_, ?_, rfl, ?_⟩
  · rw [String.toList_ofList]
    exact Text.not_mem_of_isDigit (by decide) hd
  · rw [String.toList_ofList, Text.trim_eq_self fun c hc => Text.not_isSpace_of_isDigit (hd c hc)]
    exact Decimal.word?_eq_some_iff.1 (Decimal.word?_digits tile.value)

theorem perform_of_gives (input : Input) (s : Settings) (h : List.Forall₂ Gives raws tiles) :
    perform input s (.derive raws) = derived tiles := by
  simp only [perform, deriveAnswer, tilesOfArguments_of_gives h, derived]
  cases Derivation.ofTiles tiles <;> rfl

theorem perform_of_faulty (input : Input) (s : Settings)
    (hb : ∀ r ∈ before, ∃ tile, Gives r tile) (hf : Faulty raw message) (after : List String) :
    perform input s (.derive (before ++ raw :: after)) =
      { result := .error (.invalidInput message) } := by
  simp only [perform, deriveAnswer, tilesOfArguments_of_faulty hb hf after]

theorem shape_operand (h : raw.toList.head? ≠ some '-') : shape raw = .operand := by
  rw [shape]
  split <;> simp_all

theorem parseDerive_operands (h : ∀ raw ∈ raws, shape raw = .operand) (hne : before ++ raws ≠ []) :
    parseDerive true before raws = .ok (.derive (before ++ raws)) := by
  induction raws generalizing before with
  | nil =>
      rw [List.append_nil] at hne ⊢
      rw [parseDerive, if_neg (by simpa using hne)]
  | cons raw raws ih =>
      obtain ⟨hr, hs⟩ := List.forall_mem_cons.1 h
      have hi : parseDerive true (before ++ [raw]) raws = _ := ih hs (by simp)
      rw [List.append_assoc, List.singleton_append] at hi
      rw [parseDerive, if_pos rfl, hr]
      exact hi

theorem parse_derive (h : ∀ raw ∈ raws, shape raw = .operand) (hne : raws ≠ []) :
    parse ("derive" :: raws) = .ok ⟨none, 0, .derive raws⟩ := by
  have hs : shape "derive" = .operand := by decide
  have hp : parseDerive true [] raws = _ := parseDerive_operands h hne
  rw [parse, parseFrom, hs]
  simp only [parseCommand, hp]
  rfl

theorem shape_argument (tile : Tile) : shape (argument tile) = .operand := by
  apply shape_operand
  rw [argument, String.toList_append, String.toList_append, String.toList_ofList, List.append_assoc,
    List.head?_append_of_ne_nil _ (Decimal.digits_ne_nil _)]
  intro hd
  exact absurd (Decimal.isDigit_digits _ '-' (List.mem_of_mem_head? hd)) (by decide)

/-- The command for tiles leaves behind what their derivation does if every argument gives one.
Otherwise it prints nothing and reports the first argument that does not, whatever follows it. The
arguments that are written for tiles reach the command and give these tiles. -/
theorem derive_follows_tiles (input : Input) (s : Settings) :
    (∀ raws tiles, List.Forall₂ Gives raws tiles →
      perform input s (.derive raws) = derived tiles) ∧
    (∀ before raw after message, (∀ r ∈ before, ∃ tile, Gives r tile) → Faulty raw message →
      perform input s (.derive (before ++ raw :: after)) =
        { result := .error (.invalidInput message) }) ∧
    (∀ raws, (∃ tiles, List.Forall₂ Gives raws tiles) ∨
      ∃ before raw after message, raws = before ++ raw :: after ∧
        (∀ r ∈ before, ∃ tile, Gives r tile) ∧ Faulty raw message) ∧
    ∀ tiles, perform input s (.derive (tiles.map argument)) = derived tiles ∧ (tiles ≠ [] →
      parse ("derive" :: tiles.map argument) = .ok ⟨none, 0, .derive (tiles.map argument)⟩) := by
  refine ⟨fun raws tiles => perform_of_gives input s,
    fun before raw after message hb hf => perform_of_faulty input s hb hf after,
    give_or_first_faulty, fun tiles => ⟨perform_of_gives input s ?_, fun hne => parse_derive ?_ ?_⟩⟩
  · rw [List.forall₂_map_left_iff, List.forall₂_same]
    exact fun tile _ => gives_argument tile
  · intro raw hr
    obtain ⟨tile, -, rfl⟩ := List.mem_map.1 hr
    exact shape_argument tile
  · simpa using hne

end TilePuzzle.CommandLine
