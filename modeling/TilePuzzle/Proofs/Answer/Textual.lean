import Mathlib.Data.Nat.ModEq
import TilePuzzle.Proofs.Codec.Decimal
import TilePuzzle.Tile

namespace TilePuzzle

namespace Answer

def numeral (tiles : List Tile) : List Char :=
  tiles.flatMap fun t => Decimal.digits t.value.toNat

def number (tiles : List Tile) : Nat :=
  Decimal.denoted (numeral tiles)

def text (tiles : List Tile) : List Char :=
  Decimal.canonical (numeral tiles)

/-- What the text of tiles, followed by its reversal, leaves modulo five. -/
def remainder (tiles : List Tile) : Nat :=
  Decimal.denoted (text tiles ++ (text tiles).reverse) % 5

variable (tiles : List Tile)

theorem isDigit_numeral : ∀ c ∈ numeral tiles, c.isDigit := by
  intro c hc
  obtain ⟨t, -, hd⟩ := List.mem_flatMap.1 hc
  exact Decimal.isDigit_digits _ c hd

theorem combinedNumber_eq : combinedNumber tiles = number tiles :=
  Decimal.value_eq_denoted _

theorem digits_number : Decimal.digits (number tiles) = text tiles := by
  rw [number, ← Decimal.value_eq_denoted]
  exact Decimal.digits_value (isDigit_numeral tiles)

theorem shift_mod_five (m n : Nat) {k : Nat} (h : 0 < k) : (m * 10 ^ k + n) % 5 = n % 5 := by
  have hd : 5 ∣ m * 10 ^ k := Dvd.dvd.mul_left (dvd_pow (by decide) (Nat.ne_of_gt h)) m
  rw [Nat.add_mod, Nat.mod_eq_zero_of_dvd hd, Nat.zero_add, Nat.mod_mod]

theorem sessionId_number :
    sessionId (number tiles) = (remainder tiles + 99) * remainder tiles := by
  have hl : 0 < (text tiles).length := by
    rw [← digits_number]
    exact List.length_pos_iff.2 (Decimal.digits_ne_nil _)
  have hr : remainder tiles =
      (number tiles * 10 ^ min (text tiles).length maxShift +
        Decimal.value (text tiles).reverse) % 5 := by
    rw [remainder, ← Decimal.value_eq_denoted, Decimal.value_append, List.length_reverse,
      ← digits_number, Decimal.value_digits, digits_number]
    exact (shift_mod_five _ _ hl).trans (shift_mod_five _ _ (lt_min hl (by decide))).symm
  rw [sessionId, digits_number, hr]
  rfl

end Answer

namespace Derivation

open Answer

variable {tiles : List Tile}

def ofText (tiles : List Tile) (tile : Tile) : Derivation where
  combined := String.ofList (text tiles)
  reversed := String.ofList (text tiles).reverse
  sessionId := (remainder tiles + 99) * remainder tiles
  index := number tiles % 8
  token := tile.token

theorem ofTiles_nil : ofTiles [] = .error .noTiles := rfl

theorem ofTiles_of_lt (h : number tiles % 8 < tiles.length) :
    ofTiles tiles = .ok (ofText tiles tiles[number tiles % 8]) := by
  have hn : tiles.isEmpty = false := by
    rw [List.isEmpty_eq_false_iff]
    rintro rfl
    exact Nat.not_lt_zero _ h
  have hi : tiles[tokenIndex (number tiles)]? = some tiles[number tiles % 8] :=
    List.getElem?_eq_getElem h
  simp only [ofTiles, hn, combinedNumber_eq, hi, digits_number, sessionId_number, reverseDigits,
    String.toList_ofList, Bool.false_eq_true, if_false]
  rfl

theorem ofTiles_of_le (hn : tiles ≠ []) (h : tiles.length ≤ number tiles % 8) :
    ofTiles tiles = .error (.indexOutOfRange (number tiles % 8) tiles.length) := by
  have hi : tiles[tokenIndex (number tiles)]? = none := List.getElem?_eq_none h
  simp only [ofTiles, List.isEmpty_eq_false_iff.2 hn, combinedNumber_eq, hi, Bool.false_eq_true,
    if_false]
  rfl

theorem answer_ofText (tile : Tile) : (ofText tiles tile).answer =
    String.ofList (text tiles ++ (text tiles).reverse ++
      Decimal.digits ((remainder tiles + 99) * remainder tiles)) ++ tile.token := by
  simp only [answer, ofText, String.ofList_append]

/-- Tiles have an answer unless there are none or the index of the token, which the number they
denote determines, lies beyond them. The answer is the numeral of that number, its reversal, the
numeral of the session number and the token. -/
theorem ofTiles_follows_text (tiles : List Tile) :
    Decimal.digits (number tiles) = text tiles ∧
    (ofTiles tiles = .error .noTiles ↔ tiles = []) ∧
    (tiles ≠ [] → ∀ index count, ofTiles tiles = .error (.indexOutOfRange index count) ↔
      tiles.length ≤ number tiles % 8 ∧ index = number tiles % 8 ∧ count = tiles.length) ∧
    (8 ≤ tiles.length → ∃ d, ofTiles tiles = .ok d) ∧
    ∀ h : number tiles % 8 < tiles.length, ∃ d, ofTiles tiles = .ok d ∧
      d.combined = String.ofList (text tiles) ∧
      d.reversed = String.ofList (text tiles).reverse ∧
      d.sessionId = (remainder tiles + 99) * remainder tiles ∧
      d.index = number tiles % 8 ∧
      d.token = tiles[number tiles % 8].token ∧
      d.answer = String.ofList (text tiles ++ (text tiles).reverse ++ Decimal.digits d.sessionId) ++
        d.token := by
  refine ⟨digits_number tiles, ⟨fun he => ?_, ?_⟩, fun hn index count => ?_, fun hl => ?_,
    fun h => ⟨_, ofTiles_of_lt h, rfl, rfl, rfl, rfl, rfl, answer_ofText _⟩⟩
  · by_contra hn
    rcases Nat.lt_or_ge (number tiles % 8) tiles.length with h | h
    · rw [ofTiles_of_lt h] at he
      cases he
    · rw [ofTiles_of_le hn h] at he
      cases he
  · rintro rfl
    exact ofTiles_nil
  · rcases Nat.lt_or_ge (number tiles % 8) tiles.length with h | h
    · rw [ofTiles_of_lt h]
      exact iff_of_false nofun fun h' => Nat.not_le.2 h h'.1
    · rw [ofTiles_of_le hn h, Except.error.injEq, DeriveError.indexOutOfRange.injEq]
      exact ⟨fun he => ⟨h, he.1.symm, he.2.symm⟩, fun he => ⟨he.2.1.symm, he.2.2.symm⟩⟩
  · exact ⟨_, ofTiles_of_lt (Nat.lt_of_lt_of_le (Nat.mod_lt _ (by decide)) hl)⟩

end Derivation

end TilePuzzle
