import TilePuzzle.Frame
import TilePuzzle.Proofs.Text.Words

namespace TilePuzzle.Frame

variable {line token : String} {tokens : List String}

def IsToken (token : String) : Prop :=
  Text.IsWord token.toList ∧ '"' ∉ token.toList

instance : DecidablePred IsToken := fun token =>
  inferInstanceAs (Decidable (Text.IsWord token.toList ∧ '"' ∉ token.toList))

/-- The double quotes may stand anywhere in the line. -/
def Tokenized (line : String) (tokens : List String) : Prop :=
  Text.Spaced (line.toList.filter (· ≠ '"')) (tokens.map String.toList)

theorem tokens_eq_iff : Frame.tokens line = tokens ↔ Tokenized line tokens := by
  rw [Tokenized, ← Text.words_eq_iff, Frame.tokens]
  constructor
  · rintro rfl
    rw [List.map_map, String.toList_comp_ofList, List.map_id]
  · intro h
    rw [h, List.map_map, String.ofList_comp_toList, List.map_id]

theorem Tokenized.isToken (h : Tokenized line tokens) : ∀ token ∈ tokens, IsToken token := by
  intro token ht
  have hm : token.toList ∈ tokens.map String.toList := List.mem_map_of_mem ht
  refine ⟨h.isWord _ hm, fun hq => ?_⟩
  have hl := (h.mem_iff.1 ⟨_, hm, hq⟩).1
  exact absurd (List.mem_filter.1 hl).2 (by decide)

theorem tokenized_intercalate (h : ∀ token ∈ tokens, IsToken token) :
    Tokenized (" ".intercalate tokens) tokens := by
  have hw : ∀ w ∈ tokens.map String.toList, Text.IsWord w := by
    rw [List.forall_mem_map]
    exact fun token ht => (h token ht).1
  have hs := Text.spaced_intercalate hw
  have hl : (" ".intercalate tokens).toList = [' '].intercalate (tokens.map String.toList) :=
    String.toList_intercalate
  rw [Tokenized, hl, List.filter_eq_self.2]
  · exact hs
  intro c hc
  rw [decide_eq_true_eq]
  rintro rfl
  obtain ⟨w, hm, hq⟩ := hs.mem_iff.2 ⟨hc, by decide⟩
  obtain ⟨token, ht, rfl⟩ := List.mem_map.1 hm
  exact (h token ht).2 hq

end TilePuzzle.Frame
