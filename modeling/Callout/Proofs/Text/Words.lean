import Callout.Proofs.Text.Runs
import Callout.Text.Words

namespace Callout.Text

theorem words_trim (s : String) : words (trim s) = words s := by
  unfold words trim wordsOf
  rw [String.toList_ofList, runs_trimBy]

theorem words_intercalate (phrases : List String) :
    words (" ".intercalate phrases) = phrases.flatMap words := by
  have space : " ".toList = [' '] := rfl
  unfold words wordsOf
  rw [String.toList_intercalate, space, runs_intercalate (by decide), List.flatMap_map,
    List.map_flatMap, List.filter_flatMap, List.map_flatMap]

end Callout.Text
