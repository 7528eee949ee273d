import SourceCensus.Occurrence
import SourceCensus.Text.Word
import SourceCensus.Text.Blank

/-! # Keyword rules

    A keyword is found where it stands as a whole word: no word character before it and none
    after it. `else`, white space and `if` together are one construct; where the second word
    is longer than `if`, the `else` stands for itself.

    For comparison, `words` lists the maximal runs of word characters of a text.
-/

namespace SourceCensus.Rule

open Text

/-! ## Boundaries -/

/-- No word reaches across the place before a word character. -/
def startsWord (before : Option Char) : Bool := !before.any isWord

/-- No word reaches across the place after a word character. -/
def endsWord (t : Text) : Bool := !t.head?.any isWord

/-- The text after a word it begins with. -/
def afterWord? (word t : Text) : Option Text :=
  if word.isPrefixOf t then some (t.drop word.length) else none

/-! ## Recognisers -/

/-- A word that ends where it is matched. -/
def endingWord (word : Text) : Recogniser := fun _ t =>
  match afterWord? word t with
  | some rest => if endsWord rest then some word.length else none
  | none => none

/-- Two words with white space between them; the second one ends where it is matched. -/
def wordPair (first second : Text) : Recogniser := fun _ t =>
  match afterWord? first t with
  | some rest =>
    let gap := rest.takeWhile isBlank
    if gap.isEmpty then none
    else (endingWord second none (rest.drop gap.length)).map (first.length + gap.length + ·)
  | none => none

/-- The alternatives of a rule, tried in order where a word may start. -/
def atWordStart (rs : List Recogniser) : Recogniser := fun before t =>
  if startsWord before then Recogniser.firstOf rs before t else none

/-- A rule for whole words. -/
def wholeWord (words : List String) : Recogniser :=
  atWordStart (words.map fun w => endingWord w.toList)

/-- The rule for the two branches of a condition. -/
def branchWord : Recogniser :=
  atWordStart [wordPair "else".toList "if".toList, endingWord "if".toList,
    endingWord "else".toList]

/-! ## The words of a text -/

/-- The maximal runs of word characters of a text that begins at `offset`, each with its own
    offset. -/
def wordsFrom (offset : Nat) : Text → List (Nat × Text)
  | [] => []
  | c :: rest =>
    if isWord c then
      let tail := rest.takeWhile isWord
      (offset, c :: tail) :: wordsFrom (offset + 1 + tail.length) (rest.drop tail.length)
    else wordsFrom (offset + 1) rest
termination_by t => t.length
decreasing_by all_goals simp +arith

/-- The words of a text with their offsets. -/
def words (t : Text) : List (Nat × Text) := wordsFrom 0 t

end SourceCensus.Rule
