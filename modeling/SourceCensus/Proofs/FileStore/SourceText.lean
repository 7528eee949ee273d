import SourceCensus.Proofs.FileStore.Writing
import SourceCensus.Proofs.Text.WellFormed

/-! # Texts in files

    A text that is written to a file is encoded, and decoded when the file is read. Nothing is
    changed on the way, so the text comes back as it was, with its line endings and all other
    characters. The other way round, the content of a file comes back from the text that is read
    when it is well-formed UTF-8, and only then: all else has a fault, for which a replacement
    character stands in the text (`source_text_survives`).
-/

namespace SourceCensus.FileStore

open Text (Bytes WellFormed)

variable {fs : FileStore} {p : String} {content : Bytes}

/-- Reading a text decodes the content of the file. -/
theorem readText_eq (h : fs.read p = .ok content) : fs.readText p = .ok (Text.decode content) := by
  unfold readText
  rw [h]
  rfl

/-- A replacement character in a text that writes some bytes stands for three of them. -/
theorem bytes_of_replacementChar {before after : Text}
    (h : Text.encode (before ++ Text.replacementChar :: after) = content) :
    content = Text.encode before ++ [0xEF, 0xBF, 0xBD] ++ Text.encode after := by
  rw [← h]
  unfold Text.encode
  rw [List.flatMap_append, List.flatMap_cons, List.append_assoc]
  rfl

/-- **A source text survives** being written and read. Where a text can be written, every text can,
    and is read as it was. And a text that is read writes the content of its file again exactly when
    that content is well-formed UTF-8. Such a content is read without a fault, so every replacement
    character in the text is one that the file holds. -/
theorem source_text_survives (fs : FileStore) (p : String) :
    (fs.HasCurrent → fs.canWrite p = true → ∀ t,
      (fs.writeText p t).2 = .ok () ∧ (fs.writeText p t).1.readText p = .ok t) ∧
    ∀ content, fs.read p = .ok content → ∃ t, fs.readText p = .ok t ∧
      (Text.encode t = content ↔ WellFormed content) ∧
      (WellFormed content → Text.decodeStrict? content = some t ∧
        ∀ before after, t = before ++ Text.replacementChar :: after →
          content = Text.encode before ++ [0xEF, 0xBF, 0xBD] ++ Text.encode after) := by
  constructor
  · -- what is written is encoded, and decoding undoes this
    intro hcurrent hwritable t
    have hwrite := writeText_of_canWrite hwritable t
    obtain ⟨-, hread⟩ := read_writeText hcurrent hwrite
    refine ⟨hwrite, ?_⟩
    rw [readText_eq hread, Text.decode_encode]
  · intro content hread
    refine ⟨Text.decode content, readText_eq hread, Text.encode_decode_iff, ?_⟩
    intro hformed
    -- the text encodes to the content, so a strict reader finds no fault in it
    have hencode := Text.encode_decode_iff.2 hformed
    refine ⟨Text.decodeStrict?_eq_some_iff.2 hencode, ?_⟩
    intro before after ht
    rw [ht] at hencode
    exact bytes_of_replacementChar hencode

/-- A store without files. -/
def emptyStore : FileStore := { root := .folder [], current := [] }

/-- A byte-order mark, each line ending, a null character, and characters of two to four bytes,
    the replacement character among them. -/
def sampleSource : Text :=
  ['\ufeff', 'a', '\r', 'b', '\n', 'c', '\r', '\n', '\x00', 'é', '\ufffd', '😀']

theorem source_text_survives_sampleSource :
    emptyStore.HasCurrent ∧ emptyStore.canWrite "/d/c" = true ∧
      ∃ written content, emptyStore.writeText "/d/c" sampleSource = (written, .ok ()) ∧
        written.readText "/d/c" = .ok sampleSource ∧ written.read "/d/c" = .ok content ∧
        WellFormed content ∧ Text.decodeStrict? content = some sampleSource := by
  have hcurrent : emptyStore.HasCurrent := ⟨[], rfl⟩
  have hwritable : emptyStore.canWrite "/d/c" = true := by
    have hfolder : Path.folder (emptyStore.absolute "/d/c") = "/d" := by decide +kernel
    have hlength : "/d".length = 1 + 1 := by decide +kernel
    unfold canWrite writeText
    rw [hfolder]
    unfold makeFolders
    rw [hlength]
    -- the only test that does not evaluate is the one for a null character
    unfold makeFoldersWithin ensureFolder makeFolder write edit target isThere isFolder entry locate
    simp only [String.contains_char_eq]
    decide +kernel
  obtain ⟨hwrite, hback⟩ := (source_text_survives _ _).1 hcurrent hwritable sampleSource
  obtain ⟨-, hcontent⟩ := read_writeText hcurrent hwrite
  obtain ⟨t, ht, hencode, hstrict⟩ := (source_text_survives _ _).2 _ hcontent
  -- the two statements speak of the same text
  rw [hback, Except.ok.injEq] at ht
  subst ht
  have hformed := hencode.1 rfl
  exact ⟨hcurrent, hwritable, _, _, Prod.ext rfl hwrite, hback, hcontent, hformed,
    (hstrict hformed).1⟩

end SourceCensus.FileStore
