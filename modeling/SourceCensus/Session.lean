import SourceCensus.FileStore
import SourceCensus.Log.Entry

/-! # Sessions

    A session is what work on files goes on in: the file store as it stands, the log so far,
    and the environment. Entries are added at the end of the log and never removed.
-/

namespace SourceCensus

/-- The state of work on files. -/
structure Session where
  /-- The files. -/
  files : FileStore
  /-- The log so far. -/
  log : List LogEntry
  /-- What is found around. -/
  environment : Environment

namespace Session

/-- Work in a session. -/
abbrev Work := StateM Session

/-- Adds entries to the log. -/
def record (entries : List LogEntry) : Work Unit :=
  modify fun s => { s with log := s.log ++ entries }

/-- Adds one entry to the log. -/
def note (severity : Severity) (message : String) : Work Unit := record [⟨severity, message⟩]

/-- An operation that may change the files. What it changed stays, also when it fails. -/
def change {α : Type} (operation : FileStore → FileStore × α) : Work α := do
  let s ← get
  let (files, a) := operation s.files
  set { s with files }
  return a

/-- A question about the files. -/
def ask {α : Type} (question : FileStore → α) : Work α := do
  return question (← get).files

end Session

end SourceCensus
