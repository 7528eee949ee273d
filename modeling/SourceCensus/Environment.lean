import SourceCensus.Pattern.Reading

/-! # What is found around

    Work on files depends on things that are found and not made: variables with their values, the
    folder from which relative paths are meant, the home folders of users, and what the reading of
    patterns relies on. None of them changes while work goes on.
-/

namespace SourceCensus

/-- What is found around. -/
structure Environment where
  /-- The variables with their values. -/
  values : List (String × String)
  /-- The current folder, as an absolute path. -/
  currentFolder : String
  /-- The home folder that is registered for the user at work. -/
  ownHome : Option String
  /-- The home folders that are registered for users, by the names of the users. -/
  homeOf : String → Option String
  /-- What reading patterns relies on. -/
  patterns : Pattern.Facilities

namespace Environment

/-- The value of a variable. -/
def get? (env : Environment) (name : String) : Option String := env.values.lookup name

/-- The home folder of a user; the empty name is that of the user at work. That user may have
    another home folder than the registered one, which a variable tells. -/
def home? (env : Environment) (user : String) : Option String :=
  if user.isEmpty then env.get? "HOME" <|> env.ownHome else env.homeOf user

end Environment

end SourceCensus
