import Tutor.Text.Blank
import Tutor.Text.Letter

/-!
# Languages

Callers name a language in words; the speech service wants its code.
-/

namespace Tutor.Speech

open Tutor.Text

/-- The languages with a code of their own. -/
def languages : List (String × String) :=
  [("English", "en"), ("Hindi", "hi"), ("Spanish", "es"), ("French", "fr"), ("Chinese", "zh-CN")]

/-- The code of a language. Its name is taken as it stands first, then without blanks around it and
up to case; a name that is not in the table counts as English. -/
def languageCode (name : String) : String :=
  match languages.find? (·.1 == name) with
  | some (_, code) => code
  | none =>
    match languages.find? (fun l => sameLetters l.1.toList (trim name.toList)) with
    | some (_, code) => code
    | none => "en"

end Tutor.Speech
