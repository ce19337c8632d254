import Gamebook.Play.Settings
import Gamebook.Story

/-!
# Writing a route out

The sections of a route as one piece of Markdown: the texts one after the other, each followed by a
blank line and, where wanted, by its media.
-/

namespace Gamebook

namespace Story

/-- The text of one section of a route; a missing section has an empty text. -/
def transcribeSection (s : Story) (settings : Settings) (id : SectionId) : String :=
  match s.section? id with
  | none => "\n\n"
  | some sec =>
    let text := if settings.substituteVariables then s.substitute sec.rawText else sec.rawText
    let media :=
      match sec.media.filter Media.hasSource with
      | some media => if settings.includeMedia then s!"![]({media.source})\n\n" else ""
      | none => ""
    text ++ "\n\n" ++ media

/-- The text of a route. -/
def transcribe (s : Story) (settings : Settings) (route : List SectionId) : String :=
  String.join (route.map (s.transcribeSection settings))

end Story

end Gamebook
