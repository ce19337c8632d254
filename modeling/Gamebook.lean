import Gamebook.Main
import Gamebook.Proofs.Keys
import Gamebook.Proofs.Document.Authored
import Gamebook.Proofs.Json.Value
import Gamebook.Proofs.Play.Course
import Gamebook.Proofs.Play.Reloading
import Gamebook.Proofs.Route.First
import Gamebook.Proofs.Route.Rules
import Gamebook.Proofs.Script.Checking
import Gamebook.Proofs.Script.Grammar
import Gamebook.Proofs.Script.Guards
import Gamebook.Proofs.Play.Failures
import Gamebook.Proofs.Play.ScriptErrors
import Gamebook.Proofs.Play.Closed
import Gamebook.Proofs.Play.Undo
import Gamebook.Proofs.Play.HistoryLimit
import Gamebook.Proofs.Play.Restoring
import Gamebook.Proofs.Play.Showing
import Gamebook.Proofs.Play.Repetition
import Gamebook.Proofs.Cli.Notices
import Gamebook.Proofs.Cli.Names
import Gamebook.Proofs.Cli.Player
import Gamebook.Proofs.Spelling.Behaviour
import Gamebook.Proofs.Route.Loop
import Gamebook.Proofs.Story.Classifying
import Gamebook.Proofs.Story.Texts
import Gamebook.Proofs.Substitution
import Gamebook.Proofs.Number.Valid
import Gamebook.Proofs.Number.Reading
