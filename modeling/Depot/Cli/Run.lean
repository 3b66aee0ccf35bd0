import Depot.Cli.Pages
import Depot.Cli.Sending
import Depot.Peer.Silence
import Depot.Settings.Source

/-!
# Running the program

`Command.run` is what a command does, as a dialogue with the other side.  `runAlone` is the whole program
where no server can be reached: it reads the settings, makes the client and runs the command.
-/

namespace Depot.Cli

/-- What a command does. -/
def Command.run (patience : Nat) (disk : Disk) (settings : Settings) :
    Command → Dialogue Told (Except Failure Unit)
  | list o => runList patience settings o
  | upload o => runUpload disk settings o

/-- The place where a program runs. -/
structure Surroundings where
  disk : Disk
  /-- The directory of the user. -/
  home : String
  /-- The variables of the environment. -/
  variableAt : String → Option String

/-- The settings that are found in a place. -/
def Surroundings.layers (s : Surroundings) : List Settings.Layer :=
  [.ofFiles s.disk.contents? s.home, .ofVariables s.variableAt]

/-- The settings of a run: those that are found, and over them what the command line sets. -/
def Surroundings.settings (s : Surroundings) (a : Arguments) : Settings :=
  .ofLayers (s.layers ++ [a.layer])

/-- What goes to standard output, and how it ends, where nobody answers. -/
def runAlone (patience : Nat) (s : Surroundings) (a : Arguments) :
    String × Except Failure Unit :=
  let settings := s.settings a
  match Api.new settings.apiUrl (some settings.userAgent) with
  | .error e => ("", .error (.request e))
  | .ok api =>
    let run := (a.command.run patience s.disk settings).run
      (Silence.environment api settings.token) s.disk
    (String.join ((Dialogue.events run.log).map Told.output), run.value)

end Depot.Cli
