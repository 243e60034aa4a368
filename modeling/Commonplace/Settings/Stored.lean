/-
Where settings are kept, and loading and saving them.  Without a file there the
settings are the default ones; anything else that stands there has to be a text
that gives settings.
-/
import Commonplace.Fault
import Commonplace.FileTree
import Commonplace.Settings.Reader

namespace Commonplace

/-- What is found of where settings are kept: the directory itself, the directory
of all configuration, and the home directory. -/
structure Environment where
  override : Option Text
  configuration : Option Text
  home : Option Text
deriving DecidableEq

/-- The home directory that is found: the one that is given, or else that of the
account. An empty one does not count. -/
def Environment.homeOf (given account : Option Text) : Option Text :=
  (given.filter fun home => !home.isEmpty).or (account.filter fun home => !home.isEmpty)

namespace Settings

/-- The directory of the settings. Unless it is given itself, there has to be a home
directory; an absolute directory of all configuration stands for the one in it. -/
def directory? (environment : Environment) : Option Text :=
  match environment.override with
  | some directory => some directory
  | none =>
    let absolute := environment.configuration.filter fun path => path.head? = some '/'
    environment.home.map fun home =>
      joinPath (absolute.getD (joinPath home ".config".toList)) "sayings".toList

/-- The file that holds the settings of a directory. -/
def path (directory : Text) : Text := joinPath directory "config.json".toList

/-- The settings that reading their file gives. Where nothing stands they are the
default ones. -/
def ofReading (reading : Reading) : Except Fault Settings :=
  match reading with
  | .error failure => if failure.isAbsence then .ok default else .error (.file failure)
  | .ok _ =>
    match reading.text with
    | .error failure => .error (.file failure)
    | .ok text =>
      match Settings.read text with
      | .error complaint => .error (.settings complaint)
      | .ok settings => .ok settings

/-- The settings of a directory. -/
def load (tree : FileTree) (directory : Text) : Except Fault Settings :=
  ofReading (tree.read (path directory))

/-- The tree with the settings of a directory written. -/
def save (settings : Settings) (tree : FileTree) (directory : Text) :
    Except Fault FileTree :=
  match tree.makeDirectories directory with
  | .error failure => .error (.file failure)
  | .ok tree =>
    match tree.write (path directory) settings.written.toBytes with
    | .error failure => .error (.file failure)
    | .ok tree => .ok tree

end Settings

end Commonplace
