import NotebookKernel.Host
import NotebookKernel.Host.FileTree

/-!
Where the user's directories are, and which program interprets the code: the one
that is asked for, else one beside the kernel, else one that the system finds.
-/

namespace NotebookKernel

/-- Variables, and the home directory that counts if none is named there. -/
structure Environment where
  «variables» : List (String × String)
  accountHome : String := "/root"
  deriving Repr

namespace Environment

def valueOf? (env : Environment) (name : String) : Option String :=
  (env.«variables».find? fun entry => entry.1 == name).map (·.2)

def home (env : Environment) : String :=
  match env.valueOf? "HOME" with
  | none | some "" => env.accountHome
  | some home => home

/-- A base directory; the variable counts only if it holds an absolute path. -/
def baseDirectory (env : Environment) (name fallback : String) : String :=
  match env.valueOf? name with
  | some path => if Path.isAbsolute path then path else Path.join env.home fallback
  | none => Path.join env.home fallback

def dataHome (env : Environment) : String :=
  env.baseDirectory "XDG_DATA_HOME" ".local/share"

def configHome (env : Environment) : String :=
  env.baseDirectory "XDG_CONFIG_HOME" ".config"

/-- Where notebook programs keep a user's data. -/
def notebookData (env : Environment) : String :=
  match env.valueOf? "JUPYTER_DATA_DIR" with
  | some path => path
  | none => Path.join env.dataHome "jupyter"

/-- The directory of this kernel. -/
def kernelDirectory (env : Environment) : String :=
  Path.join (Path.join env.notebookData "kernels") "irust"

def settingsPath (env : Environment) : String :=
  Path.join (Path.join env.configHome "irust-kernel") "settings.json"

end Environment

namespace Command

/-- The interpreter's name. -/
def interpreterName : String := "re"

/-- The interpreter that is asked for is taken as it is, whether it exists or
not. -/
def interpreter (files : FileTree) (env : Environment) (asked : Option String) : Command :=
  match asked with
  | some program => { program }
  | none =>
    let beside := Path.join env.kernelDirectory interpreterName
    { program := if files.isFile beside then beside else interpreterName }

def withArguments (command : Command) (args : List String) : Command :=
  { command with args := command.args ++ args }

end Command

end NotebookKernel
