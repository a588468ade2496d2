import ClusterAgent.Table
import ClusterAgent.Text.Blank

/-!
Environments: values of named variables. Appending to a variable joins the new value to the present
one with a separator; composing an environment appends a list of values in turn.
-/
namespace ClusterAgent

/-- Names with their values, each name once. -/
abbrev Environment := Table String String

namespace Environment

/-- Appends to a variable. An absent variable takes the value alone; an empty one is present. -/
def append (env : Environment) (name value separator : String) : Environment :=
  match Table.get? env name with
  | none => Table.insert env name value
  | some current => Table.insert env name (current ++ separator ++ value)

def compose (base : Environment) (appends : List (String × String)) (separator : String) :
    Environment :=
  appends.foldl (fun env p => append env p.1 p.2 separator) base

/-- What stands between the entries of a search path. -/
def pathSeparator : String := ":"

def classpathVariable : String := "CLASSPATH"

def workingDirectoryReference : String := "$PWD"

/-- The files of the working directory. -/
def workingDirectoryEntries : String := workingDirectoryReference ++ "/*"

/-- The entries that applications find on their class path unless others are set. -/
def defaultClasspath : List String := [
  "$HADOOP_CONF_DIR",
  "$HADOOP_COMMON_HOME/share/hadoop/common/*",
  "$HADOOP_COMMON_HOME/share/hadoop/common/lib/*",
  "$HADOOP_HDFS_HOME/share/hadoop/hdfs/*",
  "$HADOOP_HDFS_HOME/share/hadoop/hdfs/lib/*",
  "$HADOOP_YARN_HOME/share/hadoop/yarn/*",
  "$HADOOP_YARN_HOME/share/hadoop/yarn/lib/*"]

/-- The class path leads with the working directory; its other entries are trimmed. -/
def classpathAppends (classpath : List String) : List (String × String) :=
  (classpathVariable, workingDirectoryEntries) ::
    classpath.map fun entry => (classpathVariable, Text.trim entry)

def withClasspath (classpath : List String) (base : Environment) (separator : String) :
    Environment :=
  compose base (classpathAppends classpath) separator

end Environment
end ClusterAgent
