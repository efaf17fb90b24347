/-
The processes of a host and the ports on which they listen, as the kernel
shows them: a directory for each process, named by its number, with its
name and its descriptors; and one table of sockets for each version of the
internet protocol. What cannot be read is left out.
-/
import HostTelemetry.Discovery.Sockets

namespace HostTelemetry.Discovery

/-- The directory of a process. -/
structure ProcessDir where
  /-- The name of the directory. -/
  name : String
  /-- The name of the process, if it can be read. -/
  comm : Option Bytes := none
  links : List String := []
deriving Inhabited

/-- The kernel's view of a host. -/
structure ProcTree where
  tcp : Option Bytes := none
  tcp6 : Option Bytes := none
  dirs : List ProcessDir := []
deriving Inhabited

/-- The number and the name of the process of a directory. -/
def ProcessDir.process? (d : ProcessDir) : Option (Int × String) := do
  let pid ← Text.integer? Text.minI32 Text.maxI32 d.name.toList
  let comm ← d.comm.bind Text.decode?
  return (pid, String.ofList (Text.trim comm))

/-- The names of the processes by number. -/
def ProcTree.processes (t : ProcTree) : Dict Int String :=
  .ofList (t.dirs.filterMap ProcessDir.process?)

/-- The rows of one table, none if it is no text. -/
def tableRows (table : Option Bytes) : List (Nat × Nat) :=
  ((table.bind Text.decode?).map listenRows).getD []

/-- The ports of all sockets that listen, by inode. -/
def ProcTree.sockets (t : ProcTree) : Dict Nat Nat :=
  .ofList (tableRows t.tcp ++ tableRows t.tcp6)

/-- What the descriptors of a process link to. They stand in the directory
that is named by its number in plain decimal form. -/
def ProcTree.links (t : ProcTree) (pid : Int) : List String :=
  (t.dirs.filter (·.name.toList = Text.decimal pid)).flatMap (·.links)

/-- The ports on which a process listens. -/
def ProcTree.portsOf (t : ProcTree) (sockets : Dict Nat Nat) (pid : Int) : List Nat :=
  (t.links pid).filterMap fun link => (socketInode? link).bind sockets.get?

/-- Ports in ascending order, each once. -/
def ascendingPorts (ports : List Nat) : List Nat :=
  (Dict.ofList (ports.map fun p => (p, ()))).keys

/-- The ports on which the processes of each name listen, for the names
that have any. -/
def ProcTree.portsByName (t : ProcTree) : Dict String (List Nat) :=
  let sockets := t.sockets
  let found := t.processes.entries.flatMap fun (pid, name) =>
    (t.portsOf sockets pid).map fun port => (name, port)
  .ofList (found.map fun (name, _) =>
    (name, ascendingPorts ((found.filter (·.1 = name)).map (·.2))))

end HostTelemetry.Discovery
