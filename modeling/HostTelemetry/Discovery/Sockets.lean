/-
The kernel's tables of TCP sockets. A table starts with a line of titles;
each further line is a socket, whose second field is its local address
with the port in hexadecimal behind the last colon, whose fourth is its
state, and whose tenth is the number of its inode. A line of any other
form is no socket.
-/
import HostTelemetry.Dict
import HostTelemetry.Text.Blank
import HostTelemetry.Text.Integer
import HostTelemetry.Text.Utf8

namespace HostTelemetry.Discovery

/-- The state of a socket that listens. -/
def listenState : List Char := "0A".toList

/-- The inode and the port of a line, if it is a socket that listens. -/
def listenRow? (line : List Char) : Option (Nat × Nat) :=
  match Text.words line with
  | _ :: address :: _ :: state :: _ :: _ :: _ :: _ :: _ :: inode :: _ => do
    guard (state = listenState)
    let (_, port) ← Text.splitLast? ':' address
    let port ← Text.naturalIn? 16 Text.maxU16 port
    let inode ← Text.natural? Text.maxU64 inode
    return (inode, port)
  | _ => none

/-- The sockets of a table that listen, in its order. -/
def listenRows (table : List Char) : List (Nat × Nat) :=
  ((Text.lines table).drop 1).filterMap listenRow?

/-- The ports of the sockets that listen, by inode; the last line with an
inode counts. -/
def listenSockets (table : List Char) : Dict Nat Nat := .ofList (listenRows table)

/-- The inode of the socket that a descriptor's link names. -/
def socketInode? (link : String) : Option Nat := do
  let rest ← Text.dropStart? "socket:[".toList link.toList
  guard (rest.getLast? = some ']')
  Text.natural? Text.maxU64 rest.dropLast

end HostTelemetry.Discovery
