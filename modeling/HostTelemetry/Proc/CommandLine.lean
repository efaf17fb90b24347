/-
The command line of a process as one text: its arguments parted by single
spaces, without blanks around the whole, and cut to a length that a list
can show. Bytes that are no text are replaced.
-/
import HostTelemetry.Text.Blank
import HostTelemetry.Text.Utf8

namespace HostTelemetry.Proc

/-- The greatest number of characters of a command line. -/
def maxCommandLine : Nat := 256

/-- The command line made of the arguments. -/
def commandLine (args : List Bytes) : String :=
  let joined := [' '].intercalate (args.map Text.decodeLossy)
  String.ofList ((Text.trim joined).take maxCommandLine)

end HostTelemetry.Proc
