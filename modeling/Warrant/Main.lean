import Std.Time.DateTime.Timestamp
import Warrant.Session

namespace Warrant

/-- Answers the lines of the input until it ends or a line says to stop. -/
partial def converse (session : Session) : IO Unit := do
  let output ← IO.getStdout
  output.putStr ">> "
  output.flush
  let line ← (← IO.getStdin).getLine
  if line.isEmpty then output.putStrLn "CTRL-D"
  else if String.ofList (Text.trim line.toList) = ":quit" then return
  else
    let now ← Std.Time.Timestamp.now
    let (session, reply) := session.eval now.toMillisecondsSinceUnixEpoch.val line
    match reply with
    | .error e => output.putStrLn ("error: " ++ e.message)
    | .ok reply => if reply.render ≠ "" then output.putStrLn reply.render
    converse session

end Warrant

def main : IO Unit := Warrant.converse .empty
