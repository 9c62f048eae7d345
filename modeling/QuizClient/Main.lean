import QuizClient.Console.Session
import QuizClient.Settings.Document

/-!
# The command line

Frames and commands come in on standard input, frames go out on standard output.
Two environment variables say where the settings are and which token opens the
session.
-/

namespace QuizClient.Main

/-- The variable that says where the settings are. -/
def settingsVariable : String := "TRIVIA_SYNC_CONFIG_PATH"

/-- The variable that holds the token of the session. -/
def tokenVariable : String := "TRIVIA_SYNC_TOKEN"

/-- How long to rest between looks at the input, in milliseconds. -/
def restMillis : UInt32 := 10

/-- How many bytes to ask for at once. -/
def portion : USize := 4096

/-- Loads the settings. -/
def loadSettings : IO Settings := do
  let path := Settings.path (← IO.getEnv settingsVariable)
  let source ←
    try
      let bytes ← IO.FS.readBinFile path
      pure (SettingsSource.file bytes.toList)
    catch _ => pure SettingsSource.unreadable
  pure (Settings.load source)

/-- Writes bytes out; a session whose bytes cannot be written has lost its writer. -/
def write (output : IO.FS.Stream) (r : Session × List UInt8) : IO Session := do
  let (s, bytes) := r
  if bytes.isEmpty then pure s
  else
    try
      output.write ⟨bytes.toArray⟩
      output.flush
      pure s
    catch _ => pure { s with writer := { s.writer with working := false } }

/-- Runs a session until its host stops. -/
partial def run (input output : IO.FS.Stream) (s : Session) (clock : Nat)
    (arriving : Task (Except IO.Error ByteArray)) : IO Unit := do
  let now ← IO.monoMsNow
  let s ← write output (s.advance (.ofMillis (UInt64.ofNat (now - clock))))
  if s.host.stopped then pure ()
  else if ← IO.hasFinished arriving then
    match arriving.get with
    | .ok bytes =>
      if bytes.isEmpty then
        let _ ← write output s.close
        pure ()
      else
        let s ← write output (s.feed bytes.toList)
        run input output s now (← IO.asTask (input.read portion))
    | .error _ =>
      let _ ← write output s.close
      pure ()
  else
    IO.sleep restMillis
    run input output s now arriving

end QuizClient.Main

/-- Opens a session on the standard streams. -/
def main : IO Unit := do
  let input ← IO.getStdin
  let output ← IO.getStdout
  let settings ← QuizClient.Main.loadSettings
  match ← IO.getEnv QuizClient.Main.tokenVariable with
  | some token =>
    output.putStrLn (QuizClient.tokenFrame token)
    output.flush
  | none => pure ()
  let s := QuizClient.Session.fresh settings .unlimited
  QuizClient.Main.run input output s (← IO.monoMsNow)
    (← IO.asTask (input.read QuizClient.Main.portion))
