import ZoneKeeper.Log.Line
import ZoneKeeper.Provider
import ZoneKeeper.Update.Run

namespace ZoneKeeper.CommandLine

structure Input where
  arguments : List Text
  environment : List (Text × Text)

def Input.valueOf? (i : Input) (name : Text) : Option Text := i.environment.lookup name

/-- A text that is there and not empty. -/
def given? (t : Option Text) : Option Text := t.filter (· ≠ [])

inductive Plan
  | stop (complaint : Text)
  | update (provider : Provider) (address : Text)

def usage : Text :=
  "Usage: BEGET_LOGIN=xxx BEGET_PASSWORD=xxx BEGET_DOMAIN=xxx npx tsx examples/update.ts <ip>"

def missing : Text := "Missing BEGET_LOGIN, BEGET_PASSWORD or BEGET_DOMAIN environment variable."

def errorLine (message : Text) : Text := "\nError: " ++ message

def plan (i : Input) : Plan :=
  match given? i.arguments.head? with
  | none => .stop usage
  | some address =>
    match given? (i.valueOf? "BEGET_LOGIN"), given? (i.valueOf? "BEGET_PASSWORD"),
      given? (i.valueOf? "BEGET_DOMAIN") with
    | some login, some password, some domain =>
      let priority := Double.ofText ((i.valueOf? "BEGET_PRIORITY").getD "10")
      let settings := Settings.ofParts domain "@" (.ok login) (.ok password)
        (Settings.readDomain (some (.string domain))) (Settings.checkPriority priority)
      match settings with
      | .ok s => .update (.beget s) address
      | .error faults => .stop (errorLine (Failure.message (.settings (.faults faults))))
    | _, _, _ => .stop missing

def logLevel (levels : Log.Levels) (i : Input) : Except Text Log.Level :=
  match i.valueOf? "DDNS_LOG_LEVEL" with
  | some name => levels name
  | none => .ok .info

structure Ending where
  exitCode : Nat
  out : List Text
  err : List Text

def greeting (p : Provider) (address : Text) : Text :=
  "\nUpdating " ++ p.toText ++ " to " ++ address ++ "..."

/-- An answer that came with a bad status is shown as it is. -/
def providerAnswer (f : Failure) : List Text :=
  match f.kind with
  | .transport _ details =>
    (given? details.body).toList.map fun body => "\nProvider answered: " ++ body
  | _ => []

def ending (p : Provider) : Except Failure Text → Ending
  | .ok ip => ⟨0, ["Done! " ++ p.domainName ++ " -> " ++ ip], []⟩
  | .error f => ⟨1, [], providerAnswer f ++ [errorLine f.message]⟩

structure Result where
  exitCode : Nat
  out : Text
  err : Text
  /-- The lines of the log, which go to the same stream as what the command prints. -/
  log : List Text
  requests : List Request

/-- Lines as a stream of characters carries them. -/
def lines (ls : List Text) : Text := Text.repair (ls.flatMap fun l => l ++ [0x0A])

/-- A run with its log set up. Its signal is a deadline, which may pass at any call. -/
def runAt (level : Log.Level) (i : Input) (responses : List Response) : Result :=
  match plan i with
  | .stop complaint => ⟨1, [], lines [complaint], [], []⟩
  | .update p address =>
    let t := Update.runUpdate p.settings address ⟨responses, .live⟩
    let e := ending p t.outcome
    ⟨e.exitCode, lines (greeting p address :: e.out), lines e.err,
      (Log.keep level t.log).map (Log.Event.line p.logContext), t.requests⟩

/-- A level that pino refuses ends a run before it looks at anything else. What is printed around
the message, such as where the error was thrown, is left out. -/
def run (levels : Log.Levels) (i : Input) (responses : List Response) : Result :=
  match logLevel levels i with
  | .error message => ⟨1, [], lines [errorLine message], [], []⟩
  | .ok level => runAt level i responses

end ZoneKeeper.CommandLine
