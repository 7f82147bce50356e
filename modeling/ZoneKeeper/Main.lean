import ZoneKeeper.CommandLine

namespace ZoneKeeper

def Text.asString (t : Text) : String := String.ofList t.chars

/-- An answer of the provider is a line with its status and its body. A line without a status and
the end of the input are no answer. -/
def readReply : IO Reply := do
  let line := Text.ofString (← (← IO.getStdin).getLine)
  let digits := line.takeWhile CodeUnit.isDigit
  if digits = [] then return .nothing ⟨"Error", "no answer"⟩
  let body := (line.drop (digits.length + 1)).filter (· ≠ 0x0A)
  return .body (Double.ofNat (Text.digitsValue digits)) body

def Dialogue.converse {α : Type} (level : Log.Level) (context : Members) (deadline : Nat) :
    Dialogue α → IO (Except Failure α)
  | .done a => return .ok a
  | .fail f => return .error f
  | .log e next => do
    for e in Log.keep level [e] do
      IO.println (e.line context).asString
    next.converse level context deadline
  -- A request holds the password, so it is not printed.
  | .call _ next => do
    let reply ← readReply
    (next ⟨reply, deadline ≤ (← IO.monoMsNow)⟩).converse level context deadline

def variableNames : List String :=
  ["BEGET_LOGIN", "BEGET_PASSWORD", "BEGET_DOMAIN", "BEGET_PRIORITY", "DDNS_LOG_LEVEL"]

end ZoneKeeper

open ZoneKeeper CommandLine in
def main (arguments : List String) : IO UInt32 := do
  let mut environment : List (Text × Text) := []
  for name in variableNames do
    if let some value ← IO.getEnv name then
      environment := (Text.ofString name, Text.ofString value) :: environment
  let input : Input := ⟨arguments.map Text.ofString, environment⟩
  match logLevel Log.Level.read input with
  | .error message =>
    IO.eprintln (errorLine message).asString
    return 1
  | .ok level =>
    match plan input with
    | .stop complaint =>
      IO.eprintln complaint.asString
      return 1
    | .update p address =>
      IO.println (greeting p address).asString
      let deadline := (← IO.monoMsNow) + 15000
      let e := ending p (← (p.update address true).converse level p.logContext deadline)
      e.out.forM fun l => IO.println l.asString
      e.err.forM fun l => IO.eprintln l.asString
      return e.exitCode.toUInt32
