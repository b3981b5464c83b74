import Parley.Http.Message
import Parley.Terminal.Client
import Parley.Terminal.Lines
import Std.Async.DNS
import Std.Async.System
import Std.Async.TCP

/-!
# The program

Reads lines from the standard input and chats over HTTP. All decisions are `Terminal.Client`'s; here its outputs are
carried out.
-/

namespace Parley.Program
open Std Async Terminal

def pack (bs : List UInt8) : ByteArray := ⟨bs.toArray⟩

def addresses (url : Url) : IO (List Net.SocketAddress) := do
  let port := (url.portNumber?.getD 80).toUInt16
  match url.authority with
  | none => return []
  | some a =>
    let host := String.ofList (a.host.text.toList.filter fun c => c != '[' && c != ']')
    let found ← (DNS.getAddrInfo host (toString port)).block
    return found.toList.map fun
      | .v4 addr => .v4 ⟨addr, port⟩
      | .v6 addr => .v6 ⟨addr, port⟩

partial def receive (socket : TCP.Socket.Client) (got : List UInt8) : IO Http.Reaction := do
  match Http.Message.reaction? false got with
  | some reaction => return reaction
  | none =>
    match ← (try (socket.recv? 65536).block catch _ => pure none) with
    | some more => receive socket (got ++ more.toList)
    | none => return (Http.Message.reaction? true got).getD .dropped

/-- Sends a request to the first address that can be reached. -/
def exchange (url : Url) (request : Exchange.Request) : List Net.SocketAddress → IO Http.Reaction
  | [] => return .unreachable
  | address :: rest => do
    let socket ← TCP.Socket.Client.mk
    let connected ← try
        (socket.connect address).block
        pure true
      catch _ => pure false
    if connected then
      try
        (socket.send (pack (Http.Message.ofPost url (Http.post url request)))).block
        receive socket []
      catch _ => return .dropped
    else exchange url request rest

/-- What comes of a request. Only plain connections can be made. -/
def ask (url : Url) (request : Exchange.Request) : IO Exchange.Arrival := do
  if url.scheme != "http" then return Http.Reaction.arrival url .unreachable
  let found ← try addresses url catch _ => pure []
  return (← exchange url request found).arrival url

def fresh : IO SessionId := do
  let bytes ← IO.getRandomBytes 16
  return .ofUuid (Vector.ofFn fun i => bytes.get! i)

def find (path : String) : IO Config.Found := do
  try
    let bytes ← IO.FS.readBinFile path
    match Text.Utf8.decode? bytes.toList with
    | some cs => return .file (String.ofList cs)
    | none => return .unreadable "stream did not contain valid UTF-8"
  catch
    | .noFileOrDirectory .. => return .nothing
    | .inappropriateType .. => return .notFile
    | e => return .unreadable (toString e)

/-- The next line with its end; nothing at the end of the input. -/
partial def nextLine (input : IO.FS.Stream) (got : List UInt8 := []) : IO (Option (List UInt8)) := do
  let more ← input.read 1
  match more.toList with
  | [] => return if got.isEmpty then none else some got.reverse
  | b :: _ => if b = Lines.lineFeed then return some (b :: got).reverse else nextLine input (b :: got)

/-- Writes to a stream; what was in the way, if it failed. -/
def write (stream : IO.FS.Stream) (text : String) : IO (Option String) := do
  try
    stream.putStr text
    stream.flush
    return none
  catch e => return some (toString e)

/-- Carries out what the client does, until the program breaks down. -/
def carryOut : List Output → IO (Option Ending)
  | [] => return none
  | output :: outputs => do
    let details? ← match output with
      | .print text | .answer text => write (← IO.getStdout) text
      | .complain text => write (← IO.getStderr) text
      | .post .. | .log _ => pure none
    match details?.bind output.breakdown? with
    | some message => return some (.brokeDown message)
    | none => carryOut outputs

/-- Carries out lines until one ends the client, and says how it ended. -/
partial def loop (url : Url) (client : Client) : IO Ending := do
  match ← nextLine (← IO.getStdin) with
  | none => return .done
  | some bytes =>
    match Lines.text? bytes with
    | none => return .failed Client.unreadable
    | some line =>
      match client.obey (← fresh) line with
      | .error e => return .failed e
      | .ok none => return .done
      | .ok (some turn) =>
        if let some ending ← carryOut turn.outputs then return ending
        match Client.posted? turn.outputs with
        | none => loop url turn.client
        | some request =>
          let turn := turn.client.receive (← fresh) (← ask url request)
          if let some ending ← carryOut turn.outputs then return ending
          loop url turn.client

def usage : String :=
  "Talk to a chat agent endpoint from the terminal\n\nUsage: chatline [--base-url <BASE_URL>] [--endpoint <ENDPOINT>] " ++
    "[--agent <AGENT>] [--config <CONFIG>] [--session-id <SESSION_ID>]\n"

def run (flags : Flags) : IO Ending := do
  let env := Config.Environment.ofPairs (← Internal.UV.System.osEnviron).toList
  let path := flags.configPath env (env.find? "HOME")
  let loading := Config.load (← IO.currentDir).toString path (← find path) env
  let echo := !(← (← IO.getStdin).isTty)
  match Client.prepare flags loading { echo } with
  | .error e => return .failed e
  | .ok (url, turn) =>
    if let some ending ← carryOut turn.outputs then return ending
    loop url turn.client

end Parley.Program

def main (args : List String) : IO UInt32 := do
  match Parley.Terminal.Flags.parse args with
  | .error refusal =>
    let stream ← if refusal = .helpWanted then IO.getStdout else IO.getStderr
    stream.putStr Parley.Program.usage
    return (Parley.Terminal.Refusal.exitCode refusal).toUInt32
  | .ok flags => return (← Parley.Program.run flags).exitCode.toUInt32
