import PagePreview.CommandLine.StartUp
import PagePreview.Http.Wire
import PagePreview.Rule.Updates
import PagePreview.Rule.Watcher
import PagePreview.Server.Knowledge
import PagePreview.Text.Uuid
import Std.Async.DNS
import Std.Async.Signal
import Std.Async.TCP
import Std.Async.Timer

/-!
# The program

It reads the command line, listens, and answers requests until it is interrupted. What is done is
decided elsewhere; here files are read, bytes sent and received, and messages printed.
-/

namespace PagePreview.Program

open Std.Async

/-! ## Files -/

/-- What a path leads to, if anything. -/
def look (path : String) : IO (Option Node) := do
  try
    let content ← IO.FS.readBinFile path
    return some (.file content.toList)
  catch _ =>
    if ← ((← IO.currentDir) / path).isDir then return some .directory else return none

/-- The working directory. -/
def home : IO Location := do
  return ((← IO.currentDir).toString.splitOn "/").filter (· ≠ "")

/-- Some files as they are now. -/
def survey (paths : List String) : IO Disk := do
  let mut known : Knowledge := { home := ← home }
  for path in paths do
    known := known.learnFile path (← look path)
  return known.disk

/-! ## Other servers -/

/-- The address of the machine with a name. -/
def resolve (host : String) (port : UInt16) : Async Std.Net.SocketAddress := do
  let found : Array Std.Net.IPAddr ← DNS.getAddrInfo host (toString port)
  match found.toList with
  | .v4 address :: _ => return .v4 ⟨address, port⟩
  | .v6 address :: _ => return .v6 ⟨address, port⟩
  | [] => throw (.userError ("no address for " ++ host))

/-- Receive bytes until they amount to something. -/
partial def receive {α : Type} (client : TCP.Socket.Client) (read : Bool → Bytes → Arrival α)
    (soFar : Bytes) : Async (Option α) := do
  match read false soFar with
  | .complete value => return some value
  | .faulty => return none
  | .incomplete =>
    match ← client.recv? 65536 with
    | some more => receive client read (soFar ++ more.toList)
    | none =>
      match read true soFar with
      | .complete value => return some value
      | _ => return none

/-- Send a request to another server and wait for its answer. -/
def ask (sent : Outgoing) : Async (Except ProxyError Response) := do
  try
    let (host, port) := Wire.endpoint sent.uri.authority
    let client ← TCP.Socket.Client.mk
    client.connect (← resolve host port.toUInt16)
    client.send ⟨(Wire.writeOutgoing sent).toArray⟩
    match ← receive client (Wire.response sent.method) [] with
    | some response => return .ok response
    | none => return .error (.unanswered "the answer was not complete")
  catch e => return .error (.unanswered (toString e))

/-- Send a request to another server, which may have so many seconds for its answer. -/
def exchange (limit : Option Nat) (sent : Outgoing) : Async (Except ProxyError Response) := do
  match limit with
  | none => ask sent
  | some seconds =>
    let first : IO.Promise (Option (Except ProxyError Response)) ← IO.Promise.new
    background do first.resolve (some (← ask sent))
    background do
      sleep (.ofNat (seconds * 1000))
      first.resolve none
    match ← await first.result? with
    | some (some reply) => return reply
    | _ => return .error (.timeout seconds)

/-! ## Requests -/

/-- A server at work. -/
structure Service where
  /-- The server as it stands. -/
  server : IO.Ref Server
  /-- What has been counted. -/
  metrics : IO.Ref Metrics
  /-- The rule files that are watched, as they were last seen. -/
  watched : IO.Ref (Option (RuleWatcher × Disk))
  /-- How many seconds other servers have. -/
  limit : Option Nat

/-- Publish the rules again if one of the watched files has changed. -/
def Service.refresh (service : Service) : IO Unit := do
  match ← service.watched.get with
  | none => return
  | some (watcher, before) =>
    let after ← survey watcher.files
    service.watched.set (some (watcher, after))
    for path in watcher.files do
      if (before.read path).toOption ≠ (after.read path).toOption then
        match watcher.ruleChange? before after path with
        | some rules =>
          service.server.modify fun s =>
            { s with rules := ((UpdateLoop.ofStore s.rules).step (.update rules)).store }
        | none => pure ()

/-- Answer a request, after finding out all that the server has to be told. -/
partial def Service.answer (service : Service) (known : Knowledge) (fresh : Bytes) (r : Request) :
    Async Response := do
  let attempt := (← service.server.get).attempt known fresh r
  match attempt.questions with
  | [] =>
    service.server.modify fun s => { s with rules := attempt.server.rules }
    service.metrics.modify fun m => attempt.answered.events.foldl Metrics.record m
    return attempt.answered.value
  | .file path :: _ => service.answer (known.learnFile path (← look path)) fresh r
  | .exchange sent :: _ =>
    service.answer (known.learnReply sent (← exchange service.limit sent)) fresh r

/-- Answer the request on a connection. -/
def Service.attend (service : Service) (client : TCP.Socket.Client) : Async Unit := do
  let reply (method : String) (response : Response) : Async Unit := do
    client.send ⟨(Wire.writeResponse method response).toArray⟩
    client.shutdown
  match ← receive client (fun _ => Wire.request) [] with
  | none => reply "GET" (.bare 400)
  | some request =>
    service.refresh
    let fresh := Uuid.text (← IO.getRandomBytes 16).toList
    reply request.method (← service.answer { home := ← home } (Utf8.encode fresh) request)

/-- Answer every request on a connection with the counters. -/
def Service.report (service : Service) (client : TCP.Socket.Client) : Async Unit := do
  match ← receive client (fun _ => Wire.request) [] with
  | none => client.shutdown
  | some request =>
    let lines := (← service.metrics.get).lines
    let response := Response.plain 200 (String.join (lines.map (· ++ "\n")))
    client.send ⟨(Wire.writeResponse request.method response).toArray⟩
    client.shutdown

/-! ## Listening -/

/-- An address as the system takes it. -/
def systemAddress : SocketAddress → Std.Net.SocketAddress
  | .bytes n port =>
    let part (k : Nat) := (n / Nat.pow 256 k % 256).toUInt8
    .v4 ⟨.ofParts (part 3) (part 2) (part 1) (part 0), port.toUInt16⟩
  | .groups gs port =>
    let part (k : Nat) := (gs.getD k 0).toUInt16
    .v6 ⟨.ofParts (part 0) (part 1) (part 2) (part 3) (part 4) (part 5) (part 6) (part 7),
      port.toUInt16⟩

/-- Listen at an address. -/
def listen (text : String) : IO TCP.Socket.Server := do
  match SocketAddress.parse? text with
  | none => throw (.userError ("not a socket address: " ++ text))
  | some address =>
    let listener ← TCP.Socket.Server.mk
    listener.bind (systemAddress address)
    listener.listen 1024
    return listener

/-- Attend to connections, each on its own. -/
partial def accept (listener : TCP.Socket.Server) (attend : TCP.Socket.Client → Async Unit) :
    Async Unit := do
  let client ← listener.accept
  background do
    try attend client catch _ => pure ()
  accept listener attend

/-- Wait until the program is interrupted. -/
def interrupted : Async Unit := do
  let interrupt ← Signal.Waiter.mk .sigint false
  let terminate ← Signal.Waiter.mk .sigterm false
  Selectable.one #[.case interrupt.selector pure, .case terminate.selector pure]

/-- Print a message, if messages of its kind are logged. -/
def log (filter : LogFilter) (level : LogLevel) (message : String) : IO Unit := do
  if filter.allows "preview_server" level then
    IO.println ((level.name.map Char.toUpper) ++ " preview_server: " ++ message)
    (← IO.getStdout).flush

/-- The server as it starts, with its rules. -/
def Service.start (c : Config) : IO Service := do
  let disk ← survey c.rewrite.ruleFiles
  let watched := if c.rewrite.reload = .watch then
      (RuleWatcher.start? disk c.rewrite.ruleFiles).map fun w => (w, disk)
    else none
  return ⟨← IO.mkRef ((Server.ofConfig c).start disk), ← IO.mkRef .initial, ← IO.mkRef watched,
    c.proxy.timeoutSecs⟩

/-- Serve with a configuration until the program is interrupted. -/
def serve (filter : LogFilter) (c : Config) : Async Unit := do
  let service ← Service.start c
  if c.observability.metricsEnabled then
    try
      let listener ← listen c.observability.metricsAddress
      background (accept listener service.report)
    catch e => log filter .error ("Failed to install metrics exporter: " ++ toString e)
  let listener ← listen c.listener.bindAddress
  log filter .info ("Listening for connections address=" ++ toString (← listener.getSockName))
  background (accept listener service.attend)
  interrupted
  log filter .info "Shutdown complete"

/-- The files that have to be read to start. -/
def configFiles (arguments : List String) : List String :=
  match Command.ofArguments arguments with
  | .ok (.serve o) => o.config.toList
  | _ => []

/-- Start with a command line: the status that the program ends with. -/
def run (arguments : List String) : IO UInt32 := do
  let environment ← IO.getEnv "RUST_LOG"
  let disk ← survey (configFiles arguments)
  match StartUp.ofArguments (fun _ => true) environment disk arguments with
  | .ended output errors status =>
    IO.print output
    for line in errors do IO.eprintln line
    return status.toUInt32
  | .serving c errors =>
    for line in errors do IO.eprintln line
    try
      (serve (.resolve c.observability environment) c).block
      return 0
    catch e =>
      IO.eprintln ("Error: " ++ toString e)
      return 1

end PagePreview.Program

/-- Start the program. -/
def main (arguments : List String) : IO UInt32 := PagePreview.Program.run arguments
