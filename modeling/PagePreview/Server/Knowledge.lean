import PagePreview.Server.Basic

/-!
# What a server has to be told

A server decides everything, but it sees neither files nor other servers by itself. It works with
what it has been told about them, and what it looked at shows what it has to be told next. Once
nothing that it looked at is unknown, its answer stands.
-/

namespace PagePreview

/-- Something that a server has to be told. -/
inductive Question where
  /-- What a path leads to. -/
  | file (path : String)
  /-- What another server answers. -/
  | exchange (sent : Outgoing)
  deriving DecidableEq, Repr

/-- What has been told. -/
structure Knowledge where
  /-- The working directory. -/
  home : Location
  /-- What paths lead to, if anything. -/
  files : List (String × Option Node) := []
  /-- What other servers have answered. -/
  replies : List (Outgoing × Except ProxyError Response) := []

namespace Knowledge

/-- Put something at a location, unless it is known what stands there. -/
def fill (disk : Disk) (l : Location) (node : Node) : Disk :=
  if (disk.get? l).isSome then disk else disk.put l node

/-- Put something where the pieces of a path lead from a location, and directories on the way. -/
def layOut (disk : Disk) (l : Location) : List String → Node → Disk
  | [], node => fill disk l node
  | piece :: rest, node =>
    let next := if piece = "" ∨ piece = "." then l
      else if piece = ".." then l.dropLast
      else l ++ [piece]
    layOut (fill disk l .directory) next rest node

/-- Put what a path leads to onto a disk. -/
def place (disk : Disk) (path : String) : Option Node → Disk
  | some node =>
    layOut disk (if path.toList.head? = some '/' then [] else disk.home) (Path.pieces path) node
  | none => disk

/-- The files that are known. -/
def disk (k : Knowledge) : Disk :=
  k.files.foldl (fun d f => place d f.1 f.2) (.empty k.home)

/-- The servers as far as their answers are known. -/
def network (k : Knowledge) : Network := fun sent =>
  match k.replies.find? (·.1 == sent) with
  | some (_, reply) => reply
  | none => .error (.unanswered "not asked yet")

/-- Whether the answer to a question is known. -/
def knows (k : Knowledge) : Question → Bool
  | .file path => k.files.any (·.1 == path)
  | .exchange sent => k.replies.any (·.1 == sent)

/-- Learn what a path leads to. -/
def learnFile (path : String) (found : Option Node) (k : Knowledge) : Knowledge :=
  { k with files := k.files ++ [(path, found)] }

/-- Learn what another server has answered. -/
def learnReply (sent : Outgoing) (reply : Except ProxyError Response) (k : Knowledge) : Knowledge :=
  { k with replies := k.replies ++ [(sent, reply)] }

end Knowledge

/-- What has to be known for something to be done. -/
def Event.question? : Event → Option Question
  | .tested path => some (.file path)
  | .opened path => some (.file path)
  | .forwarded (some sent) _ => some (.exchange sent)
  | _ => none

namespace Server

/-- The rule files that have to be known for a request. -/
def ruleQuestions (s : Server) : List Question :=
  match s.rules.policy with
  | .perRequest => s.rules.files.map .file
  | _ => []

/-- What handling a request comes to with some knowledge. -/
structure Attempt where
  /-- What is not known yet. -/
  questions : List Question
  /-- The answer. -/
  answered : Traced Response
  /-- The server afterwards. -/
  server : Server

/-- Handle a request with some knowledge. The rules have to be known before anything else is
asked. -/
def attempt (k : Knowledge) (fresh : Bytes) (s : Server) (r : Request) : Attempt :=
  let (answered, server) := s.handle k.network k.disk fresh r
  let rules := s.ruleQuestions.filter (!k.knows ·)
  let others := (answered.events.filterMap Event.question?).filter (!k.knows ·)
  ⟨if rules.isEmpty then others else rules, answered, server⟩

end Server

end PagePreview
