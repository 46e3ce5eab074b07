import Gazette.Calendar.Instant
import Gazette.Client.Basic

/-! # The commands

Each command is a function of its surroundings: the environment, the arguments, the files and the
network. -/
namespace Gazette.Command
open Gazette.Text

structure Surroundings where
  env : String → Option String
  args : List String
  file : String → File
  network : HttpRequest → HttpReply
  naming : Address.Naming := .ascii

/-- What a command leaves behind, and the requests it tried to send. -/
structure Ending where
  code : Nat := 0
  output : String := ""
  errors : String := ""
  sent : List HttpRequest := []
  deriving DecidableEq, Repr

/-- Why a command gives up. -/
inductive Failure where
  | usage (text : String)
  | noSession
  | fault (f : Fault)

def Failure.describe : Failure → String
  | .usage text => quoted text
  | .noSession => quoted (Config.sessionVariable ++ " is not set")
  | .fault f => f.describe

/-- A failure becomes one line among the errors. -/
def Ending.failed (f : Failure) (sent : List HttpRequest) : Ending :=
  { code := 1, errors := "Error: " ++ f.describe ++ "\n", sent }

/-- The client that the environment asks for, and its transport. -/
def connect (s : Surroundings) : Except Failure (Client × Transport) :=
  match Config.ofEnvironment s.env with
  | none => .error .noSession
  | some config =>
    match Client.connect config s.naming with
    | .error f => .error (.fault f)
    | .ok (client, transport, _) => .ok (client, transport)

/-- A number of documents: decimal digits with or without a plus sign, within 32 bits. -/
def limit? (text : String) : Option UInt32 :=
  let ds := match text.toList with
    | '+' :: cs => cs
    | cs => cs
  if ds = [] ∨ ds.any (fun c => !c.isDigit) then none
  else
    let n := Json.natOfDigits ds
    if n < UInt32.size then some n.toUInt32 else none

/-- What the environment asks of the listing: the feed, perhaps only what has a recording. -/
def filter (s : Surroundings) : Filter :=
  let f := Filter.inFeed {}
  if (s.env "REPUBLIK_AUDIO").isSome then f.withAudio else f

/-- How many documents the environment asks for, ten unless it gives a number. -/
def limit (s : Surroundings) : UInt32 := ((s.env "REPUBLIK_LIMIT").bind limit?).getD 10

/-- One document of the listing, on two lines. -/
def entry (d : Document) : String :=
  let date := (d.publicationInstant?.map Instant.dateText).getD "----------"
  let format := (d.formatTitle?.map (· ++ ": ")).getD ""
  let audio := match d.info.audioSource with
    | some a =>
      if d.hasAudio then " [audio " ++ toString a.duration.1.toNat ++ "s]" else ""
    | none => ""
  date ++ "  " ++ format ++ d.info.title ++ " (" ++ toString d.info.readingMinutes.toNat ++
    " min)" ++ audio ++ "\n            " ++ d.info.path ++ "\n"

/-- The listing with its length in front. -/
def listing (ds : List Document) : String :=
  toString ds.length ++ " documents\n" ++ String.join (ds.map entry)

/-- Lists the newest documents of the feed. -/
def latest (s : Surroundings) : Ending :=
  match connect s with
  | .error f => .failed f []
  | .ok (_, transport) =>
    let o := Client.fetch (transport.exchange s.network) (filter s) (limit s)
    let sent := o.requests.filterMap transport.request?
    match o.result with
    | .error f => .failed (.fault f) sent
    | .ok documents => { output := listing documents, sent }

/-- The client with the query of a file, if the environment names one. -/
def withQuery (s : Surroundings) (c : Client) : Except Failure Client :=
  match s.env "REPUBLIK_QUERY" with
  | none => .ok c
  | some path =>
    match (DocumentQuery.ofFile path (s.file path)).1 with
    | .error f => .error (.fault f)
    | .ok query => .ok { c with query }

/-- Writes the page of the article whose path is the first argument. -/
def article (s : Surroundings) : Ending :=
  match s.args with
  | [] => .failed (.usage "usage: article <path>") []
  | path :: _ =>
    match (do let (c, t) ← connect s; .ok (← withQuery s c, t)) with
    | .error f => .failed f []
    | .ok (client, transport) =>
      let o := client.fetchArticle (transport.exchange s.network) path
      let sent := o.requests.filterMap transport.request?
      match o.result with
      | .error f => .failed (.fault f) sent
      | .ok reply => {
          output := reply.html ++ "\n"
          errors := reply.article.info.title ++ " (" ++ reply.article.repoId ++ ")\n"
          sent }

end Gazette.Command
