/-!
# The journal

Entries are written to a file, which starts anew when it has grown too large and keeps its
predecessors, and to the error stream.  The journal takes entries from its rank on; each handler may
ask for a higher rank, so that the console stays free for the report unless details are asked for.
-/

namespace ClusterAudit

inductive Rank where
  | debug
  | info
  | warning
  | error
  | critical
deriving DecidableEq, Repr, Inhabited

namespace Rank

/-- All ranks in rising order. -/
def all : List Rank := [debug, info, warning, error, critical]

def name : Rank → String
  | debug => "DEBUG"
  | info => "INFO"
  | warning => "WARNING"
  | error => "ERROR"
  | critical => "CRITICAL"

/-- The place of a rank in the order. -/
def weight : Rank → Nat
  | debug => 10
  | info => 20
  | warning => 30
  | error => 40
  | critical => 50

def ofName? (name : String) : Option Rank :=
  all.find? fun rank ↦ rank.name = name

end Rank

namespace Journal

inductive Target where
  /-- A file that starts anew beyond a size, with a number of predecessors that are kept. -/
  | file (maxBytes predecessors : Nat)
  | errorStream
deriving DecidableEq, Repr

/-- A handler with the least rank of the entries that it writes, if it asks for one. -/
structure Handler where
  target : Target
  threshold : Option Rank
deriving DecidableEq, Repr

/-- An entry. -/
structure Entry where
  source : String
  rank : Rank
  message : String
deriving DecidableEq, Repr

end Journal

/-- The rank from which entries are taken, and the handlers that write them. -/
structure Journal where
  rank : Rank
  handlers : List Journal.Handler
deriving DecidableEq, Repr

namespace Journal

def programName : String := "k8s_auditor"

def fileName : String := "k8s_auditor.log"

def fileHandler : Handler := ⟨.file (10 * 1024 * 1024) 5, none⟩

def streamHandler (verbose : Bool) : Handler :=
  ⟨.errorStream, some (if verbose then .debug else .warning)⟩

/-- The journal of a run, with details or without. -/
def setUp (verbose : Bool) : Journal where
  rank := if verbose then .debug else .info
  handlers := [fileHandler, streamHandler verbose]

def writes (journal : Journal) (handler : Handler) (entry : Entry) : Bool :=
  let least := max journal.rank.weight ((handler.threshold.map Rank.weight).getD 0)
  least ≤ entry.rank.weight

def line (time : String) (entry : Entry) : String :=
  time ++ " - " ++ (if entry.source = "" then "root" else entry.source) ++ " - " ++
    entry.rank.name ++ " - " ++ entry.message ++ "\n"

def text (journal : Journal) (handler : Handler) (time : String) (entries : List Entry) : String :=
  String.join ((entries.filter (journal.writes handler)).map (line time))

end Journal

end ClusterAudit
