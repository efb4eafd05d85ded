import Switchboard.MessageKind

/-!
# Faults

Why a dispatch failed. Faults of the library itself are plain causes. A fault
raised by a handler or a layer carries a report: a message, a failure of the
application's own type, or another fault, with any number of notes on top.
Messages and notes can be of any type that has texts.

A report shows its outermost note, or the text of what it carries; what lies
below shows as its sources. A fault inside a report is transparent: it adds no
text and no source of its own. Looking a report through for something of a given
type takes the outermost one, and a fault inside it only as a whole.
-/

namespace Switchboard

/-- The texts of an application's failures. -/
class Explained (Failure : Type) where
  text : Failure → String
  /-- The texts of a failure's own sources, outermost first. -/
  sources : Failure → List String := fun _ => []

mutual

/-- Why a dispatch failed. -/
inductive Fault (Failure : Type) where
  /-- The message type has no handler of that kind. -/
  | noHandler (kind : MessageKind) (request : String)
  /-- The message type has a handler of that kind already. -/
  | conflict (kind : MessageKind) (request : String)
  /-- The caller's token has been fired. -/
  | cancelled
  /-- A value is not of the type that its reader needs. -/
  | typeMismatch (expected found : String)
  /-- Notification handlers failed, in this order. -/
  | aggregate (faults : List (Fault Failure))
  /-- A handler or layer raised an error of its own. -/
  | raised (report : Report Failure)

/-- A value that has a text: what a look at a report can come upon. -/
inductive Finding (Failure : Type) where
  /-- An owned text. -/
  | words (text : String)
  /-- A value of any other type, static texts included: which types there are is up to the
  application. -/
  | failure (reason : Failure)
  | fault (inner : Fault Failure)

/-- What a handler or layer has to say about its error. -/
inductive Report (Failure : Type) where
  | message (words : Finding Failure)
  | failure (reason : Failure)
  | wrapped (fault : Fault Failure)
  /-- A note on top of an earlier report. -/
  | note (words : Finding Failure) (below : Report Failure)

end

variable {Failure : Type}

instance : Coe String (Finding Failure) := ⟨.words⟩

/-- What can be looked for in a report: owned texts, faults, or the values of another type,
which are some of the application's failures. -/
inductive Sought (Failure : Type) : Type → Type 1 where
  | text : Sought Failure String
  | fault : Sought Failure (Fault Failure)
  | own {E : Type} (project : Failure → Option E) : Sought Failure E

/-- The finding, if it is of the type that is looked for. -/
def Finding.as? {E : Type} : Finding Failure → Sought Failure E → Option E
  | .words text, .text => some text
  | .fault inner, .fault => some inner
  | .failure reason, .own project => project reason
  | _, _ => none

namespace Report

/-- The outermost finding in a report that is of the type that is looked for. -/
def find? {E : Type} (sought : Sought Failure E) : Report Failure → Option E
  | message words => words.as? sought
  | failure reason => (Finding.failure reason).as? sought
  | wrapped fault => (Finding.fault fault).as? sought
  | note words below =>
      match words.as? sought with
      | some value => some value
      | none => below.find? sought

/-- The outermost text of a report. -/
def ownedText? (report : Report Failure) : Option String := report.find? .text

/-- The outermost failure of the application in a report. -/
def failure? (report : Report Failure) : Option Failure := report.find? (.own some)

/-- The outermost fault in a report. -/
def wrapped? (report : Report Failure) : Option (Fault Failure) := report.find? .fault

end Report

namespace Fault

/-- A fault with a message of its own. -/
def ofMessage (words : Finding Failure) : Fault Failure := .raised (.message words)

/-- A fault that carries a failure of the application. -/
def ofFailure (reason : Failure) : Fault Failure := .raised (.failure reason)

/-- A fault as the content of a raised one. -/
def wrap (fault : Fault Failure) : Fault Failure := .raised (.wrapped fault)

/-- A note on top of a fault. A raised fault's report is extended; any other fault
is wrapped first. -/
def annotate (fault : Fault Failure) (words : Finding Failure) : Fault Failure :=
  match fault with
  | .raised report => .raised (.note words report)
  | other => .raised (.note words (.wrapped other))

/-- A short stable word for the kind of fault. -/
def label : Fault Failure → String
  | noHandler .. => "no_handler"
  | conflict .. => "conflict"
  | cancelled => "cancelled"
  | typeMismatch .. => "type_mismatch"
  | aggregate _ => "aggregate"
  | raised _ => "handler"

/-- Whether the fault is the plain fault of a fired token. -/
def isCancelled : Fault Failure → Bool
  | cancelled => true
  | _ => false

/-- Whether the fault is a plain missing handler. -/
def isNoHandler : Fault Failure → Bool
  | noHandler .. => true
  | _ => false

/-- Whether the fault is a plain refused registration. -/
def isConflict : Fault Failure → Bool
  | conflict .. => true
  | _ => false

/-- The report of a raised fault. -/
def report? : Fault Failure → Option (Report Failure)
  | raised report => some report
  | _ => none

/-- The outermost finding in a raised fault that is of the type that is looked for. -/
def find? {E : Type} (fault : Fault Failure) (sought : Sought Failure E) : Option E :=
  fault.report?.bind (Report.find? sought)

end Fault

variable [Explained Failure]

mutual

/-- The text of a fault. -/
def Fault.text : Fault Failure → String
  | .noHandler kind request => s!"No {kind.label} handler registered for {request}"
  | .conflict kind request => s!"Conflicting {kind.label} handler registration for {request}"
  | .cancelled => "Dispatch cancelled"
  | .typeMismatch expected found => s!"Type mismatch: expected {expected}, found {found}"
  | .aggregate faults =>
      s!"{faults.length} notification handler(s) failed; first: " ++ Fault.firstText faults
  | .raised report => report.text

/-- The text of the first fault of a list, or `none`. -/
def Fault.firstText : List (Fault Failure) → String
  | [] => "none"
  | fault :: _ => fault.text

/-- The text of a finding. -/
def Finding.text : Finding Failure → String
  | .words text => text
  | .failure reason => Explained.text reason
  | .fault inner => inner.text

/-- The text of a report. -/
def Report.text : Report Failure → String
  | .message words => words.text
  | .failure reason => Explained.text reason
  | .wrapped fault => fault.text
  | .note words _ => words.text

end

mutual

/-- The texts of what lies below a fault, outermost first. -/
def Fault.sources : Fault Failure → List String
  | .noHandler .. => []
  | .conflict .. => []
  | .cancelled => []
  | .typeMismatch .. => []
  | .aggregate _ => []
  | .raised report => report.sources

/-- The texts of what lies below the top of a report, outermost first. -/
def Report.sources : Report Failure → List String
  | .message _ => []
  | .failure reason => Explained.sources reason
  | .wrapped fault => fault.sources
  | .note _ below => below.text :: below.sources

end

/-- The text of a fault and then the texts of its sources. -/
def Fault.trace (fault : Fault Failure) : List String :=
  fault.text :: fault.sources

end Switchboard
