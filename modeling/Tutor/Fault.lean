/-!
# Faults

Every reason for which the tutor refuses or fails to do something, with its text. Faults of
configuration, of a request and of the primary answer reach the caller; faults of speech and of
fetching only become reasons of degraded stages.
-/

namespace Tutor

/-- Why something could not be done. -/
inductive Fault where
  /-- The configuration is not usable. -/
  | configuration (text : String)
  /-- A credential is missing; it is named. -/
  | credential (name : String)
  /-- The request is not acceptable. -/
  | request (text : String)
  /-- The language model could not be reached or gave no usable answer. -/
  | provider (text : String)
  /-- The language model refused the credential. -/
  | authentication (text : String)
  /-- No audio location could be made for a text. -/
  | speech (text : String)
  /-- A piece of audio could not be fetched. -/
  | fetch (text : String)
  /-- A host is not on the list of allowed hosts. -/
  | host (name : String)
  /-- Data could not be read or written. -/
  | storage (text : String)
  /-- A value has no written form, or a written form no value. -/
  | encoding (text : String)
  /-- A configuration text is malformed. -/
  | markup (text : String)
  /-- An exchange over the network failed. -/
  | transport (text : String)
  /-- The file system refused an operation. -/
  | system (text : String)
  /-- A fault of no particular kind. -/
  | other (text : String)
  /-- A fault that is reported under a heading of its own. -/
  | within (heading : String) (cause : Fault)
deriving DecidableEq, Repr

namespace Fault

/-- The fault below all headings. -/
def root : Fault → Fault
  | within _ cause => cause.root
  | f => f

/-- The text of a fault; a heading hides what is below it. -/
def message : Fault → String
  | configuration t => "Configuration error: " ++ t
  | credential n => n ++ " not configured"
  | request t => t
  | provider t => "Provider error: " ++ t
  | authentication t => "Authentication error: " ++ t
  | speech t => "Speech synthesis error: " ++ t
  | fetch t => "Fetch error: " ++ t
  | host n => "Upstream host not allowed: " ++ n
  | storage t => "IO error: " ++ t
  | encoding t => "Serialization error: " ++ t
  | markup t => "YAML error: " ++ t
  | transport t => "HTTP error: " ++ t
  | system t => t
  | other t => t
  | within h _ => h

/-- Whether the service lacks configuration that it needs. -/
def isConfiguration (f : Fault) : Bool :=
  match f.root with
  | configuration _ | credential _ => true
  | _ => false

end Fault

end Tutor
