import ActivityForge.Blueprint
import ActivityForge.Settings
import ActivityForge.Source.Comment
import ActivityForge.Source.Layout
import ActivityForge.Source.Signature
import ActivityForge.Text.Literal

/-!
# The contract

The contract is the trait that declares a method for every activity, with the options of each and
the request objects that some take.  `Contract.ofBlueprint` says what it declares,
`Contract.lines` how that is written.
-/

namespace ActivityForge.Source

/-- A field of a request object. -/
structure RequestField where
  docs : List String
  binder : Binder
deriving DecidableEq, Repr, Inhabited

/-- The request object of the method `method`. -/
structure Request where
  name : String
  method : String
  fields : List RequestField
deriving DecidableEq, Repr, Inhabited

/-- What the contract declares for one activity. -/
structure Declaration where
  /-- The literal of the name by which the activity is looked up. -/
  key : String
  signature : Signature
  docs : List String
  deprecated : Bool
  /-- The name of the options constant. -/
  options : String
  retryPolicy : RetryPolicy
deriving DecidableEq, Repr, Inhabited

structure Contract where
  header : String
  title : String
  docs : List String
  name : String
  declarations : List Declaration
  requests : List Request
deriving DecidableEq, Repr, Inhabited

/-- The first comment line of every file. -/
def headerLine (info : Document.Info) : String :=
  "Generated by oact from \x60" ++ info.title ++ "\x60 " ++ info.version ++ ". Do not edit."

/-- The module of the contract. -/
def moduleOfContract (s : Settings) : String := memberName s.contractName

/-- Blocks of comment lines with an empty line between them; empty blocks are left out. -/
def joinBlocks : List (List String) → List String
  | [] => []
  | b :: bs =>
    let rest := joinBlocks bs
    if b.isEmpty then rest else if rest.isEmpty then b else b ++ "" :: rest

/-- The comment of a method: what the document says, the request, and whether it may be repeated. -/
def methodDocs (a : Activity) : List String :=
  joinBlocks [docLines? a.summary, docLines? a.description,
    [" \x60" ++ a.method.text ++ " " ++ a.path ++ "\x60"],
    [if a.idempotent then " Idempotent: safe to retry." else " Not idempotent: retry with caution."]]

def Declaration.ofActivity (a : Activity) : Declaration where
  key := Text.literal a.name.original
  signature := a.signature
  docs := methodDocs a
  deprecated := a.deprecated
  options := a.name.screaming
  retryPolicy := a.retryPolicy

def RequestField.ofArgument (a : Activity.Argument) : RequestField :=
  ⟨docLines? a.description, a.binder⟩

def Request.ofActivity (a : Activity) : Request :=
  ⟨a.requestName, a.methodName, a.arguments.map RequestField.ofArgument⟩

def Contract.ofBlueprint (b : Blueprint) (s : Settings) : Contract where
  header := headerLine b.info
  title := b.info.title
  docs := docLines? b.info.description
  name := s.contractName
  declarations := b.activities.map Declaration.ofActivity
  requests := (b.activities.filter Activity.usesRequest).map Request.ofActivity

/-! ## Text -/

/-- What every contract declares besides its activities. -/
def preamble : Lines :=
  ["",
   "use std::fmt;",
   "use std::future::Future;",
   "use std::time::Duration;",
   "",
   "/// Failure category of errors raised by the delegate HTTP client.",
   "pub const API_ERROR: &str = \"API_ERROR\";",
   "",
   "/// Upper bound on a single activity, retries included.",
   "pub const SCHEDULE_TO_CLOSE_TIMEOUT: Duration = Duration::from_secs("
     ++ toString scheduleToCloseSecs ++ ");",
   "",
   "/// Backoff applied by the executing runtime between attempts.",
   "#[derive(Debug, Clone, Copy, PartialEq)]"]
  ++ block "pub struct RetryPolicy"
    ["pub initial_interval: Duration,",
     "pub maximum_interval: Duration,",
     "pub backoff_coefficient: f64,",
     "pub maximum_attempts: u32,"] ""
  ++ ["",
   "/// Execution options attached to an activity.",
   "#[derive(Debug, Clone, Copy, PartialEq)]"]
  ++ block "pub struct ActivityOptions"
    ["pub schedule_to_close_timeout: Duration,",
     "pub retry_policy: RetryPolicy,"] ""
  ++ ["",
   "/// A failed activity: a category such as [\x60API_ERROR\x60] and a message.",
   "#[derive(Debug, Clone, PartialEq, Eq)]"]
  ++ block "pub struct ActivityFailure"
    ["pub category: String,",
     "pub message: String,"] ""
  ++ [""]
  ++ block "impl ActivityFailure"
    (block "pub fn new(category: impl Into<String>, message: impl Into<String>) -> Self"
      (block "Self"
        ["category: category.into(),",
         "message: message.into(),"] "") "") ""
  ++ [""]
  ++ block "impl fmt::Display for ActivityFailure"
    (block "fn fmt(&self, f: &mut fmt::Formatter<'_>) -> fmt::Result"
      ["write!(f, \"\x7b\x7d: \x7b\x7d\", self.category, self.message)"] "") ""
  ++ ["",
   "impl std::error::Error for ActivityFailure \x7b\x7d",
   "",
   "/// Options of each activity, named after its operation."]

/-- The options constant of an activity. -/
def Declaration.optionsLines (d : Declaration) : Lines :=
  block ("pub const " ++ d.options ++ ": ActivityOptions = ActivityOptions")
    ("schedule_to_close_timeout: SCHEDULE_TO_CLOSE_TIMEOUT," ::
      block "retry_policy: RetryPolicy"
        ["initial_interval: Duration::from_secs(" ++ toString d.retryPolicy.initialIntervalSecs
          ++ "),",
         "maximum_interval: Duration::from_secs(" ++ toString d.retryPolicy.maximumIntervalSecs
          ++ "),",
         "backoff_coefficient: " ++ d.retryPolicy.backoffText ++ ",",
         "maximum_attempts: " ++ toString d.retryPolicy.maximumAttempts ++ ","] ",") ";"

def Request.lines (contract : String) (r : Request) : Lines :=
  ["/// Arguments of [\x60super::" ++ contract ++ "::" ++ r.method ++ "\x60].",
   "#[derive(Debug, Clone)]"]
  ++ block ("pub struct " ++ r.name)
    (r.fields.flatMap fun f => comment "///" f.docs ++ ["pub " ++ f.binder.text ++ ","]) ""

/-- The parameters of a method, one a line, behind the receiver. -/
def Signature.parameterLines (s : Signature) : Lines :=
  indent ("&self," :: s.parameters.map fun b => b.text ++ ",")

/-- The declaration of a method in the contract. -/
def Declaration.methodLines (d : Declaration) : Lines :=
  comment "///" d.docs
  ++ (if d.deprecated then ["#[deprecated]"] else [])
  ++ ["fn " ++ d.signature.name ++ "("]
  ++ d.signature.parameterLines
  ++ [") -> impl Future<Output = Result<" ++ d.signature.result ++ ", ActivityFailure>> + Send;"]

def Contract.lines (c : Contract) : Lines :=
  ["//! " ++ c.header,
   "//!",
   "//! Activity contract for " ++ c.title ++ "."]
  ++ (if c.docs.isEmpty then [] else "//!" :: comment "//!" c.docs)
  ++ preamble
  ++ block "pub mod options"
    (["use super::\x7bActivityOptions, RetryPolicy, SCHEDULE_TO_CLOSE_TIMEOUT\x7d;",
      "use std::time::Duration;"]
      ++ spaced (c.declarations.map Declaration.optionsLines)) ""
  ++ ["",
   "/// Request objects of activities that take their arguments as one value."]
  ++ block "pub mod requests" (separated (c.requests.map (Request.lines c.name))) ""
  ++ [""]
  ++ block ("pub trait " ++ c.name)
    ((c.declarations.map fun d =>
        "const " ++ d.options ++ "_OPTIONS: ActivityOptions = options::" ++ d.options ++ ";")
      ++ spaced (c.declarations.map Declaration.methodLines)) ""
  ++ ["",
   "/// Options of the activity for operation \x60name\x60, if there is one."]
  ++ block "pub fn activity_options(name: &str) -> Option<ActivityOptions>"
    (block "match name"
      ((c.declarations.map fun d => d.key ++ " => Some(options::" ++ d.options ++ "),")
        ++ ["_ => None,"]) "") ""

end ActivityForge.Source
