/-
Problems of specs: what is wrong, with which input, output or pipeline, and in which words that is
reported.
-/

import LogForwarder.Dialect
import LogForwarder.Endpoint
import LogForwarder.Secret.Credentials

namespace LogForwarder

/-- A class of problems. -/
inductive ProblemKind
  | reference
  | uniqueness
  | requiredField
  | unknownOutputType
  | authConfiguration
  deriving DecidableEq

/-- What a problem is a problem of. -/
inductive Subject
  | input (name : String)
  | output (name : String)
  | pipeline (name : String)
  deriving DecidableEq

/-- What is wrong. -/
inductive Cause
  | emptyInputName
  | reservedInputName
  | duplicateInputName
  /-- An input that narrows no kind, or several. -/
  | notOneSection
  | emptyOutputName
  | duplicateOutputName
  | unknownType (name : String)
  | secretNotFound (secret : String)
  | urlRequired (type : OutputType)
  | endpoint (error : EndpointError)
  | fieldRequired (field : String) (type : OutputType)
  | noAwsCredentials
  /-- One half of an access key without the other. -/
  | halfAwsAccessKey
  | notOneDestination
  | credentials (error : CredentialsError)
  | duplicatePipelineName
  | noInputRef
  | noOutputRef
  | unknownInput (reference : String)
  | unknownOutput (reference : String)
  | unsupportedType (type : OutputType) (dialect : Dialect)
  /-- A name whose generated id every configuration may have. -/
  | reservedId (dialect : Dialect) (id : String)
  /-- A name whose generated id is that of another name. -/
  | sharedId (dialect : Dialect) (id other : String)
  deriving DecidableEq

/-- Something wrong with a spec. -/
structure Problem where
  subject? : Option Subject
  cause : Cause
  deriving DecidableEq

namespace Cause

/-- The class of a cause. -/
def kind : Cause → ProblemKind
  | .emptyInputName => .requiredField
  | .reservedInputName => .uniqueness
  | .duplicateInputName => .uniqueness
  | .notOneSection => .requiredField
  | .emptyOutputName => .requiredField
  | .duplicateOutputName => .uniqueness
  | .unknownType _ => .unknownOutputType
  | .secretNotFound _ => .reference
  | .urlRequired _ => .requiredField
  | .endpoint _ => .requiredField
  | .fieldRequired _ _ => .requiredField
  | .noAwsCredentials => .authConfiguration
  | .halfAwsAccessKey => .authConfiguration
  | .notOneDestination => .requiredField
  | .credentials _ => .authConfiguration
  | .duplicatePipelineName => .uniqueness
  | .noInputRef => .requiredField
  | .noOutputRef => .requiredField
  | .unknownInput _ => .reference
  | .unknownOutput _ => .reference
  | .unsupportedType _ _ => .unknownOutputType
  | .reservedId _ _ => .uniqueness
  | .sharedId _ _ _ => .uniqueness

/-- What the generated ids of a dialect are called. -/
def idWord : Dialect → String
  | .fluentd => "label"
  | .vector => "component id"

/-- The text that reports a cause. -/
def message : Cause → String
  | .emptyInputName => "input name must not be empty"
  | .reservedInputName => "name is reserved for a built-in input"
  | .duplicateInputName => "duplicate input name"
  | .notOneSection => "exactly one of application, infrastructure or audit must be set"
  | .emptyOutputName => "output name must not be empty"
  | .duplicateOutputName => "duplicate output name"
  | .unknownType name => s!"unknown output type `{name}`"
  | .secretNotFound secret => s!"secret `{secret}` not found"
  | .urlRequired type => s!"`url` is required for {type.name} outputs"
  | .endpoint error => error.message
  | .fieldRequired field type => s!"`{field}` is required for {type.name} outputs"
  | .noAwsCredentials =>
    s!"secret must carry `{Secret.awsAccessKeyId}` and `{Secret.awsSecretAccessKey}`, " ++
      s!"or `{Secret.awsRole}`"
  | .halfAwsAccessKey =>
    s!"secret must carry both `{Secret.awsAccessKeyId}` and `{Secret.awsSecretAccessKey}`"
  | .notOneDestination =>
    "exactly one of projectId, folderId, organizationId or billingAccountId is required"
  | .credentials error => error.message
  | .duplicatePipelineName => "duplicate pipeline name"
  | .noInputRef => "at least one inputRef is required"
  | .noOutputRef => "at least one outputRef is required"
  | .unknownInput reference => s!"unknown input `{reference}`"
  | .unknownOutput reference => s!"unknown output `{reference}`"
  | .unsupportedType type dialect =>
    s!"output type `{type.name}` is not supported by the {dialect.name} dialect"
  | .reservedId dialect id => s!"{idWord dialect} `{id}` is reserved by the {dialect.name} dialect"
  | .sharedId dialect id other => s!"{idWord dialect} `{id}` is also generated for `{other}`"

end Cause

namespace Subject

/-- The start of a text about a subject. -/
def heading : Subject → String
  | .input name => s!"input `{name}`: "
  | .output name => s!"output `{name}`: "
  | .pipeline name => s!"pipeline `{name}`: "

/-- The name of a subject. -/
def name : Subject → String
  | .input name => name
  | .output name => name
  | .pipeline name => name

end Subject

namespace Problem

/-- The class of a problem. -/
def kind (problem : Problem) : ProblemKind := problem.cause.kind

/-- The text of a problem, with its subject. -/
def text (problem : Problem) : String :=
  "error: " ++ ((problem.subject?.map (·.heading)).getD "") ++ problem.cause.message

end Problem

end LogForwarder
