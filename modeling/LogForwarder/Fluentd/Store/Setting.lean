/-
Settings of stores: lines with a key and a value. Values that come from secrets are not written
themselves; in their place stands an expression that the collector evaluates, which reads the file
that the key of the secret is mounted as. The settings of a buffer say where records wait in files
until they are sent, and how sending is tried again; what the tuning of the spec leaves open has a
default.
-/

import LogForwarder.Document.Value
import LogForwarder.Element.Basic
import LogForwarder.Spec.Tuning

namespace LogForwarder.Fluentd

/-- A line of a store. -/
structure Setting where
  key : String
  value : String
  deriving DecidableEq

namespace Setting

/-- A line, which is left out if its value is empty. -/
def line (key value : String) : List Setting := if value.isEmpty then [] else [⟨key, value⟩]

/-- A line, which is left out if it has no value or an empty one. -/
def line? (key : String) (value? : Option String) : List Setting := value?.toList.flatMap (line key)

/-- A line, which is left out unless a condition holds. -/
def lineIf (condition : Bool) (key value : String) : List Setting :=
  if condition then line key value else []

/-- A setting as a parameter. -/
def param (setting : Setting) : Value :=
  .ofEntries [("key", .text setting.key), ("value", .text setting.value)]

/-- Settings as a parameter. -/
def params (settings : List Setting) : Value := .list (settings.map param)

end Setting

/-! ### Expressions that read files -/

/-- An expression that the collector evaluates. -/
def evaluated (expression : String) : String := "\"#\x7b" ++ expression ++ "\x7d\""

/-- An expression for the contents of a file, which are empty if there is no such file. -/
def readFile (path : String) : String :=
  evaluated s!"File.exists?('{path}') ? open('{path}','r') do |f|f.read end : ''"

/-- An expression for the contents of a file without the blanks around them. -/
def readStripped (path : String) : String := evaluated s!"open('{path}','r') do |f|f.read.strip end"

/-- An expression for the contents of a file, which are nothing if there is no such file. -/
def readOrNil (path : String) : String := evaluated s!"File.read('{path}') rescue nil"

/-- A text between single quotes. -/
def singleQuoted (text : String) : String := s!"'{text}'"

/-! ### Buffers -/

/-- The number of chunks that may wait. -/
def queuedChunksLimit : String := evaluated "ENV['BUFFER_QUEUE_LIMIT'] || '32'"

/-- The size of all chunks together, if none is given. -/
def defaultTotalLimit : String := evaluated "ENV['TOTAL_LIMIT_SIZE_PER_BUFFER'] || '8589934592'"

/-- The size of a chunk, if none is given. -/
def defaultChunkLimit : String := evaluated "ENV['BUFFER_SIZE_LIMIT'] || '8m'"

/-- A buffer in files. -/
structure Buffer where
  /-- What the records in one chunk have in common. -/
  keys : List String
  /-- The directory of the files. -/
  path : String
  flushMode : FlushMode
  /-- The time between two flushes, which only matters in the mode of that name. -/
  flushInterval : Option String
  flushThreadCount : Nat
  retryType : RetryType
  retryWait : String
  retryMaxInterval : String
  retryTimeout : String
  totalLimitSize : String
  chunkLimitSize : String
  overflowAction : OverflowAction
  deriving DecidableEq

namespace Buffer

/-- The buffer in a directory with the tuning of a spec. -/
def ofTuning (path : String) (tuning? : Option Tuning) (defaultInterval : String)
    (keys : List String) : Buffer :=
  let tuning := tuning?.getD default
  let flushMode := tuning.flushMode.getD .interval
  { keys := keys
    path := path
    flushMode := flushMode
    flushInterval :=
      if flushMode = .interval then
        some ((tuning.flushInterval.map (·.display)).getD defaultInterval)
      else
        none
    flushThreadCount := tuning.flushThreadCount.getD 2
    retryType := tuning.retryType.getD .exponentialBackoff
    retryWait := (tuning.retryWait.map (·.display)).getD "1s"
    retryMaxInterval := (tuning.retryMaxInterval.map (·.display)).getD "60s"
    retryTimeout := (tuning.retryTimeout.map (·.display)).getD "60m"
    totalLimitSize := (tuning.totalLimitSize.map (·.display)).getD defaultTotalLimit
    chunkLimitSize := (tuning.chunkLimitSize.map (·.display)).getD defaultChunkLimit
    overflowAction := tuning.overflowAction.getD .block }

/-- A buffer as a parameter. -/
def param (buffer : Buffer) : Value :=
  .ofEntries [("keys", .ofTexts buffer.keys), ("path", .text buffer.path),
    ("flush_mode", .text buffer.flushMode.name), ("flush_interval", .ofText? buffer.flushInterval),
    ("flush_thread_count", .integer buffer.flushThreadCount),
    ("retry_type", .text buffer.retryType.name), ("retry_wait", .text buffer.retryWait),
    ("retry_max_interval", .text buffer.retryMaxInterval),
    ("retry_timeout", .text buffer.retryTimeout),
    ("queued_chunks_limit_size", .text queuedChunksLimit),
    ("total_limit_size", .text buffer.totalLimitSize),
    ("chunk_limit_size", .text buffer.chunkLimitSize),
    ("overflow_action", .text buffer.overflowAction.name)]

end Buffer

end LogForwarder.Fluentd
