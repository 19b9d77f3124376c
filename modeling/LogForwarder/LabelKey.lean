/-
Label keys: the record paths whose values label a stream of records in Loki. A key has a name, under
which the label is written, and a path, under which its value is found in a record.
-/

import LogForwarder.Dictionary
import LogForwarder.Spec.OutputSection
import LogForwarder.Text.Cut

namespace LogForwarder.LabelKey

/-- The key of the kind of a record. -/
def logType : String := "log_type"

/-- The key of the namespace that a record comes from. -/
def namespaceName : String := "kubernetes.namespace_name"

/-- The key of the pod that a record comes from. -/
def podName : String := "kubernetes.pod_name"

/-- The key of the container that a record comes from. -/
def containerName : String := "kubernetes.container_name"

/-- The key of the node that a record comes from. -/
def host : String := "kubernetes.host"

/-- The keys of an output that names none. -/
def defaults : List String := [logType, namespaceName, podName, containerName]

/-- The keys that every stream has, whatever an output names. -/
def required : List String := [host]

/-- The keys of a loki output, in rising order and each once. -/
def ofLoki (options : Option LokiSection) : List String :=
  let chosen := (options.map (·.labelKeys)).getD []
  sortedTexts ((if chosen.isEmpty then defaults else chosen) ++ required)

/-- A character of a label's name, which has neither dots nor slashes nor dashes. -/
def nameChar (c : Char) : Char :=
  if c = '.' || c = '/' || c = '\\' || c = '-' then '_' else c

/-- The name under which the label of a key is written. -/
def name (key : String) : String := String.ofList (key.toList.map nameChar)

/-- The prefixes of keys whose remainder is one quoted step of a path. -/
def quotedPrefixes : List String := ["kubernetes.labels.", "kubernetes.namespace_labels."]

/-- A character of the quoted step of a path. -/
def stepChar (c : Char) : Char := if c = '/' || c = '.' then '_' else c

/-- The path of a key in a record, with `quote` on both sides of a quoted step. -/
def pathWith (quote key : String) : String :=
  let quoted? := quotedPrefixes.findSome? fun start =>
    (Text.afterStart? start key).map fun rest =>
      start ++ quote ++ String.ofList (rest.toList.map stepChar) ++ quote
  quoted?.getD key

/-- The path of a key in a record. -/
def path (key : String) : String := pathWith "\"" key

/-- The path of a key as it stands inside a string between double quotes. -/
def escapedPath (key : String) : String := pathWith "\\\"" key

end LogForwarder.LabelKey
