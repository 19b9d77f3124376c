/-
Tuning: how records are buffered, retried and delivered, for all buffered outputs together and for
one output alone. Whatever is left open is decided per type of output when text is generated.
-/

import LogForwarder.Quantity

namespace LogForwarder

/-! ### All outputs -/

/-- What a full buffer does with further records. -/
inductive OverflowAction
  | throwException
  | block
  | dropOldestChunk
  deriving DecidableEq

/-- When buffered records are sent. -/
inductive FlushMode
  | lazy
  | interval
  | immediate
  deriving DecidableEq

/-- How the waiting time between attempts develops. -/
inductive RetryType
  | exponentialBackoff
  | periodic
  deriving DecidableEq

/-- Buffer tuning of all outputs that buffer in files. -/
structure Tuning where
  chunkLimitSize : Option ByteSize
  totalLimitSize : Option ByteSize
  overflowAction : Option OverflowAction
  flushThreadCount : Option Nat
  flushMode : Option FlushMode
  flushInterval : Option Duration
  retryWait : Option Duration
  retryType : Option RetryType
  retryMaxInterval : Option Duration
  retryTimeout : Option Duration
  deriving DecidableEq, Inhabited

/-- The name of an overflow action. -/
def OverflowAction.name : OverflowAction → String
  | .throwException => "throw_exception"
  | .block => "block"
  | .dropOldestChunk => "drop_oldest_chunk"

/-- The name of a flush mode. -/
def FlushMode.name : FlushMode → String
  | .lazy => "lazy"
  | .interval => "interval"
  | .immediate => "immediate"

/-- The name of a retry type. -/
def RetryType.name : RetryType → String
  | .exponentialBackoff => "exponential_backoff"
  | .periodic => "periodic"

/-- Tuning of all outputs. -/
def Tuning.codec : Codec Tuning :=
  .record "Tuning"
    (.cons (.optional "chunkLimitSize" ByteSize.codec) <|
      .cons (.optional "totalLimitSize" ByteSize.codec) <|
      .cons (.optional "overflowAction"
        (.choiceOf OverflowAction.name [.throwException, .block, .dropOldestChunk])) <|
      .cons (.optional "flushThreadCount" (.nat 32)) <|
      .cons (.optional "flushMode" (.choiceOf FlushMode.name [.lazy, .interval, .immediate])) <|
      .cons (.optional "flushInterval" Duration.codec) <|
      .cons (.optional "retryWait" Duration.codec) <|
      .cons (.optional "retryType" (.choiceOf RetryType.name [.exponentialBackoff, .periodic])) <|
      .cons (.optional "retryMaxInterval" Duration.codec) <|
      .cons (.optional "retryTimeout" Duration.codec) .nil)
    (fun tuning =>
      (tuning.chunkLimitSize, tuning.totalLimitSize, tuning.overflowAction, tuning.flushThreadCount,
        tuning.flushMode, tuning.flushInterval, tuning.retryWait, tuning.retryType,
        tuning.retryMaxInterval, tuning.retryTimeout, ()))
    (fun (chunkLimitSize, totalLimitSize, overflowAction, flushThreadCount, flushMode,
        flushInterval, retryWait, retryType, retryMaxInterval, retryTimeout, ()) =>
      { chunkLimitSize, totalLimitSize, overflowAction, flushThreadCount, flushMode, flushInterval,
        retryWait, retryType, retryMaxInterval, retryTimeout })

/-! ### One output -/

/-- What is promised about the delivery of a record. -/
inductive DeliveryMode
  | atLeastOnce
  | atMostOnce
  deriving DecidableEq

/-- Delivery and request tuning of one output. -/
structure OutputTuning where
  delivery : Option DeliveryMode
  compression : Option String
  maxWrite : Option ByteSize
  minRetryDuration : Option Duration
  maxRetryDuration : Option Duration
  deriving DecidableEq, Inhabited

/-- The name of a delivery mode. -/
def DeliveryMode.name : DeliveryMode → String
  | .atLeastOnce => "atLeastOnce"
  | .atMostOnce => "atMostOnce"

/-- Tuning of one output. -/
def OutputTuning.codec : Codec OutputTuning :=
  .record "OutputTuning"
    (.cons (.optional "delivery" (.choiceOf DeliveryMode.name [.atLeastOnce, .atMostOnce])) <|
      .cons (.optional "compression" .text) <|
      .cons (.optional "maxWrite" ByteSize.codec) <|
      .cons (.optional "minRetryDuration" Duration.codec) <|
      .cons (.optional "maxRetryDuration" Duration.codec) .nil)
    (fun tuning =>
      (tuning.delivery, tuning.compression, tuning.maxWrite, tuning.minRetryDuration,
        tuning.maxRetryDuration, ()))
    (fun (delivery, compression, maxWrite, minRetryDuration, maxRetryDuration, ()) =>
      { delivery, compression, maxWrite, minRetryDuration, maxRetryDuration })

end LogForwarder
