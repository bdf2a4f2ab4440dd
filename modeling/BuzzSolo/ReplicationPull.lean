import BuzzSolo.ReplicationPush

/-! The puller, which drains a stream that a remote node exports into the local relay. The
remote's cursors are opaque to it: it saves the cursor after a page once the local relay has
answered for the page. -/
namespace BuzzSolo.Replication

inductive PullEnd
  | caughtUp
  | readFailed
  | ingestFailed
  | haltedAt (receipt : ReplicationReceipt)

inductive PullPhase
  | reading (cursor : Option String)
  | ingesting (batch : ReplicationBatch)
  | ended (result : PullEnd)

/-- The pulling process beside its cursor file. `acked` lists the event ids of the safe
receipts the local relay has returned, `passed` the records of the pages whose next cursor
has been saved. -/
structure Puller where
  cursorFile : Option String
  acked : List String
  passed : List ReplicationRecord
  phase : PullPhase

def pullFinish (s : Puller) (batch : ReplicationBatch) : Puller :=
  { s with
    cursorFile := some batch.nextCursor
    passed := s.passed ++ batch.records
    phase := if batch.caughtUp then .ended .caughtUp else .reading (some batch.nextCursor) }

/-- The remote's answer to a read: a page, or `none` if the read failed. -/
def pullRead (s : Puller) (page : Option ReplicationBatch) : Puller :=
  match s.phase with
  | .reading _ =>
    match page with
    | none => { s with phase := .ended .readFailed }
    | some batch =>
      if batch.records.isEmpty then pullFinish s batch else { s with phase := .ingesting batch }
  | _ => s

def pullAnswered (s : Puller) (answer : Answer) : Puller :=
  match s.phase with
  | .ingesting batch =>
    match answer with
    | .failed => { s with phase := .ended .ingestFailed }
    | .receipts receipts =>
      let s := { s with acked := s.acked ++ safeIds receipts }
      match receipts.find? fun receipt => !receipt.checkpointSafe with
      | some receipt => { s with phase := .ended (.haltedAt receipt) }
      | none => pullFinish s batch
  | _ => s

inductive PullAction
  | read (page : Option ReplicationBatch)
  | answer (answer : Answer)
  | restart

def pullStep (s : Puller) : PullAction → Puller
  | .read page => pullRead s page
  | .answer answer => pullAnswered s answer
  | .restart => { s with phase := .reading (savedCursor s.cursorFile) }

def Puller.start (cursorFile : Option String) : Puller := ⟨cursorFile,[],[],.reading (savedCursor cursorFile)⟩

def runPull (s : Puller) (actions : List PullAction) : Puller := actions.foldl pullStep s

end BuzzSolo.Replication
