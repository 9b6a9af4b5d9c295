import TableGateway.Driver.Basic

/-!
# A driver that follows a script

Handles count the statements prepared.  Replies wait in a queue, and an empty queue answers that
nothing was affected.  An identity that is waiting takes effect with the next execution, whether
or not that one fails.
-/

namespace TableGateway

structure Script where
  prepareFault : Option DriverError
  replies : List (Except DriverError Output)
  waitingId : Option UInt64
  lastId : UInt64
  prepared : Nat

namespace Script

def fresh : Script :=
  ⟨none, [], none, 0, 0⟩

/-- Sets the scene for one operation: whether preparing fails, a reply to add to
the queue, and the identity that waits in the place of the last one. -/
def cue (s : Script) (prepareFault : Option DriverError)
    (reply : Option (Except DriverError Output)) (waitingId : Option UInt64) : Script :=
  { s with
    prepareFault := prepareFault
    replies := s.replies ++ reply.toList
    waitingId := waitingId }

def prepare (s : Script) : Except DriverError Nat × Script :=
  match s.prepareFault with
  | some fault => (.error fault, s)
  | none => (.ok s.prepared, { s with prepared := s.prepared + 1 })

def execute (s : Script) : Except DriverError Output × Script :=
  (s.replies.headD (.ok (.done 0)),
    { s with
      replies := s.replies.tail
      waitingId := none
      lastId := s.waitingId.getD s.lastId })

def driver : Driver Script Nat where
  prepare s _ := s.prepare
  execute s _ _ _ := s.execute
  lastInsertId s := s.lastId

end Script

end TableGateway
