import Groundwork.Cluster.Rest
import Groundwork.Engine

/-!
# The engine over an API server

The engine's cluster calls sent to an API server.  Nothing else is at hand there: a command fails,
and what the user is told is lost.
-/

namespace Groundwork.Engine

/-- The outside that an API server makes. -/
def live {σ : Type} (server : Cluster.Server σ) : Script.World Action Action.Answer σ where
  answer
    | .call c, state => c.send server state
    | .connect, state => (.ok (), state)
    | .run _, state => (.error (.io .noEntry), state)
    | .say _ _, state => ((), state)
    | .print _, state => ((), state)
    | .note _, state => ((), state)
  sleep _ state := state

end Groundwork.Engine

namespace Groundwork.Cluster

/-- Replies to come, and the requests so far. -/
structure Playback where
  replies : List Reply := []
  requests : List Request := []

/-- A server that gives its replies one after the other, and then fails without a word. -/
def Playback.server : Server Playback where
  reply request p :=
    let requests := p.requests ++ [request]
    match p.replies with
    | reply :: replies => (reply, ⟨replies, requests⟩)
    | [] => (⟨500, Text.utf8Bytes "null"⟩, { p with requests })

end Groundwork.Cluster
