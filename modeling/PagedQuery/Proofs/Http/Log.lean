import PagedQuery.Proofs.Http.Target
import PagedQuery.Proofs.Replies

/-!
# PagedQuery.Proofs.Http.Log

Which HTTP requests are sent.  A page and a change are asked for by one request each, the one that
their addresses make, if they make one (`Link.log_fetch`, `Link.log_mutate`), whatever the other end
answers; the same holds of any number of pages, one after the other (`Link.log_afterAll`).
-/

namespace PagedQuery.Http

variable {π : Type}

/-- A peer that keeps the requests it gets, in order. -/
def Peer.logging (peer : Peer π) : Peer (π × List Request) where
  exchange request s :=
    let (response, state) := peer.exchange request s.1
    (response, state, s.2 ++ [request])

/-- The request that is sent, if one could be made. -/
def sentOf : Except NoResponse (Url × Request) → List Request
  | .ok (_, request) => [request]
  | .error _ => []

namespace Link

variable {link : Link}

theorem log_send (peer : Peer π) (r : Except NoResponse (Url × Request)) (s : π × List Request) :
    (send peer.logging r s).2.2 = s.2 ++ sentOf r := by
  obtain problem | ⟨address, request⟩ := r
  · exact (List.append_nil s.2).symm
  · rw [state_send]
    rfl

theorem log_fetch (peer : Peer π) (f : Fetch) (s : π × List Request) :
    ((link.server peer.logging).fetch f s).2.2 =
      s.2 ++ sentOf (link.pageRequest (link.url f.url) f) := by
  rw [fetch_eq_ask, state_ask, log_send]

theorem log_mutate (peer : Peer π) (m : Mutation) (s : π × List Request) :
    ((link.server peer.logging).mutate m s).2.2 =
      s.2 ++ sentOf (link.changeRequest (link.url m.path) m) := by
  rw [mutate_eq_ask, state_ask, log_send]

/-- Pages asked for one after the other leave their requests one after the other. -/
theorem log_afterAll (peer : Peer π) (fs : List Fetch) (s : π × List Request) :
    ((link.server peer.logging).afterAll fs s).2 =
      s.2 ++ fs.flatMap fun f => sentOf (link.pageRequest (link.url f.url) f) := by
  induction fs generalizing s with
  | nil => exact (List.append_nil s.2).symm
  | cons f fs ih =>
    rw [Server.afterAll, List.foldl_cons, ← Server.afterAll, ih, Server.after, log_fetch,
      List.append_assoc, List.flatMap_cons]

end Link

end PagedQuery.Http
