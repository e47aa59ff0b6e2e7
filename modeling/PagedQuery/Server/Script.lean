import PagedQuery.Server.Dataset

/-!
# PagedQuery.Server.Script

A server that answers by a script: each request for a page gets the next answer, whatever it
asks for, and after the last one a page without records.
-/

namespace PagedQuery

/-- The answers still to be given. -/
abbrev Script := List (Except ClientError Page)

/-- The server that follows its script; `failure` is the answer to every change, if changes
fail. -/
def Script.server (failure : Option ClientError) : Server Script where
  fetch _
    | [] => (.ok ⟨[], none⟩, [])
    | answer :: rest => (answer, rest)
  mutate m script := (m.echoUnless failure, script)

end PagedQuery
