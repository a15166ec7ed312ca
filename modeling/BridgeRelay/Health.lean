import BridgeRelay.Metrics.Exposition

/-!
# Status pages

The pages under which a running relay shows its counters: `/health`, `/healthz` and `/metrics`.
-/

namespace BridgeRelay.Health

/-- How far a chain is. -/
structure ChainHealth where
  domain : DomainId
  lastCheckpoint : Int
  latestBlock : Int
  deriving DecidableEq

/-- The body of an answer. -/
inductive Body where
  | text (s : String)
  /-- the state of each chain, as a JSON object -/
  | chains (cs : List ChainHealth)
  deriving DecidableEq

/-- An answer to a request. -/
structure Response where
  status : Nat
  mediaType : Option String
  body : Body
  deriving DecidableEq

/-- Reads checkpoint and head of each chain, in the order asked for. -/
def chains (m : Metrics) : List DomainId → List ChainHealth × Metrics
  | [] => ([], m)
  | d :: ds =>
      let (lastCheckpoint, m) := m.touch .lastCheckpoint [toString d]
      let (latestBlock, m) := m.touch .latestBlock [toString d]
      let (rest, m) := chains m ds
      (⟨d, lastCheckpoint, latestBlock⟩ :: rest, m)

/-- The path in the target of a request, which ends before the query or the fragment. A target that does not begin with
a slash names a scheme and a host before the path. -/
def pathOf (target : String) : String :=
  let located := target.toList.takeWhile fun c => c ≠ '?' ∧ c ≠ '#'
  String.ofList (match located with
    | '/' :: _ => located
    | _ => ((located.dropWhile (· ≠ '/')).drop 2).dropWhile (· ≠ '/'))

/-- The answer to a request for a page, if there is such a page. -/
def page? (m : Metrics) (domains : List DomainId) (path : String) : Option (Response × Metrics) :=
  if path = "/health" then
    let (cs, m) := chains m domains
    some (⟨200, some "application/json", .chains cs⟩, m)
  else if path = "/healthz" then some (⟨200, some "text/plain; charset=utf-8", .text "OK"⟩, m)
  else if path = "/metrics" then some (⟨200, some Metrics.mediaType, .text m.exposition⟩, m)
  else none

/-- The answer to a request. Pages are read with `GET`, and with `HEAD` to see all but the body. -/
def respond (m : Metrics) (domains : List DomainId) (method target : String) : Response × Metrics :=
  match page? m domains (pathOf target) with
  | none => (⟨404, none, .text ""⟩, m)
  | some (response, after) =>
      if method = "GET" then (response, after)
      else if method = "HEAD" then ({ response with body := .text "" }, after)
      else (⟨405, none, .text ""⟩, m)

end BridgeRelay.Health
