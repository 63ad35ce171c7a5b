/-
  The network, and scripts of what a server on it will do.

  1. **Replies** — a server answers with a status and a body, or not at all.  A body arrives in
     chunks and may break off; `complete` says that it did not.
  2. **Scripts** — a script says how often the server redirects first, what it answers then, and
     which file disappears just before the answer.  `Script.reply` is the answer as a client
     receives it: a body ends where the declared length says, and a body shorter than that is
     incomplete.
  3. **Exchanges** — a client follows at most ten redirects.  One more, no connection, or an
     address that leads nowhere: then there is no reply.
  4. **Networks** — a conversion is given a `Network`: what comes of asking for an address, whatever
     the address is and whoever asks.  `scripted` is the network with one server, at an origin.
-/
import BookDatasets.Web.Address

namespace BookDatasets

namespace Web

/-! ## Requests and replies -/

/-- A request as the server sees it. -/
structure Request where
  method : Text
  /-- Path and query. -/
  target : Text
  /-- What the client calls itself; empty if it does not say. -/
  userAgent : Text
  deriving DecidableEq, Repr

/-- What a client receives. -/
structure Reply where
  status : Nat
  /-- The body as it arrives. -/
  chunks : List Bytes
  /-- Whether the body arrives to its end. -/
  complete : Bool
  deriving DecidableEq, Repr

/-- What the server will do. -/
structure Script where
  status : Nat := 200
  body : Bytes := []
  /-- The length that the answer declares; that of the body if there is none. -/
  declared : Option Nat := none
  /-- How many redirects come before the answer. -/
  redirects : Nat := 0
  /-- The file that disappears before the answer. -/
  removes : Option Text := none
  deriving DecidableEq, Repr

/-- Whether answers of this status have no body. -/
def isBodiless (status : Nat) : Bool := status == 101 || status == 204 || status == 304

/-- Whether a status only announces the answer.  When nothing follows it there is no answer. -/
def isAnnouncement (status : Nat) : Bool := 100 ≤ status && status < 200 && status != 101

/-- The answer of a script as a client receives it. -/
def Script.reply? (script : Script) : Option Reply :=
  if isAnnouncement script.status then none
  else if isBodiless script.status then some ⟨script.status, [], true⟩
  else
    let declared := script.declared.getD script.body.length
    some ⟨script.status, [script.body.take declared], decide (declared ≤ script.body.length)⟩

/-! ## Exchanges -/

/-- How many redirects a client follows. -/
def maxRedirects : Nat := 10

/-- What one download sees of the server. -/
structure Exchange where
  requests : List Request
  /-- The file that disappears before the answer. -/
  removes : Option Text
  reply : Option Reply
  deriving DecidableEq, Repr

/-- What comes of asking for an address, when the client calls itself so. -/
abbrev Network := (address userAgent : Text) → Exchange

/-- The network that leads nowhere. -/
def nowhere : Network := fun _ _ => ⟨[], none, none⟩

/-- The target of the redirect of a number. -/
def hop (n : Nat) : Text := "/hop/".toList ++ decimal n

/-- The network with one server at an origin; without a script it refuses every connection. -/
def scripted (origin : Text) (server : Option Script) : Network := fun address userAgent =>
  match target? origin address, server with
  | some target, some script =>
    let request := fun target => (⟨"GET".toList, target, userAgent⟩ : Request)
    let hops := (List.range (min script.redirects maxRedirects)).map fun n =>
      request (hop (n + 1))
    if maxRedirects < script.redirects then ⟨request target :: hops, none, none⟩
    else ⟨request target :: hops, script.removes, script.reply?⟩
  | _, _ => nowhere address userAgent

/-! ## Clients -/

/-- Whether a client may call itself so: no controls but the tab. -/
def mayCallItself (userAgent : Text) : Bool :=
  userAgent.all fun c => c = '\t' || (0x20 ≤ c.toNat && c.toNat != 0x7F)

end Web

end BookDatasets
