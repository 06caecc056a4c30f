import RequestFlow.Run.Error
import RequestFlow.Url.Parser

/-!
# RequestFlow.Run.Outgoing

Requests in the form in which they are sent: method and header names are tokens, and the URL
is an absolute one.

* `Request.outgoing`  — the form in which a request is sent, or what is wrong with it.
* `Outgoing.refusal?` — why a client of the HTTP protocol refuses to send it.
-/

namespace RequestFlow

def isTokenChar (c : Char) : Bool :=
  c.isAlphanum || "!#$%&'*+-.^_`|~".toList.contains c

def isToken (s : List Char) : Bool :=
  !s.isEmpty && s.all isTokenChar

structure Outgoing where
  method : String
  url : Url
  headers : Dict String
  body : Text.Utf8.Bytes
deriving Repr, DecidableEq

/-- The form in which a request is sent. Of several faults the method's comes first, then
that of the URL. -/
def Request.outgoing (r : Request) : Except RequestFault Outgoing :=
  let method := Text.trim r.method.toList
  if !isToken method then .error (.badMethod (String.ofList method))
  else
    match Url.ofText (Text.trim r.url.toList) with
    | .error e => .error (.badUrl r.url e)
    | .ok url =>
      match r.headers.names.find? (!isToken ·.toList) with
      | some name => .error (.badHeaderName name)
      | none => .ok { method := String.ofList method, url, headers := r.headers, body := r.body }

def isHeaderValueChar (c : Char) : Bool :=
  c == '\t' || (0x20 ≤ c.toNat && c.toNat != 0x7F)

namespace Outgoing

/-- The URL names a host. -/
def isAddressed (r : Outgoing) : Bool :=
  r.url.hasHost

def isHttp (r : Outgoing) : Bool :=
  ["http", "https"].contains (String.ofList r.url.scheme)

/-- The fault that a client finds before it opens a connection. Of several, a missing host
comes first, then header values, then the scheme. -/
def refusal? (r : Outgoing) : Option TransportError :=
  let badUrl (u : Url) := TransportError.invalidRequest s!"builder error for url ({u.text})"
  if !r.isAddressed then some (badUrl r.url)
  else if r.headers.any fun (_, value) => !value.toList.all isHeaderValueChar then
    some (.invalidRequest "builder error")
  else if !r.isHttp then some (badUrl r.url.withoutUserinfo)
  else none

end Outgoing

end RequestFlow
