import RequestFlow.Json.Reader
import RequestFlow.Text.Casing
import RequestFlow.Text.Utf8

/-!
# RequestFlow.Response

What a server answers, and how hooks see it.
-/

namespace RequestFlow

open Text.Utf8 (Bytes)

structure Response where
  status : Nat
  headers : Dict String := []
  body : Bytes := []
deriving Repr, DecidableEq

namespace Response

/-- The value of a body that is JSON text; null for any other. -/
def jsonOf (body : Bytes) : Json :=
  match Text.Utf8.decode? body with
  | .error _ => .null
  | .ok s =>
    match Json.document s with
    | .ok v => v
    | .error _ => .null

/-- Header names are in lower case; of two that fall together the later one counts. -/
def view (r : Response) : Json :=
  Json.ofFields [
    ("status", .nat r.status),
    ("headers", Json.ofFields (r.headers.map fun (name, value) =>
      (String.ofList (Text.asciiLower name.toList), .str value))),
    ("body", .str (String.ofList (Text.Utf8.lossy r.body))),
    ("json", jsonOf r.body)]

end Response

end RequestFlow
