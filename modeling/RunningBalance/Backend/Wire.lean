import RunningBalance.Backend.Fetch
import RunningBalance.Text.Split

/-!
# Requests and responses on the wire

The text of a request, and the response in the text that comes back. One connection carries one
request, and the response ends with it.
-/

set_option autoImplicit false
set_option relaxedAutoImplicit false

namespace RunningBalance.Backend.Wire

def line (text : String) : String :=
  text ++ "\r\n"

/-- The text of a request. -/
def write (request : Request) : String :=
  String.join
    ([line ("GET " ++ request.url.target ++ " HTTP/1.0"),
        line ("Host: " ++ request.url.authority),
        line "Accept: */*"] ++
      request.authorizations.map (fun value ↦ line ("Authorization: " ++ value)) ++ [line ""])

/-- The text before and after the first empty line. -/
def splitHead? : List Char → Option (List Char × List Char)
  | '\r' :: '\n' :: '\r' :: '\n' :: body => some ([], body)
  | c :: rest => (splitHead? rest).map fun (head, body) ↦ (c :: head, body)
  | [] => none

/-- The status in the first line of a response. -/
def status? (head : List Char) : Option Nat :=
  match Text.split ' ' (head.takeWhile (· ≠ '\r')) with
  | version :: code :: _ => do
    guard (Text.after? "HTTP/1.".toList version).isSome
    guard (code.length = 3)
    Decimal.natural? code
  | _ => none

/-- The response in the text that came back. -/
def response? (text : String) : Option Response := do
  let (head, body) ← splitHead? text.toList
  pure { status := ← status? head, body := String.ofList body }

end RunningBalance.Backend.Wire
