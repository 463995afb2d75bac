import RunningBalance.Text.Base64
import RunningBalance.Url.Percent

/-!
# Credentials

What a URL says before its host about who asks: a name and a password, encoded. They do not stay in
a URL that is asked for; the header of a request has them instead, if they can be decoded.
-/

set_option autoImplicit false
set_option relaxedAutoImplicit false

namespace RunningBalance.Url

structure Credentials where
  name : List Char := []
  /-- There is no password if it is empty. -/
  password : List Char := []
  deriving DecidableEq, Repr

namespace Credentials

/-- The credentials, with the sign that ends them. -/
def write (credentials : Credentials) : List Char :=
  let password := if credentials.password.isEmpty then [] else ':' :: credentials.password
  let text := credentials.name ++ password
  if text.isEmpty then [] else text ++ ['@']

/-- The name goes up to the first colon. -/
def read (text : List Char) : Credentials where
  name := Percent.encode Percent.inCredentials (text.takeWhile (· ≠ ':'))
  password := Percent.encode Percent.inCredentials ((text.dropWhile (· ≠ ':')).drop 1)

/-- The password, if there is one and it can be decoded. -/
def password? (credentials : Credentials) : Option String :=
  if credentials.password.isEmpty then none else Percent.decode? credentials.password

/-- The value of a header with the credentials, if there are any. A password that cannot be decoded
is passed over, but a name that cannot be leaves all credentials where they are. -/
def basic? (credentials : Credentials) : Option String :=
  match Percent.decode? credentials.name, credentials.password? with
  | none, _ => none
  | some "", none => none
  | some name, password =>
    let text := name ++ ":" ++ password.getD ""
    some ("Basic " ++ String.ofList (Text.Base64.encode text.toUTF8.toList))

theorem basic?_none : basic? {} = none := by
  decide +kernel

end Credentials

end RunningBalance.Url
