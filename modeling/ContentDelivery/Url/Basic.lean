/-
ContentDelivery.Url.Basic — URLs of the scheme "https" and their text.

The parts are held as they are written, percent-encoded where need be.
An absent port is the one of the scheme. The path is its segments, each
written after a slash.
-/
import ContentDelivery.Url.Form
import ContentDelivery.Url.Host

namespace ContentDelivery

structure Url where
  username : List Char := []
  password : List Char := []
  host : Url.Host
  port : Option Nat := none
  path : List (List Char) := [[]]
  query : Option (List Char) := none
  fragment : Option (List Char) := none
deriving DecidableEq

namespace Url

def scheme : List Char := ['h', 't', 't', 'p', 's']

/-- The port that goes without saying. -/
def defaultPort : Nat := 443

/-! ## Text of the parts -/

def credentialsText (u : Url) : List Char :=
  if u.username.isEmpty && u.password.isEmpty then []
  else u.username ++ (if u.password.isEmpty then [] else ':' :: u.password) ++ ['@']

def portText (u : Url) : List Char :=
  match u.port with
  | none => []
  | some port => ':' :: Nat.toDigits 10 port

def pathText (u : Url) : List Char := u.path.flatMap ('/' :: ·)

def queryText (u : Url) : List Char :=
  match u.query with
  | none => []
  | some query => '?' :: query

def fragmentText (u : Url) : List Char :=
  match u.fragment with
  | none => []
  | some fragment => '#' :: fragment

def toText (u : Url) : List Char :=
  scheme ++ [':', '/', '/'] ++ u.credentialsText ++ u.host.toText ++ u.portText ++ u.pathText ++
    u.queryText ++ u.fragmentText

instance : ToString Url := ⟨fun u => String.ofList u.toText⟩

/-! ## Query -/

/-- Puts pairs after what the query holds already. -/
def appendPairs (pairs : List (String × String)) (u : Url) : Url :=
  { u with query := some (pairs.foldl Form.appendPair (u.query.getD [])) }

end Url

end ContentDelivery
