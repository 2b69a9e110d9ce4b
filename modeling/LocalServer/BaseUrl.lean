import LocalServer.Url.Split

/-!
# Base addresses

The **base address** is where the server is reached; every request goes to
a path below it, so it is kept without a slash at its end. It is either
given as a URL, which `ofUrl?` brings into shape, or put together by
`ofParts` from the settings of the server.

A server that listens on `0.0.0.0` listens everywhere. That is no address
to connect to, and stands for the loopback address in both cases.
-/

namespace LocalServer.BaseUrl

open Text

/-- The address a server listens on when it listens everywhere. -/
def anyHost : String := "0.0.0.0"

/-- The address of the machine itself. -/
def loopback : String := "127.0.0.1"

/-- The host to connect to, for a server that listens on `ip`. -/
def connectHost (ip : String) : String :=
  if ip = anyHost then loopback else ip

/-- **A subpath, tidied**: empty, or one slash followed by the subpath
without blanks and slashes at its ends. Blanks are removed before the
slashes are, and only then. -/
def subpathChars (cs : List Char) : List Char :=
  match (dropTrailing (· == '/') (trim cs)).dropWhile (· == '/') with
  | [] => []
  | core => '/' :: core

/-- A subpath, tidied. -/
def tidySubpath (subpath : String) : String :=
  String.ofList (subpathChars subpath.toList)

@[simp] theorem toList_tidySubpath (s : String) :
    (tidySubpath s).toList = subpathChars s.toList := by
  simp [tidySubpath]

/-- **The base address of a server** with the given settings. -/
def ofParts (ip : String) (port : Int) (subpath : String) : String :=
  "http://" ++ connectHost ip ++ ":" ++ toString port ++ tidySubpath subpath

/-- Whether a text can be used as a base address. -/
def isUsable (value : String) : Bool :=
  (Url.split? value.toList).isSome

/-- The authority to connect to: a host that stands for all addresses is
replaced by the loopback address, and the port is then written anew. -/
def reachable (authority : List Char) : List Char :=
  if Url.host authority = anyHost.toList then
    (match Url.user? authority with
      | some user => user ++ ['@']
      | none => [])
    ++ loopback.toList
    ++ (match Url.port? authority with
      | some (some port) => ':' :: (toString port).toList
      | _ => [])
  else authority

/-- The text without a slash at its end; only one is dropped. -/
def dropSlash (cs : List Char) : List Char :=
  if cs.getLast? = some '/' then cs.dropLast else cs

/-- **The base address that a URL names**: the URL written out again, with
an authority that can be reached and without a slash at its end. -/
def ofUrl? (raw : String) : Option String :=
  (Url.split? raw.toList).map fun u =>
    String.ofList (dropSlash (Url.toChars { u with authority := reachable u.authority }))

end LocalServer.BaseUrl
