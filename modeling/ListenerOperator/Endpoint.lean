import ListenerOperator.Calls

/-!
# The endpoint of the plugin

`pkg/util/net.go` and `pkg/server/server.go`: the endpoint is parsed, a stale socket is removed,
and the server listens. The mapping of characters to lower case belongs to the standard library;
it is a parameter here with the part of the Unicode tables that concerns ASCII characters.
-/

namespace ListenerOperator

open Interaction

/-- `unicode.ToLower` and which characters it maps to ASCII characters. -/
structure CaseMapping where
  toLower : Char → Char
  /-- A small letter comes from itself and from its capital. The small i comes from the capital
  with a dot too, and the small k from the sign of the unit kelvin. -/
  letter : ∀ {c small : Char}, 'a' ≤ small → small ≤ 'z' → (toLower c = small ↔
    c = small ∨ c = small.toUpper ∨ (small = 'i' ∧ c = '\u0130') ∨ (small = 'k' ∧ c = '\u212a'))
  /-- Any other ASCII character, but a capital, comes from itself only. -/
  sign : ∀ {c other : Char}, other.val < 128 → ¬ ('a' ≤ other ∧ other ≤ 'z') →
    ¬ ('A' ≤ other ∧ other ≤ 'Z') → (toLower c = other ↔ c = other)

/-- What is before and after the first occurrence of a separator. -/
def cut (separator : List Char) : List Char → Option (List Char × List Char)
  | [] => if separator = [] then some ([], []) else none
  | c :: rest =>
    if separator.isPrefixOf (c :: rest) then some ([], (c :: rest).drop separator.length)
    else (cut separator rest).map fun parts => (c :: parts.1, parts.2)

/-- `ParseEndpoint`: the protocol and the address. A missing second part of the split would end
the program, as a nil dereference does. -/
def parseEndpoint (cases : CaseMapping) (ep : String) : Except Failure (String × String) :=
  let lower := ep.toList.map cases.toLower
  if "unix://".toList.isPrefixOf lower ∨ "tcp://".toList.isPrefixOf lower then
    match cut "://".toList ep.toList with
    | none => .error .nilDereference
    | some (first, second) =>
      if second ≠ [] then .ok (String.ofList first, String.ofList second)
      else errorText ("invalid endpoint: " ++ ep)
  else errorText ("invalid endpoint: " ++ ep)

/-- What the server asks of the system. -/
inductive SocketCall where
  /-- `os.Remove`. -/
  | remove (path : String)
  /-- `net.Listen`. -/
  | listen (network address : String)

/-- A function of the server with effects. -/
abbrev ServerProg (α : Type) : Type :=
  Program SocketCall (fun _ => Except CallError Unit) Failure α

/-- Put a text before every returned error. -/
def explained {α : Type} (text : String) (program : ServerProg α) : ServerProg α :=
  program.mapError (Failure.wrap fun value => .text (text ++ value.message))

/-- `server.removeUnixSocket`; a socket that does not exist is no error. -/
def removeUnixSocket (addr : String) : ServerProg Unit :=
  .call (.remove addr) fun reply =>
    match reply with
    | .ok _ => .done (.ok ())
    | .error failure =>
      if failure.reason = .notFound then .done (.ok ())
      else .done (.error (.error (.call failure)))

/-- `net.Listen`, with the text of its error in `server.createListener`. -/
def listenOn (proto addr : String) : ServerProg Unit :=
  explained ("failed to listen on " ++ proto ++ "://" ++ addr ++ ": ")
    (.call (.listen proto addr) fun reply =>
      match reply with
      | .ok _ => .done (.ok ())
      | .error failure => .done (.error (.error (.call failure))))

/-- `server.createListener`. -/
def createSocketListener (cases : CaseMapping) (endpoint : String) : ServerProg Unit := do
  let (proto, addr) ← explained "failed to parse endpoint: "
    (Program.lift (parseEndpoint cases endpoint))
  if proto = "unix" then
    explained "failed to remove existing unix socket: " (removeUnixSocket ("/" ++ addr))
    listenOn proto ("/" ++ addr)
  else listenOn proto addr

end ListenerOperator
