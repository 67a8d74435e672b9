import ListenerOperator.Base.Program
import ListenerOperator.Objects

/-!
# Errors and the call interface

The controller and the node plugin act on the outside through the Kubernetes client, the file
system and the mounter. Each such operation is a `Call`, answered by a value or by an error, and
the modelled functions are programs over these calls. A nil dereference ends a program as an
error does, but no caller can rewrite it.
-/

namespace ListenerOperator

open Interaction MergePatch

/-- Why a call failed, as far as the code distinguishes it. -/
inductive Reason where
  | notFound
  | alreadyExists
  | conflict
  | other
  deriving DecidableEq

/-- The error of a call. -/
structure CallError where
  reason : Reason
  message : String := ""
  deriving DecidableEq

/-- Status codes of the plugin's remote interface. -/
inductive Code where
  | invalidArgument
  | internal
  deriving DecidableEq

/-- The name of a status code in an error text. -/
def Code.name : Code → String
  | .invalidArgument => "InvalidArgument"
  | .internal => "Internal"

/-- An error value. -/
inductive GoError where
  /-- An error of a call, passed on as it is. -/
  | call (failure : CallError)
  /-- An error made from a text. -/
  | text (message : String)
  /-- A status of the remote interface. -/
  | status (code : Code) (message : String)
  deriving DecidableEq

/-- The text of an error; a status shows its code. -/
def GoError.message : GoError → String
  | .call failure => failure.message
  | .text message => message
  | .status code message => "rpc error: code = " ++ code.name ++ " desc = " ++ message

/-- How a function ends without a result. -/
inductive Failure where
  /-- A dereference of a nil pointer. -/
  | nilDereference
  /-- A returned error. -/
  | error (value : GoError)
  deriving DecidableEq

/-- Wrap a returned error; a nil dereference is not returned and stays. -/
def Failure.wrap (wrapper : GoError → GoError) : Failure → Failure
  | .nilDereference => .nilDereference
  | .error value => .error (wrapper value)

/-- An operation on the outside. -/
inductive Call where
  | getListener (key : ObjectKey)
  | getListenerClass (key : ObjectKey)
  | getService (key : ObjectKey)
  | getNode (key : ObjectKey)
  | getPod (key : ObjectKey)
  | getPV (key : ObjectKey)
  | getPVC (key : ObjectKey)
  | getPodListeners (key : ObjectKey)
  | listListeners
  /-- List the slices of a namespace that carry the given service name label. -/
  | listEndpointSlices (ns serviceName : String)
  | createService (service : Service)
  | updateService (service : Service)
  | createListener (listener : Listener)
  /-- Write the status part of a Listener. -/
  | updateListenerStatus (listener : Listener)
  | createPodListeners (podListeners : PodListeners)
  /-- Send the merge patch between two copies of an object. -/
  | patchPodListeners (original modified : PodListeners)
  | patchPV (original modified : PersistentVolume)
  | patchPod (original modified : Pod)
  | pathExists (path : String)
  | mkdirAll (path : String)
  /-- Mount an empty in-memory file system on a directory. -/
  | mount (path : String)
  | unmount (path : String)
  | writeFile (path content : String)
  | symlink (oldName newName : String)
  | removeAll (path : String)

/-- The value of a successful call. -/
@[reducible] def Value : Call → Type
  | .getListener _ | .createListener _ | .updateListenerStatus _ => Listener
  | .getListenerClass _ => ListenerClass
  | .getService _ | .createService _ | .updateService _ => Service
  | .getNode _ => Node
  | .getPod _ | .patchPod _ _ => Pod
  | .getPV _ | .patchPV _ _ => PersistentVolume
  | .getPVC _ => PersistentVolumeClaim
  | .getPodListeners _ | .createPodListeners _ | .patchPodListeners _ _ => PodListeners
  | .listListeners => List Listener
  | .listEndpointSlices _ _ => List EndpointSlice
  | .pathExists _ => Bool
  | .mkdirAll _ | .mount _ | .unmount _ | .writeFile _ _ | .symlink _ _ | .removeAll _ => Unit

/-- A call is answered by its value or by an error. -/
abbrev Reply (request : Call) : Type := Except CallError (Value request)

/-- Where a call goes and whether it can change anything there. -/
inductive Call.Kind where
  | read
  | write
  | file
  deriving DecidableEq

/-- Reads and writes go to the API server; the rest stays on the node. -/
def Call.kind : Call → Call.Kind
  | .getListener _ | .getListenerClass _ | .getService _ | .getNode _ | .getPod _ | .getPV _
  | .getPVC _ | .getPodListeners _ | .listListeners | .listEndpointSlices _ _ => .read
  | .createService _ | .updateService _ | .createListener _ | .updateListenerStatus _
  | .createPodListeners _ | .patchPodListeners _ _ | .patchPV _ _ | .patchPod _ _ => .write
  | .pathExists _ | .mkdirAll _ | .mount _ | .unmount _ | .writeFile _ _ | .symlink _ _
  | .removeAll _ => .file

/-- A modelled function with effects. -/
abbrev Prog (α : Type) : Type := Program Call Reply Failure α

/-- Make a call and return its error as the error of the function. -/
def ask (request : Call) : Prog (Value request) :=
  .call request fun reply =>
    match reply with
    | .ok value => .done (.ok value)
    | .error failure => .done (.error (.error (.call failure)))

/-- Return an error made from a text. -/
def errorText {α : Type} (message : String) : Except Failure α :=
  .error (.error (.text message))

/-- Dereference a pointer. -/
def deref {α : Type} : Option α → Except Failure α
  | some value => .ok value
  | none => .error .nilDereference

/-- Give every returned error a status code; the text of the error is kept in the status. -/
def withStatus {α : Type} (code : Code) (program : Prog α) : Prog α :=
  program.mapError (Failure.wrap fun value => .status code value.message)

/-- Put a text before every returned error. -/
def withText {α : Type} (text : String) (program : Prog α) : Prog α :=
  program.mapError (Failure.wrap fun value => .text (text ++ value.message))

end ListenerOperator
