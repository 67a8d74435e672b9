import ListenerOperator.Calls

/-!
# Addresses and labels

`pkg/util`: the address types with the choice of a preferred one, the address of a node, and
the labels that tie volumes and pods to Listeners.
-/

namespace ListenerOperator

open MergePatch

/-- An address and what kind of address it is. -/
structure AddressInfo where
  address : String
  addressType : AddressType
  deriving DecidableEq

/-- `AddressInfo.Pick`. The result is a pointer; `none` is nil. -/
def AddressInfo.pick (a : AddressInfo) (preferredType : AddressType) : Option AddressInfo :=
  if preferredType = .ip then
    if a.addressType = .ip then some a
    else some { address := a.address, addressType := .ip }
  else if a.addressType = .hostname then
    if preferredType = .hostname then some a
    else some { address := a.address, addressType := .hostname }
  else none

/-- An address with the ports it is reachable on. -/
structure IngressAddress extends AddressInfo where
  ports : StringMap Int
  deriving DecidableEq

/-- The address a single node address gives, if its type is one of the three that count. -/
def NodeAddress.info (nodeAddress : NodeAddress) : Option AddressInfo :=
  match nodeAddress.type with
  | .externalIP => some { address := nodeAddress.address, addressType := .ip }
  | .internalIP => some { address := nodeAddress.address, addressType := .ip }
  | .hostName => some { address := nodeAddress.address, addressType := .hostname }
  | .internalDNS => none
  | .externalDNS => none

/-- `GetPriorNodeAddress`: the first address of the node that counts. -/
def getPriorNodeAddress (node : Node) : Except Failure AddressInfo :=
  match node.addresses.findSome? NodeAddress.info with
  | some address => .ok address
  | none => errorText "no address found"

/-- `LabelListenerName`. -/
def labelListenerName : String := "listeners.kubecoop.dev/listenerName"

/-- `LabelListenerNamespace`. -/
def labelListenerNamespace : String := "listeners.kubedoop.dev/listenerNamespace"

/-- `LabelListenerMntPrefix`. -/
def labelListenerMntPrefix : String := "listeners.kubedoop.dev/mnt."

/-- The annotation that names a Listener, as the claims of the end-to-end tests carry it. -/
def annotationListenerName : String := "listeners.kubedoop.dev/listenerName"

/-- The annotation that names a class, as the claims of the end-to-end tests carry it. -/
def listenerClassAnnotation : String := "listeners.kubedoop.dev/class"

/-- A unique identifier without its dashes. -/
def stripDashes (uid : String) : String := String.ofList (uid.toList.filter (· ≠ '-'))

/-- The key of the label that a pod gets for a mounted Listener. -/
def mountLabelKey (uid : String) : String := labelListenerMntPrefix ++ stripDashes uid

/-- `ListenerMountPodLabels`. -/
def listenerMountPodLabels (listener : Listener) : StringMap String :=
  .single (mountLabelKey listener.metadata.uid) listener.metadata.name

/-- `ListenerMetaLabels`. -/
def listenerMetaLabels (listener : Listener) : StringMap String :=
  (StringMap.single labelListenerName listener.metadata.name).insert labelListenerNamespace
    listener.metadata.ns

end ListenerOperator
