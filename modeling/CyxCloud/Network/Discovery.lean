import Mathlib.Data.Finset.Basic
import CyxCloud.Core.Chunk
import CyxCloud.Library.Dictionaries
import CyxCloud.Library.Tables

/-!
# Peer discovery

The bookkeeping of `cyxcloud-network/src/discovery.rs`: the map of known peers, which the handler of
network events and the cleanup task change, and the events they send about it.
-/

namespace CyxCloud.Network

open CyxCloud.Core Library

/-- A peer by its printed identifier. -/
abbrev PeerId := String

/-- Information about a discovered peer. -/
structure PeerInfo where
  peerId : PeerId
  addresses : List String
  /-- Port of its chunk service. -/
  grpcPort : UInt16
  lastSeen : Time
  latencyMs : Option UInt64
  agentVersion : Option String
  deriving DecidableEq, Repr

namespace PeerInfo

/-- A peer of which nothing else is known. -/
def new (peerId : PeerId) (now : Time) : PeerInfo where
  peerId := peerId
  addresses := []
  grpcPort := 50051
  lastSeen := now
  latencyMs := none
  agentVersion := none

/-- Update the last seen timestamp. -/
def touch (peer : PeerInfo) (now : Time) : PeerInfo := { peer with lastSeen := now }

/-- Check if the peer is stale. -/
def isStale (peer : PeerInfo) (timeout : Nat) (now : Time) : Bool :=
  decide (now - peer.lastSeen > timeout)

end PeerInfo

/-- An event of the network; a round-trip time is in nanoseconds. -/
inductive CyxCloudEvent where
  | peerDiscovered (peerId : PeerId) (addresses : List String)
  | peerExpired (peerId : PeerId)
  | pingResult (peerId : PeerId) (rtt : Nat)
  | pingFailed (peerId : PeerId)
  | identifyReceived (peerId : PeerId) (listenAddrs : List String) (agentVersion : String)
  | kademlia
  deriving DecidableEq, Repr

/-- Events from the discovery service. -/
inductive DiscoveryEvent where
  | peerDiscovered (info : PeerInfo)
  | peerRemoved (peerId : PeerId)
  | peerLatencyUpdated (peerId : PeerId) (latencyMs : UInt64)
  deriving DecidableEq, Repr

/-- What the cleanup task still has to do: remove stale peers, the first of which may be removed but
not announced. -/
inductive CleanupTask where
  | removing (stale : List PeerId)
  | announcing (peerId : PeerId) (stale : List PeerId)
  deriving DecidableEq, Repr

/-- The discovery service with its cleanup task, the clock and all events it has sent. -/
structure DiscoveryService where
  localPeerId : PeerId
  peers : Dictionary PeerId PeerInfo
  peerTimeout : Nat
  /-- Whether an event channel was set. -/
  eventTx : Bool
  now : Time
  cleanup : CleanupTask
  sent : List DiscoveryEvent

namespace DiscoveryService

/-- Create a new discovery service. -/
def new (localPeerId : PeerId) (peerTimeout : Nat) (eventTx : Bool) (now : Time) :
    DiscoveryService where
  localPeerId := localPeerId
  peers := ∅
  peerTimeout := peerTimeout
  eventTx := eventTx
  now := now
  cleanup := .removing []
  sent := []

variable (service : DiscoveryService)

/-- Send an event, if there is a channel.  The source ignores a send that fails because the receiver
has gone, so `sent` lists the calls of `send`; a receiver gets them all while it is there. -/
def notify (event : DiscoveryEvent) : DiscoveryService :=
  if service.eventTx then { service with sent := service.sent ++ [event] } else service

/-- The entry of a peer, a new one if there is none. -/
def entry (peerId : PeerId) : PeerInfo :=
  (service.peers.lookup peerId).getD (.new peerId service.now)

/-- Put an entry into the map. -/
def putPeer (peerId : PeerId) (peer : PeerInfo) : DiscoveryService :=
  { service with peers := service.peers.insert peerId peer }

/-- Take a peer out of the map. -/
def removePeer (peerId : PeerId) : DiscoveryService :=
  { service with peers := service.peers.erase peerId }

/-- Handle a network event, under the lock of the map. -/
def handleBehaviourEvent : CyxCloudEvent → DiscoveryService
  | .peerDiscovered peerId addresses =>
      if peerId = service.localPeerId then
        service
      else
        let peer := { service.entry peerId with addresses }.touch service.now
        (service.putPeer peerId peer).notify (.peerDiscovered peer)
  | .peerExpired peerId =>
      match service.peers.lookup peerId with
      | some _ => (service.removePeer peerId).notify (.peerRemoved peerId)
      | none => service
  | .pingResult peerId rtt =>
      match service.peers.lookup peerId with
      | some peer =>
          let latencyMs := UInt64.ofNat (rtt / 1000000)
          let peer := { peer with latencyMs := some latencyMs }.touch service.now
          (service.putPeer peerId peer).notify (.peerLatencyUpdated peerId latencyMs)
      | none => service
  | .pingFailed _ => service
  | .identifyReceived peerId listenAddrs agentVersion =>
      let peer :=
        { service.entry peerId with
          addresses := listenAddrs
          agentVersion := some agentVersion }.touch service.now
      service.putPeer peerId peer
  | .kademlia => service

/-- The stale peers in some order. -/
def stalePeers (order : RowOrder PeerId) : List PeerId :=
  order.arrange ((service.peers.entries.filter fun entry =>
    entry.2.isStale service.peerTimeout service.now).map Sigma.fst)

/-- The next step of the cleanup task: remove a stale peer, or announce the removal. -/
def clean : DiscoveryService :=
  match service.cleanup with
  | .removing [] => service
  | .removing (peerId :: stale) =>
      { service.removePeer peerId with
        cleanup := if service.eventTx then .announcing peerId stale else .removing stale }
  | .announcing peerId stale =>
      { service with
        cleanup := .removing stale
        sent := service.sent ++ [.peerRemoved peerId] }

end DiscoveryService

/-- A network event, a tick of the cleanup task that has finished, its next step, or the passage of
time. -/
inductive DiscoveryStep where
  | handle (event : CyxCloudEvent)
  | tick (order : RowOrder PeerId)
  | clean
  | wait (duration : Nat)

namespace DiscoveryService

/-- Carry out a step. -/
def apply (service : DiscoveryService) : DiscoveryStep → DiscoveryService
  | .handle event => service.handleBehaviourEvent event
  | .tick order =>
      match service.cleanup with
      | .removing [] => { service with cleanup := .removing (service.stalePeers order) }
      | _ => service
  | .clean => service.clean
  | .wait duration => { service with now := service.now + duration }

end DiscoveryService

end CyxCloud.Network
