import CyxCloud.Library.Runs
import CyxCloud.Network.Discovery

/-!
# Announced peers

The peers that a listener takes for known from the events it is sent, beside the map of the service.
The two agree as long as no peer enters the map unannounced and none comes back between the removal
by the cleanup task and its announcement.
-/

namespace CyxCloud.Network

open CyxCloud.Core Library

/-! ## What a listener knows -/

/-- The known peers after one more event. -/
def announcedAfter (known : Finset PeerId) : DiscoveryEvent → Finset PeerId
  | .peerDiscovered info => insert info.peerId known
  | .peerRemoved peerId => known.erase peerId
  | .peerLatencyUpdated _ _ => known

/-- The peers that were announced and not yet announced removed. -/
def announced (sent : List DiscoveryEvent) : Finset PeerId := sent.foldl announcedAfter ∅

@[simp]
theorem announced_append (sent : List DiscoveryEvent) (event : DiscoveryEvent) :
    announced (sent ++ [event]) = announcedAfter (announced sent) event := by
  rw [announced, List.foldl_append, List.foldl_cons, List.foldl_nil, announced]

/-- The peer was announced at some time. -/
def Discovered (sent : List DiscoveryEvent) (peerId : PeerId) : Prop :=
  ∃ info, .peerDiscovered info ∈ sent ∧ info.peerId = peerId

/-- Every removal follows a discovery of the same peer. -/
def RemovalsFollow (sent : List DiscoveryEvent) : Prop :=
  ∀ position peerId, sent[position]? = some (.peerRemoved peerId) →
    Discovered (sent.take position) peerId

section

variable {sent : List DiscoveryEvent} {event : DiscoveryEvent} {peerId : PeerId}

theorem Discovered.append (discovered : Discovered sent peerId) (event : DiscoveryEvent) :
    Discovered (sent ++ [event]) peerId := by
  obtain ⟨info, member, same⟩ := discovered
  exact ⟨info, List.mem_append_left _ member, same⟩

theorem discovered_append_iff :
    Discovered (sent ++ [event]) peerId ↔
      Discovered sent peerId ∨ ∃ info, event = .peerDiscovered info ∧ info.peerId = peerId := by
  simp only [Discovered, List.mem_append, List.mem_singleton, or_and_right, exists_or, eq_comm]

theorem RemovalsFollow.append (follow : RemovalsFollow sent)
    (last : ∀ peerId, event = .peerRemoved peerId → Discovered sent peerId) :
    RemovalsFollow (sent ++ [event]) := by
  intro position peerId found
  rcases lt_trichotomy position sent.length with early | rfl | late
  · rw [List.getElem?_append_left early] at found
    rw [List.take_append_of_le_length early.le]
    exact follow position peerId found
  · rw [List.getElem?_concat_length, Option.some.injEq] at found
    rw [List.take_left]
    exact last peerId found
  · rw [List.getElem?_eq_none (by simpa using Nat.succ_le_of_lt late)] at found
    exact nomatch found

end

namespace DiscoveryService

/-- The cleanup task has removed the peer and not yet announced it. -/
def InProgress (service : DiscoveryService) (peerId : PeerId) : Prop :=
  ∃ stale, service.cleanup = .announcing peerId stale

/-- Apart from a removal in progress the announced peers are those of the map, every removal follows
a discovery, and the service does not know itself. -/
structure Consistent (service : DiscoveryService) : Prop where
  agree : ∀ peerId, ¬service.InProgress peerId →
    (peerId ∈ announced service.sent ↔ peerId ∈ service.peers)
  follow : RemovalsFollow service.sent
  self : service.localPeerId ∉ service.peers

/-- An identification is of a known peer, or of one whose removal is in progress; a peer is discovered
only if there is a channel; and when a removal is announced, the peer has not come back. -/
def AnnouncesChanges (service : DiscoveryService) : DiscoveryStep → Prop
  | .handle (.identifyReceived peerId _ _) =>
      peerId ∈ service.peers ∨ service.InProgress peerId
  | .handle (.peerDiscovered peerId _) =>
      peerId ≠ service.localPeerId → service.eventTx = true
  | .clean => ∀ peerId, service.InProgress peerId → peerId ∉ service.peers
  | _ => True

/-! ## The invariant -/

end DiscoveryService

/-- The peers that the cleanup task is about to remove or announce. -/
def CleanupTask.peers : CleanupTask → List PeerId
  | .removing stale => stale
  | .announcing peerId stale => peerId :: stale

namespace DiscoveryService

/-- The announced peers agree with the map, entries carry the names of their peers, every peer of the
map or of the cleanup task was announced, the service itself never was, and without a channel nothing
is sent. -/
structure Tracked (service : DiscoveryService) : Prop where
  agree : ∀ peerId, ¬service.InProgress peerId →
    (peerId ∈ announced service.sent ↔ peerId ∈ service.peers)
  follow : RemovalsFollow service.sent
  named : ∀ peerId info, service.peers.lookup peerId = some info → info.peerId = peerId
  known : ∀ peerId, peerId ∈ service.peers ∨ peerId ∈ service.cleanup.peers →
    Discovered service.sent peerId
  foreign : ¬Discovered service.sent service.localPeerId
  silent : service.eventTx = false → service.sent = []

variable {service : DiscoveryService} {peerId : PeerId}

theorem tracked_new (localPeerId : PeerId) (peerTimeout : Nat) (eventTx : Bool) (now : Time) :
    (new localPeerId peerTimeout eventTx now).Tracked where
  agree := fun _ _ => iff_of_false (Finset.notMem_empty _) (AList.notMem_empty _)
  follow := fun _ _ found => nomatch found
  named := fun _ _ found => nomatch found
  known := by
    rintro peerId (member | member)
    · exact absurd member (AList.notMem_empty _)
    · exact nomatch member
  foreign := by
    rintro ⟨info, member, -⟩
    exact nomatch member
  silent := fun _ => rfl

theorem Tracked.consistent (tracked : service.Tracked) : service.Consistent where
  agree := tracked.agree
  follow := tracked.follow
  self := fun member => tracked.foreign (tracked.known _ (.inl member))

/-- A service that knows a peer has a channel. -/
theorem Tracked.channel (tracked : service.Tracked)
    (handled : peerId ∈ service.peers ∨ peerId ∈ service.cleanup.peers) :
    service.eventTx = true := by
  by_contra closed
  obtain ⟨info, member, -⟩ := tracked.known peerId handled
  rw [tracked.silent (by simpa using closed)] at member
  exact nomatch member

theorem mem_peers_of_lookup {peer : PeerInfo} (found : service.peers.lookup peerId = some peer) :
    peerId ∈ service.peers := by
  rw [← AList.lookup_isSome, found]
  rfl

theorem entry_peerId (tracked : service.Tracked) (peerId : PeerId) :
    (service.entry peerId).peerId = peerId := by
  rw [entry]
  cases found : service.peers.lookup peerId with
  | some peer => exact tracked.named peerId peer found
  | none => rfl

theorem notify_of_channel (channel : service.eventTx = true) (event : DiscoveryEvent) :
    service.notify event = { service with sent := service.sent ++ [event] } := by
  rw [notify, if_pos channel]

theorem notify_of_silent (closed : ¬service.eventTx = true) (event : DiscoveryEvent) :
    service.notify event = service := by
  rw [notify, if_neg closed]

/-! ## Every step keeps the invariant -/

/-- An entry is replaced or added, and a peer that was unknown is announced. -/
theorem Tracked.announce (tracked : service.Tracked) (channel : service.eventTx = true)
    (other : peerId ≠ service.localPeerId) {peer : PeerInfo} (named : peer.peerId = peerId) :
    Tracked ((service.putPeer peerId peer).notify (.peerDiscovered peer)) := by
  rw [notify_of_channel (by exact channel)]
  refine ⟨fun other' idle => ?_, ?_, fun other' info found => ?_, ?_, ?_, ?_⟩
  · have before := tracked.agree other' idle
    simp only [putPeer, announced_append, announcedAfter, Finset.mem_insert, AList.mem_insert,
      before, named]
  · exact tracked.follow.append fun _ same => nomatch same
  · by_cases same : other' = peerId
    · subst same
      rw [putPeer, AList.lookup_insert, Option.some.injEq] at found
      rw [← found, named]
    · rw [putPeer, AList.lookup_insert_ne same] at found
      exact tracked.named other' info found
  · intro other' handled
    rw [putPeer, AList.mem_insert, or_assoc] at handled
    rcases handled with rfl | handled
    · exact discovered_append_iff.mpr (.inr ⟨peer, rfl, named⟩)
    · exact (tracked.known other' handled).append _
  · rw [putPeer, discovered_append_iff]
    rintro (before | ⟨info, same, self⟩)
    · exact tracked.foreign before
    · cases same
      exact other (named.symm.trans self)
  · exact fun closed => absurd (channel.symm.trans closed) (by decide)

/-- The entry of a peer of the map, or of one whose removal is in progress, is replaced. -/
theorem Tracked.update (tracked : service.Tracked)
    (handled : peerId ∈ service.peers ∨ service.InProgress peerId) {peer : PeerInfo}
    (named : peer.peerId = peerId) : (service.putPeer peerId peer).Tracked := by
  refine ⟨fun other idle => ?_, tracked.follow, fun other info found => ?_, ?_, tracked.foreign,
    tracked.silent⟩
  · rw [putPeer, AList.mem_insert, tracked.agree other idle]
    refine (or_iff_right_of_imp ?_).symm
    rintro rfl
    exact handled.resolve_right idle
  · by_cases same : other = peerId
    · subst same
      rw [putPeer, AList.lookup_insert, Option.some.injEq] at found
      rw [← found, named]
    · rw [putPeer, AList.lookup_insert_ne same] at found
      exact tracked.named other info found
  · intro other known
    rw [putPeer, AList.mem_insert, or_assoc] at known
    rcases known with rfl | known
    · rcases handled with member | ⟨stale, announcing⟩
      · exact tracked.known other (.inl member)
      · refine tracked.known other (.inr ?_)
        rw [announcing]
        exact List.mem_cons_self
    · exact tracked.known other known

theorem Tracked.notifyLatency (tracked : service.Tracked) (peerId : PeerId) (latencyMs : UInt64) :
    (service.notify (.peerLatencyUpdated peerId latencyMs)).Tracked := by
  by_cases channel : service.eventTx = true
  · rw [notify_of_channel channel]
    refine ⟨fun other idle => ?_, ?_, tracked.named, fun other known => ?_, ?_, ?_⟩
    · rw [announced_append]
      exact tracked.agree other idle
    · exact tracked.follow.append fun _ same => nomatch same
    · exact (tracked.known other known).append _
    · rw [discovered_append_iff]
      rintro (before | ⟨info, same, -⟩)
      · exact tracked.foreign before
      · exact nomatch same
    · exact fun closed => absurd (channel.symm.trans closed) (by decide)
  · rw [notify_of_silent channel]
    exact tracked

/-- A peer of the map expires. -/
theorem Tracked.expire (tracked : service.Tracked) (member : peerId ∈ service.peers) :
    Tracked ((service.removePeer peerId).notify (.peerRemoved peerId)) := by
  have channel := tracked.channel (.inl member)
  rw [notify_of_channel (by exact channel)]
  refine ⟨fun other idle => ?_, ?_, fun other info found => ?_, ?_, ?_, ?_⟩
  · have before := tracked.agree other idle
    simp only [removePeer, announced_append, announcedAfter, Finset.mem_erase, AList.mem_erase,
      before]
  · refine tracked.follow.append fun other same => ?_
    cases same
    exact tracked.known _ (.inl member)
  · by_cases same : other = peerId
    · rw [removePeer, same, AList.lookup_erase] at found
      exact nomatch found
    · rw [removePeer, AList.lookup_erase_ne same] at found
      exact tracked.named other info found
  · intro other known
    refine (tracked.known other (known.imp_left fun left => ?_)).append _
    exact (AList.mem_erase.mp left).2
  · rw [removePeer, discovered_append_iff]
    rintro (before | ⟨info, same, -⟩)
    · exact tracked.foreign before
    · exact nomatch same
  · exact fun closed => absurd (channel.symm.trans closed) (by decide)

theorem Tracked.handle (tracked : service.Tracked) {event : CyxCloudEvent}
    (announces : service.AnnouncesChanges (.handle event)) :
    (service.handleBehaviourEvent event).Tracked := by
  cases event with
  | pingFailed peerId => exact tracked
  | kademlia => exact tracked
  | peerDiscovered peerId addresses =>
      simp only [handleBehaviourEvent]
      split
      · exact tracked
      · rename_i other
        exact tracked.announce (announces other) other (entry_peerId tracked peerId)
  | peerExpired peerId =>
      simp only [handleBehaviourEvent]
      split
      · rename_i peer found
        exact tracked.expire (mem_peers_of_lookup found)
      · exact tracked
  | pingResult peerId rtt =>
      simp only [handleBehaviourEvent]
      split
      · rename_i peer found
        refine Tracked.notifyLatency ?_ peerId _
        exact tracked.update (.inl (mem_peers_of_lookup found)) (tracked.named peerId peer found)
      · exact tracked
  | identifyReceived peerId listenAddrs agentVersion =>
      exact tracked.update announces (entry_peerId tracked peerId)

theorem Tracked.tick (tracked : service.Tracked) (order : RowOrder PeerId) :
    (service.apply (.tick order)).Tracked := by
  simp only [DiscoveryService.apply]
  split
  · rename_i idle
    refine ⟨fun peerId _ => tracked.agree peerId ?_, tracked.follow, tracked.named, ?_,
      tracked.foreign, tracked.silent⟩
    · rintro ⟨stale, announcing⟩
      rw [idle] at announcing
      exact nomatch announcing
    · rintro peerId (member | stale)
      · exact tracked.known peerId (.inl member)
      · refine tracked.known peerId (.inl ?_)
        obtain ⟨entry, listed, rfl⟩ := List.mem_map.mp (order.mem_arrange.mp stale)
        exact List.mem_map_of_mem (List.mem_of_mem_filter listed)
  · exact tracked

theorem Tracked.clean (tracked : service.Tracked)
    (announces : service.AnnouncesChanges .clean) : service.clean.Tracked := by
  unfold DiscoveryService.clean
  split
  · exact tracked
  · rename_i peerId stale removing
    have listed : ∀ other, other ∈ peerId :: stale → other ∈ service.cleanup.peers := by
      intro other member
      rw [removing]
      exact member
    have channel := tracked.channel (.inr (listed peerId List.mem_cons_self))
    rw [if_pos channel]
    refine ⟨fun other idle => ?_, tracked.follow, fun other info found => ?_, ?_, tracked.foreign,
      tracked.silent⟩
    · have different : other ≠ peerId := by
        rintro rfl
        exact idle ⟨stale, rfl⟩
      have before : ¬service.InProgress other := by
        rintro ⟨stale', announcing⟩
        rw [removing] at announcing
        exact nomatch announcing
      rw [removePeer, AList.mem_erase, and_iff_right different]
      exact tracked.agree other before
    · by_cases same : other = peerId
      · rw [removePeer, same, AList.lookup_erase] at found
        exact nomatch found
      · rw [removePeer, AList.lookup_erase_ne same] at found
        exact tracked.named other info found
    · rintro other (member | pending)
      · exact tracked.known other (.inl (AList.mem_erase.mp member).2)
      · exact tracked.known other (.inr (listed other pending))
  · rename_i peerId stale announcing
    have listed : ∀ other, other ∈ peerId :: stale → other ∈ service.cleanup.peers := by
      intro other member
      rw [announcing]
      exact member
    have channel := tracked.channel (.inr (listed peerId List.mem_cons_self))
    refine ⟨fun other _ => ?_, ?_, tracked.named, ?_, ?_, ?_⟩
    · rw [announced_append, announcedAfter, Finset.mem_erase]
      by_cases same : other = peerId
      · subst same
        exact iff_of_false (fun both => both.1 rfl) (announces other ⟨stale, announcing⟩)
      · rw [and_iff_right same]
        refine tracked.agree other ?_
        rintro ⟨stale', announcing'⟩
        rw [announcing] at announcing'
        cases announcing'
        exact same rfl
    · refine tracked.follow.append fun other same => ?_
      cases same
      exact tracked.known _ (.inr (listed _ List.mem_cons_self))
    · rintro other (member | pending)
      · exact (tracked.known other (.inl member)).append _
      · exact (tracked.known other (.inr (listed other (List.mem_cons_of_mem _ pending)))).append _
    · rw [discovered_append_iff]
      rintro (before | ⟨info, same, -⟩)
      · exact tracked.foreign before
      · exact nomatch same
    · exact fun closed => absurd (channel.symm.trans closed) (by decide)

theorem Tracked.apply (tracked : service.Tracked) {step : DiscoveryStep}
    (announces : service.AnnouncesChanges step) : (service.apply step).Tracked := by
  cases step with
  | handle event => exact tracked.handle announces
  | tick order => exact tracked.tick order
  | clean => exact tracked.clean announces
  | wait duration => exact ⟨tracked.agree, tracked.follow, tracked.named, tracked.known,
      tracked.foreign, tracked.silent⟩

/-! ## The condition is needed -/

theorem Tracked.announcesChanges (tracked : service.Tracked) {step : DiscoveryStep}
    (consistent : (service.apply step).Consistent) : service.AnnouncesChanges step := by
  cases step with
  | tick order => trivial
  | wait duration => trivial
  | clean =>
      rintro peerId ⟨stale, announcing⟩ member
      have agree := consistent.agree peerId
      simp only [DiscoveryService.apply, DiscoveryService.clean, announcing, InProgress] at agree
      have announced := (agree (by simp)).mpr member
      rw [announced_append, announcedAfter, Finset.mem_erase] at announced
      exact announced.1 rfl
  | handle event =>
      cases event with
      | peerExpired peerId => trivial
      | pingResult peerId rtt => trivial
      | pingFailed peerId => trivial
      | kademlia => trivial
      | peerDiscovered peerId addresses =>
          intro other
          by_contra closed
          have silent := tracked.silent (by simpa using closed)
          have idle : ¬service.InProgress peerId := by
            rintro ⟨stale, announcing⟩
            have listed : peerId ∈ service.cleanup.peers := by
              rw [announcing]
              exact List.mem_cons_self
            exact closed (tracked.channel (.inr listed))
          simp only [DiscoveryService.apply, handleBehaviourEvent, if_neg other] at consistent
          rw [notify_of_silent (by exact closed)] at consistent
          have announced := (consistent.agree peerId idle).mpr ((AList.mem_insert _).mpr (.inl rfl))
          rw [putPeer, silent] at announced
          exact absurd announced (Finset.notMem_empty _)
      | identifyReceived peerId listenAddrs agentVersion =>
          rw [AnnouncesChanges, or_iff_not_imp_right]
          intro idle
          rw [← tracked.agree peerId idle]
          exact (consistent.agree peerId idle).mpr ((AList.mem_insert _).mpr (.inl rfl))

/-! ## Runs -/

/-- In every run the announcements agree with the map, removals follow discoveries and the service
does not know itself exactly if every change of the map is announced and none is overtaken. -/
theorem consistent_iff_announcesChanges (localPeerId : PeerId) (peerTimeout : Nat) (eventTx : Bool)
    (now : Time) (steps : List DiscoveryStep) :
    EveryState DiscoveryService.apply Consistent (new localPeerId peerTimeout eventTx now) steps ↔
      EveryStep DiscoveryService.apply AnnouncesChanges
        (new localPeerId peerTimeout eventTx now) steps :=
  everyState_iff_of_restores Tracked (fun _ tracked => tracked.consistent)
    (fun _ _ tracked announces => tracked.apply announces)
    (fun _ _ tracked consistent => tracked.announcesChanges consistent)
    (tracked_new localPeerId peerTimeout eventTx now) steps

/-- A peer that is identified first enters the map unannounced, the service that is told its own
identity knows itself, and a peer that is discovered again while its removal is in progress is
announced removed. -/
theorem not_consistent_of_identify :
    ¬EveryState DiscoveryService.apply Consistent (new "self" 0 true 0)
        [.handle (.identifyReceived "peer" [] "agent")] ∧
      ¬EveryState DiscoveryService.apply Consistent (new "self" 0 true 0)
        [.handle (.identifyReceived "self" [] "agent")] ∧
      ¬EveryState DiscoveryService.apply Consistent (new "self" 0 true 0)
        [.handle (.peerDiscovered "peer" []), .wait 1, .tick .insertion, .clean,
          .handle (.peerDiscovered "peer" []), .clean] := by
  refine ⟨fun consistent => ?_, fun consistent => ?_, fun consistent => ?_⟩
  · have announced := (consistent.last.agree "peer" fun ⟨_, announcing⟩ =>
      nomatch announcing).mpr (by decide)
    exact absurd announced (by decide)
  · exact consistent.last.self (by decide)
  · have announced := (consistent.last.agree "peer" fun ⟨_, announcing⟩ =>
      nomatch announcing).mpr (by decide)
    exact absurd announced (by decide)

end DiscoveryService

end CyxCloud.Network
