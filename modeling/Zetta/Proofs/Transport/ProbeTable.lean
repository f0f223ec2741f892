import Zetta.Proofs.Transport.Eliciting
import Zetta.Proofs.Transport.PathMtu

/-! The table of MTU probes and the probes in flight, and what became of the probes that left. -/

namespace Zetta

/-- The number of a probe and the size it tries. -/
def probeOf (entry : Nat × UnackedPacket) : Option (Nat × Nat) :=
  match entry.2.payload with
  | .mtuProbe target => some (entry.1, target)
  | _ => none

/-- The probes among some packets. -/
def probesIn (packets : List (Nat × UnackedPacket)) : List (Nat × Nat) := packets.filterMap probeOf

/-- A probe among some packets is one of them. -/
theorem mem_probesIn {packets : List (Nat × UnackedPacket)} {probe : Nat × Nat} :
    probe ∈ probesIn packets ↔ ∃ entry ∈ packets, probeOf entry = some probe := List.mem_filterMap

/-- Only packets marked as probes are among them. -/
theorem probeOf_eq_some {entry : Nat × UnackedPacket} {probe : Nat × Nat} :
    probeOf entry = some probe ↔ entry.1 = probe.1 ∧ entry.2.payload = .mtuProbe probe.2 := by
  unfold probeOf
  cases entry.2.payload <;> simp [Prod.ext_iff]

/-- Whether a packet is a probe shows in its payload. -/
theorem isProbe_of_probeOf {entry : Nat × UnackedPacket} {probe : Nat × Nat}
    (same : probeOf entry = some probe) : entry.2.payload.isProbe = true := by
  rw [(probeOf_eq_some.mp same).2]
  rfl

/-- A payload that is no probe adds none. -/
theorem probeOf_eq_none {entry : Nat × UnackedPacket} (plain : entry.2.payload.isProbe = false) :
    probeOf entry = none := by
  cases found : probeOf entry with
  | none => rfl
  | some probe =>
    rw [isProbe_of_probeOf found] at plain
    cases plain

/-- Packets in flight have different numbers. -/
theorem UnackedWindow.numbers_nodup (self : UnackedWindow) : (self.iter.map Prod.fst).Nodup :=
  self.map.keys_nodup

/-- So those that left have other numbers than those that stayed. -/
theorem UnackedWindow.numbers_disjoint {before after : UnackedWindow} {gone : List (Nat × UnackedPacket)}
    (parts : before.iter.Perm (gone ++ after.iter)) {left stayed : Nat × UnackedPacket}
    (first : left ∈ gone) (second : stayed ∈ after.iter) : left.1 ≠ stayed.1 := by
  have distinct := (parts.map Prod.fst).nodup_iff.mp before.numbers_nodup
  rw [List.map_append] at distinct
  exact (List.nodup_append.mp distinct).2.2 _ (List.mem_map_of_mem first) _ (List.mem_map_of_mem second)

namespace Books

/-- What is left in the table after some packets took their entries out of it. -/
theorem mem_forgotten {packets : List (Nat × UnackedPacket)} {table : SortedMap Nat Nat}
    {probe : Nat × Nat} : probe ∈ (packets.foldl forget table).entries ↔
      probe ∈ table.entries ∧ ∀ entry ∈ packets, entry.2.isMtuProbe = true → entry.1 ≠ probe.1 := by
  induction packets generalizing table with
  | nil => simp
  | cons entry rest ih =>
    rw [List.foldl_cons, ih, List.forall_mem_cons]
    unfold forget
    split
    · rename_i mark
      rw [SortedMap.mem_entries_erase]
      simp only [mark, true_implies]
      tauto
    · rename_i plain
      simp [plain]

/-- Every probe that is given up is counted once. -/
theorem recordLoss_probes {packets : List (Nat × UnackedPacket)} (failures : Nat)
    (marked : ∀ entry ∈ packets, entry.2.isMtuProbe = entry.2.payload.isProbe) :
    packets.foldl recordLoss failures =
      (probesIn packets).foldl (fun failures _ => saturatingAdd failures 1) failures := by
  induction packets generalizing failures with
  | nil => rfl
  | cons entry rest ih =>
    obtain ⟨own, others⟩ := List.forall_mem_cons.mp marked
    rw [List.foldl_cons, ih _ others]
    unfold probesIn recordLoss
    cases found : probeOf entry with
    | none =>
      have plain : entry.2.payload.isProbe = false := by
        by_contra probe
        unfold probeOf at found
        cases payload : entry.2.payload <;> simp_all [UnackedPayload.isProbe]
      rw [List.filterMap_cons_none found, own, plain]
      rfl
    | some probe =>
      have isProbe := isProbe_of_probeOf found
      rw [List.filterMap_cons_some found, own, isProbe]
      rfl

/-- The numbers of the probes are among the numbers of the packets. -/
theorem probesIn_numbers (packets : List (Nat × UnackedPacket)) :
    ((probesIn packets).map Prod.fst).Sublist (packets.map Prod.fst) := by
  induction packets with
  | nil => exact .slnil
  | cons entry rest ih =>
    unfold probesIn at ih ⊢
    cases found : probeOf entry with
    | none =>
      rw [List.filterMap_cons_none found]
      exact ih.cons _
    | some probe =>
      rw [List.filterMap_cons_some found, List.map_cons, List.map_cons, (probeOf_eq_some.mp found).1]
      exact ih.cons_cons _

/-- Which probes are in flight depends on the contents of the window only. -/
theorem probesIn_contents {left right : UnackedWindow} (same : left.contents = right.contents) :
    probesIn left.iter = probesIn right.iter := by
  have select : ∀ window : UnackedWindow, probesIn window.iter = window.contents.filterMap fun entry =>
      match entry.2.1 with
      | .mtuProbe target => some (entry.1, target)
      | _ => none := by
    intro window
    unfold UnackedWindow.contents
    rw [List.filterMap_map]
    rfl
  rw [select, same, ← select]

/-- A packet sent under the next number is a probe more, or none. -/
theorem probesIn_launched {window : UnackedWindow} {number : Nat} (packet : UnackedPacket)
    (past : window.extent ≤ number) :
    probesIn (window.insert number packet).iter =
      probesIn window.iter ++ (probeOf (number, packet)).toList := by
  unfold probesIn
  rw [UnackedWindow.iter_insert_end packet past, List.filterMap_append]
  cases found : probeOf (number, packet) <;> simp [found]

/-- The probes of a window are those that leave it and those that stay. -/
theorem probesIn_parts {window rest : UnackedWindow} {gone : List (Nat × UnackedPacket)}
    (parts : window.iter.Perm (gone ++ rest.iter)) {probe : Nat × Nat} :
    probe ∈ probesIn window.iter ↔ probe ∈ probesIn gone ∨ probe ∈ probesIn rest.iter := by
  have split : (probesIn window.iter).Perm (probesIn gone ++ probesIn rest.iter) := by
    unfold probesIn
    rw [← List.filterMap_append]
    exact parts.filterMap _
  rw [split.mem_iff, List.mem_append]

/-- A probe in flight has a number below the next one. -/
theorem probe_lt_extent {window : UnackedWindow} {probe : Nat × Nat}
    (member : probe ∈ probesIn window.iter) : probe.1 < window.extent := by
  obtain ⟨entry, stored, same⟩ := mem_probesIn.mp member
  rw [← (probeOf_eq_some.mp same).1]
  exact UnackedWindow.lt_extent_of_mem stored

/-- The table of probes lists the probes in flight, none of which may be passed over. -/
structure Tabled (tracked : Nat → Prop) (books : Books) : Prop where
  extent : books.unackedPackets.extent ≤ books.nextPacketNumber
  table : ∀ probe, probe ∈ books.mtuProbes.entries ↔ probe ∈ probesIn books.unackedPackets.iter
  tracked : ∀ probe ∈ probesIn books.unackedPackets.iter, tracked probe.1
  /-- A handshake under way has no keys to send a probe with. -/
  entering : books.ephemeralSecret.isSome = true →
    books.crypto = none ∧ probesIn books.unackedPackets.iter = []

/--
What became of the probes in flight at some point: each is still there, or was reported as received,
or was given up, and those given up were counted once each.
-/
structure Resolved (reports : Nat → Prop) (first : List (Nat × Nat)) (failures : Nat) (books : Books)
    (acked failed : List (Nat × Nat)) : Prop where
  parts : ∀ probe ∈ first, probe ∈ probesIn books.unackedPackets.iter ∨ probe ∈ acked ∨ probe ∈ failed
  acked : ∀ probe ∈ acked, reports probe.1
  distinct : (failed.map Prod.fst).Nodup
  left : ∀ probe ∈ failed, probe.1 < books.nextPacketNumber ∧
    ∀ entry ∈ books.unackedPackets.iter, entry.1 ≠ probe.1
  counted : books.probeFailures = failed.foldl (fun failures _ => saturatingAdd failures 1) failures

end Books

/-- Only some numbers are reported, and tracked probes are not passed over. -/
def Licence.tracking (tracked reports : Nat → Prop) : Licence :=
  { Licence.free with
    probes := fun books => tracked books.nextPacketNumber
    reports := reports
    outdates := fun pn => ¬ tracked pn }

namespace Books

variable {tracked reports : Nat → Prop} {first : List (Nat × Nat)} {failures : Nat}

/-- Forgetting the packets that were reported or lost leaves the probes that stayed. -/
theorem Tabled.settled {books : Books} (tabled : books.Tabled tracked) (marked : books.Marked)
    {window : UnackedWindow} {reported outdated lost : List (Nat × UnackedPacket)}
    (parts : books.unackedPackets.iter.Perm (((reported ++ outdated) ++ lost) ++ window.iter))
    (old : ∀ entry ∈ outdated, ¬ tracked entry.1) (probe : Nat × Nat) :
    probe ∈ ((reported ++ lost).foldl forget books.mtuProbes).entries ↔
      probe ∈ probesIn window.iter := by
  rw [mem_forgotten, tabled.table]
  constructor
  · rintro ⟨member, untouched⟩
    rcases (probesIn_parts parts).mp member with gone | stayed
    · -- A probe that left was reported or lost, since none is passed over.
      obtain ⟨entry, left, same⟩ := mem_probesIn.mp gone
      have mark : entry.2.isMtuProbe = true :=
        (marked.window entry (parts.mem_iff.mpr (List.mem_append_left _ left))).trans
          (isProbe_of_probeOf same)
      have number := (probeOf_eq_some.mp same).1
      rcases List.mem_append.mp left with early | late
      · rcases List.mem_append.mp early with told | passed
        · exact absurd number (untouched entry (List.mem_append_left _ told) mark)
        · exact absurd (tabled.tracked probe member) (number ▸ old entry passed)
      · exact absurd number (untouched entry (List.mem_append_right _ late) mark)
    · exact stayed
  · intro stayed
    refine ⟨(probesIn_parts parts).mpr (.inr stayed), fun entry left _ same => ?_⟩
    obtain ⟨other, stored, found⟩ := mem_probesIn.mp stayed
    have gone : entry ∈ (reported ++ outdated) ++ lost := by
      rcases List.mem_append.mp left with told | late
      · exact List.mem_append_left _ (List.mem_append_left _ told)
      · exact List.mem_append_right _ late
    exact UnackedWindow.numbers_disjoint parts gone stored
      (same.trans (probeOf_eq_some.mp found).1.symm)

/-- A new packet leaves what became of the others as it is. -/
theorem Resolved.launched {before after : Books} {acked failed : List (Nat × Nat)}
    (resolved : before.Resolved reports first failures acked failed)
    (extent : before.unackedPackets.extent ≤ before.nextPacketNumber) (packet : UnackedPacket)
    (window : after.unackedPackets = before.unackedPackets.insert before.nextPacketNumber packet)
    (number : after.nextPacketNumber = before.nextPacketNumber + 1)
    (same : after.probeFailures = before.probeFailures) :
    after.Resolved reports first failures acked failed where
  parts probe member := by
    rw [window, probesIn_launched packet extent]
    exact (resolved.parts probe member).imp_left (List.mem_append_left _)
  acked := resolved.acked
  distinct := resolved.distinct
  left probe member := by
    obtain ⟨below, gone⟩ := resolved.left probe member
    refine ⟨by omega, fun entry stored => ?_⟩
    rw [window] at stored
    rcases UnackedWindow.mem_iter_insert stored with rfl | old
    · exact Nat.ne_of_gt below
    · exact gone entry old
  counted := same.trans resolved.counted

/-- Packets that leave are reported, or given up and counted, as far as they are probes. -/
theorem Resolved.settled {before after : Books} {acked failed : List (Nat × Nat)}
    (resolved : before.Resolved reports first failures acked failed) (marked : before.Marked)
    (tabled : before.Tabled tracked) {reported outdated lost : List (Nat × UnackedPacket)}
    (parts : before.unackedPackets.iter.Perm
      (((reported ++ outdated) ++ lost) ++ after.unackedPackets.iter))
    (told : ∀ entry ∈ reported, reports entry.1) (old : ∀ entry ∈ outdated, ¬ tracked entry.1)
    (number : after.nextPacketNumber = before.nextPacketNumber)
    (count : after.probeFailures = lost.foldl recordLoss before.probeFailures) :
    after.Resolved reports first failures (acked ++ probesIn reported) (failed ++ probesIn lost) where
  parts probe member := by
    rcases resolved.parts probe member with flying | known | counted
    · rcases (probesIn_parts parts).mp flying with gone | stayed
      · obtain ⟨entry, left, same⟩ := mem_probesIn.mp gone
        rcases List.mem_append.mp left with early | late
        · rcases List.mem_append.mp early with reports | passed
          · exact .inr (.inl (List.mem_append_right _ (mem_probesIn.mpr ⟨entry, reports, same⟩)))
          · exact absurd (tabled.tracked probe flying) ((probeOf_eq_some.mp same).1 ▸ old entry passed)
        · exact .inr (.inr (List.mem_append_right _ (mem_probesIn.mpr ⟨entry, late, same⟩)))
      · exact .inl stayed
    · exact .inr (.inl (List.mem_append_left _ known))
    · exact .inr (.inr (List.mem_append_left _ counted))
  acked := by
    refine List.forall_mem_append.mpr ⟨resolved.acked, fun probe member => ?_⟩
    obtain ⟨entry, left, same⟩ := mem_probesIn.mp member
    rw [← (probeOf_eq_some.mp same).1]
    exact told entry left
  distinct := by
    rw [List.map_append]
    refine List.nodup_append.mpr ⟨resolved.distinct, ?_, ?_⟩
    · -- The numbers of lost probes are among the numbers of the window.
      have whole := (parts.map Prod.fst).nodup_iff.mp before.unackedPackets.numbers_nodup
      rw [List.map_append, List.map_append] at whole
      exact (probesIn_numbers lost).nodup (List.nodup_append.mp (List.nodup_append.mp whole).1).2.1
    · -- Those counted before are not in the window any more.
      intro one counted other lately same
      obtain ⟨probe, member, rfl⟩ := List.mem_map.mp counted
      obtain ⟨late, found, rfl⟩ := List.mem_map.mp lately
      obtain ⟨entry, left, matches_⟩ := mem_probesIn.mp found
      have stored := parts.mem_iff.mpr
        (List.mem_append_left _ (List.mem_append_right (reported ++ outdated) left))
      exact (resolved.left probe member).2 entry stored ((probeOf_eq_some.mp matches_).1.trans same.symm)
  left := by
    rw [number]
    refine List.forall_mem_append.mpr ⟨fun probe member => ?_, fun probe member => ?_⟩
    · obtain ⟨below, gone⟩ := resolved.left probe member
      exact ⟨below, fun entry stored =>
        gone entry (parts.mem_iff.mpr (List.mem_append_right _ stored))⟩
    · obtain ⟨entry, left, same⟩ := mem_probesIn.mp member
      have gone := List.mem_append_right (reported ++ outdated) left
      have held := parts.mem_iff.mpr (List.mem_append_left after.unackedPackets.iter gone)
      rw [← (probeOf_eq_some.mp same).1]
      exact ⟨(UnackedWindow.lt_extent_of_mem held).trans_le tabled.extent, fun other stored =>
        (UnackedWindow.numbers_disjoint parts gone stored).symm⟩
  counted := by
    have flags : ∀ entry ∈ lost, entry.2.isMtuProbe = entry.2.payload.isProbe := fun entry left =>
      marked.window entry (parts.mem_iff.mpr
        (List.mem_append_left _ (List.mem_append_right (reported ++ outdated) left)))
    rw [count, recordLoss_probes _ flags, resolved.counted, List.foldl_append]

/-- What the table says is said of the packets in flight. -/
theorem Tabled.of_flight {after : Books} {flight : Flight} (same : after.flight = flight)
    (extent : flight.window.extent ≤ flight.number)
    (table : ∀ probe, probe ∈ flight.probes.entries ↔ probe ∈ probesIn flight.window.iter)
    (own : ∀ probe ∈ probesIn flight.window.iter, tracked probe.1)
    (entering : after.ephemeralSecret.isSome = true →
      after.crypto = none ∧ probesIn flight.window.iter = []) : after.Tabled tracked := by
  subst same
  exact ⟨extent, table, own, entering⟩

/-- A handshake under way after a deed was under way before it, without keys all along. -/
theorem Tabled.handshaking [Hkdf] {licence : Licence} {before after : Books}
    (tabled : before.Tabled tracked) (deed : Deed licence before after)
    (held : after.ephemeralSecret.isSome = true) :
    before.crypto = none ∧ after.crypto = none ∧ probesIn before.unackedPackets.iter = [] := by
  cases deed.keyStep with
  | kept crypto _ secret _ =>
    obtain ⟨keyless, none⟩ := tabled.entering (secret ▸ held)
    exact ⟨keyless, crypto.trans keyless, none⟩
  | moved keys _ _ secret _ =>
    rw [(tabled.entering (secret ▸ held)).1] at keys
    cases keys
  | installed _ _ _ _ secret =>
    rw [secret] at held
    cases held

/-- Every deed keeps the table, if no tracked probe is passed over. -/
theorem tabled_keeps [Hkdf] : Books.Keeps (Licence.tracking tracked reports) fun books =>
    books.Marked ∧ books.Tabled tracked where
  host _ _ holds := ⟨⟨holds.1.queue, holds.1.hand, holds.1.window⟩,
    ⟨holds.2.extent, holds.2.table, holds.2.tracked, holds.2.entering⟩⟩
  deed := by
    intro before after deed holds
    obtain ⟨marked, tabled⟩ := holds
    refine ⟨(marked_keeps _).deed deed marked, ?_⟩
    have entering := tabled.handshaking deed
    have extent := tabled.extent
    cases deed.flightStep with
    | kept later same =>
      exact .of_flight same (extent.trans later) tabled.table tabled.tracked fun held =>
        (entering held).2
    | @launched packet held mark same =>
      have probes := probesIn_launched packet extent
      have plain : probeOf (before.nextPacketNumber, packet) = none := probeOf_eq_none (marked.plain held)
      rw [plain, Option.toList_none, List.append_nil] at probes
      refine .of_flight same (UnackedWindow.extent_insert_end packet extent).le ?_ ?_ ?_ <;>
        dsimp only [flight] <;> rw [probes]
      · exact tabled.table
      · exact tabled.tracked
      · exact fun held => (entering held).2
    | @probed now target size may _ _ keys _ same =>
      have probes : probesIn (before.unackedPackets.insert before.nextPacketNumber
          ⟨.mtuProbe target, now, 0, true, size⟩).iter =
          probesIn before.unackedPackets.iter ++ [(before.nextPacketNumber, target)] :=
        probesIn_launched _ extent
      refine .of_flight same (UnackedWindow.extent_insert_end _ extent).le ?_ ?_ fun held => ?_
      · intro probe
        dsimp only
        rw [probes, SortedMap.mem_entries_insert, tabled.table, List.mem_append, List.mem_singleton,
          or_comm]
        -- Every other probe has a lower number.
        refine or_congr_left ⟨And.right, fun member => ⟨?_, member⟩⟩
        exact Nat.ne_of_lt ((probe_lt_extent member).trans_le extent)
      · dsimp only
        rw [probes]
        exact List.forall_mem_append.mpr ⟨tabled.tracked, List.forall_mem_singleton.mpr may⟩
      · rw [(entering held).1] at keys
        cases keys
    | completed secret same =>
      -- There were no probes to lose.
      have none := (tabled.entering secret).2
      refine .of_flight same (Nat.zero_le _) (fun probe => ?_) nofun fun held => ⟨(entering held).2.1, rfl⟩
      show probe ∈ before.mtuProbes.entries ↔ _
      rw [tabled.table, none]
      rfl
    | @rescanned window rest contents same =>
      have probes : probesIn window.iter = probesIn before.unackedPackets.iter :=
        probesIn_contents contents
      refine .of_flight same (rest.trans_le extent) ?_ ?_ ?_ <;> dsimp only [flight] <;> rw [probes]
      · exact tabled.table
      · exact tabled.tracked
      · exact fun held => (entering held).2
    | settled parts rest _ _ fates same =>
      have fewer : ∀ {probe : Nat × Nat}, probe ∈ probesIn _ → probe ∈ probesIn before.unackedPackets.iter :=
        fun stayed => (probesIn_parts parts).mpr (.inr stayed)
      cases fates with
      | mk _ old =>
        refine .of_flight same (rest.trans_le extent) (tabled.settled marked parts old)
          (fun probe stayed => tabled.tracked probe (fewer stayed)) fun held => ⟨(entering held).2.1, ?_⟩
        refine List.eq_nil_iff_forall_not_mem.mpr fun probe stayed => ?_
        have member := fewer stayed
        rw [(entering held).2.2] at member
        cases member

/-- What became of the probes in flight at some point is known after every deed. -/
theorem resolved_keeps [Hkdf] (first : List (Nat × Nat)) (failures : Nat) :
    Books.Keeps (Licence.tracking tracked reports) fun books =>
      (books.Marked ∧ books.Tabled tracked) ∧
        ∃ acked failed, books.Resolved reports first failures acked failed where
  host books sends holds := by
    obtain ⟨kept, acked, failed, resolved⟩ := holds
    have same := (@tabled_keeps tracked reports _).host books sends kept
    exact ⟨same, acked, failed, resolved.parts, resolved.acked,
      resolved.distinct, resolved.left, resolved.counted⟩
  deed := by
    intro before after deed holds
    obtain ⟨⟨marked, tabled⟩, acked, failed, resolved⟩ := holds
    refine ⟨tabled_keeps.deed deed ⟨marked, tabled⟩, ?_⟩
    cases deed.flightStep with
    | kept later same =>
      obtain ⟨window, -, number, -, -, count⟩ := Flight.mk.inj same
      refine ⟨acked, failed, window ▸ resolved.parts, resolved.acked, resolved.distinct,
        fun probe member => ?_, count.trans resolved.counted⟩
      obtain ⟨below, gone⟩ := resolved.left probe member
      exact ⟨number ▸ below.trans_le later, window ▸ gone⟩
    | @launched packet _ _ same =>
      obtain ⟨window, -, number, -, -, count⟩ := Flight.mk.inj same
      exact ⟨acked, failed, resolved.launched tabled.extent packet window number count⟩
    | @probed now target size _ _ _ _ _ same =>
      obtain ⟨window, -, number, -, -, count⟩ := Flight.mk.inj same
      exact ⟨acked, failed, resolved.launched tabled.extent _ window number count⟩
    | completed secret same =>
      obtain ⟨window, -, number, -, -, count⟩ := Flight.mk.inj same
      have none := (tabled.entering secret).2
      refine ⟨acked, failed, fun probe member => ?_, resolved.acked, resolved.distinct,
        fun probe member => ⟨number ▸ (resolved.left probe member).1, window ▸ nofun⟩,
        count.trans resolved.counted⟩
      -- No probe was in flight, so none is lost with the window.
      refine (resolved.parts probe member).imp_left fun flying => ?_
      rw [none] at flying
      cases flying
    | @rescanned scanned _ contents same =>
      obtain ⟨window, -, number, -, -, count⟩ := Flight.mk.inj same
      have probes := probesIn_contents contents
      refine ⟨acked, failed, fun probe member => ?_, resolved.acked, resolved.distinct,
        fun probe member => ⟨number ▸ (resolved.left probe member).1, fun entry stored => ?_⟩,
        count.trans resolved.counted⟩
      · rw [window, probes]
        exact resolved.parts probe member
      · rw [window] at stored
        obtain ⟨old, held, numbered, -⟩ := UnackedWindow.mem_of_contents contents stored
        exact numbered ▸ (resolved.left probe member).2 old held
    | settled parts _ _ _ fates same =>
      obtain ⟨window, -, number, -, -, count⟩ := Flight.mk.inj same
      cases fates with
      | mk told old =>
        exact ⟨_, _, resolved.settled marked tabled (window ▸ parts) told old number count⟩

end Books

namespace ZtConnectionActor

open Books Program

variable {CC : Type}

/-- An event reports a packet number as received. -/
def Reported (event : Event) (pn : Nat) : Prop :=
  ∃ packet addr largest window delay ranges, event = .incomingPacket packet addr ∧
    .ack largest window delay ranges ∈ packet.frames ∧ Frame.Reports ranges pn

/-- No acknowledgment passes over a probe in flight: one too old to be tracked is in its ranges. -/
def Unskipped (self : ZtConnectionActor CC) (event : Event) (_ : Host) : Prop :=
  ∀ packet addr, event = .incomingPacket packet addr →
    ∀ largest window delay ranges, .ack largest window delay ranges ∈ packet.frames →
      ∀ probe ∈ probesIn self.unackedPackets.iter, probe.1 < largest - 2047 →
        Frame.Reports ranges probe.1

/--
The probes a turn can tell apart: any number, if no packet arrives, and otherwise those in flight when
it arrives.
-/
def tracks (self : ZtConnectionActor CC) (event : Event) (pn : Nat) : Prop :=
  ∀ packet addr, event = .incomingPacket packet addr →
    ∃ probe ∈ probesIn self.unackedPackets.iter, probe.1 = pn

/-- Then no turn passes over a probe it can tell apart. -/
theorem Unskipped.covers {self : ZtConnectionActor CC} {event : Event} {host : Host}
    (clear : self.Unskipped event host) :
    (Licence.tracking (self.tracks event) (Reported event)).Covers event { self with host := host } :=
  { Licence.free_covers event { self with host := host } with
    probes := fun due _ packet addr arrives => by rw [due] at arrives; cases arrives
    receives := fun packet addr arrives =>
      { closes := .inl fun _ => trivial
        pushes := fun _ _ _ => trivial
        names := fun _ => trivial
        acknowledges := fun largest window delay ranges member =>
          ⟨fun pn reports => ⟨packet, addr, largest, window, delay, ranges, arrives, member, reports⟩,
            fun pn old silent tracked => by
              obtain ⟨probe, flying, rfl⟩ := tracked packet addr arrives
              exact silent (clear packet addr arrives largest window delay ranges member probe flying old)⟩ } }

variable [Hkdf] [HandshakeCrypto] [CongestionController CC]

/-- What a turn does to the probes it finds in flight. -/
def Resolves (self : ZtConnectionActor CC) (event : Event) (host : Host) : Prop :=
  ∃ acked failed : List (Nat × Nat),
    (∀ probe ∈ probesIn self.unackedPackets.iter,
      probe ∈ probesIn (self.step event host).unackedPackets.iter ∨ probe ∈ acked ∨ probe ∈ failed) ∧
    (∀ probe ∈ acked, Reported event probe.1) ∧ (failed.map Prod.fst).Nodup ∧
    (self.step event host).mtuProbeFailures =
      failed.foldl (fun failures _ => saturatingAdd failures 1) self.mtuProbeFailures

/-- One turn keeps the table, and every probe it takes out of flight is reported or counted. -/
theorem Unskipped.step {self : ZtConnectionActor CC} {event : Event} {host : Host}
    (clear : self.Unskipped event host) (marked : (self.books []).Marked)
    (tabled : (self.books []).Tabled fun _ => True) :
    (((self.step event host).books []).Marked ∧
      ((self.step event host).books []).Tabled fun _ => True) ∧ self.Resolves event host := by
  have start : ((self.books []).Marked ∧ (self.books []).Tabled (self.tracks event)) ∧
      ∃ acked failed, (self.books []).Resolved (Reported event) (probesIn self.unackedPackets.iter)
        self.mtuProbeFailures acked failed :=
    ⟨⟨marked, tabled.extent, tabled.table, fun probe member _ _ _ => ⟨probe, member, rfl⟩,
      tabled.entering⟩, [], [], fun _ member => .inl member, nofun, .nil, nofun, rfl⟩
  obtain ⟨⟨marks, table⟩, acked, failed, resolved⟩ :=
    (resolved_keeps (probesIn self.unackedPackets.iter) self.mtuProbeFailures).step clear.covers start
  exact ⟨⟨marks, table.extent, table.table, fun _ _ => trivial, table.entering⟩,
    acked, failed, resolved.parts, resolved.acked, resolved.distinct, resolved.counted⟩

/--
In every run in which no acknowledgment passes over a probe that is too old to be tracked, the table of
probes lists exactly the probes in flight with the sizes they try, and every probe that a turn takes
out of flight was reported as received in a range or is counted as a failure, once.
-/
theorem probeTable_exact [EndpointCrypto] {actor : ZtConnectionActor CC} (created : Created actor)
    (host : Host) {events : List (Event × Host)}
    (clear : (actor.start host).Throughout Unskipped events) :
    (∀ probe, probe ∈ ((actor.start host).turns events).mtuProbes.entries ↔
      probe ∈ probesIn ((actor.start host).turns events).unackedPackets.iter) ∧
      (actor.start host).Throughout Resolves events := by
  -- A new connection has no probes, and a client has no keys.
  have new : (actor.books []).Marked ∧ (actor.books []).Tabled fun _ => True := by
    cases created with
    | client controller seed role host =>
      exact ⟨⟨nofun, nofun, nofun⟩, Nat.zero_le _, fun _ => Iff.rfl, nofun, fun _ => ⟨rfl, rfl⟩⟩
    | server identity accepted =>
      exact ⟨⟨nofun, nofun, nofun⟩, Nat.zero_le _, fun _ => Iff.rfl, nofun, nofun⟩
  have keeps : Books.Keeps (Licence.tracking (fun _ => True) fun _ => True) fun books =>
      books.Marked ∧ books.Tabled fun _ => True := tabled_keeps
  have begun : ((actor.start host).books []).Marked ∧
      ((actor.start host).books []).Tabled fun _ => True := keeps.start new
  have step (self : ZtConnectionActor CC) (event : Event) (host : Host)
      (clear : self.Unskipped event host)
      (holds : (self.books []).Marked ∧ (self.books []).Tabled fun _ => True) :
      (((self.step event host).books []).Marked ∧
        ((self.step event host).books []).Tabled fun _ => True) ∧ self.Resolves event host :=
    clear.step holds.1 holds.2
  obtain ⟨kept, resolved⟩ := turns_throughout step clear begun
  exact ⟨kept.2.table, resolved⟩

/-- Packet numbers are used up, and nothing else changes but what was sent and the host. -/
def UsesUp (count : Nat) (before after : ZtConnectionActor CC) : Prop :=
  ∃ encryptions log bytesSent host, after = { before with
    nextPacketNumber := before.nextPacketNumber + count
    encryptions := encryptions
    log := log
    bytesSent := bytesSent
    host := host }

omit [Hkdf] [HandshakeCrypto] [CongestionController CC] in
/-- The fields that change are those of the state after. -/
theorem UsesUp.eq {count : Nat} {before after : ZtConnectionActor CC} (uses : UsesUp count before after) :
    after = { before with
      nextPacketNumber := before.nextPacketNumber + count
      encryptions := after.encryptions
      log := after.log
      bytesSent := after.bytesSent
      host := after.host } := by
  obtain ⟨encryptions, log, bytesSent, host, rfl⟩ := uses
  rfl

omit [Hkdf] [HandshakeCrypto] [CongestionController CC] in
/-- A socket that takes a packet is the only one to change. -/
theorem sendmsgVectored_taken {self : ZtConnectionActor CC} (active : self.state = .active)
    (takes : self.host.sends.head? = some .sent) (packet : Packet) (epoch : Nat) :
    ∃ log bytesSent host, (exec (sendmsgVectored packet epoch) self).2 =
      { self with log := log, bytesSent := bytesSent, host := host } := by
  have handed := self.sendmsgVectored_handed packet epoch
  generalize exec (sendmsgVectored packet epoch) self = result at handed ⊢
  cases handed with
  | limited state => exact absurd (state.symm.trans active) nofun
  | taken => exact ⟨_, _, _, rfl⟩
  | refused _ _ calm =>
    rw [calm takes]
    exact ⟨self.log, self.bytesSent, _, rfl⟩

omit [Hkdf] [HandshakeCrypto] [CongestionController CC] in
/-- A control frame sent at once from an active connection uses up a number. -/
theorem sendFrameImmediate_usesUp {self : ZtConnectionActor CC} {crypto : CryptoContext}
    (active : self.state = .active) (keys : self.crypto = some crypto)
    (fits : self.nextPacketNumber + 1 < u64Size) (takes : self.host.sends.head? = some .sent)
    (frame : Frame) : UsesUp 1 self (exec (sendFrameImmediate frame self.addr) self).2 := by
  unfold sendFrameImmediate
  have drawn := self.getNextPacketNumber_exact.resolve_left fun spent => absurd fits (not_lt.mpr spent.1)
  rw [exec_bind_ok drawn.2, exec_bind_get]
  generalize numbered : ({ self with nextPacketNumber := self.nextPacketNumber + 1 } :
    ZtConnectionActor CC) = ready
  have same : ready.crypto = some crypto ∧ ready.state = .active ∧ ready.host = self.host := by
    subst numbered
    exact ⟨keys, active, rfl⟩
  rw [← same.2.2] at takes
  rcases protectPacket_eq same.1 (ready.shortHeader .data self.nextPacketNumber)
    (padShort (ready.shortHeader .data self.nextPacketNumber).pnLen frame.encode) with
    ⟨-, rest, refuses, -⟩ | ⟨-, sealed⟩
  · rw [refuses] at takes
    cases takes
  rw [exec_bind_ok sealed]
  dsimp only
  rw [exec_bind_modify, exec_bind_attempt, exec_bind_modify]
  generalize sealedPacket crypto _ _ = packet
  generalize sealing crypto _ _ = encryption
  obtain ⟨log, bytesSent, host, sent⟩ := @sendmsgVectored_taken CC
    { ready.encrypting encryption with addr := self.addr } same.2.1 takes packet crypto.epoch
  -- The address is put back, and the outcome handed on.
  have restored : UsesUp 1 self { (exec (sendmsgVectored packet crypto.epoch)
      { ready.encrypting encryption with addr := self.addr }).2 with addr := ready.addr } := by
    rw [sent, ← numbered]
    exact ⟨_, log, bytesSent, host, rfl⟩
  split <;> exact restored

/-- The application asks for a stream it may not open: the peer is told under a number of its own. -/
theorem openStream_usesUp {self : ZtConnectionActor CC} {crypto : CryptoContext}
    (running : self.running = true) (active : self.state = .active) (keys : self.crypto = some crypto)
    (fits : self.nextPacketNumber + 1 < u64Size)
    (full : self.peerMaxStreams ≤ self.openedStreams self.localParity) {host : Host}
    (takes : host.sends.head? = some .sent) :
    UsesUp 1 self (self.step (.openStream .bidirectional) host) := by
  unfold step
  rw [if_neg (by simp [running]), if_neg (by simp [active])]
  show UsesUp 1 self (exec (openStream .bidirectional) { self with host := host }).2
  unfold openStream
  rw [exec_bind_get, if_neg (by decide)]
  split
  case isFalse below => exact absurd full below
  rw [exec_bind_logged]
  have ready : ({ self with host := host } : ZtConnectionActor CC).host.sends.head? = some .sent := takes
  obtain ⟨encryptions, log, bytesSent, host, sent⟩ :=
    @sendFrameImmediate_usesUp CC { self with host := host } crypto active keys fits ready
      (.streamsBlocked (self.peerMaxStreams % u64Size))
  refine ⟨encryptions, log, bytesSent, host, ?_⟩
  show (exec (sendFrameImmediate (.streamsBlocked (self.peerMaxStreams % u64Size)) self.addr) _).2 = _
  rw [sent]

/-- It may ask any number of times. -/
theorem openStreams_usesUp {self : ZtConnectionActor CC} {crypto : CryptoContext}
    (running : self.running = true) (active : self.state = .active) (keys : self.crypto = some crypto)
    (full : self.peerMaxStreams ≤ self.openedStreams self.localParity) {host : Host}
    (takes : host.sends.head? = some .sent) {count : Nat}
    (fits : self.nextPacketNumber + count < u64Size) :
    UsesUp count self (self.turns (List.replicate count (.openStream .bidirectional, host))) := by
  -- The induction is on the turns left; what a turn reads stays as it is.
  induction count generalizing self with
  | zero => exact ⟨_, _, _, _, rfl⟩
  | succ count ih =>
    obtain ⟨encryptions, log, bytesSent, later, first⟩ :=
      openStream_usesUp running active keys (by omega) full takes
    have rest : UsesUp count (self.step (.openStream .bidirectional) host)
        ((self.step (.openStream .bidirectional) host).turns
          (List.replicate count (.openStream .bidirectional, host))) := by
      rw [first]
      exact ih running active keys full (by dsimp only; omega)
    obtain ⟨encryptions, log, bytesSent, last, whole⟩ := rest
    refine ⟨encryptions, log, bytesSent, last, ?_⟩
    show (self.step (.openStream .bidirectional) host).turns _ = _
    rw [whole, first, Nat.add_assoc, Nat.add_comm 1 count]

end ZtConnectionActor

namespace Meeting

/-- A client that grants a single stream, as the server reads it. -/
def modestHello : ClientHello :=
  let parameters := { TransportParameters.fromConfig ZtConfig.default with maxStreams := 1 }
  let hello := hello (some (cookie 1000)) 1
  { hello with
    parameters := parameters
    handshake := { hello.handshake with
      transcriptHash := clientTranscript (client none).scid (client none).dcid (client none).publicKey
        hello.cookie parameters } }

/-- The server's actor for that client. -/
def modestServer : ZtConnectionActor RenoController :=
  { acceptance with hello := modestHello }.actor identity

/-- A probe is sent, and the only stream opened. -/
def exhausting : List (Event × Host) := probing ++ [(.openStream .bidirectional, hostTaking 1)]

/-- The application asks for more streams, and the peer is told each time. -/
def refusals : List (Event × Host) := List.replicate 2048 (.openStream .bidirectional, hostTaking 1)

/-- The peer has received the last packet only. -/
def lastHeard : Event × Host :=
  (.incomingPacket (message 3 [.ack 2049 100000 0 [(2049, 2049)]]) 5, hostTaking 1)

end Meeting

open Meeting in
/--
An acknowledgment passes over a probe sent 2048 packets earlier: the probe is out of flight, neither
reported nor counted as a failure, and still in the table.
-/
theorem skipped_probe_stays :
    probesIn ((modestServer.start (hostTaking 0)).turns (exhausting ++ refusals)).unackedPackets.iter =
        [(1, 5100)] ∧
      ((modestServer.start (hostTaking 0)).turns
        (exhausting ++ refusals ++ [lastHeard])).mtuProbes.entries = [(1, 5100)] ∧
      probesIn ((modestServer.start (hostTaking 0)).turns
        (exhausting ++ refusals ++ [lastHeard])).unackedPackets.iter = [] ∧
      ((modestServer.start (hostTaking 0)).turns
        (exhausting ++ refusals ++ [lastHeard])).mtuProbeFailures = 0 := by
  have turn : ∀ events, (modestServer.start (hostTaking 0)).turns (exhausting ++ events) =
      ((modestServer.start (hostTaking 0)).turns exhausting).turns events := fun events =>
    List.foldl_append
  have last : ((modestServer.start (hostTaking 0)).turns exhausting).turns (refusals ++ [lastHeard]) =
      (((modestServer.start (hostTaking 0)).turns exhausting).turns refusals).turns [lastHeard] :=
    List.foldl_append
  obtain ⟨crypto, keys⟩ : ∃ crypto, ((modestServer.start (hostTaking 0)).turns exhausting).crypto =
      some crypto := Option.isSome_iff_exists.mp (by decide +kernel)
  have used : ZtConnectionActor.UsesUp 2048 ((modestServer.start (hostTaking 0)).turns exhausting)
      (((modestServer.start (hostTaking 0)).turns exhausting).turns refusals) :=
    ZtConnectionActor.openStreams_usesUp (by decide +kernel) (by decide +kernel) keys
      (by decide +kernel) rfl (by decide +kernel)
  -- The refusals change nothing that the acknowledgment looks at, so they are not evaluated.
  rw [List.append_assoc, turn, turn, last, used.eq]
  refine ⟨?_, ?_, ?_, ?_⟩ <;> decide +kernel

open Meeting in
/-- A probe that is sent and acknowledged leaves the table with the packets in flight. -/
theorem acked_probe_resolved :
    probesIn ((server.start (hostTaking 0)).turns probing).unackedPackets.iter = [(1, 5100)] ∧
      (∀ probe, probe ∈ ((server.start (hostTaking 0)).turns (probing ++ [probeHeard])).mtuProbes.entries ↔
        probe ∈ probesIn
          ((server.start (hostTaking 0)).turns (probing ++ [probeHeard])).unackedPackets.iter) ∧
      (server.start (hostTaking 0)).Throughout ZtConnectionActor.Resolves (probing ++ [probeHeard]) := by
  have created : ZtConnectionActor.Created server := .server _ _
  have none : probesIn (server.start (hostTaking 0)).unackedPackets.iter = [] := by decide +kernel
  have recent : (message 3 [.ack 1 100000 0 [(1, 1)]]).frames = [.ack 1 100000 0 [(1, 1)]] := by
    decide +kernel
  have clear : (server.start (hostTaking 0)).Throughout ZtConnectionActor.Unskipped
      (probing ++ [probeHeard]) := by
    refine ⟨?_, nofun, ?_, trivial⟩
    · -- Nothing is in flight yet.
      intro packet addr arrives largest window delay ranges member probe flying
      rw [none] at flying
      cases flying
    · -- The acknowledgment is of the probe itself, so it passes over nothing.
      rintro packet addr arrives largest window delay ranges member probe - old
      cases arrives
      rw [recent] at member
      cases List.mem_singleton.mp member
      exact absurd old (Nat.not_lt_zero _)
  exact ⟨by decide +kernel, ZtConnectionActor.probeTable_exact created (hostTaking 0) clear⟩

end Zetta
