import Zetta.Lib.Refinement
import Zetta.Transport.Congestion

/-! The window of the Reno controller, as long as it keeps up with the path MTU. -/

namespace Zetta

/-- What a connection tells its controller. -/
inductive RenoEvent where
  | acked (bytes : Nat)
  | congestion (rtt : Duration) (now : Instant)
  /-- A probe passed, or the MTU fell back. -/
  | mtu (size : Nat)
  deriving DecidableEq, Repr

namespace RenoController

/-- The controller after it was told something. -/
def handle (event : RenoEvent) (self : RenoController) : RenoController :=
  match event with
  | .acked bytes => self.onPacketAcked bytes
  | .congestion rtt now => self.onCongestionEvent rtt now
  | .mtu size => CongestionController.setMtu self size

/-- The controller as a machine that gives no answers. -/
def step (event : RenoEvent) (self : RenoController) : Unit × RenoController := ((), self.handle event)

/-- The controller after several events. -/
def run (events : List RenoEvent) (self : RenoController) : RenoController :=
  (Refinement.run step events self).2

/-- A congestion event has an effect unless it comes within a round trip of the last that had one. -/
def Effective (self : RenoController) (rtt : Duration) (now : Instant) : Prop :=
  ∀ last, self.lastCongestionTime = some last → rtt ≤ now - last

/-- An event without effect changes nothing. -/
theorem onCongestionEvent_idle {self : RenoController} {rtt : Duration} {now last : Instant}
    (earlier : self.lastCongestionTime = some last) (soon : now - last < rtt) :
    self.onCongestionEvent rtt now = self := by
  unfold onCongestionEvent
  rw [earlier]
  exact if_pos soon

/-- An event with an effect sets threshold and window to half the window, and two segments at least. -/
theorem onCongestionEvent_effective {self : RenoController} {rtt : Duration} {now : Instant}
    (effective : self.Effective rtt now) :
    self.onCongestionEvent rtt now = { self with
      lastCongestionTime := some now
      ssthresh := max (self.cwnd / 2) (wrappingMul self.mtu 2)
      cwnd := max (self.cwnd / 2) (wrappingMul self.mtu 2) } := by
  unfold onCongestionEvent
  cases earlier : self.lastCongestionTime with
  | none => rfl
  | some last => exact if_neg (not_lt.mpr (effective last earlier))

/-- An acknowledgment grows the window by at most its bytes, or by one. -/
theorem onPacketAcked_cwnd {self : RenoController} {bytes : Nat}
    (fits : self.cwnd + max bytes 1 < u64Size) (small : self.mtu * bytes < u64Size) :
    self.cwnd ≤ (self.onPacketAcked bytes).cwnd ∧ (self.onPacketAcked bytes).mtu = self.mtu := by
  unfold onPacketAcked
  split
  · -- Slow start adds the bytes.
    refine ⟨?_, rfl⟩
    show self.cwnd ≤ wrappingAdd self.cwnd bytes
    unfold wrappingAdd
    rw [Nat.mod_eq_of_lt (by omega)]
    omega
  · -- Congestion avoidance adds a share of the bytes.
    refine ⟨?_, rfl⟩
    have share : wrappingMul self.mtu bytes / max self.cwnd self.mtu ≤ bytes := by
      unfold wrappingMul
      rw [Nat.mod_eq_of_lt small]
      refine Nat.div_le_of_le_mul ?_
      exact Nat.mul_le_mul_right bytes (le_max_right self.cwnd self.mtu)
    show self.cwnd ≤ wrappingAdd self.cwnd (max (wrappingMul self.mtu bytes / max self.cwnd self.mtu) 1)
    unfold wrappingAdd
    rw [Nat.mod_eq_of_lt (by omega)]
    omega

/-- The sizes a connection sets are those of its configuration. -/
def Sized (config : ZtConfig) : RenoEvent → Prop
  | .mtu size => config.mtuMin ≤ size ∧ size ≤ config.mtuMax
  | _ => True

/-- The window has room for two segments when it is cut, and grows within a machine word. -/
def Roomy (self : RenoController) : RenoEvent → Prop
  | .acked bytes => self.cwnd + max bytes 1 < u64Size ∧ self.mtu * bytes < u64Size
  | .congestion rtt now => self.Effective rtt now → 2 * self.mtu ≤ self.cwnd
  | .mtu _ => True

/-- What is asked of every state: the segments are as configured, and the window holds two of them. -/
structure Sane (config : ZtConfig) (controller : RenoController) : Prop where
  least : config.mtuMin ≤ controller.mtu
  most : controller.mtu ≤ config.mtuMax
  floor : 2 * config.mtuMin ≤ controller.cwnd

/-- The laws of one event. -/
structure Lawful (config : ZtConfig) (event : RenoEvent) (controller : RenoController) : Prop where
  floor : 2 * config.mtuMin ≤ controller.cwnd
  grows : ∀ bytes, event = .acked bytes → 0 < bytes → controller.cwnd ≤ (controller.handle event).cwnd
  shrinks : ∀ rtt now, event = .congestion rtt now →
    (controller.handle event).cwnd ≤ controller.cwnd
  once : ∀ rtt now last, event = .congestion rtt now → controller.lastCongestionTime = some last →
    now - last < rtt → controller.handle event = controller
  /-- The time kept is that of the last event with an effect. -/
  marks : (∀ rtt now, event = .congestion rtt now → controller.Effective rtt now →
      (controller.handle event).lastCongestionTime = some now) ∧
    ((∀ rtt now, event = .congestion rtt now → ¬ controller.Effective rtt now) →
      (controller.handle event).lastCongestionTime = controller.lastCongestionTime)
  divisor : max controller.cwnd controller.mtu ≠ 0

variable {config : ZtConfig} {self : RenoController}

/-- A window cut with room for two segments does not grow, and keeps that room. -/
theorem Sane.cut (sane : Sane config self) (valid : config.validate = .ok ()) {rtt : Duration}
    {now : Instant} (roomy : self.Effective rtt now → 2 * self.mtu ≤ self.cwnd) :
    Sane config (self.onCongestionEvent rtt now) ∧
      (self.onCongestionEvent rtt now).cwnd ≤ self.cwnd := by
  by_cases effective : self.Effective rtt now
  · obtain ⟨least, most, floor⟩ := sane
    -- A segment of a checked configuration is far from overflowing.
    have small := ZtConfig.mtuMax_le valid
    have double : wrappingMul self.mtu 2 = 2 * self.mtu := by
      unfold wrappingMul
      rw [Nat.mod_eq_of_lt (by unfold u64Size; omega), Nat.mul_comm]
    have room := roomy effective
    rw [onCongestionEvent_effective effective, double]
    refine ⟨⟨least, most, ?_⟩, ?_⟩ <;> dsimp only <;> omega
  · unfold Effective at effective
    push Not at effective
    obtain ⟨last, earlier, soon⟩ := effective
    rw [onCongestionEvent_idle earlier soon]
    exact ⟨sane, le_rfl⟩

/-- Every event keeps the state sane. -/
theorem Sane.handle (sane : Sane config self) (valid : config.validate = .ok ()) {event : RenoEvent}
    (sized : Sized config event) (roomy : self.Roomy event) : Sane config (self.handle event) := by
  cases event with
  | acked bytes =>
    obtain ⟨grown, same⟩ := onPacketAcked_cwnd roomy.1 roomy.2
    refine ⟨?_, ?_, sane.floor.trans grown⟩
    · show config.mtuMin ≤ (self.onPacketAcked bytes).mtu
      rw [same]
      exact sane.least
    · show (self.onPacketAcked bytes).mtu ≤ config.mtuMax
      rw [same]
      exact sane.most
  | congestion rtt now => exact (sane.cut valid roomy).1
  | mtu size => exact ⟨sized.1, sized.2, sane.floor⟩

/-- Acknowledgments and new sizes do not touch the time of the last loss. -/
theorem lastCongestionTime_kept (event : RenoEvent)
    (none : ∀ rtt now, event = .congestion rtt now → ¬ self.Effective rtt now) :
    (self.handle event).lastCongestionTime = self.lastCongestionTime := by
  cases event with
  | acked bytes =>
    show (self.onPacketAcked bytes).lastCongestionTime = _
    unfold onPacketAcked
    split <;> rfl
  | congestion rtt now =>
    have idle := none rtt now rfl
    unfold Effective at idle
    push Not at idle
    obtain ⟨last, earlier, soon⟩ := idle
    exact congrArg lastCongestionTime (onCongestionEvent_idle earlier soon)
  | mtu size => rfl

/-- Every event that finds room obeys the laws. -/
theorem Sane.lawful (sane : Sane config self) (valid : config.validate = .ok ()) {event : RenoEvent}
    (roomy : self.Roomy event) : Lawful config event self where
  floor := sane.floor
  grows := by
    rintro bytes rfl -
    exact (onPacketAcked_cwnd roomy.1 roomy.2).1
  shrinks := by
    rintro rtt now rfl
    exact (sane.cut valid roomy).2
  once := by
    rintro rtt now last rfl earlier soon
    exact onCongestionEvent_idle earlier soon
  marks := by
    refine ⟨?_, lastCongestionTime_kept event⟩
    rintro rtt now rfl effective
    exact congrArg lastCongestionTime (onCongestionEvent_effective effective)
  divisor := by
    have positive := (ZtConfig.mtu_bounds valid).1
    have least := sane.least
    omega

/--
In every sequence of events in which the window has room for two segments whenever it is cut, and
grows within a machine word, the laws hold of every event, and the floor in every state.
-/
theorem reno_laws (valid : config.validate = .ok ()) {events : List RenoEvent}
    (roomy : Refinement.Permitted step (fun event self => Sized config event ∧ self.Roomy event) events
      (.new (10 * config.mtuMin) config.mtuMin)) :
    2 * config.mtuMin ≤ (run events (.new (10 * config.mtuMin) config.mtuMin)).cwnd ∧
      Refinement.Permitted step (Lawful config) events
        (.new (10 * config.mtuMin) config.mtuMin) := by
  have new : Sane config (.new (10 * config.mtuMin) config.mtuMin) :=
    ⟨le_rfl, (ZtConfig.mtu_bounds valid).2, Nat.mul_le_mul_right _ (by decide)⟩
  have keeps : ∀ event (self : RenoController), Sized config event ∧ self.Roomy event →
      Sane config self → Sane config (step event self).2 ∧ Lawful config event self :=
    fun event self met sane => ⟨sane.handle valid met.1 met.2, sane.lawful valid met.2⟩
  obtain ⟨last, laws⟩ := roomy.invariant keeps new
  exact ⟨last.floor, laws⟩

/-- A probe raises the MTU beyond half the window: the next loss makes the window larger. -/
theorem loss_grows_window :
    ZtConfig.default.validate = .ok () ∧ Sized ZtConfig.default (.mtu 9000) ∧
      (run [.mtu 9000] (.new (10 * ZtConfig.default.mtuMin) ZtConfig.default.mtuMin)).cwnd = 12000 ∧
      (run [.mtu 9000, .congestion 0 0]
        (.new (10 * ZtConfig.default.mtuMin) ZtConfig.default.mtuMin)).cwnd = 18000 := by
  refine ⟨ZtConfig.default_valid, ⟨?_, ?_⟩, ?_, ?_⟩ <;> decide +kernel

/-- A window that grows, is cut and grows again. -/
theorem grown_window_lawful :
    (run [.acked 1200, .congestion 5 10, .congestion 5 12, .acked 6600]
      (.new (10 * ZtConfig.default.mtuMin) ZtConfig.default.mtuMin)).cwnd = 7800 ∧
    Refinement.Permitted step (Lawful ZtConfig.default)
      [.acked 1200, .congestion 5 10, .congestion 5 12, .acked 6600]
      (.new (10 * ZtConfig.default.mtuMin) ZtConfig.default.mtuMin) := by
  refine ⟨by decide +kernel, (reno_laws ZtConfig.default_valid ?_).2⟩
  refine ⟨⟨trivial, ?_, ?_⟩, ⟨trivial, fun _ => ?_⟩, ⟨trivial, fun _ => ?_⟩, ⟨trivial, ?_, ?_⟩, trivial⟩ <;>
    decide +kernel

end RenoController
end Zetta
