import RobotFirmware.Platform

/-!
# Edges of a pin

An edge of a pin is latched until it is acknowledged. All that are latched at the same time are
serviced by one callback, which gets them as the bits of a mask and does not learn their order.
-/

namespace RobotFirmware

/-- Edges of a pin. -/
structure Edges where
  /-- The rising edge. -/
  rise : Bool
  /-- The falling edge. -/
  fall : Bool
  deriving DecidableEq

namespace Edges

/-- No edge. -/
def none : Edges := ⟨false, false⟩

/-- The edges in the bits of an event mask. -/
def ofMask (events : UInt32) : Edges :=
  ⟨events &&& gpioIrqEdgeRise ≠ 0, events &&& gpioIrqEdgeFall ≠ 0⟩

/-- The event mask of some edges. -/
def mask (edges : Edges) : UInt32 :=
  (if edges.rise then gpioIrqEdgeRise else 0) ||| (if edges.fall then gpioIrqEdgeFall else 0)

/-- The edges in either. -/
def union (first second : Edges) : Edges :=
  ⟨first.rise || second.rise, first.fall || second.fall⟩

/-- The edges in both. -/
def inter (first second : Edges) : Edges :=
  ⟨first.rise && second.rise, first.fall && second.fall⟩

/-- The edges in the first only. -/
def minus (first second : Edges) : Edges :=
  ⟨first.rise && !second.rise, first.fall && !second.fall⟩

end Edges

/-- What a run chooses for a pin that interrupts. -/
inductive PinChoice where
  /-- A callback for the latched edges, or core 1's next entry. -/
  | next
  /-- The pin changes its level. -/
  | edge
  deriving DecidableEq

end RobotFirmware
