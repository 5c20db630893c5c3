/-!
# Time zones

A time zone says how far its clocks are ahead of universal time.  Most zones
kept the mean time of a place before they took a full offset, and many change
their clocks twice a year.  Offsets are in seconds to the east, instants in
seconds from the start of 1970 in universal time.

Which zones there are, and what their clocks show, is known to the machine.  A
store names its zone; a name that is not known means the zone of Tokyo.
-/

namespace SalonBooking

/-- A time zone: the offset of its clocks at each instant. -/
structure TimeZone where
  offsetAt : Int → Int

namespace TimeZone

/-- The zone of one offset. -/
def fixed (offset : Int) : TimeZone := ⟨fun _ => offset⟩

/-- A zone of one offset has it at every instant. -/
@[simp] theorem offsetAt_fixed (offset instant : Int) : (fixed offset).offsetAt instant = offset :=
  rfl

/-- The zone of a first offset and some changes in the order of their instants, each with the offset
from then on. -/
def ofChanges (first : Int) (changes : List (Int × Int)) : TimeZone where
  offsetAt instant :=
    changes.foldl (fun offset change => if change.1 ≤ instant then change.2 else offset) first

/-- Japan: mean time until 1887, summer time from 1948 to 1951. -/
def tokyo : TimeZone :=
  ofChanges 33539
    [(-2587712400, 32400), (-683802000, 36000), (-672310800, 32400), (-654771600, 36000),
      (-640861200, 32400), (-620298000, 36000), (-609411600, 32400), (-588848400, 36000),
      (-577962000, 32400)]

end TimeZone

/-- The zones that a machine knows. -/
structure ZoneDatabase where
  /-- The zone of a name. -/
  find? : String → Option TimeZone
  /-- The zone of Tokyo, which is known everywhere. -/
  tokyo : TimeZone

/-- The zone of a store: that of Tokyo unless it names another one. -/
def ZoneDatabase.ofStore (zones : ZoneDatabase) (name : Option String) : TimeZone :=
  (name.bind zones.find?).getD zones.tokyo

end SalonBooking
